import Korserver.TerminalOutput
import Korserver.TextParts
import Mathlib.Algebra.GroupWithZero.Nat

/-!
`services/logs.py`: the tail of a log file, where a line without a time of its own is shown with the time
of the first poll that saw it. The stamps are what `_now` reads of the clock.
-/

namespace Korserver

open PythonText

inductive PatternPart
  | digit
  | upper
  | lower
  | space
  | sign (c : Char)
  | dateEnd

def PatternPart.matchesChar : PatternPart → Char → Bool
  | .digit, c => isDecimal c
  | .upper, c => 'A' ≤ c && c ≤ 'Z'
  | .lower, c => 'a' ≤ c && c ≤ 'z'
  | .space, c => isSpace c
  | .sign expected, c => c == expected
  | .dateEnd, c => c == 'T' || isSpace c

def matchParts : List PatternPart → List Char → Option (List Char)
  | [], rest => some rest
  | _ :: _, [] => none
  | part :: parts, c :: rest => if part.matchesChar c then matchParts parts rest else none

def clockPattern : List PatternPart :=
  [.digit, .digit, .sign ':', .digit, .digit, .sign ':', .digit, .digit]

def datePattern : List PatternPart :=
  [.digit, .digit, .digit, .digit, .sign '-', .digit, .digit, .sign '-', .digit, .digit, .dateEnd]

/-- One or two digits between blanks, as in `Jun  3 12:30:00`. -/
def matchDay (rest : List Char) : Option (List Char) :=
  let digits := rest.dropWhile isSpace
  let after := digits.dropWhile isDecimal
  let count := (digits.takeWhile isDecimal).length
  if (rest.takeWhile isSpace).isEmpty || count == 0 || decide (2 < count) || (after.takeWhile isSpace).isEmpty then none
  else some (after.dropWhile isSpace)

def hasTimestamp (line : List Char) : Bool :=
  (matchParts (datePattern ++ clockPattern) line).isSome ||
    ((matchParts [.upper, .lower, .lower] line).bind fun rest =>
      (matchDay rest).bind (matchParts clockPattern)).isSome ||
    (matchParts (.sign '[' :: datePattern ++ clockPattern) line).isSome

example : hasTimestamp "Jun  3 12:30:00 event".toList = true := by decide +kernel
example : hasTimestamp "[2026-06-30 12:30:00] event".toList = true := by decide +kernel
example : hasTimestamp "2026-06-30 event".toList = false := by decide +kernel

/-- `str.splitlines(keepends=True)`, with the current line in reverse. -/
def splitKeepEnds : List Char → List Char → List (List Char)
  | [], [] => []
  | [], line => [line.reverse]
  | '\r' :: '\n' :: rest, line => ('\n' :: '\r' :: line).reverse :: splitKeepEnds rest []
  | c :: rest, line =>
      if isLineBreak c then (c :: line).reverse :: splitKeepEnds rest []
      else splitKeepEnds rest (c :: line)

def utf8Length (text : List Char) : Nat := (text.map Char.utf8Size).sum

/-- What the file is split into. -/
def logEntries (content : List UInt8) : List (List Char) := splitKeepEnds (decodeFrom none content) []

/-- Where an entry ends, in bytes of the decoded text. -/
def withOffsets : Nat → List (List Char) → List (Nat × List Char)
  | _, [] => []
  | passed, entry :: rest =>
      (passed + utf8Length entry, entry) :: withOffsets (passed + utf8Length entry) rest

abbrev LogMarker := Nat × Int

def maxMarkersPerFile : Nat := 200

def recordMarker (size : Nat) (now : Int) (markers : List LogMarker) : List LogMarker :=
  let markers := match markers.getLast? with
    | some last => if size < last.1 then [] else markers
    | none => markers
  let isNew := match markers.getLast? with
    | some last => decide (last.1 < size)
    | none => true
  if isNew then
    let markers := markers ++ [(size, now)]
    if maxMarkersPerFile < markers.length then markers.drop (markers.length - maxMarkersPerFile) else markers
  else markers

/-- The first marker that covers an offset, or else the last one; there always is one. -/
def stampAt (markers : List LogMarker) (offset : Nat) : Int :=
  match markers.find? fun marker => decide (offset ≤ marker.1) with
  | some marker => marker.2
  | none => (markers.getLast?.map Prod.snd).getD 0

/-- A line as it is shown: behind its stamp, if it gets one. -/
structure StampedLine where
  stamp : Option Int
  line : List Char
  deriving DecidableEq

def bareLine (entry : List Char) : List Char :=
  dropEndWhile (· == '\r') (dropEndWhile (· == '\n') entry)

def needsStamp (line : List Char) : Bool := !line.isEmpty && !hasTimestamp line

def stampLine (markers : List LogMarker) (entry : Nat × List Char) : StampedLine :=
  let line := bareLine entry.2
  if needsStamp line then { stamp := some (stampAt markers entry.1), line } else { stamp := none, line }

def stampLines (entries : List (List Char)) (lines : Nat) (markers : List LogMarker) : List StampedLine :=
  ((withOffsets 0 entries).drop (entries.length - lines)).map (stampLine markers)

structure LogPoll where
  content : List UInt8
  lines : Nat
  now : Int

structure LogView where
  poll : LogPoll
  shown : List StampedLine

structure LogTail where
  markers : List LogMarker := []
  views : List LogView := []

def LogTail.step (log : LogTail) (poll : LogPoll) : LogTail :=
  let markers := recordMarker poll.content.length poll.now log.markers
  { markers
    views := log.views ++ [{ poll, shown := stampLines (logEntries poll.content) poll.lines markers }] }

end Korserver
