import Korserver.LetterCase

/-!
Python's text operations on Lean strings: whitespace, lines, case, integer literals
and hexadecimal formatting. Texts are taken apart as lists of characters, so every
function here is structurally recursive and can be evaluated by the kernel.
-/

namespace PythonText

def isSpace (c : Char) : Bool :=
  (9 ≤ c.toNat && c.toNat ≤ 13) || (28 ≤ c.toNat && c.toNat ≤ 32) ||
  c.toNat == 0x85 || c.toNat == 0xa0 || c.toNat == 0x1680 ||
  (0x2000 ≤ c.toNat && c.toNat ≤ 0x200a) || c.toNat == 0x2028 || c.toNat == 0x2029 ||
  c.toNat == 0x202f || c.toNat == 0x205f || c.toNat == 0x3000

def dropEndWhile (p : Char → Bool) (chars : List Char) : List Char :=
  (chars.reverse.dropWhile p).reverse

def stripChars (p : Char → Bool) (chars : List Char) : List Char :=
  dropEndWhile p (chars.dropWhile p)

def strip (text : String) : String :=
  String.ofList (stripChars isSpace text.toList)

/-- `str.rstrip(c)` for a single character. -/
def stripEnd (c : Char) (text : String) : String :=
  String.ofList (dropEndWhile (· == c) text.toList)

/-- `str.split(c)`: always at least one part. -/
def splitChar (separator : Char) : List Char → List (List Char)
  | [] => [[]]
  | c :: rest =>
      if c = separator then [] :: splitChar separator rest
      else match splitChar separator rest with
        | [] => [[c]]
        | part :: parts => (c :: part) :: parts

/-- `str.split()`: the maximal runs without whitespace. -/
def splitSpace : List Char → List (List Char)
  | [] => []
  | c :: rest =>
      if isSpace c then splitSpace rest
      else match rest, splitSpace rest with
        | next :: _, part :: parts => if isSpace next then [c] :: part :: parts else (c :: part) :: parts
        | _, parts => [c] :: parts

def isLineBreak (c : Char) : Bool :=
  (10 ≤ c.toNat && c.toNat ≤ 13) || (28 ≤ c.toNat && c.toNat ≤ 30) ||
  c.toNat == 0x85 || c.toNat == 0x2028 || c.toNat == 0x2029

/-- `str.splitlines()` with the current line kept in reverse: a carriage return and
the line feed after it are one break, and a final break opens no further line. -/
def splitLinesFrom : List Char → List Char → List (List Char)
  | [], [] => []
  | [], line => [line.reverse]
  | '\r' :: '\n' :: rest, line => line.reverse :: splitLinesFrom rest []
  | c :: rest, line =>
      if isLineBreak c then line.reverse :: splitLinesFrom rest []
      else splitLinesFrom rest (c :: line)

def splitLines (text : String) : List String :=
  (splitLinesFrom text.toList []).map String.ofList

def join (separator : String) : List String → String
  | [] => ""
  | [item] => item
  | item :: rest => item ++ separator ++ join separator rest

def decimalZeros : List Nat :=
  [0x30, 0x660, 0x6f0, 0x7c0, 0x966, 0x9e6, 0xa66, 0xae6, 0xb66, 0xbe6, 0xc66, 0xce6, 0xd66,
    0xde6, 0xe50, 0xed0, 0xf20, 0x1040, 0x1090, 0x17e0, 0x1810, 0x1946, 0x19d0, 0x1a80, 0x1a90,
    0x1b50, 0x1bb0, 0x1c40, 0x1c50, 0xa620, 0xa8d0, 0xa900, 0xa9d0, 0xa9f0, 0xaa50, 0xabf0,
    0xff10, 0x104a0, 0x10d30, 0x11066, 0x110f0, 0x11136, 0x111d0, 0x112f0, 0x11450, 0x114d0,
    0x11650, 0x116c0, 0x11730, 0x118e0, 0x11950, 0x11c50, 0x11d50, 0x11da0, 0x11f50, 0x16a60,
    0x16ac0, 0x16b50, 0x1d7ce, 0x1d7d8, 0x1d7e2, 0x1d7ec, 0x1d7f6, 0x1e140, 0x1e2f0, 0x1e4f0,
    0x1e950, 0x1fbf0]

/-- The ASCII form `int` gives each character before it reads the literal. -/
def asciiDecimal (c : Char) : Char :=
  if c.toNat < 127 then c
  else if isSpace c then ' '
  else match decimalZeros.find? (fun first => first ≤ c.toNat && c.toNat < first + 10) with
    | some first => Char.ofNat (48 + (c.toNat - first))
    | none => c

def isIntSpace (c : Char) : Bool := (9 ≤ c.toNat && c.toNat ≤ 13) || c.toNat == 32

def digitValue (c : Char) : Option Nat :=
  if '0' ≤ c ∧ c ≤ '9' then some (c.toNat - 48)
  else if 'a' ≤ c ∧ c ≤ 'z' then some (c.toNat - 87)
  else if 'A' ≤ c ∧ c ≤ 'Z' then some (c.toNat - 55)
  else none

/-- Digits of `base` with single underscores between them. `afterDigit` tells whether
an underscore, or the end, may stand here. -/
def readDigits (base : Nat) : List Char → Nat → Bool → Option Nat
  | [], value, afterDigit => if afterDigit then some value else none
  | c :: rest, value, afterDigit =>
      if c = '_' then
        if afterDigit then readDigits base rest value false else none
      else match digitValue c with
        | some digit =>
            if digit < base then readDigits base rest (value * base + digit) true else none
        | none => none

/-- Digits after a base prefix: one underscore may follow the prefix. -/
def readPrefixed (base : Nat) : List Char → Option Nat
  | '_' :: rest => readDigits base rest 0 false
  | digits => readDigits base digits 0 false

/-- The magnitude of a literal whose base its prefix tells. A decimal literal may
begin with `0` only when its value is zero. -/
def readMagnitude : List Char → Option Nat
  | '0' :: 'x' :: rest => readPrefixed 16 rest
  | '0' :: 'X' :: rest => readPrefixed 16 rest
  | '0' :: 'o' :: rest => readPrefixed 8 rest
  | '0' :: 'O' :: rest => readPrefixed 8 rest
  | '0' :: 'b' :: rest => readPrefixed 2 rest
  | '0' :: 'B' :: rest => readPrefixed 2 rest
  | '0' :: rest =>
      match readDigits 10 ('0' :: rest) 0 false with
      | some 0 => some 0
      | _ => none
  | digits => readDigits 10 digits 0 false

def readSigned (magnitude : List Char → Option Nat) : List Char → Option Int
  | '-' :: rest => (magnitude rest).map fun (value : Nat) => -(value : Int)
  | '+' :: rest => (magnitude rest).map fun (value : Nat) => (value : Int)
  | rest => (magnitude rest).map fun (value : Nat) => (value : Int)

/-- `int(text, 0)`; `none` stands for the `ValueError`. -/
def intLiteral (text : String) : Option Int :=
  readSigned readMagnitude (stripChars isIntSpace (text.toList.map asciiDecimal))

/-- `int(text)`. -/
def decimalLiteral (text : String) : Option Int :=
  readSigned (fun digits => readDigits 10 digits 0 false)
    (stripChars isIntSpace (text.toList.map asciiDecimal))

/-- `int` reads and prints no more decimal digits than this. -/
def maxIntDigits : Nat := 4300

def digitCount (chars : List Char) : Nat := (chars.filter fun c => (digitValue c).isSome).length

/-- `int(text)` with its limit on digits. -/
def readInt (text : String) : Option Int :=
  if maxIntDigits < digitCount (text.toList.map asciiDecimal) then none else decimalLiteral text

def zeroPad (width : Nat) (digits : List Char) : List Char :=
  List.replicate (width - digits.length) '0' ++ digits

/-- `format(value, f"0{width}x")`: the sign counts towards the width. -/
def formatHex (width : Nat) (value : Int) : List Char :=
  if value < 0 then '-' :: zeroPad (width - 1) (Nat.toDigits 16 value.natAbs)
  else zeroPad width (Nat.toDigits 16 value.natAbs)

example : intLiteral "0x0c01" = some 3073 := by decide
example : intLiteral " -1_000 " = some (-1000) := by decide
example : intLiteral "010" = none := by decide
example : formatHex 4 3074 = "0c02".toList := by decide

end PythonText
