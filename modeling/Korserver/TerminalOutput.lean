import Korserver.MaskedPieces

/-!
The output of the terminal (`_pty_to_websocket` of `api/routes_terminal.py`): every chunk that is
read is decoded and masked on its own.
-/

namespace Korserver

open PythonText Redaction

/-! `bytes.decode(errors="replace")`. -/

/-- What is left of a character of several bytes: its bits so far, how many bytes are missing, and
which the next one may be. -/
structure PartialChar where
  value : Nat
  missing : Nat
  low : Nat := 0x80
  high : Nat := 0xbf

def firstByte (byte : Nat) : Option PartialChar :=
  if 0xc2 ≤ byte ∧ byte ≤ 0xdf then some { value := byte - 0xc0, missing := 1 }
  else if 0xe0 ≤ byte ∧ byte ≤ 0xef then
    some { value := byte - 0xe0, missing := 2, low := if byte = 0xe0 then 0xa0 else 0x80,
           high := if byte = 0xed then 0x9f else 0xbf }
  else if 0xf0 ≤ byte ∧ byte ≤ 0xf4 then
    some { value := byte - 0xf0, missing := 3, low := if byte = 0xf0 then 0x90 else 0x80,
           high := if byte = 0xf4 then 0x8f else 0xbf }
  else none

def replacementChar : Char := Char.ofNat 0xfffd

/-- What cannot be the beginning of a character is replaced, as far as it could have been one. -/
def decodeFrom : Option PartialChar → List UInt8 → List Char
  | none, [] => []
  | some _, [] => [replacementChar]
  | none, byte :: rest =>
      if byte.toNat < 0x80 then Char.ofNat byte.toNat :: decodeFrom none rest
      else match firstByte byte.toNat with
        | some started => decodeFrom (some started) rest
        | none => replacementChar :: decodeFrom none rest
  | some begun, byte :: rest =>
      if begun.low ≤ byte.toNat ∧ byte.toNat ≤ begun.high then
        let value := begun.value * 64 + (byte.toNat - 0x80)
        if begun.missing = 1 then Char.ofNat value :: decodeFrom none rest
        else decodeFrom (some { value, missing := begun.missing - 1 }) rest
      else if byte.toNat < 0x80 then
        replacementChar :: Char.ofNat byte.toNat :: decodeFrom none rest
      else match firstByte byte.toNat with
        | some started => replacementChar :: decodeFrom (some started) rest
        | none => replacementChar :: replacementChar :: decodeFrom none rest

def decodeReplace (bytes : List UInt8) : String := String.ofList (decodeFrom none bytes)

example : decodeReplace [0x68, 0xc3, 0xa9, 0xe2, 0x82, 0x41, 0xed, 0xa0] =
    String.ofList ['h', 'é', replacementChar, 'A', replacementChar, replacementChar] := by decide

/-- A reading of the pty, none if it had nothing or failed, and whether the shell is found to have exited. -/
structure PtyRead where
  bytes : List UInt8
  exited : Bool

/-- `_READ` is the size that `os.read` is asked for. -/
def maxChunk : Nat := 8192

structure PtyOutput where
  /-- What was read. -/
  received : List UInt8 := []
  /-- What was sent of it. -/
  texts : List String := []
  /-- Whether the exit notice was sent, and the loop is over. -/
  returned : Bool := false

def ptyToWebsocket (secrets : List String) : Bool → List PtyRead → PtyOutput
  | _, [] => {}
  | childExited, read :: rest =>
      let chunk := decodeReplace read.bytes
      let sent := if chunk ≠ "" then [maskText secrets chunk] else []
      let exited := childExited || read.exited
      if exited = true ∧ chunk = "" then { received := read.bytes, texts := sent, returned := true }
      else
        let later := ptyToWebsocket secrets exited rest
        { received := read.bytes ++ later.received, texts := sent ++ later.texts, returned := later.returned }

/-- What is sent of the stream shows no secret, and is the same however it is cut into chunks. -/
def ChunkingFree (secrets : List String) (stream : List UInt8) : Prop :=
  ∀ reads, (∀ read ∈ reads, read.bytes.length ≤ maxChunk) →
    (ptyToWebsocket secrets false reads).received = stream →
    (∀ secret ∈ secrets, secret ≠ "" → '*' ∉ secret.toList →
      ¬Occurs secret (join "" (ptyToWebsocket secrets false reads).texts)) ∧
    ∀ others, (∀ read ∈ others, read.bytes.length ≤ maxChunk) →
      (ptyToWebsocket secrets false others).received = stream →
      join "" (ptyToWebsocket secrets false reads).texts = join "" (ptyToWebsocket secrets false others).texts

/-- The second byte continues the character that the first one begins. -/
def Continues (byte next : UInt8) : Prop :=
  ∃ begun, firstByte byte.toNat = some begun ∧ begun.low ≤ next.toNat ∧ next.toNat ≤ begun.high

def byteChar (byte : UInt8) : Char := if byte.toNat < 0x80 then Char.ofNat byte.toNat else replacementChar

structure PlainStream (secrets : List String) (stream : List UInt8) : Prop where
  bytes : ∀ byte next, [byte, next] <:+: stream → ¬Continues byte next
  long : ∀ secret ∈ secrets, 2 ≤ secret.length → ¬secret.toList <:+: stream.map byteChar
  /-- A secret with asterisks can stand in the asterisks that are written for another one. -/
  single : ∀ secret ∈ secrets, secret.length = 1 → secret.toList <:+: stream.map byteChar →
    ∀ other ∈ secrets, 2 ≤ other.length → '*' ∉ other.toList
  references : ∀ part, IsReference part → part.length ≤ maxChunk → part <:+: stream.map byteChar →
    part = maskedReference.toList
  /-- A line feed that is masked itself ends no line. -/
  assignments : ∀ part value, part.length ≤ maxChunk → part <:+: stream.map byteChar →
    ('\n' ∈ part → "\n" ∈ secrets) → ¬Redacts part value

theorem decodeReplace_byte (byte : UInt8) : decodeReplace [byte] = String.ofList [byteChar byte] := by
  rw [decodeReplace, decodeFrom, byteChar]
  split
  · rfl
  · split <;> rfl

def maskByte (secrets : List String) (byte : UInt8) : List Char :=
  (maskText secrets (decodeReplace [byte])).toList

theorem maskByte_showChar (secrets : List String) (byte : UInt8) :
    maskByte secrets byte = showChar secrets (byteChar byte) := by
  rw [maskByte, decodeReplace_byte, maskText_char]

theorem maskByte_cases (secrets : List String) (byte : UInt8) :
    (∃ c, maskByte secrets byte = [c]) ∨ maskByte secrets byte ≠ [] ∧ ∀ c ∈ maskByte secrets byte, c = '*' := by
  rw [maskByte_showChar]
  exact (showChar_starred secrets _).imp (fun same => ⟨_, same⟩) id

theorem flatMap_maskByte (secrets : List String) (bytes : List UInt8) :
    bytes.flatMap (maskByte secrets) = (bytes.map byteChar).flatMap (showChar secrets) := by
  rw [List.flatMap_map]
  exact List.flatMap_congr fun byte _ => maskByte_showChar secrets byte

theorem decodeFrom_broken {begun : PartialChar} {bytes : List UInt8}
    (broken : ∀ next ∈ bytes.head?, ¬(begun.low ≤ next.toNat ∧ next.toNat ≤ begun.high)) :
    decodeFrom (some begun) bytes = replacementChar :: decodeFrom none bytes := by
  cases bytes with
  | nil => rfl
  | cons next rest =>
      rw [decodeFrom, decodeFrom, if_neg (broken next rfl)]
      split
      · rfl
      · cases firstByte next.toNat <;> rfl

theorem decodeFrom_plain {bytes : List UInt8} (apart : ∀ byte next, [byte, next] <:+: bytes → ¬Continues byte next) :
    decodeFrom none bytes = bytes.map byteChar := by
  induction bytes with
  | nil => rfl
  | cons byte rest ih =>
      have later := ih fun first next inside => apart first next (inside.trans (List.suffix_cons _ _).isInfix)
      rw [decodeFrom, List.map_cons, byteChar, ← later]
      split
      · rfl
      · cases started : firstByte byte.toNat with
        | none => rfl
        | some begun =>
            refine decodeFrom_broken fun next head continues => ?_
            obtain ⟨more, rfl⟩ := List.head?_eq_some_iff.mp head
            exact apart byte next (List.prefix_append [byte, next] more).isInfix ⟨begun, started, continues⟩

theorem decodeReplace_continued {byte next : UInt8} (continues : Continues byte next) :
    ∃ c, decodeReplace [byte, next] = String.ofList [c] := by
  obtain ⟨begun, started, within⟩ := continues
  have lead : ¬byte.toNat < 0x80 := by
    intro small
    rw [firstByte, if_neg (by omega), if_neg (by omega), if_neg (by omega)] at started
    cases started
  rw [decodeReplace, decodeFrom, if_neg lead]
  simp only [started]
  rw [decodeFrom, if_pos within]
  split
  · exact ⟨_, rfl⟩
  · exact ⟨_, rfl⟩

/-- In every part of the stream that can be a chunk every byte is shown as it is alone, and no secret that
is longer than a chunk is left. -/
structure ChunkSafe (secrets : List String) (stream : List UInt8) : Prop where
  pieces : ∀ part, part <:+: stream → part.length ≤ maxChunk →
    (maskText secrets (decodeReplace part)).toList = part.flatMap (maskByte secrets)
  long : ∀ secret ∈ secrets, maxChunk < secret.length → '*' ∉ secret.toList →
    ¬secret.toList <:+: stream.flatMap (maskByte secrets)

theorem maskBytes_prefix {secrets : List String} {part : List Char} (plain : '*' ∉ part) {bytes : List UInt8}
    (start : part <+: bytes.flatMap (maskByte secrets)) :
    ∃ run, run <+: bytes ∧ run.length = part.length ∧ run.flatMap (maskByte secrets) = part := by
  induction bytes generalizing part with
  | nil =>
      obtain rfl := List.prefix_nil.mp start
      exact ⟨[], List.nil_prefix, rfl, rfl⟩
  | cons byte rest ih =>
      cases part with
      | nil => exact ⟨[], List.nil_prefix, rfl, rfl⟩
      | cons first more =>
          rw [List.mem_cons, not_or] at plain
          rw [List.flatMap_cons] at start
          rcases maskByte_cases secrets byte with ⟨c, alone⟩ | ⟨some_ne, stars⟩
          · rw [alone, List.singleton_append, List.cons_prefix_cons] at start
            obtain ⟨rfl, start⟩ := start
            obtain ⟨run, begins, size, shown⟩ := ih plain.2 start
            refine ⟨byte :: run, List.cons_prefix_cons.mpr ⟨rfl, begins⟩, by simp [size], ?_⟩
            rw [List.flatMap_cons, alone, shown, List.singleton_append]
          · obtain ⟨c, others, masked⟩ := List.exists_cons_of_ne_nil some_ne
            rw [masked, List.cons_append, List.cons_prefix_cons] at start
            obtain rfl := stars c (by rw [masked]; exact List.mem_cons_self)
            exact absurd start.1.symm plain.1

theorem maskBytes_infix {secrets : List String} {part : List Char} (plain : '*' ∉ part) (part_ne : part ≠ [])
    {bytes : List UInt8} (inside : part <:+: bytes.flatMap (maskByte secrets)) :
    ∃ run, run <:+: bytes ∧ run.length = part.length ∧ run.flatMap (maskByte secrets) = part := by
  induction bytes with
  | nil => exact absurd (List.eq_nil_of_infix_nil inside) part_ne
  | cons byte rest ih =>
      have later (inside : part <:+: rest.flatMap (maskByte secrets)) :
          ∃ run, run <:+: byte :: rest ∧ run.length = part.length ∧ run.flatMap (maskByte secrets) = part := by
        obtain ⟨run, within, shown⟩ := ih inside
        exact ⟨run, within.trans (List.suffix_cons _ _).isInfix, shown⟩
      rcases maskByte_cases secrets byte with ⟨c, alone⟩ | ⟨-, stars⟩
      · rw [List.flatMap_cons, alone, List.singleton_append] at inside
        rcases List.infix_cons_iff.mp inside with start | past
        · have whole : part <+: (byte :: rest).flatMap (maskByte secrets) := by
            rwa [List.flatMap_cons, alone, List.singleton_append]
          obtain ⟨run, begins, shown⟩ := maskBytes_prefix plain whole
          exact ⟨run, begins.isInfix, shown⟩
        · exact later past
      · obtain ⟨first, more, rfl⟩ := List.exists_cons_of_ne_nil part_ne
        refine later (infix_past rfl (fun member => plain ?_) inside)
        rw [← stars first member]
        exact List.mem_cons_self

theorem maskText_empty (secrets : List String) : (maskText secrets "").toList = [] := by
  have unchanged : secrets.foldl replaceSecret [] = [] := replaceSecrets_absent fun secret _ nonempty inside =>
    toList_ne_nil nonempty (List.eq_nil_of_infix_nil inside)
  rw [toList_maskText]
  change redactAssignments (secrets.foldl replaceSecret []) = []
  rw [unchanged]
  rfl

def sentText (secrets : List String) (chunks : List (List UInt8)) : List Char :=
  chunks.flatMap fun chunk => (maskText secrets (decodeReplace chunk)).toList

theorem toList_join (items : List String) : (join "" items).toList = items.flatMap String.toList := by
  induction items with
  | nil => rfl
  | cons item rest ih =>
      cases rest with
      | nil => simp [join]
      | cons next rest =>
          rw [join_cons (List.cons_ne_nil _ _), List.flatMap_cons, ← ih]
          simp

theorem toList_sent (secrets : List String) (chunk : String) :
    (if chunk ≠ "" then [maskText secrets chunk] else []).flatMap String.toList = (maskText secrets chunk).toList := by
  split
  · simp
  · rename_i empty
    rw [not_not.mp empty, maskText_empty]
    rfl

theorem ptyToWebsocket_chunks (secrets : List String) (childExited : Bool) (reads : List PtyRead) :
    ∃ taken, taken <+: reads ∧
      (ptyToWebsocket secrets childExited reads).received = (taken.map PtyRead.bytes).flatten ∧
      (join "" (ptyToWebsocket secrets childExited reads).texts).toList =
        sentText secrets (taken.map PtyRead.bytes) := by
  induction reads generalizing childExited with
  | nil => exact ⟨[], List.nil_prefix, rfl, rfl⟩
  | cons read rest ih =>
      rw [ptyToWebsocket]
      dsimp only
      split
      · refine ⟨[read], ⟨rest, rfl⟩, by simp, ?_⟩
        rw [toList_join, toList_sent]
        simp [sentText]
      · obtain ⟨taken, begins, received, shown⟩ := ih (childExited || read.exited)
        refine ⟨read :: taken, List.cons_prefix_cons.mpr ⟨rfl, begins⟩, by simp [received], ?_⟩
        rw [toList_join] at shown
        rw [toList_join, List.flatMap_append, toList_sent, shown]
        simp [sentText]

def running (chunks : List (List UInt8)) : List PtyRead := chunks.map fun bytes => { bytes, exited := false }

theorem ptyToWebsocket_running (secrets : List String) (chunks : List (List UInt8)) :
    (ptyToWebsocket secrets false (running chunks)).received = chunks.flatten ∧
      (join "" (ptyToWebsocket secrets false (running chunks)).texts).toList = sentText secrets chunks := by
  induction chunks with
  | nil => exact ⟨rfl, rfl⟩
  | cons chunk rest ih =>
      obtain ⟨received, shown⟩ := ih
      rw [toList_join] at shown
      rw [running, List.map_cons, ptyToWebsocket]
      simp only [Bool.or_self, Bool.false_eq_true, false_and, if_false]
      rw [← running, received, List.flatten_cons, toList_join, List.flatMap_append, toList_sent, shown]
      exact ⟨rfl, rfl⟩

section

variable {secrets : List String} {stream : List UInt8}

theorem sentText_safe (safe : ChunkSafe secrets stream) {chunks : List (List UInt8)} (whole : chunks.flatten = stream)
    (short : ∀ chunk ∈ chunks, chunk.length ≤ maxChunk) :
    sentText secrets chunks = stream.flatMap (maskByte secrets) := by
  have pieces : ∀ chunk ∈ chunks, (maskText secrets (decodeReplace chunk)).toList = chunk.flatMap (maskByte secrets) :=
    fun chunk member => safe.pieces chunk (whole ▸ List.infix_of_mem_flatten member) (short chunk member)
  rw [sentText, ← whole, List.flatMap_congr pieces, List.flatten_eq_flatMap, List.flatMap_assoc]
  rfl

theorem safe_secret (safe : ChunkSafe secrets stream) {secret : String} (member : secret ∈ secrets)
    (nonempty : secret ≠ "") (plain : '*' ∉ secret.toList) : ¬secret.toList <:+: stream.flatMap (maskByte secrets) := by
  by_cases longer : maxChunk < secret.length
  · exact safe.long secret member longer plain
  · intro inside
    obtain ⟨run, within, size, shown⟩ := maskBytes_infix plain (toList_ne_nil nonempty) inside
    have left := safe.pieces run within (by rw [size, String.length_toList]; exact Nat.le_of_not_lt longer)
    rw [shown] at left
    exact maskText_secret plain nonempty member (decodeReplace run) (by rw [Occurs, left])

theorem sentText_bytes (secrets : List String) (bytes : List UInt8) :
    sentText secrets (bytes.map fun byte => [byte]) = bytes.flatMap (maskByte secrets) := by
  rw [sentText, List.flatMap_map]
  rfl

theorem flatten_bytes (bytes : List UInt8) : (bytes.map fun byte => [byte]).flatten = bytes := by
  rw [← List.flatMap_def, List.flatMap_singleton']

theorem chunkingFree_iff (secrets : List String) (stream : List UInt8) :
    ChunkingFree secrets stream ↔ ChunkSafe secrets stream := by
  have small {chunks : List (List UInt8)} (short : ∀ chunk ∈ chunks, chunk.length ≤ maxChunk) :
      ∀ read ∈ running chunks, read.bytes.length ≤ maxChunk := by
    intro read member
    obtain ⟨chunk, inChunks, rfl⟩ := List.mem_map.mp member
    exact short chunk inChunks
  have single (bytes : List UInt8) : ∀ chunk ∈ bytes.map fun byte => [byte], chunk.length ≤ maxChunk := by
    intro chunk member
    obtain ⟨byte, -, rfl⟩ := List.mem_map.mp member
    exact show 1 ≤ maxChunk by decide
  constructor
  · intro free
    obtain ⟨received, shown⟩ := ptyToWebsocket_running secrets (stream.map fun byte => [byte])
    rw [flatten_bytes] at received
    rw [sentText_bytes] at shown
    obtain ⟨hidden, alike⟩ := free _ (small (single stream)) received
    constructor
    · intro part inside short
      obtain ⟨before, after, whole⟩ := inside
      -- the part as one chunk, every other byte alone
      have cut := ptyToWebsocket_running secrets
        ((before.map fun byte => [byte]) ++ [part] ++ after.map fun byte => [byte])
      rw [List.flatten_append, List.flatten_append, flatten_bytes, flatten_bytes, List.flatten_singleton, whole] at cut
      have shorts : ∀ chunk ∈ (before.map fun byte => [byte]) ++ [part] ++ after.map fun byte => [byte],
          chunk.length ≤ maxChunk := by
        simp only [List.forall_mem_append, List.forall_mem_singleton]
        exact ⟨⟨single before, short⟩, single after⟩
      have same := alike _ (small shorts) cut.1
      rw [← String.toList_inj, shown, cut.2, ← whole] at same
      simp only [sentText, List.flatMap_append, List.flatMap_singleton] at same
      have edges := sentText_bytes secrets
      simp only [sentText] at edges
      rw [edges, edges] at same
      exact (List.append_cancel_left (List.append_cancel_right same)).symm
    · intro secret member longer plain inside
      have nonempty : secret ≠ "" := by
        rintro rfl
        exact absurd longer (by decide)
      refine hidden secret member nonempty plain ?_
      rwa [Occurs, shown]
  · intro safe reads short received
    have texts {reads : List PtyRead} (short : ∀ read ∈ reads, read.bytes.length ≤ maxChunk)
        (received : (ptyToWebsocket secrets false reads).received = stream) :
        (join "" (ptyToWebsocket secrets false reads).texts).toList = stream.flatMap (maskByte secrets) := by
      obtain ⟨taken, begins, chunks, shown⟩ := ptyToWebsocket_chunks secrets false reads
      rw [shown]
      refine sentText_safe safe (chunks.symm.trans received) fun chunk member => ?_
      obtain ⟨read, inReads, rfl⟩ := List.mem_map.mp member
      exact short read (begins.subset inReads)
    constructor
    · intro secret member nonempty plain inside
      rw [Occurs, texts short received] at inside
      exact safe_secret safe member nonempty plain inside
    · intro others otherShort otherReceived
      rw [← String.toList_inj, texts short received, texts otherShort otherReceived]

end

section

variable {secrets : List String} {stream : List UInt8}

theorem chunkSafe_plain (plain : PlainStream secrets stream) : ChunkSafe secrets stream := by
  have inText {part : List UInt8} (inside : part <:+: stream) : part.map byteChar <:+: stream.map byteChar :=
    inside.map byteChar
  constructor
  · intro part inside short
    have decoded : decodeFrom none part = part.map byteChar :=
      decodeFrom_plain fun byte next pair => plain.bytes byte next (pair.trans inside)
    have small {items : List Char} (within : items <:+: part.map byteChar) : items.length ≤ maxChunk := by
      have size := within.length_le
      rw [List.length_map] at size
      exact size.trans short
    have referred : maskReferencesFrom 0 (part.map byteChar) = part.map byteChar :=
      maskReferences_same fun items reference within =>
        plain.references items reference (small within) (within.trans (inText inside))
    have replaced : secrets.foldl replaceSecret (part.map byteChar) = (part.map byteChar).flatMap (showChar secrets) :=
      replaceSecrets_pieces
        (fun secret member long within => plain.long secret member long (within.trans (inText inside)))
        fun secret member size within => plain.single secret member size (within.trans (inText inside))
    rw [toList_maskText, decodeReplace, String.toList_ofList, decoded, referred, replaced, flatMap_maskByte]
    refine redactAssignments_shown (showChar_starred secrets) fun items value within lines => ?_
    refine plain.assignments items value (small within) (within.trans (inText inside)) fun newline => ?_
    by_contra unknown
    -- a line feed that is no secret is shown
    refine lines newline (replaceSecrets_absent fun secret member nonempty within => unknown ?_)
    have whole : secret.toList = ['\n'] :=
      (List.sublist_singleton.mp within.sublist).resolve_left (toList_ne_nil nonempty)
    rwa [← String.toList_inj.mp (show secret.toList = "\n".toList from whole)]
  · intro secret member longer asterisk inside
    rw [flatMap_maskByte] at inside
    exact plain.long secret member (Nat.le_trans (by decide) (Nat.le_of_lt longer))
      (((showChar_starred secrets).marked _).reveals asterisk inside)

variable (visible : ∀ secret ∈ secrets, secret ≠ "" → 2 ≤ secret.length ∧ '*' ∉ secret.toList)

include visible

theorem showChar_visible (c : Char) : showChar secrets c = [c] := by
  refine replaceSecrets_absent fun secret member nonempty inside => ?_
  have size := inside.length_le
  have long := (visible secret member nonempty).1
  rw [String.length_toList, List.length_singleton] at size
  omega

theorem maskByte_visible (byte : UInt8) : maskByte secrets byte = [byteChar byte] := by
  rw [maskByte_showChar, showChar_visible visible]

theorem flatMap_visible (bytes : List UInt8) : bytes.flatMap (maskByte secrets) = bytes.map byteChar := by
  rw [List.flatMap_congr fun byte _ => maskByte_visible visible byte, ← List.map_eq_flatMap]

theorem bytes_chunkSafe (safe : ChunkSafe secrets stream) (byte next : UInt8) (inside : [byte, next] <:+: stream) :
    ¬Continues byte next := by
  intro continues
  obtain ⟨c, decoded⟩ := decodeReplace_continued continues
  have same := safe.pieces _ inside (show 2 ≤ maxChunk by decide)
  rw [decoded, maskText_char, showChar_visible visible, flatMap_visible visible] at same
  cases same

theorem maskText_chunkSafe (safe : ChunkSafe secrets stream) {part : List Char} (inside : part <:+: stream.map byteChar)
    (short : part.length ≤ maxChunk) : (maskText secrets (String.ofList part)).toList = part := by
  obtain ⟨run, within, rfl⟩ := List.infix_map_iff.mp inside
  have apart := bytes_chunkSafe visible safe
  have decoded : decodeReplace run = String.ofList (run.map byteChar) := by
    rw [decodeReplace, decodeFrom_plain fun byte next pair => apart byte next (pair.trans within)]
  rw [← decoded, safe.pieces run within (by rwa [List.length_map] at short), flatMap_visible visible]

theorem secrets_chunkSafe (safe : ChunkSafe secrets stream) (secret : String) (member : secret ∈ secrets)
    (nonempty : secret ≠ "") : ¬secret.toList <:+: stream.map byteChar := by
  have asterisk := (visible secret member nonempty).2
  have unseen := safe_secret safe member nonempty asterisk
  rwa [flatMap_visible visible] at unseen

theorem references_chunkSafe (safe : ChunkSafe secrets stream) (part : List Char) (reference : IsReference part)
    (short : part.length ≤ maxChunk) (inside : part <:+: stream.map byteChar) : part = maskedReference.toList := by
  have shown := maskText_chunkSafe visible safe inside short
  have referred : ∀ secret ∈ secrets, secret ≠ "" → ¬secret.toList <:+: maskedReference.toList := by
    intro secret member nonempty within
    have masked := maskReferences_marked part
    rw [maskReferences_reference reference] at masked
    exact secrets_chunkSafe visible safe secret member nonempty
      ((masked.reveals (visible secret member nonempty).2 within).trans inside)
  rw [toList_maskText, String.toList_ofList, maskReferences_reference reference,
    replaceSecrets_absent referred] at shown
  rw [← shown]
  decide +kernel

theorem assignments_chunkSafe (safe : ChunkSafe secrets stream) {part value : List Char} (single : '\n' ∉ part)
    (short : part.length ≤ maxChunk) (inside : part <:+: stream.map byteChar) : ¬Redacts part value := by
  rintro ⟨key, found, some_ne, secret⟩
  obtain ⟨head, rfl⟩ := assignment_suffix found
  obtain ⟨c, rest, rfl⟩ := List.exists_cons_of_ne_nil some_ne
  -- a chunk that ends with the first character of the value
  have start : head ++ [c] <+: head ++ c :: rest := ⟨rest, by simp⟩
  have cut : Redacts (head ++ [c]) [c] := ⟨key, assignment_other found [c], List.cons_ne_nil _ _, secret⟩
  have small : (head ++ [c]).length ≤ maxChunk := start.length_le.trans short
  have within := start.isInfix.trans inside
  have shown := maskText_chunkSafe visible safe within small
  have referred : maskReferencesFrom 0 (head ++ [c]) = head ++ [c] :=
    maskReferences_same fun part reference inPart =>
      references_chunkSafe visible safe part reference (inPart.length_le.trans small) (inPart.trans within)
  have replaced : secrets.foldl replaceSecret (head ++ [c]) = head ++ [c] :=
    replaceSecrets_absent fun secret member nonempty inPart =>
      secrets_chunkSafe visible safe secret member nonempty (inPart.trans within)
  rw [toList_maskText, String.toList_ofList, referred, replaced,
    redactAssignments_last fun newline => single (start.subset newline)] at shown
  exact redactAssignment_short cut shown

theorem plain_chunkSafe (safe : ChunkSafe secrets stream) : PlainStream secrets stream where
  bytes := bytes_chunkSafe visible safe
  long secret member size := secrets_chunkSafe visible safe secret member (by rintro rfl; exact absurd size (by decide))
  single secret member size := by
    have nonempty : secret ≠ "" := by
      rintro rfl
      cases size
    have long := (visible secret member nonempty).1
    omega
  references := references_chunkSafe visible safe
  assignments part value short inside newline :=
    assignments_chunkSafe visible safe (fun member => absurd (visible "\n" (newline member) (by decide)).1 (by decide))
      short inside

end

/-- `_pty_to_websocket`, for every stream: plain ones are sent alike for every list of secrets, and only they
are where no secret is of one character or has asterisks. -/
theorem chunkingFree_exact (secrets : List String) (stream : List UInt8) :
    (PlainStream secrets stream → ChunkingFree secrets stream) ∧
      ((∀ secret ∈ secrets, secret ≠ "" → 2 ≤ secret.length ∧ '*' ∉ secret.toList) →
        (ChunkingFree secrets stream ↔ PlainStream secrets stream)) := by
  rw [chunkingFree_iff]
  exact ⟨chunkSafe_plain, fun visible => ⟨plain_chunkSafe visible, chunkSafe_plain⟩⟩

/-- The bytes of `ls`, with a secret that is masked in them and one that is not there. -/
theorem chunkingFree_exact_sample : ChunkingFree ["alpha", "s"] [0x6c, 0x73] := by
  have text : [0x6c, 0x73].map byteChar = ['l', 's'] := by decide
  refine (chunkingFree_exact _ _).1 { bytes := ?_, long := ?_, single := ?_, references := ?_, assignments := ?_ }
  · rintro byte next inside ⟨begun, started, -⟩
    rcases List.mem_pair.mp (inside.subset List.mem_cons_self) with rfl | rfl
    · cases started
    · cases started
  · intro secret member long
    rw [text]
    rcases List.mem_pair.mp member with rfl | rfl
    · decide
    · exact absurd long (by decide)
  · intro _ _ _ _ other member long
    rcases List.mem_pair.mp member with rfl | rfl
    · decide
    · exact absurd long (by decide)
  · rintro _ ⟨name, rfl, -, -⟩ - inside
    have short := inside.length_le
    simp only [List.length_append, List.length_map, List.length_cons, List.length_nil, referenceOpening] at short
    omega
  · rintro part value - inside - ⟨key, found, some_ne, -⟩
    rw [text] at inside
    have size : part.length ≤ 2 := inside.length_le
    have shorter := length_assignment found
    have positive := List.length_pos_iff.mpr some_ne
    obtain rfl : part = ['l', 's'] := inside.eq_of_length (by simp only [List.length_cons, List.length_nil]; omega)
    cases found

/-- The bytes of `alpha`, in one chunk and in two. -/
theorem splitSecret_shown :
    (ptyToWebsocket ["alpha"] false (running [[0x61, 0x6c, 0x70, 0x68, 0x61]])).texts = ["***"] ∧
      (ptyToWebsocket ["alpha"] false (running [[0x61, 0x6c], [0x70, 0x68, 0x61]])).texts = ["al", "pha"] ∧
      ¬ChunkingFree ["alpha"] [0x61, 0x6c, 0x70, 0x68, 0x61] := by
  have split : (ptyToWebsocket ["alpha"] false (running [[0x61, 0x6c], [0x70, 0x68, 0x61]])).texts = ["al", "pha"] := by
    decide +kernel
  refine ⟨by decide +kernel, split, fun free => ?_⟩
  have hidden := (free (running [[0x61, 0x6c], [0x70, 0x68, 0x61]]) (by decide) (by decide +kernel)).1
  refine hidden "alpha" List.mem_cons_self (by decide) (by decide) ?_
  rw [split]
  exact List.infix_rfl

end Korserver
