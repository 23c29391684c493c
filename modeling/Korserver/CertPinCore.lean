import Korserver.ByteFormats
import Korserver.ConfigCore

/-!
The pin of a certificate (`services/cert_pin.py`) and who asks for one (`_accepted_server_pin` of
`services/upstream.py`). The hash is a parameter.
-/

namespace Korserver

open ByteFormats PythonText

inductive CertError
  | valueError (message : String)
  | indexError
  | osError (message : String)
  | commandError (stderr : String)
  deriving DecidableEq, Repr

def sequenceTag : UInt8 := 0x30

def contextTag0 : UInt8 := 0xa0

/-- `data[offset]` -/
def byteAt (data : List UInt8) (offset : Nat) : Except CertError UInt8 :=
  match data[offset]? with
  | some byte => .ok byte
  | none => .error .indexError

/-- The length of an element and where its contents begin, when `first` stands before `pos`. -/
def tlvLength (data : List UInt8) (first pos : Nat) : Except CertError (Nat × Nat) :=
  if first &&& 0x80 ≠ 0 then
    let count := first &&& 0x7f
    if count = 0 ∨ 4 < count ∨ data.length < pos + count then
      .error (.valueError "unsupported DER length")
    else .ok (bytesValue ((data.drop pos).take count), pos + count)
  else .ok (first, pos)

structure Tlv where
  tag : UInt8
  contentStart : Nat
  contentEnd : Nat
  deriving DecidableEq, Repr

def readTlv (data : List UInt8) (offset : Nat) : Except CertError Tlv :=
  if data.length < offset + 2 then .error (.valueError "truncated DER")
  else do
    let tag ← byteAt data offset
    let first ← byteAt data (offset + 1)
    let (length, pos) ← tlvLength data first.toNat (offset + 2)
    if data.length < pos + length then .error (.valueError "truncated DER")
    else pure { tag, contentStart := pos, contentEnd := pos + length }

def skipElements (data : List UInt8) : Nat → Nat → Except CertError Nat
  | 0, offset => pure offset
  | count + 1, offset => do
      let element ← readTlv data offset
      skipElements data count element.contentEnd

def subjectPublicKeyInfo (certDer : List UInt8) : Except CertError (List UInt8) := do
  let cert ← readTlv certDer 0
  if cert.tag ≠ sequenceTag then .error (.valueError "not an X.509 certificate")
  else
    let tbs ← readTlv certDer cert.contentStart
    if tbs.tag ≠ sequenceTag then .error (.valueError "not an X.509 certificate")
    else
      let first ← byteAt certDer tbs.contentStart
      let offset ← skipElements certDer (if first = contextTag0 then 1 else 0) tbs.contentStart
      -- serialNumber, signature, issuer, validity, subject
      let offset ← skipElements certDer 5 offset
      let spki ← readTlv certDer offset
      if spki.tag ≠ sequenceTag ∨ tbs.contentEnd < spki.contentEnd then
        .error (.valueError "malformed subjectPublicKeyInfo")
      else pure ((certDer.drop offset).take (spki.contentEnd - offset))

structure CertificatePin where
  pin : String
  sha256 : String
  deriving DecidableEq, Repr

def hexdigest (digest : List UInt8) : String :=
  String.ofList (digest.flatMap fun byte =>
    [Nat.digitChar (byte.toNat / 16), Nat.digitChar (byte.toNat % 16)])

section

variable (sha256 : List UInt8 → List UInt8)

def certificatePin (certDer : List UInt8) : Except CertError CertificatePin := do
  let spki ← subjectPublicKeyInfo certDer
  pure { pin := "pin-sha256:" ++ String.ofList (base64Chars (sha256 spki)),
         sha256 := "sha256:" ++ hexdigest (sha256 certDer) }

/-- `fetch_server_pin`; what the server presented, or why it could not be reached. -/
def fetchServerPin (host : String) (port : Int) (presented : Except String (List UInt8)) :
    Except CertError CertificatePin :=
  match presented with
  | .error message => .error (.osError message)
  | .ok [] => .error (.valueError (host ++ ":" ++ Int.repr port ++ " presented no certificate"))
  | .ok der => certificatePin sha256 der

/-- The fields of a profile that `_accepted_server_pin` reads. -/
structure PinnedProfile where
  name : String
  server : String
  port : String := "443"
  trustedCert : Bool
  serverCertPin : Option String

structure AcceptedPin where
  pin : Option String
  logLine : Option String := none
  stored : Option String := none

def acceptedLogLine (profile : PinnedProfile) (previous : Option String) (pin : String) :
    Option String :=
  match previous with
  | none => some ("profile '" ++ profile.name ++
      "': certificate check disabled, accepting the certificate the server presented (" ++ pin ++
      "); set server_cert_pin to it to stop trusting whatever the server presents")
  | some old =>
      if old = "" ∨ old = pin then none
      else some ("WARNING profile '" ++ profile.name ++
        "': the server now presents a different key (" ++ old ++ " -> " ++ pin ++
        "); accepted automatically because the certificate check is disabled. Expected after a " ++
        "key rotation on the upstream; otherwise it may be a man-in-the-middle.")

/-- `fetch_server_pin(profile.server, int(profile.port))` -/
def fetchProfilePin (profile : PinnedProfile) (presented : Except String (List UInt8)) :
    Except CertError CertificatePin :=
  match decimalLiteral profile.port with
  | none => .error (.valueError ("invalid literal for int() with base 10: '" ++ profile.port ++ "'"))
  | some port => fetchServerPin sha256 profile.server port presented

/-- `except (OSError, ValueError)` -/
def reportUnreadable (profile : PinnedProfile) : CertError → CertError
  | .osError message | .valueError message => .commandError ("could not read the server certificate of " ++
      profile.server ++ ":" ++ profile.port ++ " to accept it: " ++ message)
  | error => error

def acceptedServerPin (profile : PinnedProfile) (dryRun : Bool) (previous : Option String)
    (presented : Except String (List UInt8)) : Except CertError AcceptedPin :=
  if profile.trustedCert = false ∨ (truthy profile.serverCertPin).isSome then .ok { pin := none }
  else if dryRun then .ok { pin := some "pin-sha256:<fetched-from-server-at-connect>" }
  else
    match fetchProfilePin sha256 profile presented with
    | .error error => .error (reportUnreadable profile error)
    | .ok fetched => .ok
        { pin := some fetched.pin, logLine := acceptedLogLine profile previous fetched.pin,
          stored := some (fetched.pin ++ "\n") }

end

theorem lowBits : ∀ first < 256, (first &&& 0x80 ≠ 0 ↔ 128 ≤ first) ∧
    (128 ≤ first → first &&& 0x7f = first - 128) := by
  decide +kernel

theorem byteAt_ok {data : List UInt8} {offset : Nat} {byte : UInt8} :
    byteAt data offset = .ok byte ↔ ∃ rest, data.drop offset = byte :: rest := by
  unfold byteAt
  constructor
  · intro found
    split at found
    · rename_i value there
      cases found
      obtain ⟨bound, rfl⟩ := List.getElem?_eq_some_iff.mp there
      exact ⟨_, List.drop_eq_getElem_cons bound⟩
    · cases found
  · rintro ⟨rest, begins⟩
    have there : data[offset]? = some byte := by
      rw [← List.head?_drop, begins, List.head?_cons]
    rw [there]

theorem tlvLength_long {data : List UInt8} {first pos : Nat} (small : first < 256)
    (large : 128 ≤ first) : tlvLength data first pos =
      if first = 128 ∨ 132 < first ∨ data.length < pos + (first - 128) then
        .error (.valueError "unsupported DER length")
      else .ok (bytesValue ((data.drop pos).take (first - 128)), pos + (first - 128)) := by
  have bits := lowBits first small
  have empty : first - 128 = 0 ↔ first = 128 := by omega
  have many : 4 < first - 128 ↔ 132 < first := by omega
  simp only [tlvLength, if_pos (bits.1.mpr large), bits.2 large, empty, many]

theorem tlvLength_short {data : List UInt8} {first pos : Nat} (small : first < 128) :
    tlvLength data first pos = .ok (first, pos) := by
  rw [tlvLength, if_neg]
  rw [(lowBits first (by omega)).1]
  omega

theorem tlvLength_ok {data tail : List UInt8} {tag first : UInt8} {pos length start : Nat}
    (follows : data.drop pos = tail) (inside : pos ≤ data.length) :
    tlvLength data first.toNat pos = .ok (length, start) ↔
      ∃ digits rest, tail = digits ++ rest ∧ start = pos + digits.length ∧
        Header tag length (tag :: first :: digits) := by
  have byte := first.toNat_lt
  have total : tail.length = data.length - pos := by rw [← follows, List.length_drop]
  by_cases large : 128 ≤ first.toNat
  · rw [tlvLength_long byte large, follows]
    constructor
    · intro read
      split at read
      · cases read
      · rename_i fits
        simp only [not_or, Nat.not_lt] at fits
        simp only [Except.ok.injEq, Prod.mk.injEq] at read
        have counted : (tail.take (first.toNat - 128)).length = first.toNat - 128 := by
          rw [List.length_take]
          omega
        refine ⟨tail.take (first.toNat - 128), tail.drop (first.toNat - 128),
          (List.take_append_drop _ _).symm, by rw [counted, read.2],
          Header.long tag first _ _ ?_ ?_ ?_ read.1⟩
        · intro empty
          rw [empty, List.length_nil] at counted
          omega
        · omega
        · omega
    · rintro ⟨digits, rest, rfl, rfl, opens⟩
      cases opens with
      | short _ _ small value => omega
      | long _ _ _ nonempty few count value =>
          have positive : 0 < digits.length := List.length_pos_iff.mpr nonempty
          have width : first.toNat - 128 = digits.length := by omega
          rw [List.length_append] at total
          rw [if_neg (by omega), width, List.take_left, value]
  · rw [tlvLength_short (by omega)]
    constructor
    · intro read
      cases read
      exact ⟨[], tail, rfl, rfl, Header.short tag first _ (by omega) rfl⟩
    · rintro ⟨digits, rest, rfl, rfl, opens⟩
      cases opens with
      | short _ _ small value => rw [value]; rfl
      | long _ _ _ nonempty few count value => omega

theorem tlvLength_error {data : List UInt8} {first : UInt8} {pos : Nat} {error : CertError}
    (failed : tlvLength data first.toNat pos = .error error) : ∃ message, error = .valueError message := by
  unfold tlvLength at failed
  split at failed
  · dsimp only at failed
    split at failed
    · cases failed
      exact ⟨_, rfl⟩
    · cases failed
  · cases failed

theorem readTlv_eq {data rest : List UInt8} {offset : Nat} {tag first : UInt8}
    (begins : data.drop offset = tag :: first :: rest) : readTlv data offset =
      (tlvLength data first.toNat (offset + 2)).bind fun found =>
        if data.length < found.2 + found.1 then .error (.valueError "truncated DER")
        else .ok { tag, contentStart := found.2, contentEnd := found.2 + found.1 } := by
  have long : ¬data.length < offset + 2 := by
    have counted := congrArg List.length begins
    simp only [List.length_drop, List.length_cons] at counted
    omega
  have second : data.drop (offset + 1) = first :: rest := by
    rw [← List.drop_drop, begins, List.drop_one, List.tail_cons]
  rw [readTlv, if_neg long, byteAt_ok.mpr ⟨_, begins⟩, byteAt_ok.mpr ⟨_, second⟩]
  rfl

theorem readTlv_cases (data : List UInt8) (offset : Nat) :
    readTlv data offset = .error (.valueError "truncated DER") ∨
      ∃ tag first rest, data.drop offset = tag :: first :: rest := by
  by_cases short : data.length < offset + 2
  · exact .inl (by rw [readTlv, if_pos short])
  · right
    rcases begins : data.drop offset with _ | ⟨tag, _ | ⟨first, rest⟩⟩
    · have counted := congrArg List.length begins
      simp only [List.length_drop, List.length_nil] at counted
      omega
    · have counted := congrArg List.length begins
      simp only [List.length_drop, List.length_cons, List.length_nil] at counted
      omega
    · exact ⟨_, _, _, rfl⟩

theorem readTlv_error {data : List UInt8} {offset : Nat} {error : CertError}
    (failed : readTlv data offset = .error error) : ∃ message, error = .valueError message := by
  rcases readTlv_cases data offset with short | ⟨tag, first, rest, begins⟩
  · rw [short] at failed
    cases failed
    exact ⟨_, rfl⟩
  · rw [readTlv_eq begins] at failed
    cases read : tlvLength data first.toNat (offset + 2) with
    | error reason =>
        rw [read] at failed
        cases failed
        exact tlvLength_error read
    | ok found =>
        rw [read] at failed
        simp only [Except.bind] at failed
        split at failed
        · cases failed
          exact ⟨_, rfl⟩
        · cases failed

theorem readTlv_ok {data : List UInt8} {offset : Nat} {element : Tlv} :
    readTlv data offset = .ok element ↔
      ∃ header content after, data.drop offset = header ++ content ++ after ∧
        Header element.tag content.length header ∧
        element.contentStart = offset + header.length ∧
        element.contentEnd = element.contentStart + content.length := by
  constructor
  · intro found
    rcases readTlv_cases data offset with short | ⟨tag, first, rest, begins⟩
    · rw [short] at found
      cases found
    · rw [readTlv_eq begins] at found
      have after : data.drop (offset + 2) = rest := by
        rw [← List.drop_drop, begins]
        rfl
      have counted := congrArg List.length begins
      simp only [List.length_drop, List.length_cons] at counted
      cases read : tlvLength data first.toNat (offset + 2) with
      | error reason =>
          rw [read] at found
          cases found
      | ok pair =>
          rw [read] at found
          simp only [Except.bind] at found
          split at found
          · cases found
          · rename_i fits
            cases found
            obtain ⟨digits, more, rfl, start, opens⟩ :=
              (@tlvLength_ok data rest tag first _ _ _ after (by omega)).mp read
            rw [List.length_append] at counted
            have enough : (more.take pair.1).length = pair.1 := by
              rw [List.length_take]
              omega
            refine ⟨tag :: first :: digits, more.take pair.1, more.drop pair.1, ?_, ?_, ?_, ?_⟩
            · rw [begins, List.append_assoc, List.take_append_drop]
              rfl
            · rw [enough]
              exact opens
            · simp only [List.length_cons, start]
              omega
            · rw [enough]
  · rintro ⟨header, content, after, begins, opens, start, stop⟩
    obtain ⟨tag, contentStart, contentEnd⟩ := element
    dsimp only at opens start stop
    obtain ⟨first, digits, rfl⟩ := opens.cons
    have follows : data.drop (offset + 2) = digits ++ (content ++ after) := by
      rw [← List.drop_drop, begins]
      simp
    have counted := congrArg List.length begins
    simp only [List.length_drop, List.length_cons, List.length_append] at counted
    have read := (tlvLength_ok follows (by omega)).mpr
      ⟨digits, content ++ after, rfl, rfl, opens⟩
    rw [List.length_cons, List.length_cons] at start
    have begun : offset + 2 + digits.length = contentStart := by omega
    have whole : data.drop offset = tag :: first :: (digits ++ (content ++ after)) := by
      rw [begins]
      simp
    rw [readTlv_eq whole, read]
    simp only [Except.bind]
    rw [if_neg (by omega), begun, stop]

end Korserver
