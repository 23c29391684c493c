import Korserver.CertPinCore

/-!
How reading a certificate fails, and what its pin covers.
-/

namespace Korserver

open ByteFormats PythonText

def FailsWithValueError {α : Type} (outcome : Except CertError α) : Prop :=
  ∀ error, outcome = .error error → ∃ message, error = .valueError message

/-- Both functions return or raise `ValueError`, and a profile that accepts the certificate of its
server reports the error. -/
def OnlyValueErrors (sha256 : List UInt8 → List UInt8) (data : List UInt8) : Prop :=
  FailsWithValueError (subjectPublicKeyInfo data) ∧ FailsWithValueError (certificatePin sha256 data) ∧
    ∀ profile dryRun previous error,
      acceptedServerPin sha256 profile dryRun previous (.ok data) = .error error →
        ∃ stderr, error = .commandError stderr

/-- The data ends with the header of an empty sequence, behind the header of the sequence around
it. -/
def EmptyTbs (data : List UInt8) : Prop :=
  ∃ outer inner length, data = outer ++ inner ∧ Header sequenceTag length outer ∧
    Header sequenceTag 0 inner ∧ length ≤ inner.length

theorem skipElements_error {data : List UInt8} {count offset : Nat} :
    FailsWithValueError (skipElements data count offset) := by
  induction count generalizing offset with
  | zero =>
      intro error failed
      cases failed
  | succ count ih =>
      intro error failed
      rw [skipElements] at failed
      cases read : readTlv data offset with
      | error reason =>
          rw [read] at failed
          cases failed
          exact readTlv_error read
      | ok element =>
          rw [read] at failed
          exact ih error failed

theorem subjectPublicKeyInfo_emptyTbs {data : List UInt8} (empty : EmptyTbs data) :
    subjectPublicKeyInfo data = .error .indexError := by
  obtain ⟨outer, inner, length, rfl, outerOpens, innerOpens, short⟩ := empty
  have certRead : readTlv (outer ++ inner) 0 = .ok ⟨sequenceTag, outer.length, outer.length + length⟩ := by
    refine readTlv_ok.mpr ⟨outer, inner.take length, inner.drop length, ?_, ?_, ?_, ?_⟩
    · rw [List.drop_zero, List.append_assoc, List.take_append_drop]
    · rw [List.length_take, Nat.min_eq_left short]
      exact outerOpens
    · simp
    · simp [Nat.min_eq_left short]
  have tbsRead : readTlv (outer ++ inner) outer.length =
      .ok ⟨sequenceTag, outer.length + inner.length, outer.length + inner.length⟩ :=
    readTlv_ok.mpr ⟨inner, [], [], by simp, innerOpens, rfl, rfl⟩
  have past : byteAt (outer ++ inner) (outer.length + inner.length) = .error .indexError := by
    rw [byteAt, List.getElem?_eq_none (by simp)]
  simp [subjectPublicKeyInfo, certRead, tbsRead, past, bind, Except.bind]

/-- What follows the first byte of `tbsCertificate` checks every bound before it reads. -/
theorem subjectPublicKeyInfo_error {data : List UInt8} {error : CertError}
    (failed : subjectPublicKeyInfo data = .error error) :
    (∃ message, error = .valueError message) ∨ EmptyTbs data := by
  rw [subjectPublicKeyInfo] at failed
  cases certRead : readTlv data 0 with
  | error reason =>
      rw [certRead] at failed
      cases failed
      exact .inl (readTlv_error certRead)
  | ok cert =>
  rw [certRead] at failed
  simp only [bind, Except.bind] at failed
  split at failed
  · cases failed
    exact .inl ⟨_, rfl⟩
  rename_i certTag
  cases tbsRead : readTlv data cert.contentStart with
  | error reason =>
      rw [tbsRead] at failed
      cases failed
      exact .inl (readTlv_error tbsRead)
  | ok tbs =>
  rw [tbsRead] at failed
  dsimp only at failed
  split at failed
  · cases failed
    exact .inl ⟨_, rfl⟩
  rename_i tbsTag
  cases firstRead : byteAt data tbs.contentStart with
  | error reason =>
      right
      obtain ⟨outer, content, after, whole, outerOpens, certStart, _⟩ := readTlv_ok.mp certRead
      obtain ⟨inner, tbsContent, tbsAfter, rest, innerOpens, tbsStart, _⟩ := readTlv_ok.mp tbsRead
      rw [List.drop_zero] at whole
      rw [Nat.zero_add] at certStart
      rw [certStart, whole, List.append_assoc, List.drop_left] at rest
      have outside : data.length ≤ tbs.contentStart := by
        rw [← List.getElem?_eq_none_iff]
        cases there : data[tbs.contentStart]? with
        | none => rfl
        | some byte =>
            rw [byteAt, there] at firstRead
            cases firstRead
      have counted := congrArg List.length whole
      have further := congrArg List.length rest
      simp only [List.length_append] at counted further
      obtain rfl : tbsContent = [] := List.length_eq_zero_iff.mp (by omega)
      obtain rfl : tbsAfter = [] := List.length_eq_zero_iff.mp (by omega)
      rw [not_not] at certTag tbsTag
      rw [certTag] at outerOpens
      rw [tbsTag] at innerOpens
      refine ⟨outer, inner, content.length, ?_, outerOpens, innerOpens, ?_⟩
      · rw [whole, List.append_assoc, rest]
        simp
      · simp only [List.length_nil] at further
        omega
  | ok first =>
  left
  rw [firstRead] at failed
  dsimp only at failed
  cases versionRead : skipElements data (if first = contextTag0 then 1 else 0) tbs.contentStart with
  | error reason =>
      rw [versionRead] at failed
      cases failed
      exact skipElements_error _ versionRead
  | ok serial =>
  rw [versionRead] at failed
  dsimp only at failed
  cases fieldsRead : skipElements data 5 serial with
  | error reason =>
      rw [fieldsRead] at failed
      cases failed
      exact skipElements_error _ fieldsRead
  | ok offset =>
  rw [fieldsRead] at failed
  dsimp only at failed
  cases spkiRead : readTlv data offset with
  | error reason =>
      rw [spkiRead] at failed
      cases failed
      exact readTlv_error spkiRead
  | ok spki =>
  rw [spkiRead] at failed
  dsimp only at failed
  split at failed
  · cases failed
    exact ⟨_, rfl⟩
  · cases failed

theorem certificatePin_error {sha256 : List UInt8 → List UInt8} {data : List UInt8} {error : CertError} :
    certificatePin sha256 data = .error error ↔ subjectPublicKeyInfo data = .error error := by
  rw [certificatePin]
  cases read : subjectPublicKeyInfo data with
  | error reason =>
      constructor
      · intro failed
        cases failed
        rfl
      · intro failed
        cases failed
        rfl
  | ok spki =>
      constructor
      · intro failed
        cases failed
      · intro failed
        cases failed

/-- An error that is a `ValueError` reaches the caller of `connect` as a failed command. -/
theorem acceptedServerPin_error {sha256 : List UInt8 → List UInt8} {data : List UInt8}
    (fails : FailsWithValueError (certificatePin sha256 data)) {profile : PinnedProfile} {dryRun : Bool}
    {previous : Option String} {error : CertError}
    (failed : acceptedServerPin sha256 profile dryRun previous (.ok data) = .error error) :
    ∃ stderr, error = .commandError stderr := by
  rw [acceptedServerPin] at failed
  split at failed
  · cases failed
  split at failed
  · cases failed
  have fetched : FailsWithValueError (fetchProfilePin sha256 profile (.ok data)) := by
    intro reason unread
    rw [fetchProfilePin] at unread
    cases port : decimalLiteral profile.port with
    | none =>
        rw [port] at unread
        cases unread
        exact ⟨_, rfl⟩
    | some number =>
        rw [port] at unread
        cases data with
        | nil =>
            cases unread
            exact ⟨_, rfl⟩
        | cons first rest => exact fails reason unread
  cases read : fetchProfilePin sha256 profile (.ok data) with
  | error reason =>
      rw [read] at failed
      obtain ⟨message, rfl⟩ := fetched reason read
      cases failed
      exact ⟨_, rfl⟩
  | ok pin =>
      rw [read] at failed
      cases failed

theorem onlyValueErrors_iff (sha256 : List UInt8 → List UInt8) (data : List UInt8) :
    OnlyValueErrors sha256 data ↔ ¬EmptyTbs data := by
  constructor
  · rintro ⟨fails, _, _⟩ empty
    obtain ⟨message, impossible⟩ := fails _ (subjectPublicKeyInfo_emptyTbs empty)
    cases impossible
  · intro regular
    have fails : FailsWithValueError (subjectPublicKeyInfo data) := by
      intro error failed
      exact (subjectPublicKeyInfo_error failed).resolve_right regular
    have pinFails : FailsWithValueError (certificatePin sha256 data) := by
      intro error failed
      exact fails error (certificatePin_error.mp failed)
    refine ⟨fails, pinFails, ?_⟩
    intro profile dryRun previous error failed
    exact acceptedServerPin_error pinFails failed

/-- A sequence around an empty sequence. -/
theorem emptyTbs_indexError :
    ¬∀ (sha256 : List UInt8 → List UInt8) (data : List UInt8), OnlyValueErrors sha256 data := by
  intro always
  obtain ⟨message, impossible⟩ := (always id [0x30, 2, 0x30, 0]).1 .indexError (by decide)
  cases impossible

/-! The pin of a certificate. -/

/-- The certificate has this encoding of its public key: five elements stand before it, and the
version before these if it has one. -/
def WellFormed (certDer key : List UInt8) : Prop :=
  ∃ tbs rest tbsContent version serial signature issuer validity subject keyContent extra,
    Element sequenceTag (tbs ++ rest) certDer ∧ Element sequenceTag tbsContent tbs ∧
      tbsContent =
        version ++ serial ++ signature ++ issuer ++ validity ++ subject ++ key ++ extra ∧
      ((version = [] ∧ serial.head? ≠ some contextTag0) ∨
        ∃ content, Element contextTag0 content version) ∧
      (∀ field ∈ [serial, signature, issuer, validity, subject], ∃ tag content, Element tag content field) ∧
      Element sequenceTag keyContent key

theorem readTlv_element {data bytes content after : List UInt8} {tag : UInt8} {offset : Nat}
    (element : Element tag content bytes) (begins : data.drop offset = bytes ++ after) :
    ∃ start, readTlv data offset = .ok ⟨tag, start, offset + bytes.length⟩ ∧
      data.drop start = content ++ after ∧ start + content.length = offset + bytes.length := by
  obtain ⟨header, opens, rfl⟩ := element
  refine ⟨offset + header.length,
    readTlv_ok.mpr ⟨header, content, after, begins, opens, rfl, ?_⟩, ?_, ?_⟩
  · rw [List.length_append, Nat.add_assoc]
  · rw [← List.drop_drop, begins, List.append_assoc, List.drop_left]
  · rw [List.length_append, Nat.add_assoc]

theorem skipElements_elements {data after : List UInt8} {fields : List (List UInt8)} {offset : Nat}
    (elements : ∀ field ∈ fields, ∃ tag content, Element tag content field)
    (begins : data.drop offset = fields.flatten ++ after) :
    skipElements data fields.length offset = .ok (offset + fields.flatten.length) := by
  induction fields generalizing offset with
  | nil => rfl
  | cons field rest ih =>
      obtain ⟨tag, content, element⟩ := elements field (by simp)
      rw [List.flatten_cons, List.append_assoc] at begins
      obtain ⟨start, read, _⟩ := readTlv_element element begins
      have later : data.drop (offset + field.length) = rest.flatten ++ after := by
        rw [← List.drop_drop, begins, List.drop_left]
      rw [List.length_cons, skipElements, read]
      refine (ih (fun other member => elements other (by simp [member])) later).trans ?_
      rw [List.flatten_cons, List.length_append, Nat.add_assoc]

theorem skipElements_version {data version serial after : List UInt8} {offset : Nat}
    (versions : (version = [] ∧ serial.head? ≠ some contextTag0) ∨
      ∃ content, Element contextTag0 content version)
    (serialElement : ∃ tag content, Element tag content serial)
    (begins : data.drop offset = version ++ (serial ++ after)) :
    ∃ first, byteAt data offset = .ok first ∧
      skipElements data (if first = contextTag0 then 1 else 0) offset =
        .ok (offset + version.length) := by
  rcases versions with ⟨rfl, other⟩ | ⟨content, element⟩
  · obtain ⟨tag, content, element⟩ := serialElement
    obtain ⟨more, rfl⟩ := element.cons
    have different : tag ≠ contextTag0 := by simpa using other
    refine ⟨tag, byteAt_ok.mpr ⟨more ++ after, begins⟩, ?_⟩
    rw [if_neg different]
    rfl
  · obtain ⟨more, rfl⟩ := element.cons
    refine ⟨contextTag0, byteAt_ok.mpr ⟨more ++ (serial ++ after), begins⟩, ?_⟩
    obtain ⟨start, read, _⟩ := readTlv_element element begins
    rw [if_pos rfl, skipElements, read]
    rfl

theorem subjectPublicKeyInfo_wellFormed {certDer key : List UInt8} (formed : WellFormed certDer key) :
    subjectPublicKeyInfo certDer = .ok key := by
  obtain ⟨tbs, rest, tbsContent, version, serial, signature, issuer, validity, subject, keyContent,
    extra, cert, inner, content, versions, elements, keyElement⟩ := formed
  obtain ⟨certStart, certRead, certDrop, _⟩ :=
    @readTlv_element certDer certDer _ [] sequenceTag 0 cert (by simp)
  rw [List.append_nil] at certDrop
  obtain ⟨tbsStart, tbsRead, tbsDrop, tbsEnd⟩ := readTlv_element inner certDrop
  have fields : certDer.drop tbsStart = version ++
      (serial ++ (signature ++ issuer ++ validity ++ subject ++ key ++ extra ++ rest)) := by
    rw [tbsDrop, content]
    simp
  obtain ⟨first, firstRead, versionRead⟩ :=
    skipElements_version versions (elements serial (by simp)) fields
  have afterVersion : certDer.drop (tbsStart + version.length) =
      [serial, signature, issuer, validity, subject].flatten ++ (key ++ (extra ++ rest)) := by
    rw [← List.drop_drop, fields, List.drop_left]
    simp
  have fieldsRead := skipElements_elements elements afterVersion
  generalize skipped : [serial, signature, issuer, validity, subject].flatten = five at *
  have atKey : certDer.drop (tbsStart + version.length + five.length) = key ++ (extra ++ rest) := by
    rw [← List.drop_drop, afterVersion, List.drop_left]
  obtain ⟨keyStart, keyRead, _⟩ := readTlv_element keyElement atKey
  have bound : tbsStart + version.length + five.length + key.length ≤ certStart + tbs.length := by
    have counted := congrArg List.length skipped
    rw [content] at tbsEnd
    simp only [List.flatten_cons, List.flatten_nil, List.length_append, List.length_nil] at counted tbsEnd
    omega
  rw [List.length_cons, List.length_cons, List.length_cons, List.length_cons, List.length_cons,
    List.length_nil] at fieldsRead
  simp only [subjectPublicKeyInfo, certRead, tbsRead, firstRead, versionRead, fieldsRead, keyRead, bind,
    Except.bind, ne_eq, not_true_eq_false, if_false, false_or, if_neg (Nat.not_lt.mpr bound), pure,
    Except.pure]
  rw [atKey, Nat.add_sub_cancel_left, List.take_left]

/-- The first function returns the key, and the pins of two certificates are the same exactly when
the keys are. -/
theorem pin_iff_key {sha256 : List UInt8 → List UInt8} (distinct : Function.Injective sha256)
    {certDer otherDer key otherKey : List UInt8} (formed : WellFormed certDer key)
    (otherFormed : WellFormed otherDer otherKey) :
    subjectPublicKeyInfo certDer = .ok key ∧
      ∃ pin otherPin, certificatePin sha256 certDer = .ok pin ∧
        certificatePin sha256 otherDer = .ok otherPin ∧ (pin.pin = otherPin.pin ↔ key = otherKey) := by
  have read := subjectPublicKeyInfo_wellFormed formed
  have otherRead := subjectPublicKeyInfo_wellFormed otherFormed
  refine ⟨read, ⟨_, _⟩, ⟨_, _⟩, by rw [certificatePin, read]; rfl,
    by rw [certificatePin, otherRead]; rfl, ?_⟩
  constructor
  · intro same
    have texts := congrArg String.toList same
    simp only [String.toList_append, String.toList_ofList, List.append_cancel_left_eq] at texts
    exact distinct (base64Chars_injective texts)
  · rintro rfl
    rfl

def sampleKey : List UInt8 := [0x30, 0x03, 0x03, 0x01, 0x00]

def shortElement (tag : UInt8) (content : List UInt8) : List UInt8 :=
  [tag, UInt8.ofNat content.length] ++ content

/-- A certificate with this version, this serial number, empty names and an empty signature. -/
def sampleFields (version serial : List UInt8) : List UInt8 :=
  version ++ serial ++ [0x30, 0] ++ [0x30, 0] ++ [0x30, 0] ++ [0x30, 0] ++ sampleKey ++ []

def sampleCertificate (version serial : List UInt8) : List UInt8 :=
  shortElement 0x30 (shortElement 0x30 (sampleFields version serial) ++ [0x30, 0, 3, 1, 0])

def sampleCert : List UInt8 := sampleCertificate [0xa0, 3, 2, 1, 2] [2, 1, 1]

def sampleRenewal : List UInt8 := sampleCertificate [] [2, 1, 2]

def sampleDigests : List (List UInt8 × List UInt8) :=
  [(sampleKey,
     [0x29, 0x41, 0xdc, 0xd0, 0x41, 0x31, 0x17, 0xf2, 0xe8, 0xcf, 0x4a, 0xf3, 0xa2, 0xe7, 0xab, 0xe2,
      0xd2, 0x22, 0x3f, 0x1a, 0xff, 0xdd, 0xf6, 0xc5, 0x93, 0xd9, 0x87, 0x24, 0x74, 0x2b, 0x9f, 0x16]),
   (sampleCert,
     [0x87, 0x82, 0x97, 0x93, 0x59, 0x4d, 0x62, 0x91, 0x38, 0x5a, 0x80, 0x64, 0xec, 0x2b, 0x9d, 0x0e,
      0x55, 0x87, 0x43, 0xfe, 0xe1, 0xb7, 0x83, 0x57, 0x9d, 0x8c, 0x4d, 0xd3, 0x09, 0xbb, 0x68, 0xe0]),
   (sampleRenewal,
     [0xbb, 0x9c, 0x06, 0x77, 0x68, 0xfd, 0x49, 0x8f, 0x75, 0xaa, 0x26, 0x99, 0xed, 0x63, 0x9d, 0xb5,
      0xea, 0xcf, 0x5a, 0x7e, 0xf2, 0xac, 0x0b, 0xa0, 0xc1, 0x72, 0xd7, 0xa4, 0x53, 0xd3, 0x79, 0x0c])]

/-- A hash with these digests; whatever else there is has a longer one. -/
def digestOf (digests : List (List UInt8 × List UInt8)) (bytes : List UInt8) : List UInt8 :=
  match digests.find? (fun entry => entry.1 == bytes) with
  | some entry => entry.2
  | none => List.replicate 33 0 ++ bytes

theorem digestOf_injective {digests : List (List UInt8 × List UInt8)}
    (short : ∀ entry ∈ digests, entry.2.length = 32)
    (distinct : ∀ entry ∈ digests, ∀ other ∈ digests, entry.2 = other.2 → entry = other) :
    Function.Injective (digestOf digests) := by
  intro left right same
  unfold digestOf at same
  cases leftFound : digests.find? (fun entry => entry.1 == left) with
  | some entry =>
      have leftKey : entry.1 = left := by simpa using List.find?_some leftFound
      have leftMember := List.mem_of_find?_eq_some leftFound
      cases rightFound : digests.find? (fun entry => entry.1 == right) with
      | some other =>
          have rightKey : other.1 = right := by simpa using List.find?_some rightFound
          rw [leftFound, rightFound] at same
          rw [← leftKey, ← rightKey,
            distinct entry leftMember other (List.mem_of_find?_eq_some rightFound) same]
      | none =>
          rw [leftFound, rightFound] at same
          have counted := congrArg List.length same
          simp only [short entry leftMember, List.length_append, List.length_replicate] at counted
          omega
  | none =>
      cases rightFound : digests.find? (fun entry => entry.1 == right) with
      | some other =>
          rw [leftFound, rightFound] at same
          have counted := congrArg List.length same
          simp only [short other (List.mem_of_find?_eq_some rightFound), List.length_append,
            List.length_replicate] at counted
          omega
      | none =>
          rw [leftFound, rightFound] at same
          exact List.append_cancel_left same

theorem shortElement_element {tag : UInt8} {content : List UInt8} (short : content.length < 128) :
    Element tag content (shortElement tag content) := by
  refine ⟨_, Header.short tag _ _ short ?_, rfl⟩
  rw [UInt8.toNat_ofNat', Nat.mod_eq_of_lt (by omega)]

theorem sampleCertificate_wellFormed {version : List UInt8} {serial : UInt8}
    (versions : version = [] ∨ ∃ content, Element contextTag0 content version)
    (short : version.length < 20) : WellFormed (sampleCertificate version [2, 1, serial]) sampleKey := by
  have empty : Element 0x30 [] [0x30, 0] := shortElement_element (by decide)
  have number : Element 2 [serial] [2, 1, serial] := shortElement_element (Nat.le_of_ble_eq_true rfl)
  refine ⟨shortElement 0x30 (sampleFields version [2, 1, serial]), [0x30, 0, 3, 1, 0],
    sampleFields version [2, 1, serial], version, [2, 1, serial], [0x30, 0], [0x30, 0], [0x30, 0],
    [0x30, 0], [3, 1, 0], [], shortElement_element ?_, shortElement_element ?_, rfl, ?_, ?_,
    shortElement_element (by decide)⟩
  · simp only [shortElement, sampleFields, sampleKey, List.length_append, List.length_cons, List.length_nil]
    omega
  · simp only [sampleFields, sampleKey, List.length_append, List.length_cons, List.length_nil]
    omega
  · rcases versions with rfl | explicit
    · exact .inl ⟨rfl, by simp [contextTag0]⟩
    · exact .inr explicit
  · simp only [List.forall_mem_cons]
    exact ⟨⟨_, _, number⟩, ⟨_, _, empty⟩, ⟨_, _, empty⟩, ⟨_, _, empty⟩, ⟨_, _, empty⟩,
      List.forall_mem_nil _⟩

theorem pin_iff_key_sample :
    ∃ pin otherPin, certificatePin (digestOf sampleDigests) sampleCert = .ok pin ∧
      certificatePin (digestOf sampleDigests) sampleRenewal = .ok otherPin ∧ pin.pin = otherPin.pin := by
  have distinct : Function.Injective (digestOf sampleDigests) :=
    digestOf_injective (by decide) (by decide)
  obtain ⟨_, pin, otherPin, read, otherRead, same⟩ :=
    pin_iff_key distinct
      (sampleCertificate_wellFormed (.inr ⟨[2, 1, 2], shortElement_element (by decide)⟩) (by decide))
      (sampleCertificate_wellFormed (.inl rfl) (by decide))
  exact ⟨pin, otherPin, read, otherRead, same.mpr rfl⟩

end Korserver
