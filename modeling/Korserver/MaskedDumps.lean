import Korserver.MaskedValuesCore
import Mathlib.Data.List.Forall2

/-!
Two configurations that differ in their secrets only, and what is shown of them.
-/

namespace Korserver

open PythonText PythonValue

def isSet : Json → Bool
  | .list _ => false
  | .dict _ => false
  | value => value.truthy

mutual

/-- The values are the same apart from those under secret keys. -/
inductive SameButSecrets : Option String → Json → Json → Prop
  | same (key : Option String) (value : Json) : SameButSecrets key value value
  | secret {key : String} {left right : Json} (isSecret : isSecretKey key = true)
      (leftSet : isSet left = true) (rightSet : isSet right = true) : SameButSecrets (some key) left right
  | dict {key : Option String} {left right : List (String × Json)} (entries : EntriesSame left right) :
      SameButSecrets key (.dict left) (.dict right)
  | list {key : Option String} {left right : List Json} (items : ItemsSame left right) :
      SameButSecrets key (.list left) (.list right)

inductive EntriesSame : List (String × Json) → List (String × Json) → Prop
  | nil : EntriesSame [] []
  | cons {key : String} {left right : Json} {others rest : List (String × Json)}
      (first : SameButSecrets (some key) left right) (later : EntriesSame others rest) :
      EntriesSame ((key, left) :: others) ((key, right) :: rest)

inductive ItemsSame : List Json → List Json → Prop
  | nil : ItemsSame [] []
  | cons {left right : Json} {others rest : List Json}
      (first : SameButSecrets none left right) (later : ItemsSame others rest) :
      ItemsSame (left :: others) (right :: rest)

end

theorem redactValue_secret {key : String} (isSecret : isSecretKey key = true) {value : Json}
    (set : isSet value = true) : redactValue (some key) value = .str "***" := by
  cases value <;> simp_all [redactValue, isSet, Json.truthy]

mutual

theorem redactValue_same {key : Option String} {left right : Json} (same : SameButSecrets key left right) :
    redactValue key left = redactValue key right := by
  cases same with
  | same => rfl
  | secret isSecret leftSet rightSet =>
      rw [redactValue_secret isSecret leftSet, redactValue_secret isSecret rightSet]
  | dict entries => rw [redactValue, redactValue, redactEntries_same entries]
  | list items => rw [redactValue, redactValue, redactItems_same items]

theorem redactEntries_same {left right : List (String × Json)} (same : EntriesSame left right) :
    redactEntries left = redactEntries right := by
  cases same with
  | nil => rfl
  | cons first later =>
      rw [redactEntries, redactEntries, redactEntry, redactEntry, redactValue_same first,
        redactEntries_same later]

theorem redactItems_same {left right : List Json} (same : ItemsSame left right) :
    redactItems left = redactItems right := by
  cases same with
  | nil => rfl
  | cons first later =>
      rw [redactItems, redactItems, redactValue_same first, redactItems_same later]

end

/-! Key material. -/

/-- The fields of a profile that `save_profile` treats as write-only. -/
def writeOnlyFields : List String :=
  ["password", "cert_pass", "camouflage_secret", "cert_file_base64", "key_file_base64"]

def isBase64Char (c : Char) : Bool := isAlnum c || c == '+' || c == '/' || c == '='

/-- What `validate_base64` leaves in the two fields. -/
def ProfileValid (profile : List (String × Json)) : Prop :=
  ∀ field ∈ profile, field.1 ∈ alwaysMaskProfileFields →
    field.2 = .null ∨ ∃ text, field.2 = .str text ∧ text.toList.all isBase64Char = true

/-- A profile has no sections of its own. -/
def FieldSame (left right : String × Json) : Prop :=
  left.1 = right.1 ∧ (left.2 = right.2 ∨ (left.1 ∈ writeOnlyFields ∨ isSecretKey left.1 = true) ∧
    isSet left.2 = true ∧ isSet right.2 = true)

/-- The two configurations differ in values of write-only fields and of fields under secret keys. -/
structure DifferInSecrets (left right : ConfigDump) : Prop where
  before : EntriesSame left.before right.before
  upstream : EntriesSame left.upstream right.upstream
  profiles : List.Forall₂ (List.Forall₂ FieldSame) left.profiles right.profiles
  after : EntriesSame left.after right.after

def ShownAlike (left right : ConfigDump) : Prop :=
  left.modelDumpSafe = right.modelDumpSafe ∧
    left.profiles.map safeProfileDump = right.profiles.map safeProfileDump

def keyMaterial (profile : List (String × Json)) : List (String × Json) :=
  profile.filter fun field => field.1 ∈ alwaysMaskProfileFields

theorem maskReferencesFrom_plain {chars : List Char} (plain : '$' ∉ chars) :
    maskReferencesFrom 0 chars = chars := by
  induction chars with
  | nil => rfl
  | cons c rest ih =>
      rw [List.mem_cons, not_or] at plain
      have unmatched : referenceLength (c :: rest) = none := by
        have start : "$\x7bSECRET:".toList.isPrefixOf? (c :: rest) = none := by
          simp [List.isPrefixOf?, plain.1]
        simp only [referenceLength, start]
      simp only [maskReferencesFrom, unmatched, ih plain.2]

theorem maskReferences_base64 {text : String} (base64 : text.toList.all isBase64Char = true) :
    maskReferences text = text := by
  have plain : '$' ∉ text.toList := fun dollar =>
    absurd (List.all_eq_true.mp base64 _ dollar) (by decide)
  rw [maskReferences, maskReferencesFrom_plain plain, String.ofList_toList]

theorem alwaysMask_shown {key : String} (always : key ∈ alwaysMaskProfileFields) : isSecretKey key = false := by
  simp only [alwaysMaskProfileFields, List.mem_cons, List.not_mem_nil, or_false] at always
  rcases always with rfl | rfl <;> decide +kernel

theorem writeOnly_masked {key : String} (writeOnly : key ∈ writeOnlyFields) :
    key ∈ alwaysMaskProfileFields ∨ isSecretKey key = true := by
  simp only [writeOnlyFields, List.mem_cons, List.not_mem_nil, or_false] at writeOnly
  rcases writeOnly with rfl | rfl | rfl | rfl | rfl <;> decide +kernel

theorem redactValue_keyMaterial {profile : List (String × Json)} (valid : ProfileValid profile)
    {field : String × Json} (member : field ∈ profile) (always : field.1 ∈ alwaysMaskProfileFields) :
    redactValue (some field.1) field.2 = field.2 := by
  have shown := alwaysMask_shown always
  rcases valid field member always with empty | ⟨text, found, base64⟩
  · simp [empty, redactValue, shown]
  · simp [found, redactValue, shown, maskReferences_base64 base64]

theorem redactEntries_eq_map (entries : List (String × Json)) :
    redactEntries entries = entries.map redactEntry := by
  induction entries with
  | nil => rfl
  | cons entry rest ih => rw [redactEntries, ih, List.map_cons]

theorem redactItems_eq_map (items : List Json) : redactItems items = items.map (redactValue none) := by
  induction items with
  | nil => rfl
  | cons item rest ih => rw [redactItems, ih, List.map_cons]

theorem redactEntry_iff {left right : String × Json} (same : FieldSame left right)
    (leftShown : left.1 ∈ alwaysMaskProfileFields → redactValue (some left.1) left.2 = left.2)
    (rightShown : right.1 ∈ alwaysMaskProfileFields → redactValue (some right.1) right.2 = right.2) :
    redactEntry left = redactEntry right ↔ (left.1 ∈ alwaysMaskProfileFields → left = right) := by
  obtain ⟨key, value⟩ := left
  obtain ⟨other, changed⟩ := right
  obtain ⟨rfl, same⟩ : key = other ∧ _ := same
  by_cases always : key ∈ alwaysMaskProfileFields
  · simp [redactEntry, leftShown always, rightShown always, always]
  · have hidden : redactValue (some key) value = redactValue (some key) changed := by
      rcases same with equal | ⟨masked, leftSet, rightSet⟩
      · rw [show value = changed from equal]
      · have isSecret : isSecretKey key = true := by
          rcases masked with writeOnly | isSecret
          · exact (writeOnly_masked writeOnly).resolve_left always
          · exact isSecret
        rw [redactValue_secret isSecret leftSet, redactValue_secret isSecret rightSet]
    simp [redactEntry, hidden, always]

/-- Two profiles are shown alike by `model_dump_safe` exactly when they have the same key material. -/
theorem redactProfile_iff {left right : List (String × Json)} (same : List.Forall₂ FieldSame left right)
    (leftValid : ProfileValid left) (rightValid : ProfileValid right) :
    redactEntries left = redactEntries right ↔ keyMaterial left = keyMaterial right := by
  induction same with
  | nil => simp
  | @cons field other rest others first _ ih =>
      have later := ih (fun field member => leftValid field (List.mem_cons_of_mem _ member))
        (fun field member => rightValid field (List.mem_cons_of_mem _ member))
      have head := redactEntry_iff first (redactValue_keyMaterial leftValid List.mem_cons_self)
        (redactValue_keyMaterial rightValid List.mem_cons_self)
      rw [redactEntries, redactEntries, List.cons.injEq, head, later]
      by_cases always : field.1 ∈ alwaysMaskProfileFields
      · have otherAlways : other.1 ∈ alwaysMaskProfileFields := first.1 ▸ always
        simp [keyMaterial, always, otherAlways]
      · have otherShown : other.1 ∉ alwaysMaskProfileFields := first.1 ▸ always
        simp [keyMaterial, always, otherShown]

theorem isUnset_set {value : Json} (set : isSet value = true) : isUnset value = false := by
  cases value <;> simp_all [isSet, isUnset]

theorem safeProfileDump_same {left right : List (String × Json)}
    (same : List.Forall₂ FieldSame left right) : safeProfileDump left = safeProfileDump right := by
  induction same with
  | nil => rfl
  | @cons field other rest others first _ ih =>
      rw [safeProfileDump, safeProfileDump, List.map_cons, List.map_cons]
      refine congrArg₂ List.cons ?_ ih
      obtain ⟨key, value⟩ := field
      obtain ⟨_, changed⟩ := other
      obtain ⟨rfl, rfl | ⟨masked, leftSet, rightSet⟩⟩ := first
      · rfl
      · have always : key ∈ alwaysMaskProfileFields ∨ isSecretKey key = true := by
          rcases masked with writeOnly | isSecret
          · exact writeOnly_masked writeOnly
          · exact Or.inr isSecret
        simp [isUnset_set leftSet, isUnset_set rightSet, always]

theorem safeProfileDumps_same {left right : List (List (String × Json))}
    (same : List.Forall₂ (List.Forall₂ FieldSame) left right) :
    left.map safeProfileDump = right.map safeProfileDump := by
  induction same with
  | nil => rfl
  | cons first _ ih => rw [List.map_cons, List.map_cons, safeProfileDump_same first, ih]

theorem modelDumpSafe_eq (config : ConfigDump) :
    config.modelDumpSafe = redactEntries config.before ++
      ("upstream", .dict (redactEntries config.upstream ++
        [("profiles", .list ((config.profiles.map redactEntries).map .dict))])) ::
          redactEntries config.after := by
  simp [ConfigDump.modelDumpSafe, ConfigDump.modelDump, redactEntries_eq_map, redactItems_eq_map,
    redactEntry, redactValue, Function.comp_def]

theorem profiles_iff {left right : List (List (String × Json))}
    (same : List.Forall₂ (List.Forall₂ FieldSame) left right)
    (leftValid : ∀ profile ∈ left, ProfileValid profile)
    (rightValid : ∀ profile ∈ right, ProfileValid profile) :
    left.map redactEntries = right.map redactEntries ↔ left.map keyMaterial = right.map keyMaterial := by
  induction same with
  | nil => simp
  | cons first _ ih =>
      rw [List.forall_mem_cons] at leftValid rightValid
      simp only [List.map_cons, List.cons.injEq]
      rw [redactProfile_iff first leftValid.1 rightValid.1, ih leftValid.2 rightValid.2]

theorem modelDumpSafe_iff {left right : ConfigDump}
    (leftValid : ∀ profile ∈ left.profiles, ProfileValid profile)
    (rightValid : ∀ profile ∈ right.profiles, ProfileValid profile) (differ : DifferInSecrets left right) :
    left.modelDumpSafe = right.modelDumpSafe ↔
      left.profiles.map keyMaterial = right.profiles.map keyMaterial := by
  rw [modelDumpSafe_eq, modelDumpSafe_eq, redactEntries_same differ.before,
    redactEntries_same differ.upstream, redactEntries_same differ.after,
    ← profiles_iff differ.profiles leftValid rightValid]
  have dict_injective : Function.Injective Json.dict := fun _ _ equal => Json.dict.inj equal
  simp [-List.map_map, List.map_inj_right dict_injective]

/-- What is shown does not depend on the secrets exactly when the profiles have the same key material. -/
theorem shownAlike_iff {left right : ConfigDump}
    (leftValid : ∀ profile ∈ left.profiles, ProfileValid profile)
    (rightValid : ∀ profile ∈ right.profiles, ProfileValid profile) (differ : DifferInSecrets left right) :
    ShownAlike left right ↔ left.profiles.map keyMaterial = right.profiles.map keyMaterial := by
  rw [ShownAlike, and_iff_left (safeProfileDumps_same differ.profiles),
    modelDumpSafe_iff leftValid rightValid differ]

def certificateProfile (certificate : String) : List (String × Json) :=
  [("name", .str "branch"), ("auth_type", .str "cert"), ("cert_file_base64", .str certificate),
    ("cert_pass", .str certificate)]

def certificateConfig (certificate : String) : ConfigDump where
  before := [("auth", .dict [("password", .dict [("enabled", .bool true)])])]
  upstream := [("enabled", .bool true)]
  profiles := [certificateProfile certificate]
  after := [("web", .dict [("admin_password", .str certificate)])]

theorem certificateProfile_valid {certificate : String}
    (base64 : certificate.toList.all isBase64Char = true) :
    ∀ profile ∈ (certificateConfig certificate).profiles, ProfileValid profile := by
  rintro profile member field found always
  obtain rfl := List.mem_singleton.mp member
  simp only [certificateProfile, List.mem_cons, List.not_mem_nil, or_false] at found
  rcases found with rfl | rfl | rfl | rfl
  · simp [alwaysMaskProfileFields] at always
  · simp [alwaysMaskProfileFields] at always
  · exact Or.inr ⟨certificate, rfl, base64⟩
  · simp [alwaysMaskProfileFields] at always

theorem certificates_differ {certificate other : String} (set : isSet (.str certificate) = true)
    (otherSet : isSet (.str other) = true) :
    DifferInSecrets (certificateConfig certificate) (certificateConfig other) where
  before := .cons (.same _ _) .nil
  upstream := .cons (.same _ _) .nil
  profiles := by
    have pasted : "cert_file_base64" ∈ writeOnlyFields := by decide
    have password : "cert_pass" ∈ writeOnlyFields := by decide
    refine .cons (.cons ⟨rfl, Or.inl rfl⟩ (.cons ⟨rfl, Or.inl rfl⟩ (.cons ?_ (.cons ?_ .nil)))) .nil
    · exact ⟨rfl, Or.inr ⟨Or.inl pasted, set, otherSet⟩⟩
    · exact ⟨rfl, Or.inr ⟨Or.inl password, set, otherSet⟩⟩
  after := by
    have adminKey : isSecretKey "admin_password" = true := by decide +kernel
    exact .cons (.dict (.cons (.secret adminKey set otherSet) .nil)) .nil

theorem shownAlike_iff_sample :
    ShownAlike (certificateConfig "TUlJQg==") (certificateConfig "TUlJQw==") ↔
      (certificateConfig "TUlJQg==").profiles.map keyMaterial =
        (certificateConfig "TUlJQw==").profiles.map keyMaterial :=
  shownAlike_iff (certificateProfile_valid (by decide)) (certificateProfile_valid (by decide))
    (certificates_differ (by decide) (by decide))

theorem pastedCertificate_shown :
    ¬∀ left right : ConfigDump, (∀ profile ∈ left.profiles, ProfileValid profile) →
      (∀ profile ∈ right.profiles, ProfileValid profile) → DifferInSecrets left right →
        ShownAlike left right := by
  intro independent
  have valid := @certificateProfile_valid "TUlJQg==" (by decide)
  have otherValid := @certificateProfile_valid "TUlJQw==" (by decide)
  have differ := @certificates_differ "TUlJQg==" "TUlJQw==" (by decide) (by decide)
  have same := (modelDumpSafe_iff valid otherValid differ).mp (independent _ _ valid otherValid differ).1
  simp [certificateConfig, certificateProfile, keyMaterial, alwaysMaskProfileFields] at same

end Korserver
