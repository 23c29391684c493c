import Korserver.DeepMerge
import Korserver.SettingsRaceCore

/-!
What `save_profile` takes over from the stored profile.
-/

namespace Korserver

open PythonValue

section

variable {existing : String → Json} {data : List (String × Json)} {payload : UpstreamProfileRequest}
  {key : String}

@[simp] theorem dictGet_preserveUnsetSecret (field : String) :
    dictGet key (preserveUnsetSecret existing field data) =
      if key = field ∧ dictGet field data = none ∧ (existing field).truthy = true then some (existing field)
      else dictGet key data := by
  rw [preserveUnsetSecret]
  by_cases same : key = field
  · subst same
    by_cases kept : dictGet key data = none ∧ (existing key).truthy = true
    · simp [kept, dictGet_dictSet_same]
    · simp [kept]
  · split <;> simp [same, dictGet_dictSet_other (Ne.symm same)]

@[simp] theorem dictGet_preserveUnsetFileField {pathField base64Field : String} (different : pathField ≠ base64Field) :
    dictGet key (preserveUnsetFileField existing pathField base64Field data) =
      if dictGet pathField data = none ∧ dictGet base64Field data = none ∧
          (key = pathField ∧ (existing key).truthy = true ∨ key = base64Field ∧
            (existing pathField).truthy = false ∧ (existing key).truthy = true) then some (existing key)
      else dictGet key data := by
  rw [preserveUnsetFileField]
  by_cases sent : dictGet pathField data = none ∧ dictGet base64Field data = none
  · by_cases path : (existing pathField).truthy = true
    · by_cases same : key = pathField
      · subst same
        simp [sent, path, dictGet_dictSet_same]
      · simp [sent, path, same, dictGet_dictSet_other (Ne.symm same)]
    · by_cases base64 : (existing base64Field).truthy = true
      · by_cases same : key = base64Field
        · subst same
          simp [sent, path, base64, dictGet_dictSet_same]
        · by_cases other : key = pathField
          · subst other
            simp [sent, path, base64, same, dictGet_dictSet_other (Ne.symm same)]
          · simp [sent, path, base64, same, other, dictGet_dictSet_other (Ne.symm same)]
      · by_cases same : key = base64Field
        · subst same
          simp [sent, path, base64, different.symm]
        · by_cases other : key = pathField
          · subst other
            simp [sent, path, base64, same]
          · simp [sent, path, base64, same, other]
  · have given : (dictGet pathField data).isSome = true ∨ (dictGet base64Field data).isSome = true := by
      rw [not_and_or] at sent
      simpa [Option.isSome_iff_ne_none] using sent
    rw [if_pos given, if_neg fun holds => sent ⟨holds.1, holds.2.1⟩]

@[simp] theorem dictGet_preserveUnsetField_other {field : String} (different : key ≠ field) :
    dictGet key (preserveUnsetField payload existing field data) = dictGet key data := by
  rw [preserveUnsetField]
  split
  · rfl
  · split
    · rfl
    · exact dictGet_dictSet_other different.symm

theorem dictGet_preserveUnsetField_same (unsent : key ∉ payload.fieldsSet) :
    dictGet key (preserveUnsetField payload existing key data) =
      match existing key with
      | .null => dictGet key data
      | value => some value := by
  rw [preserveUnsetField]
  cases existing key <;> simp [unsent, dictGet_dictSet_same]

/-- One of the two ways to give a certificate or a key is taken over, when neither was sent. -/
def UpstreamProfileRequest.PreservesFile (payload : UpstreamProfileRequest) (existing : String → Json)
    (pathField base64Field key : String) : Prop :=
  (dictGet pathField payload.fields = none ∧ dictGet base64Field payload.fields = none) ∧
    (key = pathField ∨ key = base64Field ∧ (existing pathField).truthy = false)

/-- The stored value of a field that was not sent is taken over. -/
def UpstreamProfileRequest.Preserves (payload : UpstreamProfileRequest) (existing : String → Json)
    (key : String) : Prop :=
  key ∈ ["password", "cert_pass", "camouflage_secret", "interface", "routing_offset"] ∨
    payload.PreservesFile existing "cert_file" "cert_file_base64" key ∨
      payload.PreservesFile existing "key_file" "key_file_base64" key

theorem profileData_name (existing : Option (String → Json)) :
    dictGet "name" (payload.profileData existing) = some (.str payload.name) := by
  cases existing with
  | none => rfl
  | some existing => simp [UpstreamProfileRequest.profileData, UpstreamProfileRequest.data, dictGet]

def TakenOver (payload : UpstreamProfileRequest) (existing : String → Json) (key : String)
    (data : List (String × Json)) : Prop :=
  dictGet key data = some (existing key) ∧ payload.Preserves existing key ∨
    dictGet key data = dictGet key payload.fields

theorem TakenOver.secret (taken : TakenOver payload existing key data) {field : String}
    (listed : field ∈ ["password", "cert_pass", "camouflage_secret", "interface", "routing_offset"]) :
    TakenOver payload existing key (preserveUnsetSecret existing field data) := by
  rw [TakenOver, dictGet_preserveUnsetSecret]
  split
  · rename_i holds
    obtain ⟨rfl, -⟩ := holds
    exact Or.inl ⟨rfl, Or.inl listed⟩
  · exact taken

theorem TakenOver.file (taken : TakenOver payload existing key data) {pathField base64Field : String}
    (different : pathField ≠ base64Field)
    (preserves : payload.PreservesFile existing pathField base64Field key → payload.Preserves existing key)
    (path : dictGet pathField data = dictGet pathField payload.fields)
    (base64 : dictGet base64Field data = dictGet base64Field payload.fields) :
    TakenOver payload existing key (preserveUnsetFileField existing pathField base64Field data) := by
  rw [TakenOver, dictGet_preserveUnsetFileField different, path, base64]
  split
  · rename_i holds
    obtain ⟨noPath, noBase64, ⟨same, -⟩ | ⟨same, empty, -⟩⟩ := holds
    · exact Or.inl ⟨rfl, preserves ⟨⟨noPath, noBase64⟩, Or.inl same⟩⟩
    · exact Or.inl ⟨rfl, preserves ⟨⟨noPath, noBase64⟩, Or.inr ⟨same, empty⟩⟩⟩
  · exact taken

theorem TakenOver.field (taken : TakenOver payload existing key data) {field : String}
    (listed : field ∈ ["password", "cert_pass", "camouflage_secret", "interface", "routing_offset"])
    (unsent : key ∉ payload.fieldsSet) :
    TakenOver payload existing key (preserveUnsetField payload existing field data) := by
  by_cases same : key = field
  · subst same
    rw [TakenOver, dictGet_preserveUnsetField_same unsent]
    split
    · exact taken
    · exact Or.inl ⟨rfl, Or.inl listed⟩
  · rw [TakenOver, dictGet_preserveUnsetField_other same]
    exact taken

end

end Korserver
