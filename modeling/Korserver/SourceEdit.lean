import Korserver.MaskedValues
import Korserver.Settings

/-!
What an edit of the masked config source does to the secrets of the entries in its lists.
-/

namespace Korserver

open PythonText PythonValue Effects

section

variable {Config : Type} {context : ConfigContext Config} {request : SettingsRequest}
  {state : ConfigState Config}

theorem saveValidated_ok {writeRendered : Bool} {outcome : Config × List String}
    (saved : (saveValidated context request writeRendered state).result = .ok outcome) :
    ∃ data, request.data context state.file = .ok data ∧
      (saveValidated context request writeRendered state).state =
        { file := .text (context.yamlDump data), config := outcome.1 } ∧
      (∃ config, context.validateYamlConfig data = .ok config) ∧
      context.loadConfig (.text (context.yamlDump data)) = .ok outcome.1 := by
  obtain ⟨data, found, saved⟩ := Program.bind_result_ok saved
  obtain ⟨config, valid, saved⟩ := Program.bind_result_ok saved
  obtain ⟨loaded, committed, saved⟩ := Program.bind_result_ok saved
  obtain ⟨written, rendered, saved⟩ := Program.bind_result_ok saved
  obtain rfl : (loaded, written) = outcome := Except.ok.inj saved
  obtain ⟨_, _, committing⟩ := Program.bind_result_ok committed
  obtain ⟨read, reads, placed⟩ := Program.bind_result_ok committing
  obtain ⟨_, _, returned⟩ := Program.bind_result_ok placed
  obtain rfl : read = loaded := Except.ok.inj returned
  refine ⟨data, found, ?_, ⟨config, valid⟩, reads⟩
  rw [saveValidated, Program.bind_state_ok found, Program.bind_state_ok valid, commitRendered_state, commit,
    Program.bind_state_ok rfl, Program.bind_state_ok reads, Program.bind_state_ok rfl]
  rfl

end

/-! The lists. -/

def namedLists : List (String × String) := [("upstream", "profiles"), ("identity", "oidc_providers")]

def standsAt (path : String × String) (data : List (String × Json)) (index : Nat) : Json :=
  ((listAt path data)[index]?).getD .null

/-- The entry is in the stored list, and what has its name in the submitted list is the item. -/
def EntrySurvives (path : String × String) (stored submitted : List (String × Json)) (index : Nat)
    (entry item : Json) : Prop :=
  entry ∈ listAt path stored ∧ (listAt path submitted)[index]? = some item ∧
    ∃ name, dictGet "name" (oldEntries entry) = some (.str name) ∧
      dictGet "name" (oldEntries item) = some (.str name)

def IsMasked (key : String) (item : Json) : Prop :=
  isSecretKey key = true ∧ ∃ text ∈ maskedTexts, dictGet key (oldEntries item) = some (.str text)

def IsAsShown (key : String) (entry item : Json) : Prop :=
  dictGet key (oldEntries item) = some (redactValue (some key) (valueAt key entry))

/-- Every surviving entry keeps its own values where the item was left as it was shown. -/
def KeepsOwnSecrets (stored submitted saved : List (String × Json)) : Prop :=
  ∀ path ∈ namedLists, ∀ index entry item, EntrySurvives path stored submitted index entry item →
    ∀ key, IsMasked key item ∨ IsAsShown key entry item →
      ∃ after, (listAt path saved)[index]? = some after ∧
        dictGet key (oldEntries after) = some (valueAt key entry)

/-- What stands in the stored list where the item stands in the submitted one has the values that
the masks of the item stand for. -/
def MasksMeetOwnValues (stored submitted : List (String × Json)) : Prop :=
  ∀ path ∈ namedLists, ∀ index entry item, EntrySurvives path stored submitted index entry item →
    ∀ key, (IsMasked key item → valueAt key (standsAt path stored index) = valueAt key entry) ∧
      (IsAsShown key entry item →
        Recovers (some key) (some key) (valueAt key (standsAt path stored index)) (valueAt key entry))

theorem oldEntries_dict (entries : List (String × Json)) : oldEntries (.dict entries) = entries := rfl

theorem dictGet_restoreEntries (old entries : List (String × Json)) (key : String) :
    dictGet key (restoreEntries old entries) =
      (dictGet key entries).map (restoreMaskedValues (some key) ((dictGet key old).getD .null)) := by
  induction entries with
  | nil => rfl
  | cons entry rest ih =>
      obtain ⟨first, value⟩ := entry
      rw [restoreEntries, restoreEntry, dictGet, dictGet]
      by_cases same : first = key
      · subst same
        rw [if_pos rfl, if_pos rfl, Option.map_some]
      · rw [if_neg same, if_neg same, ih]

theorem getElem?_restoreItems (key : Option String) (old items : List Json) (index : Nat) :
    (restoreItems key old items)[index]? =
      items[index]?.map (restoreMaskedValues key (old[index]?.getD .null)) := by
  induction items generalizing old index with
  | nil => rfl
  | cons item rest ih =>
      cases index with
      | zero => cases old <;> rfl
      | succ index =>
          rw [restoreItems, List.getElem?_cons_succ, List.getElem?_cons_succ, ih]
          cases old <;> rfl

theorem oldEntries_restore {key : String} (plain : isSecretKey key = false) (old value : Json) :
    oldEntries (restoreMaskedValues (some key) old value) =
      restoreEntries (oldEntries old) (oldEntries value) := by
  cases value with
  | dict entries => rw [restore_dict]; rfl
  | str text => cases old <;> simp [restore_str, plain, oldEntries, restoreEntries]
  | list items => rw [restore_list]; rfl
  | null => rfl
  | bool flag => rfl
  | int number => rfl
  | float text => rfl

theorem oldItems_restore {key : String} (plain : isSecretKey key = false) (old value : Json) :
    oldItems (restoreMaskedValues (some key) old value) =
      restoreItems (some key) (oldItems old) (oldItems value) := by
  cases value with
  | dict entries => rw [restore_dict]; rfl
  | str text => cases old <;> simp [restore_str, plain, oldItems, restoreItems]
  | list items => rw [restore_list]; rfl
  | null => rfl
  | bool flag => rfl
  | int number => rfl
  | float text => rfl

theorem value_restoreEntries (old entries : List (String × Json)) (key : String) :
    (dictGet key (restoreEntries old entries)).getD .null =
      restoreMaskedValues (some key) ((dictGet key old).getD .null) ((dictGet key entries).getD .null) := by
  rw [dictGet_restoreEntries]
  cases dictGet key entries <;> rfl

theorem listAt_restore {path : String × String} (plain : isSecretKey path.1 = false)
    (plainList : isSecretKey path.2 = false) (stored submitted : List (String × Json)) (index : Nat) :
    (listAt path (restoreEntries stored submitted))[index]? =
      (listAt path submitted)[index]?.map
        (restoreMaskedValues (some path.2) (standsAt path stored index)) := by
  simp only [listAt, standsAt, valueAt, oldEntries_dict, value_restoreEntries]
  rw [oldEntries_restore plain, value_restoreEntries, oldItems_restore plainList, getElem?_restoreItems]

theorem field_restored {path : String × String} (named : path ∈ namedLists)
    {stored submitted : List (String × Json)} {index : Nat} {entry item : Json}
    (survives : EntrySurvives path stored submitted index entry item) {key : String} {value : Json}
    (found : dictGet key (oldEntries item) = some value) :
    ∃ after, (listAt path (restoreEntries stored submitted))[index]? = some after ∧
      dictGet key (oldEntries after) = some (restoreMaskedValues (some key)
        (valueAt key (standsAt path stored index)) value) := by
  obtain ⟨plain, plainList⟩ : isSecretKey path.1 = false ∧ isSecretKey path.2 = false := by
    simp only [namedLists, List.mem_cons, List.not_mem_nil, or_false] at named
    rcases named with rfl | rfl <;> exact ⟨by decide +kernel, by decide +kernel⟩
  refine ⟨_, by rw [listAt_restore plain plainList, survives.2.1]; rfl, ?_⟩
  rw [oldEntries_restore plainList, dictGet_restoreEntries, found]
  rfl

theorem keepsOwnSecrets_iff (stored submitted : List (String × Json)) :
    KeepsOwnSecrets stored submitted (restoreEntries stored submitted) ↔
      MasksMeetOwnValues stored submitted := by
  have field {path : String × String} (named : path ∈ namedLists) {index : Nat} {entry item : Json}
      (survives : EntrySurvives path stored submitted index entry item) {key : String} {value : Json}
      (found : dictGet key (oldEntries item) = some value) :
      (∃ after, (listAt path (restoreEntries stored submitted))[index]? = some after ∧
        dictGet key (oldEntries after) = some (valueAt key entry)) ↔
      restoreMaskedValues (some key) (valueAt key (standsAt path stored index)) value =
        valueAt key entry := by
    obtain ⟨after, there, holds⟩ := field_restored named survives found
    rw [there]
    simp [holds]
  have masked {key : String} {item : Json} (mask : IsMasked key item) (old : Json) :
      ∃ value, dictGet key (oldEntries item) = some value ∧
        restoreMaskedValues (some key) old value = old := by
    obtain ⟨secret, text, isMask, found⟩ := mask
    exact ⟨_, found, by rw [restore_str, if_pos ⟨by simpa using secret, isMask⟩]⟩
  constructor
  · intro keeps path named index entry item survives key
    constructor
    · intro mask
      obtain ⟨value, found, restored⟩ := masked mask
        (valueAt key (standsAt path stored index))
      have kept := (field named survives found).mp (keeps path named index entry item survives key (Or.inl mask))
      exact restored.symm.trans kept
    · intro shown
      have kept := (field named survives shown).mp
        (keeps path named index entry item survives key (Or.inr shown))
      exact (restore_redact id _ _).mp kept
  · intro meets path named index entry item survives key left
    obtain ⟨meetsMask, meetsShown⟩ := meets path named index entry item survives key
    rcases left with mask | shown
    · obtain ⟨value, found, restored⟩ := masked mask
        (valueAt key (standsAt path stored index))
      exact (field named survives found).mpr (restored.trans (meetsMask mask))
    · exact (field named survives shown).mpr ((restore_redact id _ _).mpr (meetsShown shown))

/-- After a source was saved, each entry of the two lists has its own secrets exactly when the masks
of the submitted source meet them at their places. -/
theorem sourceEdit_iff {Config : Type} (context : ConfigContext Config) (state : ConfigState Config)
    (content : String) (writeRendered : Bool) {stored submitted : List (String × Json)}
    {outcome : Config × List String} (loaded : context.loadExistingMapping state.file = .ok stored)
    (parsed : context.parseYamlMapping content = .ok submitted)
    (readsBack : (SettingsRequest.source content writeRendered).ReadsBack context state.file)
    (saved : (saveConfigSource context content writeRendered state).result = .ok outcome) :
    ∃ data, context.loadExistingMapping (saveConfigSource context content writeRendered state).state.file =
        .ok data ∧
      (KeepsOwnSecrets stored submitted data ↔ MasksMeetOwnValues stored submitted) := by
  obtain ⟨data, found, after, _, _⟩ := saveValidated_ok saved
  have restored : data = restoreEntries stored submitted := by
    simp only [SettingsRequest.data, parsed, loaded, bind, Except.bind, pure, Except.pure] at found
    exact (Except.ok.inj found).symm
  refine ⟨data, ?_, restored ▸ keepsOwnSecrets_iff stored submitted⟩
  rw [saveConfigSource, after]
  exact loadExistingMapping_written (readsBack data found)

/-! Two profiles that change places. -/

def listedProfile (name password : String) : Json :=
  .dict [("name", .str name), ("server", .str "vpn.example.net"), ("username", .str "korserver"),
    ("password", .str password)]

def listedSource (profiles : List Json) : List (String × Json) :=
  [("upstream", .dict [("profiles", .list profiles)])]

def listedText (name password : String) : String :=
  "  - name: " ++ name ++ "\n    server: vpn.example.net\n    username: korserver\n    password: " ++
    password ++ "\n"

def sourceText (profiles : String) : String := "upstream:\n  profiles:\n" ++ profiles

def keptSource : List (String × Json) :=
  listedSource [listedProfile "first" "alpha", listedProfile "second" "beta"]

def swappedSource : List (String × Json) :=
  listedSource [listedProfile "second" "***", listedProfile "first" "***"]

def mixedSource : List (String × Json) :=
  listedSource [listedProfile "second" "alpha", listedProfile "first" "beta"]

def keptText : String := sourceText (listedText "first" "alpha" ++ listedText "second" "beta")

def swappedText : String := sourceText (listedText "second" "'***'" ++ listedText "first" "'***'")

def mixedText : String := sourceText (listedText "second" "alpha" ++ listedText "first" "beta")

def swapContext : ConfigContext (List (String × Json)) where
  path := "/etc/korserver/config.yaml"
  yamlLoad text := .ok (.dict (if text = keptText then keptSource
    else if text = swappedText then swappedSource else mixedSource))
  yamlDump _ := mixedText
  jsonLoads _ := .undecodable
  environment := []
  modelValidate := .ok
  writeRendered _ := .ok []

def swapState : ConfigState (List (String × Json)) := { file := .text keptText, config := defaultConfig }

theorem swap_read {text : String} {entries : List (String × Json)}
    (read : (if text = keptText then keptSource else if text = swappedText then swappedSource
      else mixedSource) = entries) : swapContext.parseYamlMapping text = .ok entries := by
  simp only [ConfigContext.parseYamlMapping, swapContext, read]
  rfl

theorem keptText_read : swapContext.parseYamlMapping keptText = .ok keptSource :=
  swap_read (if_pos rfl)

theorem swappedText_read : swapContext.parseYamlMapping swappedText = .ok swappedSource := by
  have changed : swappedText ≠ keptText := by decide +kernel
  exact swap_read ((if_neg changed).trans (if_pos rfl))

theorem mixedText_read : swapContext.parseYamlMapping mixedText = .ok mixedSource := by
  have other : mixedText ≠ keptText := by decide +kernel
  have restored : mixedText ≠ swappedText := by decide +kernel
  exact swap_read ((if_neg other).trans (if_neg restored))

theorem swap_restored : restoreEntries keptSource swappedSource = mixedSource := by
  rfl

theorem swap_data :
    (SettingsRequest.source swappedText false).data swapContext swapState.file = .ok mixedSource := by
  change (swapContext.parseYamlMapping swappedText >>= fun submitted =>
    swapContext.parseYamlMapping keptText >>= fun old => pure (restoreEntries old submitted)) = _
  rw [keptText_read, swappedText_read]
  exact congrArg Except.ok swap_restored

theorem swap_readsBack :
    (SettingsRequest.source swappedText false).ReadsBack swapContext swapState.file := by
  intro data found
  obtain rfl : mixedSource = data := Except.ok.inj (swap_data.symm.trans found)
  have other : mixedText ≠ keptText := by decide +kernel
  have restored : mixedText ≠ swappedText := by decide +kernel
  change Except.ok (Json.dict (if mixedText = keptText then keptSource
    else if mixedText = swappedText then swappedSource else mixedSource)) = _
  rw [if_neg other, if_neg restored]

theorem swap_valid : ∃ config, swapContext.validateYamlConfig mixedSource = .ok config :=
  ⟨_, rfl⟩

theorem swap_saved : ∃ outcome,
    (saveConfigSource swapContext swappedText false swapState).result = .ok outcome := by
  obtain ⟨config, valid⟩ := swap_valid
  have saved := @saveValidated_valid _ swapContext (.source swappedText false) swapState false _ config []
    swap_data (swap_readsBack _ swap_data) valid fun _ => rfl
  exact ⟨_, congrArg Outcome.result saved⟩

theorem sourceEdit_iff_sample : ∃ data,
    swapContext.loadExistingMapping (saveConfigSource swapContext swappedText false swapState).state.file =
        .ok data ∧
      (KeepsOwnSecrets keptSource swappedSource data ↔ MasksMeetOwnValues keptSource swappedSource) := by
  obtain ⟨outcome, saved⟩ := swap_saved
  exact sourceEdit_iff swapContext swapState swappedText false keptText_read swappedText_read swap_readsBack
    saved

/-- The profiles get each other's passwords. -/
theorem swappedProfiles_mixed :
    (∃ outcome, (saveConfigSource swapContext swappedText false swapState).result = .ok outcome) ∧
      ∃ data, swapContext.loadExistingMapping
          (saveConfigSource swapContext swappedText false swapState).state.file = .ok data ∧
        ¬KeepsOwnSecrets keptSource swappedSource data := by
  have saved := @saveValidated_valid _ swapContext (.source swappedText false) swapState false _ _ []
    swap_data (swap_readsBack _ swap_data) swap_valid.choose_spec fun _ => rfl
  refine ⟨swap_saved, mixedSource, ?_, fun keeps => ?_⟩
  · rw [saveConfigSource, saved]
    exact mixedText_read
  · have survives : EntrySurvives ("upstream", "profiles") keptSource swappedSource 1
        (listedProfile "first" "alpha") (listedProfile "first" "***") :=
      ⟨List.mem_cons_self, rfl, "first", rfl, rfl⟩
    have masked : IsMasked "password" (listedProfile "first" "***") :=
      ⟨by decide +kernel, "***", List.mem_cons_self, rfl⟩
    obtain ⟨after, there, holds⟩ := keeps _ List.mem_cons_self _ _ _ survives "password" (Or.inl masked)
    obtain rfl : listedProfile "first" "beta" = after := Option.some.inj there
    exact absurd holds (by simp [listedProfile, oldEntries, dictGet, valueAt])

end Korserver
