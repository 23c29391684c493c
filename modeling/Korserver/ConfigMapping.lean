import Korserver.UpstreamPatch

/-!
What of a mapping, the defaults and the environment is in the mapping that is validated.
-/

namespace Korserver

open PythonText PythonValue

theorem resolveEntries_cons (secrets : List (String × String)) {key : String} {value : Json}
    {rest resolved : List (String × Json)} :
    resolveEntries secrets ((key, value) :: rest) = .ok resolved ↔
      ∃ first others, resolveSecretRefs secrets value = .ok first ∧
        resolveEntries secrets rest = .ok others ∧ resolved = (key, first) :: others := by
  rw [resolveEntries, resolveEntry]
  simp only [bind_ok, pure_ok]
  constructor
  · rintro ⟨_, ⟨first, resolves, rfl⟩, others, later, rfl⟩
    exact ⟨first, others, resolves, later, rfl⟩
  · rintro ⟨first, others, resolves, later, rfl⟩
    exact ⟨_, ⟨first, resolves, rfl⟩, others, later, rfl⟩

theorem dictGet_resolveEntries {secrets : List (String × String)} {entries resolved : List (String × Json)}
    (resolves : resolveEntries secrets entries = .ok resolved) (key : String) :
    match dictGet key entries with
    | some value => ∃ after, resolveSecretRefs secrets value = .ok after ∧ dictGet key resolved = some after
    | none => dictGet key resolved = none := by
  induction entries generalizing resolved with
  | nil =>
      obtain rfl := Except.ok.inj resolves
      rfl
  | cons entry rest ih =>
      obtain ⟨first, value⟩ := entry
      obtain ⟨after, others, valueResolves, later, rfl⟩ := (resolveEntries_cons secrets).mp resolves
      rw [dictGet, dictGet]
      by_cases same : first = key
      · rw [if_pos same, if_pos same]
        exact ⟨after, valueResolves, rfl⟩
      · rw [if_neg same, if_neg same]
        exact ih later

theorem resolveSecretRefs_cases {secrets : List (String × String)} {value resolved : Json}
    (resolves : resolveSecretRefs secrets value = .ok resolved) :
    (∃ entries after, value = .dict entries ∧ resolved = .dict after ∧ resolveEntries secrets entries = .ok after) ∨
      (∃ items after, value = .list items ∧ resolved = .list after ∧ resolveItems secrets items = .ok after) ∨
      oldEntries value = [] ∧ oldItems value = [] ∧ oldItems resolved = [] ∧ ∀ entries, resolved ≠ .dict entries := by
  cases value with
  | dict entries =>
      rw [resolveSecretRefs] at resolves
      obtain ⟨after, entriesResolve, same⟩ := bind_ok.mp resolves
      exact Or.inl ⟨entries, after, rfl, (pure_ok.mp same).symm, entriesResolve⟩
  | list items =>
      rw [resolveSecretRefs] at resolves
      obtain ⟨after, itemsResolve, same⟩ := bind_ok.mp resolves
      exact Or.inr (Or.inl ⟨items, after, rfl, (pure_ok.mp same).symm, itemsResolve⟩)
  | str text =>
      rw [resolveSecretRefs] at resolves
      obtain ⟨after, -, same⟩ := bind_ok.mp resolves
      obtain rfl := pure_ok.mp same
      exact Or.inr (Or.inr ⟨rfl, rfl, rfl, by simp⟩)
  | null => exact Or.inr (Or.inr (Except.ok.inj resolves ▸ ⟨rfl, rfl, rfl, by simp⟩))
  | bool flag => exact Or.inr (Or.inr (Except.ok.inj resolves ▸ ⟨rfl, rfl, rfl, by simp⟩))
  | int number => exact Or.inr (Or.inr (Except.ok.inj resolves ▸ ⟨rfl, rfl, rfl, by simp⟩))
  | float text => exact Or.inr (Or.inr (Except.ok.inj resolves ▸ ⟨rfl, rfl, rfl, by simp⟩))

theorem valueAt_resolve {secrets : List (String × String)} {value resolved : Json}
    (resolves : resolveSecretRefs secrets value = .ok resolved) (key : String) :
    match dictGet key (oldEntries value) with
    | some value => ∃ after, resolveSecretRefs secrets value = .ok after ∧
        dictGet key (oldEntries resolved) = some after
    | none => dictGet key (oldEntries resolved) = none := by
  rcases resolveSecretRefs_cases resolves with
    ⟨entries, after, rfl, rfl, entriesResolve⟩ | ⟨items, after, rfl, rfl, -⟩ | ⟨none, -, -, plain⟩
  · exact dictGet_resolveEntries entriesResolve key
  · rfl
  · rw [none]
    cases resolved with
    | dict entries => exact absurd rfl (plain entries)
    | _ => rfl

/-! The upstream section. -/

def upstreamDefault (key : String) : Json := valueAt key (valueAt "upstream" (.dict defaultConfig))

def upstreamValue (key : String) (data : List (String × Json)) : Json :=
  (dictGet key (upstreamOf data)).getD (upstreamDefault key)

def isDict : Json → Bool
  | .dict _ => true
  | _ => false

def mergedConfig (overrides data : List (String × Json)) : List (String × Json) :=
  deepMerge (deepMerge defaultConfig data) overrides

def overriddenField (default : Json) (key : String) (given : Json) : Json → Json
  | .dict entries => (dictGet key entries).elim given (mergeValue (some given))
  | _ => default

/-- What the environment makes of the value that the file gives for a field of the section. -/
def effectiveValue (overrides : List (String × Json)) (key : String) (given : Option Json) : Json :=
  (dictGet "upstream" overrides).elim (given.getD (upstreamDefault key))
    (overriddenField (upstreamDefault key) key (given.getD (upstreamDefault key)))

theorem mergeValue_plain {found : Option Json} (plain : isDict (found.getD .null) = false) (value : Json) :
    mergeValue found value = value := by
  cases value with
  | dict entries =>
      cases found with
      | none => rfl
      | some old => cases old <;> first | rfl | nomatch plain
  | _ => rfl

theorem IsMapping.keys {data : List (String × Json)} (mapping : IsMapping data) :
    (data.map Prod.fst).Nodup := mapping.1

theorem IsMapping.upstream {data : List (String × Json)} (mapping : IsMapping data) {entries : List (String × Json)}
    (found : dictGet "upstream" data = some (.dict entries)) : (entries.map Prod.fst).Nodup :=
  (distinctEntries_mem mapping.2 (mem_of_dictGet found)).1

def fieldOr (default : Json) (key : String) (found : Option Json) : Json :=
  (dictGet key (oldEntries (found.getD .null))).getD default

theorem fieldOr_merge {default : Json} (plain : isDict default = false) (key : String) (found : Option Json)
    {value : Json} (distinct : ∀ entries, value = .dict entries → (entries.map Prod.fst).Nodup) :
    fieldOr default key (some (mergeValue found value)) =
      overriddenField default key (fieldOr default key found) value := by
  cases value with
  | dict entries =>
      rw [fieldOr, Option.getD_some, dictGet_mergeValue (distinct entries rfl), overriddenField]
      cases dictGet key entries with
      | none => rfl
      | some value =>
          rw [Option.elim_some, Option.getD_some, Option.elim_some, fieldOr]
          cases dictGet key (oldEntries (found.getD .null)) with
          | none =>
              exact (@mergeValue_plain none rfl value).trans (@mergeValue_plain (some default) plain value).symm
          | some old => rfl
  | _ => rfl

theorem upstreamValue_default (key : String) : upstreamValue key defaultConfig = upstreamDefault key := by
  change (dictGet key (upstreamOf defaultConfig)).getD ((dictGet key (upstreamOf defaultConfig)).getD .null) =
    (dictGet key (upstreamOf defaultConfig)).getD .null
  cases dictGet key (upstreamOf defaultConfig) <;> rfl

theorem upstreamValue_file {data : List (String × Json)} (mapping : IsMapping data) {key : String}
    (plain : isDict (upstreamDefault key) = false) :
    upstreamValue key (deepMerge defaultConfig data) =
      (dictGet key (upstreamOf data)).getD (upstreamDefault key) := by
  change fieldOr (upstreamDefault key) key (dictGet "upstream" (deepMerge defaultConfig data)) =
    fieldOr (upstreamDefault key) key (dictGet "upstream" data)
  rw [dictGet_deepMerge mapping.keys]
  have start : fieldOr (upstreamDefault key) key (dictGet "upstream" defaultConfig) = upstreamDefault key :=
    upstreamValue_default key
  cases found : dictGet "upstream" data with
  | none => exact start
  | some value =>
      rw [Option.elim_some, fieldOr_merge plain key _ fun entries dict => mapping.upstream (dict ▸ found), start]
      cases value with
      | dict entries =>
          change (dictGet key entries).elim _ _ = (dictGet key entries).getD _
          cases dictGet key entries with
          | none => rfl
          | some value => exact @mergeValue_plain (some (upstreamDefault key)) plain value
      | _ => rfl

theorem upstreamValue_merged {overrides data : List (String × Json)} (overriding : IsMapping overrides)
    (mapping : IsMapping data) {key : String} (plain : isDict (upstreamDefault key) = false) :
    upstreamValue key (mergedConfig overrides data) =
      effectiveValue overrides key (dictGet key (upstreamOf data)) := by
  have file := upstreamValue_file mapping plain
  change fieldOr (upstreamDefault key) key (dictGet "upstream" (deepMerge defaultConfig data)) = _ at file
  change fieldOr (upstreamDefault key) key (dictGet "upstream" (mergedConfig overrides data)) = _
  rw [mergedConfig, dictGet_deepMerge overriding.keys, effectiveValue]
  cases found : dictGet "upstream" overrides with
  | none => exact file
  | some value =>
      rw [Option.elim_some, fieldOr_merge plain key _ fun entries dict => overriding.upstream (dict ▸ found), file]
      rfl

theorem upstreamValue_resolved {secrets : List (String × String)} {merged resolved : List (String × Json)}
    (resolves : resolveEntries secrets merged = .ok resolved) {key : String}
    (plain : resolveSecretRefs secrets (upstreamDefault key) = .ok (upstreamDefault key)) :
    resolveSecretRefs secrets (upstreamValue key merged) = .ok (upstreamValue key resolved) := by
  have sections := dictGet_resolveEntries resolves "upstream"
  rw [upstreamValue, upstreamValue, upstreamOf, upstreamOf, valueAt, valueAt, oldEntries, oldEntries]
  cases found : dictGet "upstream" merged with
  | none =>
      rw [found] at sections
      rw [sections]
      exact plain
  | some value =>
      rw [found] at sections
      obtain ⟨after, valueResolves, foundAfter⟩ := sections
      rw [foundAfter, Option.getD_some, Option.getD_some]
      have fields := valueAt_resolve valueResolves key
      cases given : dictGet key (oldEntries value) with
      | none =>
          rw [given] at fields
          rw [fields]
          exact plain
      | some value =>
          rw [given] at fields
          obtain ⟨after, resolves, foundAfter⟩ := fields
          rw [foundAfter]
          exact resolves

theorem IsMapping.dictSet {entries : List (String × Json)} (mapping : IsMapping entries) (key : String)
    {value : Json} (distinct : DistinctKeys value) : IsMapping (dictSet key value entries) := by
  refine ⟨distinct_dictSet mapping.1, ?_⟩
  · have entriesDistinct := mapping.2
    clear mapping
    induction entries with
    | nil => exact ⟨distinct, trivial⟩
    | cons entry rest ih =>
        rw [PythonValue.dictSet]
        split
        · exact ⟨distinct, entriesDistinct.2⟩
        · exact ⟨entriesDistinct.1, ih entriesDistinct.2⟩

mutual

theorem distinctKeys_mergeValue {old : Option Json} (oldDistinct : ∀ value ∈ old, DistinctKeys value)
    (value : Json) (distinct : DistinctKeys value) : DistinctKeys (mergeValue old value) := by
  cases value with
  | dict override =>
      rcases old with _ | (_ | _ | _ | _ | _ | _ | base)
      all_goals first | exact distinct | exact mapping_deepMerge (oldDistinct _ rfl) override distinct.2
  | _ => exact distinct

theorem mapping_deepMerge {base : List (String × Json)} (mapping : IsMapping base)
    (changes : List (String × Json)) (distinct : DistinctEntries changes) :
    IsMapping (deepMerge base changes) := by
  cases changes with
  | nil => exact mapping
  | cons change rest => exact mapping_deepMerge (mapping_mergeEntry mapping change distinct.1) rest distinct.2

theorem mapping_mergeEntry {base : List (String × Json)} (mapping : IsMapping base)
    (change : String × Json) (distinct : DistinctEntry change) : IsMapping (mergeEntry base change) := by
  obtain ⟨key, value⟩ := change
  refine mapping.dictSet key (distinctKeys_mergeValue (fun old found => ?_) value distinct)
  exact distinctEntries_mem mapping.2 (mem_of_dictGet found)

end

theorem mapping_setOverride {key : String} {value : Json} (distinct : DistinctKeys value) {path : List String}
    {current after : List (String × Json)} (mapping : IsMapping current)
    (set : setOverride key value path current = .ok after) : IsMapping after := by
  fun_induction setOverride key value path current generalizing after with
  | case1 current => exact Except.ok.inj set ▸ mapping
  | case2 segment current => exact Except.ok.inj set ▸ mapping.dictSet segment distinct
  | case3 segment rest current _ child found ih =>
      obtain ⟨inner, walked, same⟩ := bind_ok.mp set
      obtain rfl := pure_ok.mp same
      have childMapping : IsMapping child := distinctEntries_mem mapping.2 (mem_of_dictGet found)
      exact mapping.dictSet segment (ih childMapping walked)
  | case4 segment rest current _ other found => nomatch set
  | case5 segment rest current _ absent ih =>
      obtain ⟨inner, walked, same⟩ := bind_ok.mp set
      obtain rfl := pure_ok.mp same
      exact mapping.dictSet segment (ih ⟨List.nodup_nil, trivial⟩ walked)

theorem distinct_parseEnvValue {jsonLoads : String → JsonLoaded}
    (decodes : ∀ text value, jsonLoads text = .value value → DistinctKeys value) {text : String} {value : Json}
    (read : parseEnvValue jsonLoads text = .ok value) : DistinctKeys value := by
  simp only [parseEnvValue] at read
  generalize strip text = stripped at read
  generalize lower stripped = lowered at read
  split at read
  · obtain rfl := Except.ok.inj read
    trivial
  · cases loaded : jsonLoads stripped with
    | value parsed =>
        rw [loaded] at read
        obtain rfl := Except.ok.inj read
        exact decodes _ _ loaded
    | raised error =>
        rw [loaded] at read
        cases read
    | undecodable =>
        rw [loaded] at read
        revert read
        repeat' split
        all_goals
          intro read
          cases read
        all_goals trivial

theorem distinct_overrideValue {jsonLoads : String → JsonLoaded}
    (decodes : ∀ text value, jsonLoads text = .value value → DistinctKeys value) {path : List String}
    {rawValue : String} {value : Json} (read : overrideValue jsonLoads path rawValue = .ok value) :
    DistinctKeys value := by
  rw [overrideValue] at read
  split at read
  · obtain rfl := Except.ok.inj read
    trivial
  · exact distinct_parseEnvValue decodes read

theorem setVariable_ok {jsonLoads : String → JsonLoaded} {key rawValue : String} {path : List String}
    {current after : List (String × Json)} (set : setVariable jsonLoads key rawValue path current = .ok after) :
    ∃ value, overrideValue jsonLoads path rawValue = .ok value ∧ setOverride key value path current = .ok after := by
  rw [setVariable] at set
  cases read : overrideValue jsonLoads path rawValue with
  | ok value =>
      rw [read] at set
      exact ⟨value, rfl, set⟩
  | error error =>
      rw [read] at set
      obtain ⟨_, -, raised⟩ := bind_ok.mp set
      cases raised

theorem mapping_envOverrides {jsonLoads : String → JsonLoaded}
    (decodes : ∀ text value, jsonLoads text = .value value → DistinctKeys value)
    {environment : List (String × String)} {overrides : List (String × Json)}
    (made : envOverrides jsonLoads environment = .ok overrides) : IsMapping overrides := by
  have run : ∀ variables_ start after, IsMapping start →
      envOverridesFrom jsonLoads variables_ start = .ok after → IsMapping after := by
    intro variables_
    induction variables_ with
    | nil => exact fun start after mapping ended => Except.ok.inj ended ▸ mapping
    | cons first rest ih =>
        obtain ⟨key, rawValue⟩ := first
        intro start after mapping ended
        rw [envOverridesFrom] at ended
        split at ended
        · obtain ⟨next, set, later⟩ := bind_ok.mp ended
          obtain ⟨value, read, set⟩ := setVariable_ok set
          exact ih next after (mapping_setOverride (distinct_overrideValue decodes read) mapping set) later
        · exact ih start after mapping ended
  exact run environment [] overrides ⟨List.nodup_nil, trivial⟩ made

end Korserver
