import Korserver.ConfigSourcesCore
import Korserver.SourceTrees

/-!
Which source a leaf of the configuration comes from. A variable of the process hides the variable of the
same name in the `.env` file, whatever the two hold; beyond that each path is decided on its own.
-/

namespace Korserver

open PythonText PythonValue

section Search

variable {α β : Type} {find : α → Option β} {items others : List α}

theorem findSome_of_same_members (agree : ∀ first ∈ items, ∀ second ∈ items, ∀ one ∈ find first,
    ∀ other ∈ find second, one = other) (same : ∀ item, item ∈ items ↔ item ∈ others) :
    items.findSome? find = others.findSome? find := by
  cases here : items.findSome? find with
  | none =>
      rw [List.findSome?_eq_none_iff] at here
      exact (List.findSome?_eq_none_iff.mpr fun item member => here item ((same item).mpr member)).symm
  | some value =>
      obtain ⟨item, member, found⟩ := List.exists_of_findSome?_eq_some here
      cases there : others.findSome? find with
      | none =>
          have nothing := List.findSome?_eq_none_iff.mp there item ((same item).mp member)
          exact absurd (found.symm.trans nothing) (by simp)
      | some other =>
          obtain ⟨second, secondMember, secondFound⟩ := List.exists_of_findSome?_eq_some there
          exact congrArg some (agree item member second ((same second).mpr secondMember) value found other secondFound)

end Search

section Combine

variable {values others : List (String × String)}

theorem dictGet_combine (distinct : (others.map Prod.fst).Nodup) (key : String) :
    dictGet key (combineVariables values others) = (dictGet key others).or (dictGet key values) := by
  induction others generalizing values with
  | nil => rfl
  | cons other rest ih =>
      obtain ⟨first, value⟩ := other
      rw [List.map_cons, List.nodup_cons] at distinct
      rw [combineVariables, List.foldl_cons, ← combineVariables, ih distinct.2, dictGet]
      by_cases same : first = key
      · subst same
        rw [if_pos rfl, dictGet_absent distinct.1, dictGet_dictSet_same]
        rfl
      · rw [if_neg same, dictGet_dictSet_other same]

theorem distinct_combine (distinct : (values.map Prod.fst).Nodup) (others : List (String × String)) :
    ((combineVariables values others).map Prod.fst).Nodup := by
  induction others generalizing values with
  | nil => exact distinct
  | cons other rest ih => exact ih (distinct_dictSet distinct)

end Combine

theorem mem_iff_dictGet {α : Type} {entries : List (String × α)} (distinct : (entries.map Prod.fst).Nodup)
    {key : String} {value : α} : (key, value) ∈ entries ↔ dictGet key entries = some value :=
  ⟨dictGet_of_mem distinct, mem_of_dictGet⟩

theorem distinct_dictOf {α : Type} (items : List (String × α)) : ((dictOf items).map Prod.fst).Nodup := by
  have run : ∀ rest start : List (String × α), (start.map Prod.fst).Nodup →
      ((rest.foldl (fun entries item => dictSet item.1 item.2 entries) start).map Prod.fst).Nodup := by
    intro rest
    induction rest with
    | nil => exact fun _ distinct => distinct
    | cons item rest ih => exact fun start distinct => ih _ (distinct_dictSet distinct)
  exact run items [] List.nodup_nil

theorem distinct_parseDotenvFile {file : TextFile} {variables_ : List (String × String)}
    (read : parseDotenvFile file = .ok variables_) : (variables_.map Prod.fst).Nodup := by
  cases file with
  | missing => exact Except.ok.inj read ▸ List.nodup_nil
  | unreadable => nomatch read
  | text content => exact Except.ok.inj read ▸ distinct_dictOf _

def visibleVariables (fileValues process : List (String × String)) : List (String × String) :=
  fileValues.filter fun variable_ => variable_.1 ∉ process.map Prod.fst

theorem mem_combine {fileValues process : List (String × String)} (distinct : (fileValues.map Prod.fst).Nodup)
    (processDistinct : (process.map Prod.fst).Nodup) (variable_ : String × String) :
    variable_ ∈ combineVariables fileValues process ↔ variable_ ∈ process ++ visibleVariables fileValues process := by
  obtain ⟨key, value⟩ := variable_
  rw [mem_iff_dictGet (distinct_combine distinct process), dictGet_combine processDistinct, List.mem_append,
    visibleVariables, List.mem_filter, mem_iff_dictGet processDistinct, mem_iff_dictGet distinct]
  cases found : dictGet key process with
  | none =>
      have absent : key ∉ process.map Prod.fst := by
        rintro member
        obtain ⟨⟨name, other⟩, there, rfl⟩ := List.mem_map.mp member
        exact absurd (found.symm.trans (dictGet_of_mem processDistinct there)) (by simp)
      simp [absent]
  | some other =>
      have present : key ∈ process.map Prod.fst := List.mem_map_of_mem (f := Prod.fst) (mem_of_dictGet found)
      simp [present]

/-! Variables as trees. -/

/-- The path and the value of a variable that overrides something, if its value can be read. -/
def overrideOf (jsonLoads : String → JsonLoaded) (variable_ : String × String) : Option (List String × Json) := do
  let path ← overridePath variable_.1
  let value ← (overrideValue jsonLoads path variable_.2).toOption
  return (path, value)

/-- Reading the value of a variable does not raise, or there is no need to read it. -/
def Readable (jsonLoads : String → JsonLoaded) (variable_ : String × String) : Prop :=
  ∀ path, overridePath variable_.1 = some path →
    ∃ value, overrideValue jsonLoads path variable_.2 = .ok value

def variableTree (jsonLoads : String → JsonLoaded) (variable_ : String × String) : Option (List (String × Json)) :=
  (overrideOf jsonLoads variable_).map fun override => pathEntries override.1 override.2

def variableTrees (jsonLoads : String → JsonLoaded) (variables_ : List (String × String)) :
    List (List (String × Json)) :=
  variables_.filterMap (variableTree jsonLoads)

def PathsApart (names : List String) : Prop :=
  ∀ name ∈ names, ∀ other ∈ names, name ≠ other → ∀ path otherPath,
    overridePath name = some path → overridePath other = some otherPath → ¬path <+: otherPath

theorem overridePath_nonempty {name : String} {path : List String} (found : overridePath name = some path) :
    path ≠ [] := by
  rintro rfl
  rw [overridePath] at found
  split at found
  · nomatch found
  · split at found
    · split at found
      · nomatch found
      · split at found
        · nomatch found
        · rename_i empty
          exact empty (Option.some.inj found)
    · nomatch found

section Trees

variable {jsonLoads : String → JsonLoaded} {variables_ : List (String × String)}

theorem overrideOf_some {variable_ : String × String} {override : List String × Json} :
    overrideOf jsonLoads variable_ = some override ↔ overridePath variable_.1 = some override.1 ∧
      overrideValue jsonLoads override.1 variable_.2 = .ok override.2 := by
  unfold overrideOf
  cases overridePath variable_.1 with
  | none => simp
  | some path =>
      cases read : overrideValue jsonLoads path variable_.2 with
      | error error =>
          refine iff_of_false (by simp [read, Except.toOption]) ?_
          rintro ⟨same, value⟩
          rw [← Option.some.inj same, read] at value
          cases value
      | ok value =>
          simp only [Option.bind_eq_bind, Option.bind_some, read, Except.toOption, Option.pure_def,
            Option.some.injEq]
          constructor
          · rintro rfl
            exact ⟨rfl, read⟩
          · rintro ⟨same, other⟩
            rw [← same, read] at other
            exact Prod.ext same (Except.ok.inj other)

theorem overrideOf_nonempty {variable_ : String × String} {override : List String × Json}
    (found : overrideOf jsonLoads variable_ = some override) : override.1 ≠ [] :=
  overridePath_nonempty (overrideOf_some.mp found).1

theorem overridePath_none {variable_ : String × String} (readable : Readable jsonLoads variable_)
    (none_ : overrideOf jsonLoads variable_ = none) : overridePath variable_.1 = none := by
  cases path : overridePath variable_.1 with
  | none => rfl
  | some found =>
      obtain ⟨value, read⟩ := readable found path
      have some_ : overrideOf jsonLoads variable_ = some (found, value) := overrideOf_some.mpr ⟨path, read⟩
      rw [none_] at some_
      cases some_

theorem variableTree_some {variable_ : String × String} {tree : List (String × Json)}
    (made : variableTree jsonLoads variable_ = some tree) : ∃ path value,
      overridePath variable_.1 = some path ∧ overrideValue jsonLoads path variable_.2 = .ok value ∧
        tree = pathEntries path value := by
  obtain ⟨⟨path, value⟩, found, rfl⟩ := Option.map_eq_some_iff.mp made
  obtain ⟨overrides, read⟩ := overrideOf_some.mp found
  exact ⟨path, value, overrides, read, rfl⟩

theorem envOverridesFrom_skip {variable_ : String × String} (none_ : overridePath variable_.1 = none)
    (rest : List (String × String)) (current : List (String × Json)) :
    envOverridesFrom jsonLoads (variable_ :: rest) current = envOverridesFrom jsonLoads rest current := by
  rw [envOverridesFrom, none_]

theorem envOverridesFrom_set {variable_ : String × String} {override : List String × Json}
    (found : overrideOf jsonLoads variable_ = some override) (rest : List (String × String))
    (current : List (String × Json)) :
    envOverridesFrom jsonLoads (variable_ :: rest) current =
      setOverride variable_.1 override.2 override.1 current >>= envOverridesFrom jsonLoads rest := by
  obtain ⟨path, value⟩ := overrideOf_some.mp found
  rw [envOverridesFrom, path]
  change (setVariable jsonLoads variable_.1 variable_.2 override.1 current >>= _) = _
  rw [setVariable, value]

theorem readable_of_set {current after : List (String × Json)}
    (set : envOverridesFrom jsonLoads variables_ current = .ok after) :
    ∀ variable_ ∈ variables_, Readable jsonLoads variable_ := by
  induction variables_ generalizing current with
  | nil => exact fun _ member => absurd member List.not_mem_nil
  | cons first rest ih =>
      rw [envOverridesFrom] at set
      rw [List.forall_mem_cons]
      cases path : overridePath first.1 with
      | none =>
          rw [path] at set
          exact ⟨fun other found => absurd (path.symm.trans found) (by simp), ih set⟩
      | some found =>
          rw [path] at set
          obtain ⟨next, here, later⟩ := bind_ok.mp set
          obtain ⟨value, read, -⟩ := setVariable_ok here
          exact ⟨fun other same => Option.some.inj (path.symm.trans same) ▸ ⟨value, read⟩, ih later⟩

theorem mapping_variableTrees (decodes : ∀ text value, jsonLoads text = .value value → DistinctKeys value)
    {tree : List (String × Json)} (member : tree ∈ variableTrees jsonLoads variables_) : IsMapping tree := by
  obtain ⟨variable_, -, made⟩ := List.mem_filterMap.mp member
  obtain ⟨path, value, found, read, rfl⟩ := variableTree_some made
  have distinct := distinct_pathTree path (distinct_overrideValue decodes read)
  rwa [pathTree_dict (overridePath_nonempty found)] at distinct

theorem PathsApart.apart (apart : PathsApart (variables_.map Prod.fst)) {first second : String × String}
    (firstMember : first ∈ variables_) (secondMember : second ∈ variables_) (different : first.1 ≠ second.1)
    {path other : List String} (found : overridePath first.1 = some path)
    (otherFound : overridePath second.1 = some other) : Apart path other := by
  have firstName := List.mem_map_of_mem (f := Prod.fst) firstMember
  have secondName := List.mem_map_of_mem (f := Prod.fst) secondMember
  exact ⟨apart _ firstName _ secondName different path other found otherFound,
    apart _ secondName _ firstName different.symm other path otherFound found⟩

theorem compatible_variableTrees (distinct : (variables_.map Prod.fst).Nodup)
    (apart : PathsApart (variables_.map Prod.fst)) : (variableTrees jsonLoads variables_).Pairwise
      fun first second => LeafCompatible (.dict first) (.dict second) := by
  have different : variables_.Pairwise fun first second => first.1 ≠ second.1 := List.pairwise_map.mp distinct
  refine List.pairwise_filterMap.mpr (different.imp_of_mem ?_)
  intro first second firstMember secondMember different tree made other otherMade
  obtain ⟨path, value, found, -, rfl⟩ := variableTree_some made
  obtain ⟨otherPath, otherValue, otherFound, -, rfl⟩ := variableTree_some otherMade
  rw [← pathTree_dict (overridePath_nonempty found), ← pathTree_dict (overridePath_nonempty otherFound)]
  exact (apart.apart firstMember secondMember different found otherFound).compatible _ _

theorem free_variableTrees (decodes : ∀ text value, jsonLoads text = .value value → DistinctKeys value)
    {next : String × String} (distinct : ((variables_ ++ [next]).map Prod.fst).Nodup)
    (apart : PathsApart ((variables_ ++ [next]).map Prod.fst)) {path : List String}
    (found : overridePath next.1 = some path) :
    FreePath path (mergeAll [] (variableTrees jsonLoads variables_)) := by
  rw [List.map_append, List.nodup_append] at distinct
  have earlier : PathsApart (variables_.map Prod.fst) := fun name member other otherMember =>
    apart name (by simp_all) other (by simp_all)
  have compatible : ([] :: variableTrees jsonLoads variables_).Pairwise fun first second =>
      LeafCompatible (.dict first) (.dict second) :=
    List.pairwise_cons.mpr ⟨fun _ _ => LeafCompatible.empty, compatible_variableTrees distinct.1 earlier⟩
  have mappings : ∀ tree ∈ variableTrees jsonLoads variables_, IsMapping tree := fun tree member =>
    mapping_variableTrees decodes member
  have away : ∀ tree ∈ variableTrees jsonLoads variables_, ∃ other value, tree = pathEntries other value ∧
      other ≠ [] ∧ Apart path other := by
    intro tree member
    obtain ⟨variable_, there, made⟩ := List.mem_filterMap.mp member
    obtain ⟨other, value, otherFound, -, rfl⟩ := variableTree_some made
    have different : next.1 ≠ variable_.1 := fun same =>
      distinct.2.2 _ (List.mem_map_of_mem (f := Prod.fst) there) next.1 (by simp) same.symm
    exact ⟨other, _, rfl, overridePath_nonempty otherFound,
      apart.apart (by simp) (by simp [there]) different found otherFound⟩
  constructor
  · intro at_ above
    rw [leafAt_mergeAll compatible mappings, List.findSome?_eq_none_iff]
    intro tree member
    rcases List.mem_cons.mp (List.mem_reverse.mp member) with rfl | member
    · exact leafAt_empty at_
    · obtain ⟨other, value, rfl, some_, apart⟩ := away tree member
      rw [← pathTree_dict some_]
      refine Option.not_isSome_iff_eq_none.mp fun leaf => ?_
      exact apart.2 ((prefix_of_leaf leaf).trans above)
  · rw [mappingAt_mergeAll compatible mappings, List.any_eq_false]
    intro tree member
    rcases List.mem_cons.mp member with rfl | member
    · cases path with
      | nil => exact absurd rfl (overridePath_nonempty found)
      | cons key path => simp [mappingAt_cons, dictGet]
    · obtain ⟨other, value, rfl, some_, apart⟩ := away tree member
      rw [← pathTree_dict some_]
      intro mapping
      exact (prefix_of_mapping mapping).elim apart.1 apart.2

theorem envOverrides_apart (decodes : ∀ text value, jsonLoads text = .value value → DistinctKeys value)
    (readable : ∀ variable_ ∈ variables_, Readable jsonLoads variable_)
    (distinct : (variables_.map Prod.fst).Nodup) (apart : PathsApart (variables_.map Prod.fst)) :
    envOverrides jsonLoads variables_ = .ok (mergeAll [] (variableTrees jsonLoads variables_)) := by
  have run : ∀ rest done, variables_ = done ++ rest →
      envOverridesFrom jsonLoads rest (mergeAll [] (variableTrees jsonLoads done)) =
        .ok (mergeAll [] (variableTrees jsonLoads (done ++ rest))) := by
    intro rest
    induction rest with
    | nil => intro done _; rw [envOverridesFrom, List.append_nil]
    | cons next rest ih =>
        intro done whole
        have later := ih (done ++ [next]) (by rw [whole, List.append_assoc]; rfl)
        rw [List.append_assoc, List.singleton_append, variableTrees, List.filterMap_append,
          mergeAll_append] at later
        cases found : overrideOf jsonLoads next with
        | none =>
            have skipped := overridePath_none (readable next (by simp [whole])) found
            rw [envOverridesFrom_skip skipped]
            rw [List.filterMap_cons_none (by simp [variableTree, found])] at later
            exact later
        | some override =>
            have here : (done ++ [next]) <+: variables_ := ⟨rest, by simp [whole]⟩
            have names : (done ++ [next]).map Prod.fst ⊆ variables_.map Prod.fst := (here.map Prod.fst).subset
            have free := free_variableTrees decodes (distinct.sublist (here.map Prod.fst).sublist)
              (fun name member other otherMember => apart name (names member) other (names otherMember))
              (overrideOf_some.mp found).1
            have tree : variableTree jsonLoads next = some (pathEntries override.1 override.2) := by
              rw [variableTree, found, Option.map_some]
            rw [List.filterMap_cons_some tree] at later
            rw [envOverridesFrom_set found, setOverride_free next.1 override.2 (overrideOf_nonempty found) free]
            exact later
  exact run variables_ [] rfl

end Trees

def ResolvedLeaf (secrets : List (String × String)) (leaf after : Option Json) : Prop :=
  match leaf with
  | some value => ∃ resolved, resolveSecretRefs secrets value = .ok resolved ∧ after = some resolved
  | none => after = none

section Resolve

variable {secrets : List (String × String)}

theorem resolve_leaf {value resolved : Json} (leaf : isDict value = false)
    (resolves : resolveSecretRefs secrets value = .ok resolved) : isDict resolved = false := by
  rcases resolveSecretRefs_cases resolves with
    ⟨entries, after, rfl, -, -⟩ | ⟨items, after, -, rfl, -⟩ | ⟨-, -, -, plain⟩
  · cases leaf
  · rfl
  · cases resolved with
    | dict entries => exact absurd rfl (plain entries)
    | _ => rfl

theorem resolve_dict {entries : List (String × Json)} {resolved : Json}
    (resolves : resolveSecretRefs secrets (.dict entries) = .ok resolved) :
    ∃ after, resolved = .dict after ∧ resolveEntries secrets entries = .ok after := by
  rw [resolveSecretRefs] at resolves
  obtain ⟨after, entriesResolve, same⟩ := bind_ok.mp resolves
  exact ⟨after, (pure_ok.mp same).symm, entriesResolve⟩

theorem leafAt_resolved (path : List String) {value resolved : Json}
    (resolves : resolveSecretRefs secrets value = .ok resolved) :
    ResolvedLeaf secrets (leafAt path value) (leafAt path resolved) := by
  induction path generalizing value resolved with
  | nil =>
      cases dict : isDict value with
      | false =>
          rw [leafAt_nil, leafAt_nil, dict, resolve_leaf dict resolves]
          exact ⟨resolved, resolves, rfl⟩
      | true =>
          cases value with
          | dict entries =>
              obtain ⟨after, rfl, -⟩ := resolve_dict resolves
              rfl
          | _ => cases dict
  | cons key path ih =>
      cases dict : isDict value with
      | false =>
          rw [leafAt_below_leaf dict, leafAt_below_leaf (resolve_leaf dict resolves)]
          rfl
      | true =>
          cases value with
          | dict entries =>
              obtain ⟨after, rfl, entriesResolve⟩ := resolve_dict resolves
              have here := dictGet_resolveEntries entriesResolve key
              rw [leafAt_cons, leafAt_cons]
              cases found : dictGet key entries with
              | none =>
                  rw [found] at here
                  rw [here]
                  rfl
              | some value =>
                  rw [found] at here
                  obtain ⟨below, valueResolves, foundAfter⟩ := here
                  rw [foundAfter]
                  exact ih valueResolves
          | _ => cases dict

def LeavesResolve (secrets : List (String × String)) (value : Json) : Prop :=
  ∀ path, ∀ leaf ∈ leafAt path value, ∃ after, resolveSecretRefs secrets leaf = .ok after

theorem LeavesResolve.leaf {value : Json} (leaf : isDict value = false) (resolve : LeavesResolve secrets value) :
    ∃ after, resolveSecretRefs secrets value = .ok after :=
  resolve [] value (by rw [leafAt_nil, leaf]; rfl)

mutual

theorem resolves_of_leaves (value : Json) (distinct : DistinctKeys value) (resolve : LeavesResolve secrets value) :
    ∃ after, resolveSecretRefs secrets value = .ok after := by
  cases value with
  | dict entries =>
      have each : ∀ key value, (key, value) ∈ entries → LeavesResolve secrets value := by
        intro key value member path leaf found
        refine resolve (key :: path) leaf ?_
        rw [leafAt_cons, dictGet_of_mem distinct.1 member]
        exact found
      obtain ⟨after, resolved⟩ := entriesResolve_of_leaves entries distinct.2 each
      exact ⟨.dict after, by rw [resolveSecretRefs, resolved]; rfl⟩
  | null => exact resolve.leaf rfl
  | bool flag => exact resolve.leaf rfl
  | int number => exact resolve.leaf rfl
  | float text => exact resolve.leaf rfl
  | str text => exact resolve.leaf rfl
  | list items => exact resolve.leaf rfl
termination_by structural value

theorem entriesResolve_of_leaves (entries : List (String × Json)) (distinct : DistinctEntries entries)
    (each : ∀ key value, (key, value) ∈ entries → LeavesResolve secrets value) :
    ∃ after, resolveEntries secrets entries = .ok after := by
  cases entries with
  | nil => exact ⟨[], rfl⟩
  | cons entry rest =>
      obtain ⟨after, resolved⟩ := entryResolves_of_leaves entry distinct.1 (each _ _ (List.mem_cons_self ..))
      obtain ⟨others, later⟩ := entriesResolve_of_leaves rest distinct.2 fun key value member =>
        each key value (List.mem_cons_of_mem _ member)
      exact ⟨after :: others, by rw [resolveEntries, resolved, later]; rfl⟩
termination_by structural entries

theorem entryResolves_of_leaves (entry : String × Json) (distinct : DistinctEntry entry)
    (resolve : LeavesResolve secrets entry.2) : ∃ after, resolveEntry secrets entry = .ok after := by
  obtain ⟨key, value⟩ := entry
  obtain ⟨after, resolved⟩ := resolves_of_leaves value distinct resolve
  exact ⟨(key, after), by rw [resolveEntry, resolved]; rfl⟩
termination_by structural entry

end

end Resolve

/-! The order of the sources. -/

namespace ConfigSources

variable (jsonLoads : String → JsonLoaded) (sources : ConfigSources) (fileValues : List (String × String))

def ranked : List (List (String × Json)) :=
  sources.cli :: (variableTrees jsonLoads sources.process ++
    variableTrees jsonLoads (visibleVariables fileValues sources.process)) ++ [sources.yaml, sources.defaults]

def highestLeaf (path : List String) : Option Json :=
  (sources.ranked jsonLoads fileValues).findSome? fun tree => leafAt path (.dict tree)

/-- Nothing gives a leaf where another source gives a mapping, and no two variables have paths of which
one leads to the other. -/
structure Unmixed : Prop where
  apart : PathsApart ((sources.process ++ fileValues).map Prod.fst)
  compatible : (sources.ranked jsonLoads fileValues).Pairwise fun first second =>
    LeafCompatible (.dict first) (.dict second)

variable {jsonLoads sources fileValues}

section Combined

variable (decodes : ∀ text value, jsonLoads text = .value value → DistinctKeys value)
  (read : parseDotenvFile sources.dotenv = .ok fileValues) (unmixed : sources.Unmixed jsonLoads fileValues)
  (readable : ∀ variable_ ∈ combineVariables fileValues sources.process, Readable jsonLoads variable_)

theorem combined_names {name : String}
    (member : name ∈ (combineVariables fileValues sources.process).map Prod.fst)
    (distinct : (fileValues.map Prod.fst).Nodup) : name ∈ (sources.process ++ fileValues).map Prod.fst := by
  obtain ⟨variable_, there, rfl⟩ := List.mem_map.mp member
  refine List.mem_map_of_mem (f := Prod.fst) ?_
  rcases List.mem_append.mp ((mem_combine distinct sources.processKeys variable_).mp there) with set | visible
  · exact List.mem_append_left _ set
  · exact List.mem_append_right _ (List.mem_filter.mp visible).1

include read

theorem mem_variableTrees_combined (tree : List (String × Json)) :
    tree ∈ variableTrees jsonLoads (combineVariables fileValues sources.process) ↔
      tree ∈ variableTrees jsonLoads sources.process ++
        variableTrees jsonLoads (visibleVariables fileValues sources.process) := by
  rw [variableTrees, variableTrees, variableTrees, ← List.filterMap_append, List.mem_filterMap, List.mem_filterMap]
  simp only [mem_combine (distinct_parseDotenvFile read) sources.processKeys]

include unmixed

theorem combined_apart : PathsApart ((combineVariables fileValues sources.process).map Prod.fst) := by
  have distinct := distinct_parseDotenvFile read
  exact fun name member other otherMember =>
    unmixed.apart name (combined_names member distinct) other (combined_names otherMember distinct)

/-- The order of the variables does not matter, since only one of them can have a leaf at the path. -/
theorem leafAt_combined (path : List String) :
    ((variableTrees jsonLoads (combineVariables fileValues sources.process)).reverse.findSome? fun tree =>
        leafAt path (.dict tree)) =
      (variableTrees jsonLoads sources.process ++
        variableTrees jsonLoads (visibleVariables fileValues sources.process)).findSome? fun tree =>
          leafAt path (.dict tree) := by
  have distinct := distinct_parseDotenvFile read
  have combinedDistinct := distinct_combine distinct sources.process
  have apart := combined_apart read unmixed
  have found : ∀ tree ∈ (variableTrees jsonLoads (combineVariables fileValues sources.process)).reverse,
      ∀ leaf ∈ leafAt path (.dict tree), ∃ variable_ ∈ combineVariables fileValues sources.process,
        variableTree jsonLoads variable_ = some tree ∧
          ∃ at_, overridePath variable_.1 = some at_ ∧ at_ <+: path := by
    intro tree member leaf there
    obtain ⟨variable_, variableMember, made⟩ := List.mem_filterMap.mp (List.mem_reverse.mp member)
    obtain ⟨at_, value, overrides, -, rfl⟩ := variableTree_some made
    rw [← pathTree_dict (overridePath_nonempty overrides)] at there
    exact ⟨variable_, variableMember, made, at_, overrides, prefix_of_leaf (Option.isSome_of_eq_some there)⟩
  refine findSome_of_same_members ?_ fun tree =>
    List.mem_reverse.trans (mem_variableTrees_combined read tree)
  intro tree member otherTree otherMember leaf there other otherThere
  obtain ⟨first, firstMember, made, at_, overrides, above⟩ := found tree member leaf there
  obtain ⟨second, secondMember, otherMade, otherAt, otherOverrides, otherAbove⟩ :=
    found otherTree otherMember other otherThere
  by_cases same : first.1 = second.1
  · have value : first.2 = second.2 := Option.some.inj
      ((dictGet_of_mem combinedDistinct firstMember).symm.trans
        (same ▸ dictGet_of_mem combinedDistinct secondMember))
    rw [Prod.ext same value] at made
    obtain rfl := Option.some.inj (made.symm.trans otherMade)
    exact Option.some.inj (there.symm.trans otherThere)
  · have apart := apart.apart firstMember secondMember same overrides otherOverrides
    exact ((List.prefix_or_prefix_of_prefix above otherAbove).elim apart.1 apart.2).elim

include decodes

include readable in
theorem overrides_combined : envOverrides jsonLoads (combineVariables fileValues sources.process) =
    .ok (mergeAll [] (variableTrees jsonLoads (combineVariables fileValues sources.process))) :=
  envOverrides_apart decodes readable (distinct_combine (distinct_parseDotenvFile read) sources.process)
    (combined_apart read unmixed)

omit decodes in
theorem combined_compatible :
    ([] :: variableTrees jsonLoads (combineVariables fileValues sources.process)).Pairwise
      fun first second => LeafCompatible (.dict first) (.dict second) :=
  List.pairwise_cons.mpr ⟨fun _ _ => LeafCompatible.empty,
    compatible_variableTrees (distinct_combine (distinct_parseDotenvFile read) sources.process)
      (combined_apart read unmixed)⟩

theorem compatible_overrides {third : Json}
    (each : ∀ tree ∈ variableTrees jsonLoads sources.process ++
      variableTrees jsonLoads (visibleVariables fileValues sources.process), LeafCompatible third (.dict tree))
    (empty : LeafCompatible third (.dict [])) :
    LeafCompatible third (.dict (mergeAll []
      (variableTrees jsonLoads (combineVariables fileValues sources.process)))) := by
  refine LeafCompatible.mergeAll (combined_compatible read unmixed)
    (fun tree member => mapping_variableTrees decodes member) fun tree member => ?_
  rcases List.mem_cons.mp member with rfl | member
  · exact empty
  · exact each tree ((mem_variableTrees_combined read tree).mp member)

theorem layers_compatible : [sources.defaults, sources.yaml,
    mergeAll [] (variableTrees jsonLoads (combineVariables fileValues sources.process)), sources.cli].Pairwise
      fun first second => LeafCompatible (.dict first) (.dict second) := by
  obtain ⟨variables_, rest, between⟩ := List.pairwise_append.mp unmixed.compatible
  have cli := (List.pairwise_cons.mp variables_).1
  have yamlDefaults := (List.pairwise_cons.mp rest).1 sources.defaults (by simp)
  have cliYaml := between sources.cli (by simp) sources.yaml (by simp)
  have cliDefaults := between sources.cli (by simp) sources.defaults (by simp)
  have defaultsOverrides := compatible_overrides decodes read unmixed
    (fun tree member => (between tree (List.mem_cons_of_mem _ member) sources.defaults (by simp)).symm)
    (@LeafCompatible.empty sources.defaults).symm
  have yamlOverrides := compatible_overrides decodes read unmixed
    (fun tree member => (between tree (List.mem_cons_of_mem _ member) sources.yaml (by simp)).symm)
    (@LeafCompatible.empty sources.yaml).symm
  have cliOverrides := compatible_overrides decodes read unmixed cli
    (@LeafCompatible.empty sources.cli).symm
  simp only [List.pairwise_cons, List.mem_cons, List.not_mem_nil, or_false, forall_eq_or_imp, forall_eq,
    false_implies, implies_true, List.Pairwise.nil, and_true]
  exact ⟨⟨yamlDefaults.symm, defaultsOverrides, cliDefaults.symm⟩, ⟨yamlOverrides, cliYaml.symm⟩, cliOverrides.symm⟩

include readable

theorem mergedTree_eq : sources.mergedTree jsonLoads = .ok (mergeAll sources.defaults [sources.yaml,
    mergeAll [] (variableTrees jsonLoads (combineVariables fileValues sources.process)), sources.cli]) := by
  rw [mergedTree, combinedEnvironment, read]
  change (envOverrides jsonLoads (combineVariables fileValues sources.process) >>= _) = _
  rw [overrides_combined decodes read unmixed readable]
  change Except.ok (if sources.cli = [] then _ else _) = _
  split
  · rename_i empty
    rw [empty]
    rfl
  · rfl

theorem leafAt_merged (path : List String) : leafAt path (.dict (mergeAll sources.defaults [sources.yaml,
    mergeAll [] (variableTrees jsonLoads (combineVariables fileValues sources.process)), sources.cli])) =
      sources.highestLeaf jsonLoads fileValues path := by
  have overriding : IsMapping (mergeAll [] (variableTrees jsonLoads
      (combineVariables fileValues sources.process))) :=
    mapping_envOverrides decodes (overrides_combined decodes read unmixed readable)
  have mappings : ∀ tree ∈ [sources.yaml, mergeAll [] (variableTrees jsonLoads
      (combineVariables fileValues sources.process)), sources.cli], IsMapping tree := by
    intro tree member
    simp only [List.mem_cons, List.not_mem_nil, or_false] at member
    rcases member with rfl | rfl | rfl
    · exact sources.yamlMapping
    · exact overriding
    · exact sources.cliMapping
  have environment : leafAt path (.dict (mergeAll [] (variableTrees jsonLoads
      (combineVariables fileValues sources.process)))) =
        (variableTrees jsonLoads sources.process ++
          variableTrees jsonLoads (visibleVariables fileValues sources.process)).findSome? fun tree =>
            leafAt path (.dict tree) := by
    rw [leafAt_mergeAll (combined_compatible read unmixed) fun tree member => mapping_variableTrees decodes member,
      List.reverse_cons, List.findSome?_append, leafAt_combined read unmixed, List.findSome?_singleton,
      leafAt_empty, Option.or_none]
  rw [leafAt_mergeAll (layers_compatible decodes read unmixed) mappings, highestLeaf, ranked]
  simp only [List.reverse_cons, List.reverse_nil, List.nil_append, List.cons_append, List.findSome?_cons,
    List.findSome?_nil, List.findSome?_append, environment]
  cases leafAt path (.dict sources.cli) with
  | some leaf => rfl
  | none =>
      cases (variableTrees jsonLoads sources.process).findSome? fun tree => leafAt path (.dict tree) with
      | some leaf => rfl
      | none =>
          cases (variableTrees jsonLoads (visibleVariables fileValues sources.process)).findSome? fun tree =>
            leafAt path (.dict tree) <;> rfl

theorem mapping_merged : IsMapping (mergeAll sources.defaults [sources.yaml,
    mergeAll [] (variableTrees jsonLoads (combineVariables fileValues sources.process)), sources.cli]) := by
  have overriding : IsMapping (mergeAll [] (variableTrees jsonLoads
      (combineVariables fileValues sources.process))) :=
    mapping_envOverrides decodes (overrides_combined decodes read unmixed readable)
  exact mapping_deepMerge (mapping_deepMerge (mapping_deepMerge sources.defaultsMapping _ sources.yamlMapping.2) _
    overriding.2) _ sources.cliMapping.2

omit decodes unmixed readable in
theorem combinedEnvironment_ok :
    sources.combinedEnvironment = .ok (combineVariables fileValues sources.process) := by
  rw [combinedEnvironment, read]
  rfl

omit decodes unmixed readable in
theorem readable_of_merged {merged : List (String × Json)} (made : sources.mergedTree jsonLoads = .ok merged) :
    ∀ variable_ ∈ combineVariables fileValues sources.process, Readable jsonLoads variable_ := by
  obtain ⟨environment, combined, made⟩ := bind_ok.mp made
  obtain rfl := Except.ok.inj ((combinedEnvironment_ok read).symm.trans combined)
  obtain ⟨overrides, set, -⟩ := bind_ok.mp made
  exact readable_of_set set

omit decodes unmixed readable in
theorem validatedTree_ok {validated : List (String × Json)} :
    sources.validatedTree jsonLoads = .ok validated ↔ ∃ merged, sources.mergedTree jsonLoads = .ok merged ∧
      resolveEntries (combineVariables fileValues sources.process) merged = .ok validated := by
  rw [validatedTree, combinedEnvironment_ok read]
  change (sources.mergedTree jsonLoads >>= _) = _ ↔ _
  exact bind_ok

omit readable in
/-- The merged tree has at each path the leaf of the highest-ranking source that gives one, and there is one
unless a variable cannot be read; what is validated is that tree with the references at its leaves resolved,
as long as all of them can be. -/
theorem configPrecedence :
    ((∃ merged, sources.mergedTree jsonLoads = .ok merged) ↔
      ∀ variable_ ∈ combineVariables fileValues sources.process, Readable jsonLoads variable_) ∧
    (∀ merged, sources.mergedTree jsonLoads = .ok merged → ∀ path,
      leafAt path (.dict merged) = sources.highestLeaf jsonLoads fileValues path) ∧
    ((∃ validated, sources.validatedTree jsonLoads = .ok validated) ↔
      (∀ variable_ ∈ combineVariables fileValues sources.process, Readable jsonLoads variable_) ∧
        ∀ path, ∀ leaf ∈ sources.highestLeaf jsonLoads fileValues path,
          ∃ after, resolveSecretRefs (combineVariables fileValues sources.process) leaf = .ok after) ∧
    ∀ validated, sources.validatedTree jsonLoads = .ok validated → ∀ path,
      ResolvedLeaf (combineVariables fileValues sources.process)
        (sources.highestLeaf jsonLoads fileValues path) (leafAt path (.dict validated)) := by
  have leaves : ∀ merged, sources.mergedTree jsonLoads = .ok merged → ∀ path,
      leafAt path (.dict merged) = sources.highestLeaf jsonLoads fileValues path := by
    intro merged made path
    have readable := readable_of_merged read made
    obtain rfl := Except.ok.inj ((mergedTree_eq decodes read unmixed readable).symm.trans made)
    exact leafAt_merged decodes read unmixed readable path
  have whole : ∀ {merged validated},
      resolveEntries (combineVariables fileValues sources.process) merged = .ok validated →
        resolveSecretRefs (combineVariables fileValues sources.process) (.dict merged) = .ok (.dict validated) := by
    intro merged validated resolved
    rw [resolveSecretRefs, resolved]
    rfl
  refine ⟨⟨fun ⟨merged, made⟩ => readable_of_merged read made, fun readable =>
    ⟨_, mergedTree_eq decodes read unmixed readable⟩⟩, leaves, ⟨?_, ?_⟩, ?_⟩
  · rintro ⟨validated, ended⟩
    obtain ⟨merged, made, resolved⟩ := (validatedTree_ok read).mp ended
    refine ⟨readable_of_merged read made, fun path leaf found => ?_⟩
    have here := leafAt_resolved path (whole resolved)
    rw [leaves merged made, Option.mem_def.mp found] at here
    obtain ⟨after, resolves, -⟩ := here
    exact ⟨after, resolves⟩
  · rintro ⟨readable, resolve⟩
    have made := mergedTree_eq decodes read unmixed readable
    obtain ⟨after, resolves⟩ := resolves_of_leaves (.dict _) (mapping_merged decodes read unmixed readable)
      fun path leaf found => resolve path leaf (leaves _ made path ▸ found)
    obtain ⟨validated, -, resolved⟩ := resolve_dict resolves
    exact ⟨validated, (validatedTree_ok read).mpr ⟨_, made, resolved⟩⟩
  · intro validated ended path
    obtain ⟨merged, made, resolved⟩ := (validatedTree_ok read).mp ended
    rw [← leaves merged made]
    exact leafAt_resolved path (whole resolved)

end Combined

/-! Sources that are not ranked path by path. -/

def allRanked (jsonLoads : String → JsonLoaded) (sources : ConfigSources) (fileValues : List (String × String)) :
    List (List (String × Json)) :=
  sources.cli :: (variableTrees jsonLoads sources.process ++ variableTrees jsonLoads fileValues) ++
    [sources.yaml, sources.defaults]

def NamesApart (names : List String) : Prop :=
  ∀ name ∈ names, ∀ other ∈ names, name ≠ other → ¬(lower name).toList <+: (lower other).toList

/-- A leaf of the merged tree is not that of the highest-ranking source that gives one. -/
def Misranked (jsonLoads : String → JsonLoaded) (sources : ConfigSources) (path : List String) : Prop :=
  ∃ fileValues merged, parseDotenvFile sources.dotenv = .ok fileValues ∧
    NamesApart ((sources.process ++ fileValues).map Prod.fst) ∧
    ((sources.allRanked jsonLoads fileValues).Pairwise fun first second =>
      LeafCompatible (.dict first) (.dict second)) ∧
    sources.mergedTree jsonLoads = .ok merged ∧
    leafAt path (.dict merged) ≠
      (sources.allRanked jsonLoads fileValues).findSome? fun tree => leafAt path (.dict tree)

def sampleLoads (text : String) : JsonLoaded :=
  if text = "\x7b\"secret\": \"entrance\"\x7d" then .value (.dict [("secret", .str "entrance")])
  else if text = "\x7b\"realm\": \"library\"\x7d" then .value (.dict [("realm", .str "library")])
  else .undecodable

def emptySources (dotenv : TextFile) (process : List (String × String))
    (processKeys : (process.map Prod.fst).Nodup) : ConfigSources where
  defaults := []
  yaml := []
  dotenv := dotenv
  process := process
  cli := []
  defaultsMapping := ⟨List.nodup_nil, trivial⟩
  yamlMapping := ⟨List.nodup_nil, trivial⟩
  processKeys := processKeys
  cliMapping := ⟨List.nodup_nil, trivial⟩

def hiddenMapping : ConfigSources :=
  emptySources (.text "KORSERVER_SERVER__CAMOUFLAGE=\x7b\"secret\": \"entrance\"\x7d\n")
    [("KORSERVER_SERVER__CAMOUFLAGE", "\x7b\"realm\": \"library\"\x7d")] (by simp)

def doubledSeparator : ConfigSources :=
  emptySources (.text "KORSERVER_SERVER__PORT=1\nKORSERVER_SERVER____PORT=2\n")
    [("KORSERVER_SERVER__PORT", "3")] (by simp)

theorem compatible_leaves (path : List String) {value other : Json} (leaf : isDict value = false)
    (otherLeaf : isDict other = false) : LeafCompatible (pathTree path value) (pathTree path other) := by
  have never : ∀ {value other : Json}, isDict value = false → isDict other = false → ∀ at_,
      ¬((leafAt at_ (pathTree path value)).isSome ∧ mappingAt at_ (pathTree path other)) := by
    intro value other leaf otherLeaf
    induction path with
    | nil =>
        rintro at_ ⟨-, mapping⟩
        cases at_ with
        | nil => exact absurd (otherLeaf.symm.trans mapping) Bool.false_ne_true
        | cons key at_ => exact absurd ((mappingAt_below_leaf otherLeaf key at_).symm.trans mapping) Bool.false_ne_true
    | cons key path ih =>
        rintro at_ ⟨found, mapping⟩
        cases at_ with
        | nil => simp [pathTree, isDict] at found
        | cons first at_ =>
            rw [pathTree, leafAt_cons, dictGet] at found
            rw [pathTree, mappingAt_cons, dictGet] at mapping
            by_cases same : key = first
            · rw [if_pos same] at found mapping
              exact ih at_ ⟨found, mapping⟩
            · simp [same, dictGet] at found
  exact fun at_ => ⟨never leaf otherLeaf at_, never otherLeaf leaf at_⟩

theorem emptySources_compatible {dotenv : TextFile} {process : List (String × String)}
    {processKeys : (process.map Prod.fst).Nodup}
    (compatible : (variableTrees jsonLoads process ++ variableTrees jsonLoads fileValues).Pairwise
      fun first second => LeafCompatible (.dict first) (.dict second)) :
    ((emptySources dotenv process processKeys).allRanked jsonLoads fileValues).Pairwise
      fun first second => LeafCompatible (.dict first) (.dict second) := by
  have ended : [([] : List (String × Json)), []].Pairwise fun first second =>
      LeafCompatible (.dict first) (.dict second) :=
    List.pairwise_cons.mpr ⟨fun _ _ => LeafCompatible.empty, List.pairwise_singleton ..⟩
  refine List.pairwise_append.mpr
    ⟨List.pairwise_cons.mpr ⟨fun _ _ => LeafCompatible.empty, compatible⟩, ended, ?_⟩
  intro tree _ empty member
  obtain rfl : empty = [] := by
    simp only [emptySources, List.mem_cons, List.not_mem_nil, or_false, or_self] at member
    exact member
  exact LeafCompatible.empty.symm

theorem mergedTree_variables {sources : ConfigSources} {variables_ : List (String × String)}
    (read : parseDotenvFile sources.dotenv = .ok fileValues)
    (combined : combineVariables fileValues sources.process = variables_) (cli : sources.cli = []) :
    sources.mergedTree jsonLoads = envOverridesFrom jsonLoads variables_ [] >>= fun overrides =>
      .ok (deepMerge (deepMerge sources.defaults sources.yaml) overrides) := by
  rw [mergedTree, combinedEnvironment, read, ← combined]
  simp only [cli, if_true]
  rfl

theorem hiddenMapping_misranked : Misranked sampleLoads hiddenMapping ["server", "camouflage", "secret"] := by
  have read : parseDotenvFile hiddenMapping.dotenv =
      .ok [("KORSERVER_SERVER__CAMOUFLAGE", "\x7b\"secret\": \"entrance\"\x7d")] := by decide +kernel
  have realm : variableTrees sampleLoads hiddenMapping.process =
      [pathEntries ["server", "camouflage", "realm"] (.str "library")] := by rfl
  have secret : variableTrees sampleLoads
      [("KORSERVER_SERVER__CAMOUFLAGE", "\x7b\"secret\": \"entrance\"\x7d")] =
        [pathEntries ["server", "camouflage", "secret"] (.str "entrance")] := by rfl
  have combined : combineVariables [("KORSERVER_SERVER__CAMOUFLAGE", "\x7b\"secret\": \"entrance\"\x7d")]
      hiddenMapping.process = [("KORSERVER_SERVER__CAMOUFLAGE", "\x7b\"realm\": \"library\"\x7d")] := by
    decide +kernel
  have path : overridePath "KORSERVER_SERVER__CAMOUFLAGE" = some ["server", "camouflage"] := by decide +kernel
  refine ⟨_, pathEntries ["server", "camouflage", "realm"] (.str "library"), read, ?_,
    emptySources_compatible ?_, ?_, ?_⟩
  · unfold NamesApart
    decide +kernel
  · have apart : Apart ["server", "camouflage", "realm"] ["server", "camouflage", "secret"] := by
      unfold Apart
      decide +kernel
    rw [secret]
    exact List.pairwise_pair.mpr (apart.compatible (.str "library") (.str "entrance"))
  · have set : overrideOf sampleLoads ("KORSERVER_SERVER__CAMOUFLAGE", "\x7b\"realm\": \"library\"\x7d") =
        some (["server", "camouflage"], .dict [("realm", .str "library")]) := overrideOf_some.mpr ⟨path, rfl⟩
    rw [mergedTree_variables read combined rfl, envOverridesFrom_set set]
    rfl
  · rw [allRanked, realm, secret]
    exact fun same => nomatch same

theorem doubledSeparator_misranked : Misranked sampleLoads doubledSeparator ["server", "port"] := by
  have read : parseDotenvFile doubledSeparator.dotenv =
      .ok [("KORSERVER_SERVER__PORT", "1"), ("KORSERVER_SERVER____PORT", "2")] := by decide +kernel
  have three : variableTrees sampleLoads doubledSeparator.process = [pathEntries ["server", "port"] (.int 3)] := by
    rfl
  have both : variableTrees sampleLoads [("KORSERVER_SERVER__PORT", "1"), ("KORSERVER_SERVER____PORT", "2")] =
      [pathEntries ["server", "port"] (.int 1), pathEntries ["server", "port"] (.int 2)] := by rfl
  have combined : combineVariables [("KORSERVER_SERVER__PORT", "1"), ("KORSERVER_SERVER____PORT", "2")]
      doubledSeparator.process = [("KORSERVER_SERVER__PORT", "3"), ("KORSERVER_SERVER____PORT", "2")] := by
    decide +kernel
  have path : overridePath "KORSERVER_SERVER__PORT" = some ["server", "port"] := by decide +kernel
  have doubled : overridePath "KORSERVER_SERVER____PORT" = some ["server", "port"] := by decide +kernel
  refine ⟨_, pathEntries ["server", "port"] (.int 2), read, ?_, emptySources_compatible ?_, ?_, ?_⟩
  · unfold NamesApart
    decide +kernel
  · have leaves : ∀ first second : Int, LeafCompatible (.dict (pathEntries ["server", "port"] (.int first)))
        (.dict (pathEntries ["server", "port"] (.int second))) := fun first second =>
      @compatible_leaves ["server", "port"] (.int first) (.int second) rfl rfl
    rw [both]
    change [pathEntries ["server", "port"] (.int 3), pathEntries ["server", "port"] (.int 1),
      pathEntries ["server", "port"] (.int 2)].Pairwise _
    simp only [List.pairwise_cons, List.mem_cons, List.not_mem_nil, or_false, forall_eq_or_imp, forall_eq,
      false_implies, implies_true, List.Pairwise.nil, and_true]
    exact ⟨⟨leaves 3 1, leaves 3 2⟩, leaves 1 2⟩
  · have first : overrideOf sampleLoads ("KORSERVER_SERVER__PORT", "3") = some (["server", "port"], .int 3) :=
      overrideOf_some.mpr ⟨path, rfl⟩
    have second : overrideOf sampleLoads ("KORSERVER_SERVER____PORT", "2") = some (["server", "port"], .int 2) :=
      overrideOf_some.mpr ⟨doubled, rfl⟩
    have set : setOverride "KORSERVER_SERVER__PORT" (.int 3) ["server", "port"] [] =
        .ok (pathEntries ["server", "port"] (.int 3)) := by rfl
    rw [mergedTree_variables read combined rfl, envOverridesFrom_set first, set]
    change (envOverridesFrom sampleLoads [("KORSERVER_SERVER____PORT", "2")]
      (pathEntries ["server", "port"] (.int 3)) >>= _) = _
    rw [envOverridesFrom_set second]
    rfl
  · rw [allRanked, three, both]
    exact fun same => absurd (Json.int.inj (Option.some.inj same)) (by decide)

/-- What the file gives inside a mapping that the process replaces is lost, and of two spellings of one path
in the file the later one can win over the process. -/
theorem hiddenVariables_misranked :
    Misranked sampleLoads hiddenMapping ["server", "camouflage", "secret"] ∧
      Misranked sampleLoads doubledSeparator ["server", "port"] :=
  ⟨hiddenMapping_misranked, doubledSeparator_misranked⟩

theorem sampleLoads_distinct (text : String) (value : Json) (loaded : sampleLoads text = .value value) :
    DistinctKeys value := by
  rw [sampleLoads] at loaded
  split at loaded
  · obtain rfl := JsonLoaded.value.inj loaded
    exact ⟨by simp, trivial, trivial⟩
  · split at loaded
    · obtain rfl := JsonLoaded.value.inj loaded
      exact ⟨by simp, trivial, trivial⟩
    · cases loaded

theorem configPrecedence_sample : ∃ merged, hiddenMapping.mergedTree sampleLoads = .ok merged ∧
    leafAt ["server", "camouflage", "realm"] (.dict merged) = some (.str "library") := by
  have read : parseDotenvFile hiddenMapping.dotenv =
      .ok [("KORSERVER_SERVER__CAMOUFLAGE", "\x7b\"secret\": \"entrance\"\x7d")] := by decide +kernel
  have ranked : hiddenMapping.ranked sampleLoads
      [("KORSERVER_SERVER__CAMOUFLAGE", "\x7b\"secret\": \"entrance\"\x7d")] =
        [[], pathEntries ["server", "camouflage", "realm"] (.str "library"), [], []] := by rfl
  have unmixed : hiddenMapping.Unmixed sampleLoads
      [("KORSERVER_SERVER__CAMOUFLAGE", "\x7b\"secret\": \"entrance\"\x7d")] := by
    constructor
    · intro name member other otherMember different
      simp [hiddenMapping, emptySources] at member otherMember
      exact absurd (member.trans otherMember.symm) different
    · rw [ranked]
      simp only [List.pairwise_cons, List.mem_cons, List.not_mem_nil, or_false, forall_eq_or_imp, forall_eq,
        false_implies, implies_true, List.Pairwise.nil, and_true]
      exact ⟨⟨LeafCompatible.empty, LeafCompatible.empty, LeafCompatible.empty⟩,
        ⟨LeafCompatible.empty.symm, LeafCompatible.empty.symm⟩, LeafCompatible.empty⟩
  have readable : ∀ variable_ ∈ combineVariables [("KORSERVER_SERVER__CAMOUFLAGE",
      "\x7b\"secret\": \"entrance\"\x7d")] hiddenMapping.process, Readable sampleLoads variable_ := by
    intro variable_ member path found
    obtain rfl := List.mem_singleton.mp member
    have known : overridePath "KORSERVER_SERVER__CAMOUFLAGE" = some ["server", "camouflage"] := by decide +kernel
    obtain rfl := Option.some.inj (known.symm.trans found)
    exact ⟨.dict [("realm", .str "library")], rfl⟩
  have precedence := configPrecedence sampleLoads_distinct read unmixed
  obtain ⟨merged, made⟩ := precedence.1.mpr readable
  refine ⟨merged, made, ?_⟩
  rw [precedence.2.1 merged made, highestLeaf, ranked]
  rfl

end ConfigSources

end Korserver
