import Korserver.NftablesService
import Korserver.SetElements

/-!
What the static refresh does to the sets of a loaded table: every static set gets the
elements of the full definition, every dynamic set keeps its own.
-/

namespace Korserver

open PythonText PythonValue IpAddress PacketFilter

/-- The sets dnsmasq fills, named `*_dynamic`. -/
def isDynamic (name : String) : Bool := "_dynamic".toList.isSuffixOf name.toList

theorem SetName.isDynamic_text (name : SetName) : isDynamic name.text = name.dynamic := by
  obtain ⟨scope, family, owner, dynamic⟩ := name
  cases dynamic <;> cases owner <;> cases scope <;> cases family <;>
    simp [isDynamic, SetName.text, scopePrefix, ownerPart, kindPart, List.isSuffixOf] <;> rfl

def setCommands (set : SetDeclaration) : List SetCommand :=
  [.flush set.name] ++ addElements set.name set.elements

def isStaticSet (set : SetDeclaration) : Bool := !isDynamic set.name

@[simp] theorem addElements_nil (set : String) : addElements set [] = [] := rfl

def elementsAfter (name : String) (commands : List SetCommand) (elements : List String) :
    List String :=
  (commands.filter (·.set = name)).foldl (fun elements command => command.change elements) elements

theorem elementsAfter_append (name : String) (first second : List SetCommand)
    (elements : List String) :
    elementsAfter name (first ++ second) elements =
      elementsAfter name second (elementsAfter name first elements) := by
  simp [elementsAfter, List.filter_append, List.foldl_append]

theorem elementsAfter_own (set : SetDeclaration) (elements : List String) :
    elementsAfter set.name (setCommands set) elements = set.elements := by
  by_cases empty : set.elements = [] <;>
    simp [elementsAfter, setCommands, addElements, empty, SetCommand.set, SetCommand.change]

theorem elementsAfter_other {set : SetDeclaration} {name : String} (other : set.name ≠ name)
    (elements : List String) : elementsAfter name (setCommands set) elements = elements := by
  by_cases empty : set.elements = [] <;>
    simp [elementsAfter, setCommands, addElements, empty, SetCommand.set, other]

theorem elementsAfter_absent {sets : List SetDeclaration} {name : String}
    (absent : ∀ set ∈ sets, set.name ≠ name) (elements : List String) :
    elementsAfter name (sets.flatMap setCommands) elements = elements := by
  induction sets generalizing elements with
  | nil => rfl
  | cons set rest ih =>
      rw [List.flatMap_cons, elementsAfter_append, elementsAfter_other (absent set (by simp)),
        ih fun other member => absent other (by simp [member])]

theorem elementsAfter_declared {sets : List SetDeclaration} (distinct : (sets.map (·.name)).Nodup)
    {set : SetDeclaration} (member : set ∈ sets) (elements : List String) :
    elementsAfter set.name (sets.flatMap setCommands) elements = set.elements := by
  induction sets generalizing elements with
  | nil => simp at member
  | cons first rest ih =>
      rw [List.map_cons, List.nodup_cons] at distinct
      rw [List.flatMap_cons, elementsAfter_append]
      rcases List.mem_cons.mp member with rfl | later
      · rw [elementsAfter_own, elementsAfter_absent]
        intro other otherMember same
        exact distinct.1 (List.mem_map.mpr ⟨other, otherMember, same⟩)
      · have other : first.name ≠ set.name := by
          intro same
          exact distinct.1 (List.mem_map.mpr ⟨set, later, same.symm⟩)
        rw [elementsAfter_other other]
        exact ih distinct.2 later elements

def setAfter (commands : List SetCommand) (set : SetDeclaration) : SetDeclaration :=
  { set with elements := elementsAfter set.name commands set.elements }

theorem runSetCommands_some {commands : List SetCommand} {sets after : List SetDeclaration}
    (ran : runSetCommands commands sets = some after) :
    after = sets.map (setAfter commands) := by
  induction commands generalizing sets with
  | nil =>
      obtain rfl := Option.some.inj ran
      exact (List.map_id sets).symm
  | cons command rest ih =>
      rw [runSetCommands] at ran
      split at ran
      · rw [ih ran, changeSet, List.map_map]
        refine List.map_congr_left ?_
        intro set _
        by_cases own : set.name = command.set
        · simp [own, setAfter, elementsAfter]
        · have other : command.set ≠ set.name := Ne.symm own
          simp [own, other, setAfter, elementsAfter]
      · simp at ran

/-! The static refresh of a configuration. -/

theorem isDynamic_static (front safeName : String) :
    isDynamic (front ++ safeName ++ "_static") = false := by
  simp [isDynamic, List.isSuffixOf]
  rfl

theorem isDynamic_dynamic (front safeName : String) :
    isDynamic (front ++ safeName ++ "_dynamic") = true := by
  simp [isDynamic, List.isSuffixOf]

theorem defaultTarget_refresh (config : AppConfig) (interface : String)
    (routes domains : List String) :
    refreshTarget (defaultTarget config interface routes domains) =
      ((clientSets (defaultTarget config interface routes domains) ++
        hostSets (defaultTarget config interface routes domains)).filter isStaticSet).flatMap
          setCommands := by
  have static : isDynamic "split_v4_static" = false ∧ isDynamic "split_v6_static" = false := by decide
  have dynamic : isDynamic "split_v4_dynamic" = true ∧ isDynamic "split_v6_dynamic" = true := by decide
  simp [refreshTarget, defaultTarget, RoutingTarget.hostEnabled, truthy, clientSets, hostSets,
    isStaticSet, static, dynamic, setCommands, addElements]

theorem NamedFrom.refresh {files : Files} {config : AppConfig} {profile : UpstreamProfileConfig}
    {target : RoutingTarget} (named : NamedFrom files config profile target) :
    refreshTarget target =
      ((clientSets target ++ hostSets target).filter isStaticSet).flatMap setCommands := by
  obtain ⟨base, lists, fwmark, -, -, -, -, rfl⟩ := named
  cases host : hostActive profile lists <;>
    simp [refreshTarget, namedTarget, RoutingTarget.hostEnabled, host, truthy, clientSets, hostSets,
      isStaticSet, isDynamic_static, isDynamic_dynamic, setCommands]

def declaredType (set : SetDeclaration) : String × Family := (set.name, set.type)

def SetName.declaredType (name : SetName) : String × Family := (name.text, name.family)

theorem defaultTarget_declaredTypes (config : AppConfig) (interface : String)
    (routes domains : List String) :
    (clientSets (defaultTarget config interface routes domains) ++
        hostSets (defaultTarget config interface routes domains)).map declaredType =
      (setNameOf .client none).map SetName.declaredType := by
  simp [clientSets, hostSets, defaultTarget, RoutingTarget.hostEnabled, truthy, declaredType,
    setNameOf, SetName.declaredType, SetName.text, scopePrefix, ownerPart, kindPart]

theorem NamedFrom.declaredTypes {files : Files} {config : AppConfig}
    {profile : UpstreamProfileConfig} {target : RoutingTarget}
    (named : NamedFrom files config profile target) :
    (clientSets target ++ hostSets target).map declaredType =
      (namedSetNames target).map SetName.declaredType := by
  obtain ⟨base, lists, fwmark, -, -, -, -, rfl⟩ := named
  cases host : hostActive profile lists <;>
    simp [clientSets, hostSets, namedTarget, RoutingTarget.hostEnabled, host, truthy, declaredType,
      namedSetNames, setNameOf, SetName.declaredType, SetName.text, scopePrefix, ownerPart, kindPart,
      String.append_assoc]

theorem hostSplitSets_declaredTypes (config : AppConfig) (hostSplitRoutes : List String) :
    (hostSplitSets config hostSplitRoutes).map declaredType =
      (if hostSplitActive config then setNameOf .hostSplit none else []).map
        SetName.declaredType := by
  cases active : hostSplitActive config <;>
    simp [hostSplitSets, active, declaredType, setNameOf, SetName.declaredType, SetName.text,
      scopePrefix, ownerPart, kindPart]

theorem exists_setName {sets : List SetDeclaration} {names : List SetName}
    (same : sets.map declaredType = names.map SetName.declaredType) {set : SetDeclaration}
    (member : set ∈ sets) : ∃ name : SetName, name.text = set.name ∧ name.family = set.type := by
  have listed : declaredType set ∈ names.map SetName.declaredType :=
    same ▸ List.mem_map_of_mem member
  obtain ⟨name, -, equal⟩ := List.mem_map.mp listed
  exact ⟨name, congrArg Prod.fst equal, congrArg Prod.snd equal⟩

section Resolved

variable {files : Files} {config : AppConfig} {kept : List UpstreamProfileConfig}
  {named : List RoutingTarget}

theorem Kept.refresh_commands (pairs : Kept files config kept named) (interface : String)
    (routes domains hostSplitRoutes : List String) :
    (refreshOf config (defaultTarget config interface routes domains :: named)
        hostSplitRoutes).commands =
      ((tableSets config (defaultTarget config interface routes domains :: named)
        hostSplitRoutes).filter isStaticSet).flatMap setCommands := by
  have perTarget : (defaultTarget config interface routes domains :: named).flatMap refreshTarget =
      (defaultTarget config interface routes domains :: named).flatMap fun target =>
        ((clientSets target ++ hostSets target).filter isStaticSet).flatMap setCommands := by
    refine List.flatMap_congr ?_
    intro target member
    rcases List.mem_cons.mp member with rfl | inNamed
    · exact defaultTarget_refresh config interface routes domains
    · obtain ⟨profile, -, from'⟩ := pairs.profileOf inNamed
      exact from'.refresh
  have split : (if hostSplitActive config then
        [.flush "host_split_v4_static"] ++ addElements "host_split_v4_static" hostSplitRoutes ++
          [.flush "host_split_v6_static"] else []) =
      ((hostSplitSets config hostSplitRoutes).filter isStaticSet).flatMap setCommands := by
    have static : isDynamic "host_split_v4_static" = false ∧
        isDynamic "host_split_v6_static" = false := by decide
    have dynamic : isDynamic "host_split_v4_dynamic" = true ∧
        isDynamic "host_split_v6_dynamic" = true := by decide
    cases active : hostSplitActive config <;>
      simp [hostSplitSets, active, isStaticSet, static, dynamic, setCommands]
  rw [refreshOf, perTarget, split, tableSets, List.filter_append, List.flatMap_append,
    List.filter_flatMap, List.flatMap_assoc]

theorem Kept.set_name (pairs : Kept files config kept named) {interface : String}
    {routes domains hostSplitRoutes : List String} {set : SetDeclaration}
    (declared : set ∈ tableSets config (defaultTarget config interface routes domains :: named)
      hostSplitRoutes) :
    ∃ name : SetName, name.text = set.name ∧ name.family = set.type := by
  rcases List.mem_append.mp declared with perTarget | split
  · obtain ⟨target, member, declared⟩ := List.mem_flatMap.mp perTarget
    rcases List.mem_cons.mp member with rfl | inNamed
    · exact exists_setName (defaultTarget_declaredTypes config interface routes domains) declared
    · obtain ⟨profile, -, from'⟩ := pairs.profileOf inNamed
      exact exists_setName from'.declaredTypes declared
  · exact exists_setName (hostSplitSets_declaredTypes config hostSplitRoutes) split

end Resolved

def findSet (name : String) (sets : List SetDeclaration) : Option SetDeclaration :=
  sets.find? (·.name = name)

/-- The dynamic sets hold what `contents` says. -/
def keepDynamic (contents : String → List String) (set : SetDeclaration) : SetDeclaration :=
  if isDynamic set.name then { set with elements := contents set.name } else set

@[simp] theorem keepDynamic_name (contents : String → List String) (set : SetDeclaration) :
    (keepDynamic contents set).name = set.name := by
  unfold keepDynamic
  split <;> rfl

@[simp] theorem keepDynamic_type (contents : String → List String) (set : SetDeclaration) :
    (keepDynamic contents set).type = set.type := by
  unfold keepDynamic
  split <;> rfl

theorem findSet_map {change : SetDeclaration → SetDeclaration}
    (keepsName : ∀ set, (change set).name = set.name) (name : String) (sets : List SetDeclaration) :
    findSet name (sets.map change) = (findSet name sets).map change := by
  have named : (fun set : SetDeclaration => decide (set.name = name)) ∘ change =
      fun set => decide (set.name = name) := by
    funext set
    rw [Function.comp_apply, keepsName]
  rw [findSet, findSet, List.find?_map, named]

theorem findSet_some {name : String} {sets : List SetDeclaration} {set : SetDeclaration}
    (found : findSet name sets = some set) : set ∈ sets ∧ set.name = name :=
  ⟨List.mem_of_find?_eq_some found, by simpa using List.find?_some found⟩

theorem findSet_none {name : String} {sets : List SetDeclaration} :
    findSet name sets = none ↔ name ∉ sets.map (·.name) := by
  simp [findSet]

theorem setAfter_keepDynamic {declared : List SetDeclaration}
    (distinct : (declared.map (·.name)).Nodup) {set other : SetDeclaration}
    (inDeclared : other ∈ declared) (names : set.name = other.name) (types : set.type = other.type)
    (contents : String → List String) :
    setAfter ((declared.filter isStaticSet).flatMap setCommands) (keepDynamic contents set) =
      keepDynamic contents other := by
  obtain ⟨name, type, elements⟩ := set
  simp only at names types
  subst names types
  cases dynamic : isDynamic other.name with
  | true =>
      have untouched : ∀ static ∈ declared.filter isStaticSet, static.name ≠ other.name := by
        intro static member same
        have kept := (List.mem_filter.mp member).2
        simp [isStaticSet, same, dynamic] at kept
      simp [setAfter, keepDynamic, dynamic, elementsAfter_absent untouched]
  | false =>
      have member : other ∈ declared.filter isStaticSet :=
        List.mem_filter.mpr ⟨inDeclared, by simp [isStaticSet, dynamic]⟩
      have staticDistinct : ((declared.filter isStaticSet).map (·.name)).Nodup :=
        (List.filter_sublist.map _).nodup distinct
      simp [setAfter, keepDynamic, dynamic, elementsAfter_declared staticDistinct member]

/-- Refreshing the sets of one definition with the static part of another that has the
same set names gives the sets of the other, dynamic contents apart. -/
theorem refreshedSets {sets before declared after : List SetDeclaration}
    {contents : String → List String} (distinct : (declared.map (·.name)).Nodup)
    (live : ∀ name, findSet name sets = findSet name (before.map (keepDynamic contents)))
    (sameNames : ∀ name, name ∈ sets.map (·.name) ↔ name ∈ declared.map (·.name))
    (sameTypes : ∀ set ∈ before, ∀ other ∈ declared, set.name = other.name → set.type = other.type)
    (ran : runSetCommands ((declared.filter isStaticSet).flatMap setCommands) sets = some after)
    (name : String) : findSet name after = findSet name (declared.map (keepDynamic contents)) := by
  have keepsName : ∀ set, (setAfter ((declared.filter isStaticSet).flatMap setCommands) set).name =
      set.name := fun _ => rfl
  have found := live name
  rw [findSet_map (keepDynamic_name contents)] at found
  rw [runSetCommands_some ran, findSet_map keepsName, found, findSet_map (keepDynamic_name contents)]
  cases foundBefore : findSet name before with
  | none =>
      have absent : name ∉ declared.map (·.name) := by
        rw [← sameNames, ← findSet_none, found, foundBefore]
        rfl
      rw [findSet_none.mpr absent]
      rfl
  | some set =>
      obtain ⟨inBefore, setName⟩ := findSet_some foundBefore
      have present : name ∈ declared.map (·.name) := by
        rw [← sameNames]
        by_contra absent
        rw [findSet_none.mpr absent, foundBefore] at found
        simp at found
      cases foundDeclared : findSet name declared with
      | none => exact absurd present (findSet_none.mp foundDeclared)
      | some other =>
          obtain ⟨inDeclared, otherName⟩ := findSet_some foundDeclared
          have names := setName.trans otherName.symm
          have types := sameTypes set inBefore other inDeclared names
          simp only [Option.map_some, setAfter_keepDynamic distinct inDeclared names types contents]

end Korserver
