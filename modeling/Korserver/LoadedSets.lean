import Korserver.StaticRefresh

/-!
The elements of the live static sets after an apply that succeeded, whichever way it loaded them.
-/

namespace Korserver

open PythonText PythonValue IpAddress PacketFilter

def declaredElements (sets : List SetDeclaration) (name : String) : List String :=
  (findSet name sets).elim [] (·.elements)

def HostState.elements (host : HostState) (config : AppConfig) (name : String) : List String :=
  (host.inet (filterTable config)).elim [] fun table => declaredElements table.sets name

section Applied

variable {answers : Answers} {files : Files} {config : AppConfig} {outbound : Option String}
  {host after : HostState} {result : RulesetResult}

theorem declaredElements_refreshed {declared sets : List SetDeclaration} {name : String}
    (distinct : (declared.map (·.name)).Nodup) (static : isDynamic name = false)
    (sameNames : name ∈ sets.map (·.name) ↔ name ∈ declared.map (·.name)) :
    declaredElements (sets.map (setAfter ((declared.filter isStaticSet).flatMap setCommands))) name =
      declaredElements declared name := by
  have found : findSet name
      (sets.map (setAfter ((declared.filter isStaticSet).flatMap setCommands))) =
        (findSet name sets).map (setAfter ((declared.filter isStaticSet).flatMap setCommands)) :=
    @findSet_map (setAfter ((declared.filter isStaticSet).flatMap setCommands)) (fun _ => rfl) name sets
  unfold declaredElements
  rw [found]
  cases foundDeclared : findSet name declared with
  | none =>
      rw [findSet_none.mpr (sameNames.not.mpr (findSet_none.mp foundDeclared))]
      rfl
  | some other =>
      obtain ⟨inDeclared, rfl⟩ := findSet_some foundDeclared
      cases foundLive : findSet other.name sets with
      | none =>
          have present := sameNames.mpr (List.mem_map_of_mem inDeclared)
          exact absurd present (findSet_none.mp foundLive)
      | some set =>
          obtain ⟨-, same⟩ := findSet_some foundLive
          have isStatic : other ∈ declared.filter isStaticSet :=
            List.mem_filter.mpr ⟨inDeclared, by simp [isStaticSet, static]⟩
          have staticDistinct : ((declared.filter isStaticSet).map (·.name)).Nodup :=
            (List.filter_sublist.map _).nodup distinct
          simp only [Option.map_some, Option.elim_some, setAfter, same,
            elementsAfter_declared staticDistinct isStatic]

theorem applied_elements (facts : config.Facts)
    (ran : nftablesApply answers files config outbound host = .ok (result, after))
    (loaded : result ≠ .failed) :
    ∃ routes domains named kept split, namedTargets files config = .ok named ∧
      Kept files config kept named ∧ ∀ name, isDynamic name = false →
        after.elements config name = declaredElements (tableSets config
          (defaultTarget config (resolvedInterface config outbound) routes domains :: named) split) name := by
  obtain ⟨resolved, middle, resolution, ruleset, rfl⟩ := nftablesApply_cases ran
  rw [if_neg loaded]
  obtain ⟨routes, domains, named, kept, -, namedListed, pairs, rfl⟩ := resolveTargets_ok resolution
  have distinct := pairs.declaredNames_nodup facts (resolvedInterface config outbound) routes domains
  rcases applyRuleset_cases ruleset with ⟨-, refresh, ready, rendered, -, refreshed⟩ |
    ⟨-, full, rendered, -, rfl⟩ | ⟨failed, -⟩
  · obtain ⟨_, split, resolution', -, rfl⟩ := renderStaticRefresh_ok rendered
    obtain rfl := Except.ok.inj (resolution.symm.trans resolution')
    obtain ⟨table, sets, present, commands, rfl⟩ := HostState.refresh_some refreshed
    refine ⟨routes, domains, named, kept, split, namedListed, pairs, fun name static => ?_⟩
    have names := staticSetsReady_true ready resolution present name
    rw [pairs.refresh_commands] at commands
    rw [← pairs.declaredNames _ routes domains split] at names distinct
    rw [← declaredElements_refreshed distinct static names, ← runSetCommands_some commands]
    change (Function.update host.inet (filterTable config) (some _) (filterTable config)).elim [] _ = _
    rw [Function.update_self]
    rfl
  · obtain ⟨_, split, resolution', -, rfl⟩ := render_ok rendered
    obtain rfl := Except.ok.inj (resolution.symm.trans resolution')
    refine ⟨routes, domains, named, kept, split, namedListed, pairs, fun name _ => ?_⟩
    change (Function.update host.inet (filterTable config) (some _) (filterTable config)).elim [] _ = _
    rw [Function.update_self]
    rfl
  · exact absurd failed loaded

end Applied

def hostSetOf (family : Family) (dynamic : Bool) (profile : UpstreamProfileConfig) : SetName where
  scope := .host
  family := family
  owner := some (profileSafeName profile.name)
  dynamic := dynamic

def loadedHostRoutes (files : Files) (config : AppConfig) (family : Family)
    (profile : UpstreamProfileConfig) : List String :=
  if config.upstream.enabled then
    match hostLists profile (files.effectivePushed config profile) with
    | .ok lists =>
        if hostActive profile lists then lists.routes.filter (familyOf · == some family) else []
    | .error _ => []
  else []

theorem findSet_of_mem {sets : List SetDeclaration} (distinct : (sets.map (·.name)).Nodup)
    {set : SetDeclaration} (member : set ∈ sets) : findSet set.name sets = some set := by
  induction sets with
  | nil => simp at member
  | cons first rest ih =>
      rw [List.map_cons, List.nodup_cons] at distinct
      rcases List.mem_cons.mp member with rfl | later
      · simp [findSet]
      · have other : first.name ≠ set.name := by
          intro same
          exact distinct.1 (same ▸ List.mem_map_of_mem later)
        rw [findSet, List.find?_cons_of_neg (by simpa using other)]
        exact ih distinct.2 later

section Declared

variable {files : Files} {config : AppConfig} {kept : List UpstreamProfileConfig}
  {named : List RoutingTarget} (pairs : Kept files config kept named)
  (listed : namedTargets files config = .ok named) (facts : config.Facts)
  {profile : UpstreamProfileConfig} (member : profile ∈ config.upstream.profiles)

include pairs listed facts member

theorem hostLists_of_declared {routes domains split : List String} {interface : String}
    {family : Family} {dynamic : Bool}
    (declared : (hostSetOf family dynamic profile).text ∈ (tableSets config
      (defaultTarget config interface routes domains :: named) split).map (·.name)) :
    config.upstream.enabled = true ∧ ∃ lists,
      hostLists profile (files.effectivePushed config profile) = .ok lists ∧
        hostActive profile lists = true := by
  rw [pairs.declaredNames] at declared
  have inTable : (hostSetOf family dynamic profile).text ∈
      (tableSetNames named).map SetName.text := by
    rw [← pairs.setNames interface routes domains]
    rcases List.mem_append.mp declared with perTarget | shared
    · exact List.mem_append_left _ perTarget
    · split at shared
      · exact List.mem_append_right _ shared
      · simp at shared
  obtain ⟨name, inNames, same⟩ := List.mem_map.mp inTable
  obtain rfl := SetName.text_injective same
  rcases List.mem_append.mp inNames with front | shared
  · rcases List.mem_append.mp front with default | inNamed
    · exact absurd (mem_setNameOf default).1 (by simp [hostSetOf])
    · obtain ⟨target, inTargets, inTarget⟩ := List.mem_flatMap.mp inNamed
      obtain ⟨other, otherMember, from'⟩ := pairs.profileOf inTargets
      have owner := (mem_namedSetNames inTarget).2
      rw [from'.name] at owner
      have sameProfile : profile = other :=
        List.inj_on_of_nodup_map facts.safeNames member otherMember (Option.some.inj owner)
      subst sameProfile
      have host : target.hostEnabled = true := by
        rcases List.mem_append.mp inTarget with client | host
        · exact absurd (mem_setNameOf client).1 (by simp [hostSetOf])
        · by_contra off
          rw [if_neg off] at host
          simp at host
      obtain ⟨base, lists, fwmark, -, found, -, -, rfl⟩ := from'
      refine ⟨namedTargets_enabled listed inTargets, lists, found, ?_⟩
      by_contra inactive
      simp [namedTarget, RoutingTarget.hostEnabled, inactive, truthy] at host
  · exact absurd (mem_setNameOf shared).1 (by simp [hostSetOf])

theorem hostSet_declared (interface : String) (routes domains split : List String) (family : Family) :
    declaredElements (tableSets config (defaultTarget config interface routes domains :: named) split)
        (hostSetOf family false profile).text =
      loadedHostRoutes files config family profile := by
  by_cases used : config.upstream.enabled = true ∧ ∃ lists,
      hostLists profile (files.effectivePushed config profile) = .ok lists ∧
        hostActive profile lists = true
  · obtain ⟨enabled, lists, found, active⟩ := used
    have distinct := pairs.declaredNames_nodup facts interface routes domains
    rw [← pairs.declaredNames interface routes domains split] at distinct
    obtain ⟨target, inNamed, from'⟩ := pairs.targetOf
      (pairs.complete enabled profile member ⟨lists, found, Or.inr active⟩)
    obtain ⟨base, lists', fwmark, -, found', -, -, rfl⟩ := from'
    obtain rfl := Except.ok.inj (found.symm.trans found')
    have declared : (⟨(hostSetOf family false profile).text, family,
        lists.routes.filter (familyOf · == some family)⟩ : SetDeclaration) ∈
          tableSets config (defaultTarget config interface routes domains :: named) split := by
      refine List.mem_append_left _
        (List.mem_flatMap.mpr ⟨_, List.mem_cons_of_mem _ inNamed, List.mem_append_right _ ?_⟩)
      have names := text_host (profileSafeName profile.name)
      simp only [setNameOf, List.map_cons, List.map_nil, List.cons.injEq, and_true] at names
      cases family with
      | v4 =>
          have name : (hostSetOf .v4 false profile).text = _ := names.1
          simp [hostSets, namedTarget, RoutingTarget.hostEnabled, active, truthy, splitByFamily, name]
      | v6 =>
          have name : (hostSetOf .v6 false profile).text = _ := names.2.2.1
          simp [hostSets, namedTarget, RoutingTarget.hostEnabled, active, truthy, splitByFamily, name]
    have isFound := findSet_of_mem distinct declared
    simp only at isFound
    rw [declaredElements, isFound, loadedHostRoutes, if_pos enabled, found]
    simp only [active, if_true, Option.elim_some]
  · have absent : (hostSetOf family false profile).text ∉ (tableSets config
        (defaultTarget config interface routes domains :: named) split).map (·.name) := fun declared =>
      used (hostLists_of_declared pairs listed facts member declared)
    rw [declaredElements, findSet_none.mpr absent, loadedHostRoutes]
    split
    · rename_i enabled
      split
      · rename_i lists found
        split
        · rename_i active
          exact absurd ⟨enabled, lists, found, active⟩ used
        · rfl
      · rfl
    · rfl

end Declared

end Korserver
