import Korserver.SetNames
import Korserver.UpstreamServiceCore

/-!
The reserved name of the default target. Five places tell the default target from the
named ones by comparing a name with `"default"`, which is a legal profile name.
-/

namespace Korserver

open PythonText PythonValue PacketFilter

def withClientTraffic (config : AppConfig) (clientTraffic : Bool) : AppConfig :=
  { config with routing := { config.routing with clientTraffic } }

/-- Names and set names are distinct, and every consumer takes the targets after the first,
which stem from profiles, for named targets. -/
structure UniformlyTreated (files : Files) (config : AppConfig) (targets : List RoutingTarget) :
    Prop where
  names : (targetNames targets).Nodup
  setNames : (targets.flatMap targetSetNames ++ hostSplitSetNames).Nodup
  marked : ∀ target ∈ targets.tail, ∀ clientTraffic,
    clientMarking (withClientTraffic config clientTraffic) target = splitMarking target
  translated : ∀ resolved, resolved.targets = targets → ∀ target ∈ targets.tail,
    namedMasquerade config target ∈ natRules config resolved
  routed : ∃ routings, namedTargetRouting files config = .ok routings ∧
    ∀ target ∈ targets.tail, ∃ profile, profile.name = target.name ∧
      (profile, target.policyRouting) ∈ routings
  recorded : ∀ target ∈ targets, (target.name, target.policyRouting) ∈ targetsState targets

section Listed

variable {files : Files} {config : AppConfig} {interface : String}

theorem listTargets_interface {default : RoutingTarget} {named : List RoutingTarget}
    (listed : listTargets files config interface = .ok (default :: named)) (other : String) :
    ∃ default', default'.name = "default" ∧
      listTargets files config other = .ok (default' :: named) := by
  simp only [listTargets, bind_ok, pure_ok, List.cons.injEq] at listed
  obtain ⟨routes, routesListed, domains, domainsListed, named', namedListed, -, rfl⟩ := listed
  refine ⟨defaultTarget config other routes domains, rfl, ?_⟩
  simp only [listTargets, bind_ok, pure_ok]
  exact ⟨routes, routesListed, domains, domainsListed, named', namedListed, rfl⟩

theorem namedTargetRouting_mem {default : RoutingTarget} {named : List RoutingTarget}
    {kept : List UpstreamProfileConfig} (pairs : Kept files config kept named)
    (listed : listTargets files config interface = .ok (default :: named))
    (enabled : config.upstream.enabled = true)
    (distinct : (targetNames named).Nodup)
    (proper : ∀ target ∈ named, target.name ≠ "default") :
    ∃ routings, namedTargetRouting files config = .ok routings ∧
      ∀ target ∈ named, ∃ profile, profile.name = target.name ∧
        (profile, target.policyRouting) ∈ routings := by
  obtain ⟨default', reserved, relisted⟩ :=
    listTargets_interface listed config.routing.mainInterface
  have others : (default' :: named).filter (fun target => target.name ≠ "default") = named := by
    rw [List.filter_cons_of_neg (by simp [reserved])]
    exact List.filter_eq_self.mpr fun target member => by simp [proper target member]
  have keys : ((named.map fun target => (target.name, target)).map Prod.fst).Nodup := by
    rw [List.map_map]
    exact distinct
  have routing : namedTargetRouting files config =
      .ok (config.upstream.profiles.filterMap fun profile =>
        (dictGet profile.name (named.map fun target => (target.name, target))).map fun target =>
          (profile, target.policyRouting)) := by
    rw [namedTargetRouting, if_pos enabled, relisted]
    simp only [bind, Except.bind, others, dictOf_nodup keys]
    rfl
  refine ⟨_, routing, ?_⟩
  intro target member
  obtain ⟨profile, inProfiles, from'⟩ := pairs.profileOf member
  refine ⟨profile, from'.name.symm, List.mem_filterMap.mpr ⟨profile, inProfiles, ?_⟩⟩
  have found : dictGet profile.name (named.map fun target => (target.name, target)) = some target :=
    dictGet_of_mem keys (List.mem_map.mpr ⟨target, member, by rw [from'.name]⟩)
  rw [found]
  rfl

end Listed

/-- The targets are uniquely named and uniformly treated exactly if no profile with traffic
of its own is called `default`. -/
theorem uniformlyTreated_iff {files : Files} {config : AppConfig} {interface : String}
    {targets : List RoutingTarget} (valid : config.Valid)
    (listed : listTargets files config interface = .ok targets) :
    UniformlyTreated files config targets ↔
      (config.upstream.enabled = true → ∀ profile ∈ config.upstream.profiles,
        HasOwnTraffic files config profile → profile.name ≠ "default") := by
  obtain ⟨routes, domains, named, -, namedListed, rfl⟩ := listTargets_ok listed
  obtain ⟨kept, pairs⟩ := namedTargets_kept namedListed
  have facts := valid.facts
  constructor
  · intro uniform enabled profile inProfiles traffic reserved
    obtain ⟨target, member, from'⟩ := pairs.targetOf (pairs.complete enabled profile inProfiles traffic)
    have distinct := uniform.names
    rw [targetNames, List.map_cons, List.nodup_cons] at distinct
    refine distinct.1 (List.mem_map.mpr ⟨target, member, ?_⟩)
    rw [from'.name, reserved]
    rfl
  · intro unreserved
    have proper : ∀ target ∈ named, target.name ≠ "default" := by
      intro target member
      obtain ⟨profile, inProfiles, from'⟩ := pairs.profileOf member
      rw [from'.name]
      exact unreserved (namedTargets_enabled namedListed member) profile inProfiles from'.hasOwnTraffic
    have distinct : (targetNames named).Nodup :=
      pairs.nodup (·.name) (·.name) (fun _ _ _ from' => from'.name) facts.names
    have names : (targetNames (defaultTarget config interface routes domains :: named)).Nodup := by
      rw [targetNames, List.map_cons, List.nodup_cons]
      refine ⟨?_, distinct⟩
      intro member
      obtain ⟨target, inNamed, same⟩ := List.mem_map.mp member
      exact proper target inNamed same
    refine {
      names
      setNames := pairs.setNames_nodup facts interface routes domains
      marked := ?_
      translated := ?_
      routed := ?_
      recorded := ?_ }
    · intro target member clientTraffic
      obtain ⟨profile, -, from'⟩ := pairs.profileOf member
      simp [clientMarking, proper target member, from'.mode]
    · intro resolved resolvedTargets target member
      have inFilter : target ∈ resolved.targets.filter (·.name ≠ "default") := by
        rw [resolvedTargets]
        exact List.mem_filter.mpr ⟨List.mem_cons_of_mem _ member, by simp [proper target member]⟩
      simp only [natRules, List.mem_append]
      exact Or.inl (Or.inl (Or.inl (List.mem_map_of_mem inFilter)))
    · by_cases enabled : config.upstream.enabled = true
      · exact namedTargetRouting_mem pairs listed enabled distinct proper
      · refine ⟨[], by simp [namedTargetRouting, enabled], ?_⟩
        intro target member
        exact absurd (namedTargets_enabled namedListed member) enabled
    · intro target member
      have keys : (((defaultTarget config interface routes domains :: named).map fun target =>
          (target.name, target.policyRouting)).map Prod.fst).Nodup := by
        rw [List.map_map]
        exact names
      rw [targetsState, dictOf_nodup keys]
      exact List.mem_map_of_mem member

theorem uniformlyTreated_iff_sample :
    UniformlyTreated {} sampleConfig sampleTargets ↔
      (sampleConfig.upstream.enabled = true → ∀ profile ∈ sampleConfig.upstream.profiles,
        HasOwnTraffic {} sampleConfig profile → profile.name ≠ "default") :=
  @uniformlyTreated_iff {} sampleConfig "oc-middle0" sampleTargets sampleConfig_valid rfl

def reservedNameConfig : AppConfig where
  upstream := {
    enabled := true
    profiles := [{
      name := "default", server := "vpn.test", username := some "user"
      routes := ["10.50.0.0/16"] }] }

def reservedNameTargets : List RoutingTarget :=
  match listTargets {} reservedNameConfig "oc-middle0" with
  | .ok targets => targets
  | .error _ => []

theorem reservedName_collides :
    reservedNameConfig.Valid ∧
      listTargets {} reservedNameConfig "oc-middle0" = .ok reservedNameTargets ∧
      ¬UniformlyTreated {} reservedNameConfig reservedNameTargets := by
  refine ⟨⟨fun _ => false, by decide⟩, rfl, ?_⟩
  intro uniform
  have names := uniform.names
  revert names
  decide

end Korserver
