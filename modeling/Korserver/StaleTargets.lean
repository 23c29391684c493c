import Korserver.NftablesService
import Korserver.PolicyRouting
import Korserver.Runs

/-!
The cleanup of recorded targets over runs of applies. Entries are recorded by name while
marks and tables are derived from list positions and overrides, so a pair can pass to
another name, or change under a name that stays.
-/

namespace Korserver

open PythonText PythonValue Runs

/-- One `NftablesService.apply`: the configuration it runs under, the files it reads and
how its commands answer. -/
structure ApplyCall where
  answers : Answers
  files : Files
  config : AppConfig
  outbound : Option String := none

def ApplyCall.run (call : ApplyCall) (host : HostState) :
    Except PyError (RulesetResult × HostState) :=
  nftablesApply call.answers call.files call.config call.outbound host

def applyStep (host : HostState) (call : ApplyCall) : HostState :=
  match call.run host with
  | .ok (_, after) => after
  | .error _ => host

def ApplyCall.targets (call : ApplyCall) : List RoutingTarget :=
  match resolveTargets call.files call.config call.outbound with
  | .ok resolved => resolved.targets
  | .error _ => []

def ApplyCall.Stale (call : ApplyCall) (host : HostState) (routing : PolicyRouting) : Prop :=
  IsStale (targetNames call.targets) (host.stateFiles (targetsStatePath call.config)).previous routing

/-- A valid configuration is applied, no command fails and nothing is raised. -/
structure Succeeds (host : HostState) (call : ApplyCall) : Prop where
  valid : call.config.Valid
  completes : ∃ result after, call.run host = .ok (result, after) ∧ result ≠ .failed
  links : ∀ device, call.answers.links device = true
  marks : ∀ target ∈ call.targets, (intLiteral target.fwmark).isSome = true

section Step

variable {host : HostState} {call : ApplyCall}

theorem Succeeds.resolved (succeeds : Succeeds host call) :
    ∃ resolved, resolveTargets call.files call.config call.outbound = .ok resolved ∧
      resolved.targets = call.targets := by
  obtain ⟨result, after, ran, -⟩ := succeeds.completes
  obtain ⟨resolved, -, resolution, -, -⟩ := nftablesApply_cases ran
  exact ⟨resolved, resolution, by simp [ApplyCall.targets, resolution]⟩

theorem Succeeds.policy (succeeds : Succeeds host call) :
    (applyStep host call).policy =
      cleanupEntries (targetNames call.targets)
        (host.stateFiles (targetsStatePath call.config)).previous
        (reassertPolicyRouting call.answers.links call.config call.targets host.policy) := by
  obtain ⟨result, after, ran, passed⟩ := succeeds.completes
  obtain ⟨resolved, loaded, resolution, load, rfl⟩ := nftablesApply_cases ran
  obtain ⟨policy, stateFiles⟩ := applyRuleset_frame load
  have targets : resolved.targets = call.targets := by simp [ApplyCall.targets, resolution]
  simp only [applyStep, ran, if_neg passed, cleanupStaleTargets, HostState.reassert, policy,
    stateFiles, targets]

theorem Succeeds.tableIds (succeeds : Succeeds host call) :
    (call.targets.map (·.tableId)).Nodup := by
  obtain ⟨resolved, resolution, targets⟩ := succeeds.resolved
  obtain ⟨routes, domains, named, kept, -, -, pairs, rfl⟩ := resolveTargets_ok resolution
  rw [← targets]
  exact pairs.tableIds_nodup succeeds.valid.facts

theorem Succeeds.eq_of_tableId (succeeds : Succeeds host call) {target other : RoutingTarget}
    (member : target ∈ call.targets) (otherMember : other ∈ call.targets)
    (same : other.tableId = target.tableId) : other = target :=
  List.inj_on_of_nodup_map succeeds.tableIds otherMember member same

end Step

theorem PolicyRouting.rule_table {routing : PolicyRouting} {rule : PolicyRule}
    (own : routing.rule = some rule) : rule.table = routing.tableId := by
  obtain ⟨mark, -, rfl⟩ := Option.map_eq_some_iff.mp own
  rfl

def liveTargets (config : AppConfig) (targets : List RoutingTarget) : List RoutingTarget :=
  if config.upstream.enabled then
    match targets with
    | [] => []
    | default :: named =>
        (if config.upstream.selectedProfile.isSome then [default] else []) ++ named
  else []

theorem liveTargets_subset (config : AppConfig) (targets : List RoutingTarget) :
    liveTargets config targets ⊆ targets := by
  unfold liveTargets
  split
  · split
    · simp
    · split <;> simp
  · simp

/-- A target's rule is there and its table's default route leads to its device. -/
structure Installed (config : AppConfig) (tables : PolicyTables) (target : RoutingTarget) :
    Prop where
  rule : ∃ rule ∈ tables.rules, target.policyRouting.rule = some rule
  route : tables.routes target.tableId = some (routeDevice config target.interface)

def KeepsLiveTargets (host : HostState) (call : ApplyCall) : Prop :=
  ∀ target ∈ liveTargets call.config call.targets, Installed call.config host.policy target

/-- No stale entry has the table of a live target, and a live target that is passed over
was installed before. -/
def SparesLiveTargets (host : HostState) (call : ApplyCall) : Prop :=
  ∀ target ∈ liveTargets call.config call.targets,
    (∀ routing, call.Stale host routing → routing.tableId ≠ target.tableId) ∧
      (skipsTarget call.config target = true → Installed call.config host.policy target)

section Live

variable {host : HostState} {call : ApplyCall}

theorem installed_reassert (succeeds : Succeeds host call) {target : RoutingTarget}
    (member : target ∈ call.targets) (enabled : call.config.upstream.enabled = true) :
    Installed call.config
        (reassertPolicyRouting call.answers.links call.config call.targets host.policy) target ↔
      (skipsTarget call.config target = true → Installed call.config host.policy target) := by
  obtain ⟨mark, readable⟩ := Option.isSome_iff_exists.mp (succeeds.marks target member)
  have own : target.policyRouting.rule = some { mark, table := target.tableId } := by
    simp [PolicyRouting.rule, RoutingTarget.policyRouting, readable]
  rw [reassertPolicyRouting, if_pos enabled]
  cases skipped : skipsTarget call.config target with
  | false =>
      simp only [Bool.false_eq_true, false_imp_iff, iff_true]
      constructor
      · exact ⟨_, mem_reassertTargets.mpr (Or.inr ⟨target, member, skipped, own⟩), own⟩
      · exact reassertTargets_routes succeeds.links succeeds.tableIds member skipped host.policy
  | true =>
      have free : ∀ other ∈ call.targets, skipsTarget call.config other = false →
          other.tableId ≠ target.tableId := by
        intro other otherMember reasserted same
        rw [succeeds.eq_of_tableId member otherMember same, skipped] at reasserted
        simp at reasserted
      have route := @reassertTargets_routes_other call.answers.links call.config _ _ free host.policy
      simp only [true_imp_iff]
      constructor
      · rintro ⟨⟨rule, present, own'⟩, routed⟩
        rw [route] at routed
        refine ⟨⟨rule, ?_, own'⟩, routed⟩
        rcases mem_reassertTargets.mp present with old | ⟨other, otherMember, reasserted, otherOwn⟩
        · exact old
        · have same := (PolicyRouting.rule_table otherOwn).symm.trans (PolicyRouting.rule_table own')
          exact absurd same (free other otherMember reasserted)
      · rintro ⟨⟨rule, present, own'⟩, routed⟩
        exact ⟨⟨rule, mem_reassertTargets.mpr (Or.inl present), own'⟩, route.trans routed⟩

theorem installed_cleanup {names : List String} {entries : List (String × PolicyRouting)}
    {config : AppConfig} {tables : PolicyTables} {target : RoutingTarget} :
    Installed config (cleanupEntries names entries tables) target ↔
      Installed config tables target ∧
        ∀ routing, IsStale names entries routing → routing.tableId ≠ target.tableId := by
  constructor
  · rintro ⟨⟨rule, present, own⟩, routed⟩
    obtain ⟨route, spared⟩ := cleanupEntries_routes.mp routed
    exact ⟨⟨⟨rule, (mem_cleanupEntries.mp present).1, own⟩, route⟩, spared⟩
  · rintro ⟨⟨⟨rule, present, own⟩, routed⟩, spared⟩
    refine ⟨⟨rule, mem_cleanupEntries.mpr ⟨present, ?_⟩, own⟩, cleanupEntries_routes.mpr ⟨routed, spared⟩⟩
    intro routing stale same
    have table := (PolicyRouting.rule_table same).symm.trans (PolicyRouting.rule_table own)
    exact spared routing stale table

theorem keepsLiveTargets_step (succeeds : Succeeds host call) :
    KeepsLiveTargets (applyStep host call) call ↔ SparesLiveTargets host call := by
  refine forall₂_congr ?_
  intro target live
  have enabled : call.config.upstream.enabled = true := by
    unfold liveTargets at live
    split at live
    · assumption
    · simp at live
  rw [succeeds.policy, installed_cleanup,
    installed_reassert succeeds (liveTargets_subset _ _ live) enabled, and_comm]
  rfl

end Live

/-- In a run of successful applies every live target is kept after every step if and only
if each step finds nothing stale in a live target's table. -/
theorem cleanup_keepsLiveTargets (host : HostState) (calls : List ApplyCall)
    (succeed : Throughout applyStep Succeeds host calls) :
    AfterEach applyStep KeepsLiveTargets host calls ↔
      Throughout applyStep SparesLiveTargets host calls :=
  throughout_congr (fun _ _ succeeds => keepsLiveTargets_step succeeds) succeed

/-! Two profiles of which the first is deleted: the second takes over its place in the
list, and with it the mark and the table recorded under the first one's name. -/

def routedProfile (name route : String) : UpstreamProfileConfig where
  name := name
  server := "vpn.test"
  username := some "user"
  routes := [route]

def routedProfiles (profiles : List UpstreamProfileConfig) : ApplyCall where
  answers := willingAnswers
  files := {}
  config := { upstream := { enabled := true, profiles } }

def bothProfiles : ApplyCall :=
  routedProfiles [routedProfile "first" "10.50.0.0/16", routedProfile "second" "10.60.0.0/16"]

def secondProfile : ApplyCall := routedProfiles [routedProfile "second" "10.60.0.0/16"]

theorem deletedProfile_succeeds :
    Throughout applyStep Succeeds {} [bothProfiles, secondProfile] := by
  refine ⟨⟨⟨fun _ => false, by decide⟩, ⟨.recreated, _, rfl, by decide⟩, fun _ => rfl, by decide⟩,
    ⟨⟨fun _ => false, by decide⟩, ⟨.recreated, _, rfl, by decide⟩, fun _ => rfl, by decide⟩, trivial⟩

theorem deletedProfile_flushesLiveTable :
    Throughout applyStep Succeeds {} [bothProfiles, secondProfile] ∧
      ¬AfterEach applyStep KeepsLiveTargets {} [bothProfiles, secondProfile] := by
  refine ⟨deletedProfile_succeeds, ?_⟩
  rintro ⟨-, kept, -⟩
  have routed : ∀ target ∈ liveTargets secondProfile.config secondProfile.targets,
      ((applyStep (applyStep {} bothProfiles) secondProfile).policy.routes target.tableId).isSome =
        true := by
    intro target live
    rw [(kept target live).route]
    rfl
  revert routed
  decide

theorem cleanup_keepsLiveTargets_sample :
    AfterEach applyStep KeepsLiveTargets {} [bothProfiles, secondProfile] ↔
      Throughout applyStep SparesLiveTargets {} [bothProfiles, secondProfile] :=
  cleanup_keepsLiveTargets {} [bothProfiles, secondProfile] deletedProfile_succeeds

/-- The targets that may own a rule or a route: none while upstream is disabled. -/
def ApplyCall.owners (call : ApplyCall) : List RoutingTarget :=
  if call.config.upstream.enabled then call.targets else []

def ApplyCall.OwnsRule (call : ApplyCall) (rule : PolicyRule) : Prop :=
  ∃ target ∈ call.owners, target.policyRouting.rule = some rule

def ApplyCall.OwnsTable (call : ApplyCall) (table : Nat) : Prop :=
  ∃ target ∈ call.owners, target.tableId = table

structure NothingLeaked (host : HostState) (call : ApplyCall) : Prop where
  rules : ∀ rule ∈ host.policy.rules, call.OwnsRule rule
  routes : ∀ table device, host.policy.routes table = some device → call.OwnsTable table

/-- Whatever is installed is owned by a current target, or recorded under a stale name. -/
structure NothingForgotten (host : HostState) (call : ApplyCall) : Prop where
  rules : ∀ rule ∈ host.policy.rules,
    call.OwnsRule rule ∨ ∃ routing, call.Stale host routing ∧ routing.rule = some rule
  routes : ∀ table device, host.policy.routes table = some device →
    call.OwnsTable table ∨ ∃ routing, call.Stale host routing ∧ routing.tableId = table

section Leaks

variable {host : HostState} {call : ApplyCall}

theorem ApplyCall.mem_reassert {rule : PolicyRule} :
    rule ∈ (reassertPolicyRouting call.answers.links call.config call.targets host.policy).rules →
      rule ∈ host.policy.rules ∨ call.OwnsRule rule := by
  intro present
  unfold reassertPolicyRouting at present
  split at present
  · rename_i enabled
    rcases mem_reassertTargets.mp present with old | ⟨target, member, -, own⟩
    · exact Or.inl old
    · exact Or.inr ⟨target, by simpa [ApplyCall.owners, enabled] using member, own⟩
  · exact Or.inl present

theorem ApplyCall.mem_reassert_of_mem {rule : PolicyRule} (present : rule ∈ host.policy.rules) :
    rule ∈ (reassertPolicyRouting call.answers.links call.config call.targets host.policy).rules := by
  unfold reassertPolicyRouting
  split
  · exact mem_reassertTargets.mpr (Or.inl present)
  · exact present

theorem Succeeds.reassert_routes (succeeds : Succeeds host call) (table : Nat) :
    (call.OwnsTable table ∧ ∃ device,
      (reassertPolicyRouting call.answers.links call.config call.targets host.policy).routes table =
        some device) ∨
    (reassertPolicyRouting call.answers.links call.config call.targets host.policy).routes table =
      host.policy.routes table := by
  by_cases enabled : call.config.upstream.enabled = true
  · rw [reassertPolicyRouting, if_pos enabled]
    by_cases reasserted : ∃ target ∈ call.targets,
        skipsTarget call.config target = false ∧ target.tableId = table
    · obtain ⟨target, member, kept, rfl⟩ := reasserted
      refine Or.inl ⟨⟨target, by simpa [ApplyCall.owners, enabled] using member, rfl⟩, ?_⟩
      exact ⟨_, reassertTargets_routes succeeds.links succeeds.tableIds member kept host.policy⟩
    · refine Or.inr (reassertTargets_routes_other ?_ host.policy)
      intro target member kept same
      exact reasserted ⟨target, member, kept, same⟩
  · rw [reassertPolicyRouting, if_neg enabled]
    exact Or.inr rfl

theorem nothingLeaked_step (succeeds : Succeeds host call) :
    NothingLeaked (applyStep host call) call ↔ NothingForgotten host call := by
  constructor
  · rintro ⟨rules, routes⟩
    rw [succeeds.policy] at rules routes
    constructor
    · intro rule present
      by_cases stale : ∃ routing, call.Stale host routing ∧ routing.rule = some rule
      · exact Or.inr stale
      · refine Or.inl (rules rule (mem_cleanupEntries.mpr ⟨ApplyCall.mem_reassert_of_mem present, ?_⟩))
        intro routing recorded same
        exact stale ⟨routing, recorded, same⟩
    · intro table device routed
      by_cases stale : ∃ routing, call.Stale host routing ∧ routing.tableId = table
      · exact Or.inr stale
      · rcases succeeds.reassert_routes table with ⟨owned, -⟩ | unchanged
        · exact Or.inl owned
        · refine Or.inl (routes table device (cleanupEntries_routes.mpr ⟨unchanged.trans routed, ?_⟩))
          intro routing recorded same
          exact stale ⟨routing, recorded, same⟩
  · rintro ⟨rules, routes⟩
    constructor
    · intro rule present
      rw [succeeds.policy] at present
      obtain ⟨reasserted, unrecorded⟩ := mem_cleanupEntries.mp present
      rcases ApplyCall.mem_reassert reasserted with old | owned
      · rcases rules rule old with owned | ⟨routing, recorded, same⟩
        · exact owned
        · exact absurd same (unrecorded routing recorded)
      · exact owned
    · intro table device routed
      rw [succeeds.policy] at routed
      obtain ⟨reasserted, unrecorded⟩ := cleanupEntries_routes.mp routed
      rcases succeeds.reassert_routes table with ⟨owned, -⟩ | unchanged
      · exact owned
      · rcases routes table device (unchanged.symm.trans reasserted) with owned | ⟨routing, recorded, same⟩
        · exact owned
        · exact absurd same (unrecorded routing recorded)

end Leaks

/-- From a host without policy routing, whatever its state files hold: nothing is leaked
after any apply if and only if each apply finds everything installed owned or recorded
under a stale name. -/
theorem cleanup_leaksNothing (stateFiles : String → StateFile) (calls : List ApplyCall)
    (succeed : Throughout applyStep Succeeds { stateFiles } calls) :
    AfterEach applyStep NothingLeaked { stateFiles } calls ↔
      Throughout applyStep NothingForgotten { stateFiles } calls :=
  throughout_congr (fun _ _ succeeds => nothingLeaked_step succeeds) succeed

def movedOffset : ApplyCall :=
  routedProfiles [{ routedProfile "second" "10.60.0.0/16" with routingOffset := some 5 }]

theorem movedOffset_leaksRule :
    Throughout applyStep Succeeds {} [secondProfile, movedOffset] ∧
      ¬AfterEach applyStep NothingLeaked {} [secondProfile, movedOffset] := by
  constructor
  · exact ⟨⟨⟨fun _ => false, by decide⟩, ⟨.recreated, _, rfl, by decide⟩, fun _ => rfl, by decide⟩,
      ⟨⟨fun _ => false, by decide⟩, ⟨.refreshed, _, rfl, by decide⟩, fun _ => rfl, by decide⟩, trivial⟩
  · rintro ⟨-, clean, -⟩
    have owned : ∀ rule ∈ (applyStep (applyStep {} secondProfile) movedOffset).policy.rules,
        ∃ target ∈ movedOffset.owners, target.policyRouting.rule = some rule := clean.rules
    revert owned
    decide

theorem cleanup_leaksNothing_sample :
    AfterEach applyStep NothingLeaked {} [bothProfiles, secondProfile] ↔
      Throughout applyStep NothingForgotten {} [bothProfiles, secondProfile] :=
  cleanup_leaksNothing (fun _ => .missing) [bothProfiles, secondProfile] deletedProfile_succeeds

end Korserver
