import Korserver.DefaultRules
import Korserver.PolicyRouting
import Korserver.UpstreamServiceCore

/-!
The active interface across the calls of `UpstreamService`: what every
`NftablesService.apply` must find for the rules and the route of the default mark to end at
the device of the selected profile, and that the calls keep them there.
-/

namespace Korserver

open PythonText PythonValue IpAddress PacketFilter Effects

theorem markedProfile_mem {upstream : UpstreamConfig} {lines : List String}
    {profile : UpstreamProfileConfig} (marked : markedProfile upstream lines = some profile) :
    profile ∈ upstream.profiles := by
  induction lines with
  | nil => simp [markedProfile] at marked
  | cons line rest ih =>
      rw [markedProfile] at marked
      split at marked
      · rename_i named found
        obtain rfl := Option.some.inj marked
        obtain ⟨name, -, search⟩ := Option.bind_eq_some_iff.mp found
        exact List.mem_reverse.mp (List.mem_of_find?_eq_some search)
      · exact ih marked

theorem runtimeProfile_mem {config : AppConfig} {marker : TextFile} {profile : UpstreamProfileConfig}
    (selected : runtimeProfile config marker = .ok (some profile)) :
    profile ∈ config.upstream.profiles := by
  obtain ⟨lines, -, selected⟩ := bind_ok.mp selected
  split at selected
  · rename_i marked found
    split at selected
    · obtain rfl := Option.some.inj (pure_ok.mp selected)
      exact markedProfile_mem found
    · exact absurd (pure_ok.mp selected) (by simp)
  · exact (UpstreamConfig.selectedProfile_some (pure_ok.mp selected)).1

theorem activeInterface_selected {config : AppConfig} {marker : TextFile} {interface : String}
    {profile : UpstreamProfileConfig}
    (selected : runtimeProfile config marker = .ok (some profile))
    (active : activeInterface config marker = .ok interface) :
    interface = config.upstream.profileInterface profile := by
  rw [activeInterface, selected] at active
  exact (pure_ok.mp active).symm

theorem profileInterface_empty {upstream : UpstreamConfig} {profile : UpstreamProfileConfig}
    (empty : upstream.profileInterface profile = "") : upstream.interface = "" := by
  unfold UpstreamConfig.profileInterface at empty
  split at empty
  · rename_i interface given
    unfold truthy at given
    split at given
    · split at given
      · simp at given
      · rename_i real
        exact absurd (empty ▸ Option.some.inj given) real
    · simp at given
  · split at empty
    · exact empty
    · simp at empty
    · exact empty

theorem routeDevice_profileInterface (config : AppConfig) (profile : UpstreamProfileConfig) :
    routeDevice config (config.upstream.profileInterface profile) =
      config.upstream.profileInterface profile := by
  unfold routeDevice
  split
  · rename_i empty
    rw [empty, profileInterface_empty empty]
  · rfl

theorem tunnelUp_connected {config : AppConfig} {connected : String → Bool}
    {profile : UpstreamProfileConfig} (member : profile ∈ config.upstream.profiles)
    (up : connected profile.name = true) :
    tunnelUp config connected (config.upstream.profileInterface profile) = true := by
  simp only [tunnelUp, List.any_eq_true, Bool.and_eq_true, beq_iff_eq]
  exact ⟨profile, member, up, rfl⟩

theorem recreate_total {answers : Answers} {files : Files} {config : AppConfig}
    {outbound : Option String} {ruleset : Ruleset} (rendered : render files config outbound = .ok ruleset)
    (host : HostState) : ∃ result after, recreate answers files config outbound host =
      .ok (result, after) := by
  simp only [recreate, applyFullRecreate, rendered, bind, Except.bind, pure, Except.pure]
  split <;> exact ⟨_, _, rfl⟩

theorem nftablesApply_total {answers : Answers} {files : Files} {config : AppConfig}
    {outbound : Option String} {ruleset : Ruleset} (rendered : render files config outbound = .ok ruleset)
    (host : HostState) : ∃ result after, nftablesApply answers files config outbound host =
      .ok (result, after) := by
  obtain ⟨resolved, split, resolution, listed, -⟩ := render_ok rendered
  obtain ⟨ready, probe⟩ : ∃ ready, staticSetsReady answers files config outbound host = .ok ready := by
    simp only [staticSetsReady, expectedSetNames, resolution, bind, Except.bind, pure, Except.pure]
    split <;> exact ⟨_, rfl⟩
  obtain ⟨refreshed, static⟩ : ∃ refreshed,
      applyStaticRefresh answers files config outbound host = .ok refreshed := by
    simp only [applyStaticRefresh, renderStaticRefresh, resolution, listed, bind, Except.bind, pure,
      Except.pure]
    exact ⟨_, rfl⟩
  obtain ⟨recreateResult, recreated, recreation⟩ := recreate_total rendered host
  have load : ∃ result after, applyRuleset answers files config outbound host =
      .ok (result, after) := by
    cases ready with
    | false => exact ⟨_, _, bind_ok.mpr ⟨false, probe, recreation⟩⟩
    | true =>
        cases refreshed with
        | none => exact ⟨_, _, bind_ok.mpr ⟨true, probe, bind_ok.mpr ⟨none, static, recreation⟩⟩⟩
        | some refreshed =>
            exact ⟨_, _, bind_ok.mpr ⟨true, probe, bind_ok.mpr ⟨some refreshed, static, rfl⟩⟩⟩
  obtain ⟨result, after, ran⟩ := load
  cases result <;> simp only [nftablesApply, resolution, ran, bind, Except.bind, pure, Except.pure] <;>
    exact ⟨_, _, rfl⟩

/-- The sets are as expected and nft takes the refresh. -/
def Refreshes (config : AppConfig) (event : ApplyEvent) : Prop :=
  let answers := event.around.answersIn config event.before
  staticSetsReady answers event.around.files config event.outbound event.before.host = .ok true ∧
    ∃ refresh, renderStaticRefresh event.around.files config event.outbound = .ok refresh ∧
      answers.acceptsRefresh refresh = true

/-- An apply that leaves the rules and the route of the default mark at the device of the
selected profile. -/
structure Repoints (config : AppConfig) (event : ApplyEvent) (profile : UpstreamProfileConfig) :
    Prop where
  /-- The configuration has a selected profile of its own, so that the default rules exist. -/
  active : upstreamActive config = true
  /-- The interface that is asked for is the selected profile's. -/
  interface : resolvedInterface config event.outbound = config.upstream.profileInterface profile
  /-- The rules name it already, or are loaded anew. -/
  loads : RulesName config event.before.host (config.upstream.profileInterface profile) ∨
    (¬Refreshes config event ∧ ∀ ruleset,
      render event.around.files config event.outbound = .ok ruleset →
        event.around.answers.acceptsRuleset ruleset = true)
  /-- Every list can be read. -/
  readable : ∃ ruleset, render event.around.files config event.outbound = .ok ruleset
  /-- With `client_traffic` off the default target's device is another one; it does not exist. -/
  route : event.before.connected profile.name = true →
    let device := routeDevice config
      (defaultTargetInterface config (config.upstream.profileInterface profile))
    event.around.linkUp config event.before device = true →
      device = config.upstream.profileInterface profile
  /-- No recorded target that is gone has the default table. -/
  spares : event.before.connected profile.name = true → ∀ targets routing,
    listTargets event.around.files config (config.upstream.profileInterface profile) = .ok targets →
    IsStale (targetNames targets)
      (event.before.host.stateFiles (targetsStatePath config)).previous routing →
    routing.tableId ≠ config.routing.tableId

/-- Whatever profile is selected, the apply leaves rules and route at its device. -/
def Sound (config : AppConfig) (event : ApplyEvent) : Prop :=
  ∀ profile, runtimeProfile config event.before.marker = .ok (some profile) →
    Repoints config event profile

section Apply

variable {config : AppConfig} {event : ApplyEvent} {profile : UpstreamProfileConfig}

theorem Repoints.rules (facts : config.Facts) (repoints : Repoints config event profile)
    {result : RulesetResult} {loaded : HostState}
    (ran : applyRuleset (event.around.answersIn config event.before) event.around.files config
      event.outbound event.before.host = .ok (result, loaded)) :
    RulesName config loaded (config.upstream.profileInterface profile) := by
  rcases applyRuleset_cases ran with ⟨-, refresh, ready, rendered, accepted, refreshed⟩ |
    ⟨-, ruleset, rendered, -, rfl⟩ | ⟨-, rfl, ruleset, rendered, refused⟩
  · have refreshes : Refreshes config event := ⟨ready, refresh, rendered, accepted⟩
    have names := repoints.loads.resolve_right fun anew => anew.1 refreshes
    obtain ⟨_, _, -, -, rfl⟩ := renderStaticRefresh_ok rendered
    exact names.congr (fun chain => (liveRules_refresh refreshed chain).1)
      (liveRules_refresh refreshed "").2
  · rw [← repoints.interface]
    exact rulesName_load facts repoints.active rendered event.before.host
  · refine repoints.loads.resolve_right fun anew => ?_
    have accepted := anew.2 ruleset rendered
    rw [Surroundings.answersIn] at refused
    simp [accepted] at refused

theorem Kept.tableId_ne {files : Files} {kept : List UpstreamProfileConfig} {named : List RoutingTarget}
    (pairs : Kept files config kept named) (facts : config.Facts) :
    ∀ target ∈ named, target.tableId ≠ config.routing.tableId := by
  intro target member
  obtain ⟨profile, inProfiles, from'⟩ := pairs.profileOf member
  have positive := facts.offset_pos inProfiles
  rw [from'.tableId]
  omega

theorem Repoints.reassert (facts : config.Facts) (repoints : Repoints config event profile)
    (connected : event.before.connected profile.name = true) {targets : List RoutingTarget}
    (listed : listTargets event.around.files config (config.upstream.profileInterface profile) =
      .ok targets) {tables : PolicyTables}
    (agrees : tables.routes config.routing.tableId = some (config.upstream.profileInterface profile)) :
    (reassertPolicyRouting (event.around.linkUp config event.before) config targets tables).routes
        config.routing.tableId = some (config.upstream.profileInterface profile) := by
  obtain ⟨routes, domains, named, -, namedListed, rfl⟩ := listTargets_ok listed
  obtain ⟨kept, pairs⟩ := namedTargets_kept namedListed
  have active := repoints.active
  simp only [upstreamActive, Bool.and_eq_true] at active
  have reasserted : skipsTarget config (defaultTarget config
      (config.upstream.profileInterface profile) routes domains) = false := by
    simp [skipsTarget, Option.isNone_eq_false_iff.mpr active.2]
  rw [reassertPolicyRouting, if_pos active.1, reassertTargets, reasserted,
    reassertTargets_routes_other fun target member _ => pairs.tableId_ne facts target member]
  have own := apply_routes_own (event.around.linkUp config event.before)
    (routeDevice config (defaultTargetInterface config (config.upstream.profileInterface profile)))
    (defaultPolicyRouting config) tables
  refine Eq.trans own ?_
  split
  · rename_i up
    rw [repoints.route connected up]
  · exact agrees

theorem Repoints.route_kept (facts : config.Facts) (repoints : Repoints config event profile)
    (connected : event.before.connected profile.name = true) {result : RulesetResult}
    {after : HostState} (ran : event.run config = .ok (result, after))
    (agrees : event.before.host.policy.routes config.routing.tableId =
      some (config.upstream.profileInterface profile)) :
    after.policy.routes config.routing.tableId =
      some (config.upstream.profileInterface profile) := by
  obtain ⟨resolved, loaded, resolution, load, rfl⟩ := nftablesApply_cases ran
  obtain ⟨policy, stateFiles⟩ := applyRuleset_frame load
  obtain ⟨targets, listed, rfl⟩ := by simpa only [resolveTargets, bind_ok, pure_ok] using resolution
  rw [repoints.interface] at listed
  split
  · rw [policy]
    exact agrees
  · have reasserted := repoints.reassert facts connected listed agrees
    rw [← policy] at reasserted
    refine cleanupEntries_routes.mpr ⟨reasserted, ?_⟩
    intro routing stale
    rw [HostState.reassert, stateFiles] at stale
    exact repoints.spares connected _ routing listed stale

theorem Repoints.run (facts : config.Facts) (repoints : Repoints config event profile) :
    ∃ result after, event.run config = .ok (result, after) ∧
      RulesName config after (config.upstream.profileInterface profile) ∧
      (event.before.connected profile.name = true →
        event.before.host.policy.routes config.routing.tableId =
          some (config.upstream.profileInterface profile) →
        after.policy.routes config.routing.tableId =
          some (config.upstream.profileInterface profile)) := by
  obtain ⟨ruleset, rendered⟩ := repoints.readable
  obtain ⟨result, after, ran⟩ := nftablesApply_total rendered event.before.host
  refine ⟨result, after, ran, ?_, fun connected => repoints.route_kept facts connected ran⟩
  obtain ⟨resolved, loaded, -, load, rfl⟩ := nftablesApply_cases ran
  have names := repoints.rules facts load
  split
  · exact names
  · exact names.congr (fun _ => rfl) rfl

end Apply

/-! The invariant. -/

/-- The rules and the route of the default mark name a profile's device. -/
structure Agrees (config : AppConfig) (host : HostState) (profile : UpstreamProfileConfig) : Prop where
  rules : RulesName config host (config.upstream.profileInterface profile)
  route : host.policy.routes config.routing.tableId =
    some (config.upstream.profileInterface profile)

def Good (config : AppConfig) (state : Runtime) : Prop :=
  ∀ profile, runtimeProfile config state.marker = .ok (some profile) →
    state.connected profile.name = true → Agrees config state.host profile

def RulesAgree (config : AppConfig) (state : Runtime) : Prop :=
  ∀ profile, runtimeProfile config state.marker = .ok (some profile) →
    RulesName config state.host (config.upstream.profileInterface profile)

def RouteAgrees (config : AppConfig) (state : Runtime) : Prop :=
  ∀ profile, runtimeProfile config state.marker = .ok (some profile) →
    state.connected profile.name = true →
    state.host.policy.routes config.routing.tableId =
      some (config.upstream.profileInterface profile)

/-- The rules are in place even if the selected profile is not connected yet. -/
structure Ready (config : AppConfig) (state : Runtime) : Prop where
  rules : RulesAgree config state
  route : RouteAgrees config state

/-- A connection is up, and nothing but the route to it may be missing. -/
structure Dialed (config : AppConfig) (profile : UpstreamProfileConfig) (state : Runtime) : Prop where
  rules : RulesAgree config state
  connected : state.connected profile.name = true
  route : ∀ other, runtimeProfile config state.marker = .ok (some other) →
    state.connected other.name = true → other ≠ profile →
    state.host.policy.routes config.routing.tableId =
      some (config.upstream.profileInterface other)

theorem Ready.good {config : AppConfig} {state : Runtime} (ready : Ready config state) :
    Good config state :=
  fun profile selected connected => ⟨ready.rules profile selected, ready.route profile selected connected⟩

theorem Good.route {config : AppConfig} {state : Runtime} (good : Good config state) :
    RouteAgrees config state :=
  fun profile selected connected => (good profile selected connected).route

/-- Two states that differ in nothing the invariant reads. -/
structure SameView (config : AppConfig) (state next : Runtime) : Prop where
  marker : next.marker = state.marker
  connected : next.connected = state.connected
  inet : next.host.inet = state.host.inet
  ip : next.host.ip = state.host.ip
  route : next.host.policy.routes config.routing.tableId =
    state.host.policy.routes config.routing.tableId

section View

variable {config : AppConfig} {state next : Runtime}

theorem SameView.rules (same : SameView config state next) {interface : String}
    (names : RulesName config state.host interface) : RulesName config next.host interface :=
  names.congr (fun _ => by rw [same.inet]) same.ip

theorem SameView.good (same : SameView config state next) (good : Good config state) :
    Good config next := by
  intro profile selected connected
  rw [same.marker] at selected
  rw [same.connected] at connected
  obtain ⟨rules, route⟩ := good profile selected connected
  exact ⟨same.rules rules, same.route.trans route⟩

theorem SameView.ready (same : SameView config state next) (ready : Ready config state) :
    Ready config next := by
  constructor
  · intro profile selected
    rw [same.marker] at selected
    exact same.rules (ready.rules profile selected)
  · intro profile selected connected
    rw [same.marker] at selected
    rw [same.connected] at connected
    exact same.route.trans (ready.route profile selected connected)

end View

/-! The programs. -/

section Programs

variable {config : AppConfig} (facts : config.Facts) {around : Surroundings}

theorem tryPolicy_other {invariant : Runtime → Prop}
    (stable : ∀ state next, SameView config state next → invariant state → invariant next)
    {change : Runtime → PolicyTables → Except PyError PolicyTables}
    (other : ∀ state tables next, change state tables = .ok next →
      next.routes config.routing.tableId = tables.routes config.routing.tableId) :
    Triple (Sound config) invariant (tryPolicy change) (fun _ => invariant) invariant := by
  refine Triple.tryModify ?_ fun _ _ holds _ => holds
  intro state next holds changed
  obtain ⟨policy, ran, rfl⟩ := by simpa only [bind_ok, pure_ok] using changed
  exact stable state _ ⟨rfl, rfl, rfl, rfl, other state _ _ ran⟩ holds

theorem namedTargetRouting_tables (facts : config.Facts) {files : Files}
    {named : List (UpstreamProfileConfig × PolicyRouting)}
    (listed : namedTargetRouting files config = .ok named) :
    ∀ entry ∈ named, entry.1 ∈ config.upstream.profiles ∧
      entry.2.tableId ≠ config.routing.tableId := by
  unfold namedTargetRouting at listed
  split at listed
  · obtain ⟨targets, targetsListed, same⟩ := bind_ok.mp listed
    obtain rfl := pure_ok.mp same
    obtain ⟨routes, domains, others, -, namedListed, rfl⟩ := listTargets_ok targetsListed
    obtain ⟨kept, pairs⟩ := namedTargets_kept namedListed
    intro entry member
    obtain ⟨profile, inProfiles, found⟩ := List.mem_filterMap.mp member
    obtain ⟨target, got, rfl⟩ := Option.map_eq_some_iff.mp found
    obtain ⟨target', inTargets, same⟩ := List.mem_map.mp (mem_dictOf (mem_of_dictGet got))
    obtain ⟨-, rfl⟩ := Prod.mk.inj same
    obtain ⟨member, proper⟩ := List.mem_filter.mp inTargets
    refine ⟨inProfiles, ?_⟩
    rcases List.mem_cons.mp member with rfl | inNamed
    · simp [defaultTarget] at proper
    · exact pairs.tableId_ne facts _ inNamed
  · obtain rfl := pure_ok.mp listed
    simp

include facts

theorem namedRouting_triple {invariant : Runtime → Prop} :
    Triple (Sound config) invariant (namedRouting config around)
      (fun named state => invariant state ∧ ∀ entry ∈ named,
        entry.1 ∈ config.upstream.profiles ∧ entry.2.tableId ≠ config.routing.tableId)
      invariant :=
  Triple.fromExcept (fun _ _ holds listed => ⟨holds, namedTargetRouting_tables facts listed⟩)
    fun _ holds => holds

omit facts in
theorem applyNftables_triple {pre post raised : Runtime → Prop} {outbound : Option String}
    (ok : ∀ (event : ApplyEvent) result host, event.outbound = outbound → pre event.before →
      Sound config event → event.run config = .ok (result, host) → post { event.before with host })
    (error : ∀ (event : ApplyEvent) error, event.outbound = outbound → pre event.before →
      Sound config event → event.run config = .error error → raised event.before) :
    Triple (Sound config) pre (applyNftables config around outbound) (fun _ => post) raised := by
  intro state before events
  unfold applyNftables at events ⊢
  cases ran : ApplyEvent.run config { before := state, outbound, around } with
  | ok outcome =>
      obtain ⟨result, host⟩ := outcome
      simp only [ran, List.mem_singleton, forall_eq] at events ⊢
      exact ok _ result host rfl before events ran
  | error failure =>
      simp only [ran, List.mem_singleton, forall_eq] at events ⊢
      exact error _ failure rfl before events ran

theorem Sound.good_of_error {event : ApplyEvent} {error : PyError} (sound : Sound config event)
    (ran : event.run config = .error error) : Good config event.before := by
  intro profile selected
  obtain ⟨result, after, completed, -⟩ := (sound profile selected).run facts
  rw [ran] at completed
  simp at completed

theorem applyNftables_ready (known : TextFile → Prop) (outbound : Option String) :
    Triple (Sound config) (fun state => RouteAgrees config state ∧ known state.marker)
      (applyNftables config around outbound)
      (fun _ state => Ready config state ∧ known state.marker) (Good config) := by
  refine applyNftables_triple ?_ fun _ _ _ _ sound ran => sound.good_of_error facts ran
  rintro event result host _ ⟨agrees, holds⟩ sound ran
  refine ⟨⟨?_, ?_⟩, holds⟩
  · intro profile selected
    obtain ⟨result', host', ran', rules, -⟩ := (sound profile selected).run facts
    obtain ⟨-, rfl⟩ := Prod.mk.inj (Except.ok.inj (ran.symm.trans ran'))
    exact rules
  · intro profile selected connected
    exact (sound profile selected).route_kept facts connected ran (agrees profile selected connected)

theorem applyNftables_switch (outbound : Option String) :
    Triple (Sound config) (fun _ => True) (applyNftables config around outbound)
      (fun _ state => RulesAgree config state ∧ ∀ profile,
        runtimeProfile config state.marker = .ok (some profile) →
        resolvedInterface config outbound = config.upstream.profileInterface profile)
      (Good config) := by
  refine applyNftables_triple ?_ fun _ _ _ _ sound ran => sound.good_of_error facts ran
  rintro event result host rfl - sound ran
  refine ⟨?_, fun profile selected => (sound profile selected).interface⟩
  intro profile selected
  obtain ⟨result', host', ran', rules, -⟩ := (sound profile selected).run facts
  obtain ⟨-, rfl⟩ := Prod.mk.inj (Except.ok.inj (ran.symm.trans ran'))
  exact rules

omit facts in
theorem pointRoute_ready {profile : UpstreamProfileConfig}
    (member : profile ∈ config.upstream.profiles) :
    Triple (Sound config)
      (fun state => RulesAgree config state ∧ state.connected profile.name = true ∧
        ∀ other, runtimeProfile config state.marker = .ok (some other) → other = profile)
      (pointRoute config around (defaultPolicyRouting config) (config.upstream.profileInterface profile))
      (fun _ => Ready config) (Good config) := by
  rw [pointRoute, tryPolicy]
  refine Triple.tryModify ?_ ?_
  · rintro state next ⟨rules, connected, only⟩ changed
    obtain ⟨policy, rfl, rfl⟩ := by simpa only [bind_ok, pure_ok, Except.ok.injEq] using changed
    have up : around.linkUp config state (config.upstream.profileInterface profile) = true := by
      rw [Surroundings.linkUp, tunnelUp_connected member connected, Bool.or_true]
    refine ⟨fun other selected => (rules other selected).congr (fun _ => rfl) rfl, ?_⟩
    intro other selected _
    obtain rfl := only other selected
    refine (apply_routes_own _ _ (defaultPolicyRouting config) _).trans ?_
    rw [routeDevice_profileInterface, up, if_pos rfl]
  · intro state error _ failed
    simp [bind, Except.bind, pure, Except.pure] at failed

omit facts in
theorem profileByName_triple {invariant : Runtime → Prop} (name : String) :
    Triple (Sound config) invariant (profileByName config name)
      (fun profile state => invariant state ∧ profile ∈ config.upstream.profiles ∧
        profile.name = name) invariant := by
  refine Triple.fromExcept ?_ fun _ holds => holds
  intro state profile holds found
  split at found
  · rename_i search
    obtain rfl := Except.ok.inj found
    exact ⟨holds, List.mem_of_find?_eq_some search, by simpa using List.find?_some search⟩
  · simp at found

omit facts in
theorem profileConnected_triple {pre : Runtime → Prop} {raised : Runtime → Prop}
    (profile : UpstreamProfileConfig) :
    Triple (Sound config) pre (profileConnected profile)
      (fun connected state => pre state ∧ connected = state.connected profile.name) raised :=
  Triple.read

theorem switchProfile_good (env : Environment) (name : String) :
    Triple (Sound config) (Good config) (switchProfile config env name) (fun _ => Good config)
      (Good config) := by
  refine Triple.bind (profileByName_triple name) fun profile => Triple.fact fun found => ?_
  refine Triple.bind Triple.modify_any fun _ => ?_
  refine Triple.bind (applyNftables_switch facts _) fun _ => ?_
  refine Triple.bind (profileConnected_triple profile) fun connected => ?_
  -- The apply was sound, so the profile that is selected now is the one switched to.
  have only {state : Runtime} (named : ∀ other,
      runtimeProfile config state.marker = .ok (some other) →
      resolvedInterface config (some (config.upstream.profileInterface profile)) =
        config.upstream.profileInterface other) :
      ∀ other, runtimeProfile config state.marker = .ok (some other) → other = profile :=
    fun other selected => facts.profile_unique (runtimeProfile_mem selected) found.1
      (named other selected).symm
  refine Triple.when ?_ ?_
  · intro up
    refine (pointRoute_ready found.1).weaken ?_ fun _ _ => Ready.good
    rintro state ⟨⟨rules, named⟩, same⟩
    exact ⟨rules, same.symm.trans up, only named⟩
  · rintro down state ⟨⟨rules, named⟩, same⟩ other selected connected'
    rw [only named other selected, ← same, down] at connected'
    simp at connected'

omit facts in
theorem selectedProfile_triple {invariant : Runtime → Prop} :
    Triple (Sound config) invariant (selectedProfile config)
      (fun selected state => invariant state ∧
        runtimeProfile config state.marker = .ok selected) invariant :=
  Triple.fromExcept (fun _ _ holds selected => ⟨holds, selected⟩) fun _ holds => holds

omit facts in
theorem pointRoute_other {routing : PolicyRouting} (other : routing.tableId ≠ config.routing.tableId)
    (interface : String) :
    Triple (Sound config) (Ready config) (pointRoute config around routing interface)
      (fun _ => Ready config) (Ready config) := by
  refine tryPolicy_other (fun _ _ => SameView.ready) ?_
  intro state tables next ran
  obtain rfl := Except.ok.inj ran
  exact apply_routes_other other _ _ _

theorem pointNamedTarget_ready (profile : UpstreamProfileConfig) :
    Triple (Sound config) (Ready config) (pointNamedTarget config around profile)
      (fun _ => Ready config) (Ready config) := by
  refine Triple.bind (namedRouting_triple facts) fun named => Triple.fact fun tables => ?_
  refine Triple.forEach ?_
  intro entry member
  exact Triple.when (fun _ => pointRoute_other (tables entry member).2 _) fun _ _ => id

omit facts in
theorem activeDevice_triple {invariant : Runtime → Prop} :
    Triple (Sound config) invariant (activeDevice config) (fun _ => invariant) invariant :=
  Triple.fromExcept (fun _ _ holds _ => holds) fun _ holds => holds

theorem applyServerRouting_ready :
    Triple (Sound config) (Ready config) (applyServerRouting config around) (fun _ => Ready config)
      (Good config) := by
  have apply (interface : String) : Triple (Sound config) (Ready config)
      (applyNftables config around (some interface)) (fun _ => Ready config) (Good config) :=
    (applyNftables_ready facts (fun _ => True) _).weaken (fun _ ready => ⟨ready.route, trivial⟩)
      fun _ _ holds => holds.1
  refine Triple.bind Triple.read fun applied => ?_
  refine Triple.when ?_ fun _ _ holds => holds.1
  intro _
  refine Triple.bind ((activeDevice_triple.relax fun _ => Ready.good).weaken (fun _ holds => holds.1)
    fun _ _ => id) fun interface => ?_
  refine Triple.bind (apply interface) fun result => ?_
  refine Triple.when ?_ fun _ _ => id
  intro _
  refine Triple.bind (Triple.fromExcept (fun _ _ holds _ => holds) fun _ => Ready.good) fun _ => ?_
  exact Triple.modify fun state => SameView.ready ⟨rfl, rfl, rfl, rfl, rfl⟩

omit facts in
theorem dial_triple (facts : config.Facts) (env : Environment) {profile : UpstreamProfileConfig}
    (member : profile ∈ config.upstream.profiles) (known : TextFile → Prop) :
    Triple (Sound config) (fun state => Ready config state ∧ known state.marker) (dial env profile)
      (fun _ state => Dialed config profile state ∧ known state.marker) (Good config) := by
  unfold dial
  split
  · exact Triple.raise fun state holds => holds.1.good
  · exact Triple.raise fun state holds => holds.1.good
  · refine Triple.modify ?_
    rintro state ⟨ready, holds⟩
    refine ⟨⟨ready.rules, by simp, ?_⟩, holds⟩
    intro other selected connected different
    have names : other.name ≠ profile.name := fun equal =>
      different (facts.profile_unique_name (runtimeProfile_mem selected) member equal)
    exact ready.route other selected (by simpa [Function.update_of_ne names] using connected)

omit facts in
theorem noteAttempt_good (name : String) {sound : ApplyEvent → Prop} {raised : Runtime → Prop} :
    Triple sound (Good config) (noteAttempt name) (fun _ => Good config) raised :=
  Triple.modify fun _ => SameView.good ⟨rfl, rfl, rfl, rfl, rfl⟩

omit facts in
theorem noteReached_good (name : String) {sound : ApplyEvent → Prop} {raised : Runtime → Prop} :
    Triple sound (Good config) (noteReached name) (fun _ => Good config) raised :=
  Triple.modify fun _ => SameView.good ⟨rfl, rfl, rfl, rfl, rfl⟩

theorem connectProfile_good (env : Environment) {profile : UpstreamProfileConfig}
    (member : profile ∈ config.upstream.profiles) :
    Triple (Sound config) (Good config) (connectProfile config env profile) (fun _ => Good config)
      (Good config) := by
  refine Triple.bind (noteAttempt_good profile.name) fun _ => ?_
  refine Triple.bind selectedProfile_triple fun selected => ?_
  refine Triple.bind (activeDevice_triple.relax fun _ holds => holds.1) fun interface => ?_
  have apply := @applyNftables_ready config facts (env.around (.dialing profile.name))
    (fun marker => runtimeProfile config marker = .ok selected) (some interface)
  refine Triple.bind (apply.weaken (fun _ holds => ⟨holds.1.route, holds.2⟩) fun _ _ => id) fun _ => ?_
  have dialing := dial_triple facts env member fun marker => runtimeProfile config marker = .ok selected
  refine Triple.bind dialing fun _ => ?_
  refine Triple.bind (?_ : Triple _ _ _ (fun _ => Ready config) _) fun _ => ?_
  · refine Triple.when ?_ ?_
    · intro active
      refine (pointRoute_ready member).weaken ?_ fun _ _ => id
      rintro state ⟨dialed, same⟩
      refine ⟨dialed.rules, dialed.connected, ?_⟩
      intro other selected'
      obtain rfl := Except.ok.inj (same.symm.trans selected')
      exact facts.profile_unique_name (runtimeProfile_mem selected') member (by simpa using active)
    · rintro standby state ⟨dialed, same⟩
      refine ⟨dialed.rules, ?_⟩
      intro other selected' connected
      obtain rfl := Except.ok.inj (same.symm.trans selected')
      refine dialed.route other selected' connected ?_
      rintro rfl
      simp at standby
  · refine Triple.bind ((pointNamedTarget_ready facts profile).relax fun _ => Ready.good) fun _ => ?_
    refine Triple.bind ((applyServerRouting_ready facts).weaken (fun _ => id) fun _ _ => Ready.good)
      fun _ => ?_
    exact noteReached_good profile.name

omit facts in
theorem profileOrSelected_triple {invariant : Runtime → Prop} (name : Option String) :
    Triple (Sound config) invariant (profileOrSelected config name)
      (fun found state => invariant state ∧ ∀ profile ∈ found, profile ∈ config.upstream.profiles)
      invariant := by
  unfold profileOrSelected
  split
  · refine Triple.bind (profileByName_triple _) fun profile => ?_
    refine Triple.pure ?_
    rintro state ⟨holds, member, -⟩
    exact ⟨holds, by simpa using member⟩
  · refine selectedProfile_triple.weaken (fun _ => id) ?_
    rintro found state ⟨holds, selected⟩
    refine ⟨holds, ?_⟩
    rintro profile rfl
    exact runtimeProfile_mem selected

theorem connect_good (env : Environment) (name : Option String) :
    Triple (Sound config) (Good config) (connect config env name) (fun _ => Good config)
      (Good config) := by
  refine Triple.bind (profileOrSelected_triple name) fun found => Triple.fact fun members => ?_
  cases found with
  | none => exact Triple.raise fun _ => id
  | some profile =>
      refine Triple.bind (profileConnected_triple profile) fun connected => ?_
      refine Triple.when ?_ fun _ _ holds => holds.1
      intro _
      exact (connectProfile_good facts env (members profile rfl)).weaken (fun _ holds => holds.1)
        fun _ _ => id

theorem hangUp_good {profile : UpstreamProfileConfig} (member : profile ∈ config.upstream.profiles) :
    Triple (Sound config) (Good config) (hangUp config profile)
      (fun _ state => Good config state ∧ state.connected profile.name = false) (Good config) := by
  refine Triple.modify ?_
  intro state good
  refine ⟨?_, by simp⟩
  intro other selected connected
  have different : other.name ≠ profile.name := by
    intro same
    simp [same] at connected
  obtain ⟨rules, route⟩ := good other selected (by simpa [Function.update_of_ne different] using connected)
  refine ⟨rules.congr (fun _ => rfl) rfl, ?_⟩
  have devices : config.upstream.profileInterface other ≠ config.upstream.profileInterface profile := by
    intro same
    exact different (congrArg (·.name) (facts.profile_unique (runtimeProfile_mem selected) member same))
  simp [route, devices]

omit facts in
theorem cleanupRoute_other {routing : PolicyRouting} (other : routing.tableId ≠ config.routing.tableId) :
    Triple (Sound config) (Good config) (cleanupRoute routing) (fun _ => Good config) (Good config) := by
  refine tryPolicy_other (fun _ _ => SameView.good) ?_
  intro state tables next ran
  obtain rfl := Except.ok.inj ran
  exact Function.update_of_ne (Ne.symm other) _ _

theorem disconnectProfile_good {profile : UpstreamProfileConfig}
    (member : profile ∈ config.upstream.profiles) :
    Triple (Sound config) (Good config) (disconnectProfile config around profile)
      (fun _ => Good config) (Good config) := by
  refine Triple.bind (hangUp_good facts member) fun _ => ?_
  refine Triple.bind (selectedProfile_triple.relax fun _ holds => holds.1) fun selected => ?_
  refine Triple.bind (?_ : Triple _ _ _ (fun _ => Good config) _) fun _ => ?_
  · refine Triple.when ?_ fun _ _ holds => holds.1.1
    intro active
    rw [cleanupRoute, tryPolicy]
    refine Triple.tryModify ?_ fun _ _ holds _ => holds.1.1
    rintro state next ⟨⟨good, down⟩, same⟩ changed
    obtain ⟨policy, -, rfl⟩ := by simpa only [bind_ok, pure_ok] using changed
    intro other selected' connected
    obtain rfl := Except.ok.inj (same.symm.trans selected')
    have names : other.name = profile.name := by simpa using active
    rw [names, down] at connected
    simp at connected
  · refine Triple.bind (namedRouting_triple facts) fun named => Triple.fact fun tables => ?_
    refine Triple.forEach ?_
    intro entry inNamed
    exact Triple.when (fun _ => cleanupRoute_other (tables entry inNamed).2) fun _ _ => id

theorem disconnect_good (name : Option String) :
    Triple (Sound config) (Good config) (disconnect config around name) (fun _ => Good config)
      (Good config) := by
  refine Triple.bind (profileOrSelected_triple name) fun found => Triple.fact fun members => ?_
  cases found with
  | none => exact Triple.pure fun _ => id
  | some profile =>
      refine Triple.bind (profileConnected_triple profile) fun connected => ?_
      refine Triple.when ?_ fun _ _ holds => holds.1
      intro _
      exact (disconnectProfile_good facts (members profile rfl)).weaken (fun _ holds => holds.1)
        fun _ _ => id

omit facts in
theorem ensureSelected_good (selected : Option UpstreamProfileConfig) :
    Triple (Sound config)
      (fun state => Good config state ∧ runtimeProfile config state.marker = .ok selected)
      (ensureSelected config around selected) (fun _ => Good config) (Good config) := by
  cases selected with
  | none => exact Triple.pure fun _ holds => holds.1
  | some profile =>
      refine Triple.bind ((profileConnected_triple profile).relax fun _ => id) fun connected => ?_
      refine Triple.when ?_ fun _ _ holds => holds.1.1
      intro _
      rw [ensureRoute, tryPolicy]
      refine Triple.tryModify ?_ fun _ _ holds _ => holds.1.1
      rintro state next ⟨⟨good, same⟩, -⟩ changed
      obtain ⟨policy, ran, rfl⟩ := by simpa only [bind_ok, pure_ok] using changed
      obtain ⟨ruled, routes, rfl⟩ := ensure_ok ran
      intro other selected' connected'
      obtain rfl := Option.some.inj (Except.ok.inj (same.symm.trans selected'))
      obtain ⟨rules, route⟩ := good profile selected' connected'
      refine ⟨rules.congr (fun _ => rfl) rfl, ?_⟩
      refine (replaceRoute_routes_own _ _ (defaultPolicyRouting config).tableId ruled).trans ?_
      rw [routeDevice_profileInterface, routes]
      split
      · rfl
      · exact route

omit facts in
theorem ensureRoute_other {routing : PolicyRouting} (other : routing.tableId ≠ config.routing.tableId)
    (interface : String) :
    Triple (Sound config) (Good config) (ensureRoute config around routing interface)
      (fun _ => Good config) (Good config) := by
  refine tryPolicy_other (fun _ _ => SameView.good) ?_
  intro state tables next ran
  obtain ⟨ruled, routes, rfl⟩ := ensure_ok ran
  rw [replaceRoute_routes_other other, routes]

theorem ensurePolicyRouting_good :
    Triple (Sound config) (Good config) (ensurePolicyRouting config around) (fun _ => Good config)
      (Good config) := by
  refine Triple.bind selectedProfile_triple fun selected => ?_
  refine Triple.bind (ensureSelected_good selected) fun _ => ?_
  refine Triple.bind (namedRouting_triple facts) fun named => Triple.fact fun tables => ?_
  refine Triple.forEach ?_
  intro entry member
  refine Triple.bind (profileConnected_triple entry.1) fun connected => ?_
  refine Triple.when ?_ fun _ _ holds => holds.1
  intro _
  exact (ensureRoute_other (tables entry member).2 _).weaken (fun _ holds => holds.1) fun _ _ => id

theorem tryConnect_good (env : Environment) (name : String) :
    Triple (Sound config) (Good config) (tryConnect config env name) (fun _ => Good config)
      (Good config) :=
  Triple.succeeds (connect_good facts env (some name))

theorem redial_good (env : Environment) (profile : UpstreamProfileConfig) :
    Triple (Sound config) (Good config) (redial config env profile) (fun _ => Good config)
      (Good config) := by
  refine Triple.bind (profileConnected_triple profile) fun connected => ?_
  refine Triple.bind (?_ : Triple _ _ _ (fun _ => Good config) _) fun _ => tryConnect_good facts env _
  refine Triple.when ?_ fun _ _ holds => holds.1
  intro _
  exact (disconnect_good facts (some profile.name)).weaken (fun _ holds => holds.1) fun _ _ => id

theorem dialUnlessUp_good (env : Environment) (profile : UpstreamProfileConfig) :
    Triple (Sound config) (Good config) (dialUnlessUp config env profile) (fun _ => Good config)
      (Good config) := by
  refine Triple.bind (profileConnected_triple profile) fun connected => ?_
  cases connected with
  | true => exact Triple.pure fun _ holds => holds.1
  | false => exact (tryConnect_good facts env _).weaken (fun _ holds => holds.1) fun _ _ => id

theorem recoverInOrder_good (env : Environment) (current : Option String) (names : List String) :
    Triple (Sound config) (Good config) (recoverInOrder config env current names)
      (fun _ => Good config) (Good config) := by
  induction names with
  | nil => exact Triple.pure fun _ => id
  | cons name rest ih =>
      refine Triple.bind ((profileByName_triple name).weaken (fun _ => id) fun _ _ holds => holds.1)
        fun profile => ?_
      refine Triple.bind (?_ : Triple _ _ _ (fun _ => Good config) _) fun reachable => ?_
      · unfold reach
        split
        · exact redial_good facts env profile
        · exact dialUnlessUp_good facts env profile
      · split
        · refine Triple.bind (?_ : Triple _ _ _ (fun _ => Good config) _) fun _ =>
            Triple.pure fun _ => id
          exact Triple.when (fun _ => switchProfile_good facts env name) fun _ _ => id
        · exact ih

theorem recover_good (env : Environment) :
    Triple (Sound config) (Good config) (recover config env) (fun _ => Good config)
      (Good config) := by
  unfold recover
  split
  · exact Triple.pure fun _ => id
  · refine Triple.bind (selectedProfile_triple.weaken (fun _ => id) fun _ _ holds => holds.1)
      fun active => ?_
    exact recoverInOrder_good facts env _ _

theorem program_good (input : ServiceInput) :
    Triple (Sound config) (Good config) (input.program config) (fun _ => Good config)
      (Good config) := by
  unfold ServiceInput.program
  cases input.call with
  | switchProfile name => exact switchProfile_good facts input.env name
  | connect name => exact connect_good facts input.env name
  | disconnect name => exact disconnect_good facts name
  | recover => exact Triple.bind (recover_good facts input.env) fun _ => Triple.pure fun _ => id
  | ensurePolicyRouting => exact ensurePolicyRouting_good facts
  | applyNftables outbound =>
      refine Triple.bind (?_ : Triple _ _ _ (fun _ => Good config) _) fun _ => Triple.pure fun _ => id
      exact (applyNftables_ready facts (fun _ => True) outbound).weaken
        (fun _ good => ⟨good.route, trivial⟩) fun _ _ holds => holds.1.good
  | exited name =>
      refine Triple.bind (profileByName_triple name) fun profile => Triple.fact fun found => ?_
      exact (hangUp_good facts found.1).weaken (fun _ => id) fun _ _ holds => holds.1

theorem serviceStep_good {state : Runtime} {input : ServiceInput} (good : Good config state)
    (sound : ∀ event ∈ (input.program config state).events, Sound config event) :
    Good config (serviceStep config state input) := by
  have ended := program_good facts input state good sound
  unfold serviceStep
  revert ended
  cases (input.program config state).result <;> exact id

end Programs

end Korserver
