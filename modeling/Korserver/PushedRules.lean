import Korserver.PushedLines
import Korserver.PushedStore

/-!
Whether the live rules are those of the pushed lists whenever the applied fingerprint says so.
-/

namespace Korserver

open PythonText PythonValue IpAddress PacketFilter

/-- Apart from a profile's own routes, its live static host sets hold those of its list. -/
def LiveShows (config : AppConfig) (host : HostState)
    (lists : UpstreamProfileConfig → PushedRouting) : Prop :=
  ∀ profile ∈ config.upstream.profiles, ∀ family route, route ∉ mergeUnique [profile.hostRoutes] →
    (route ∈ host.elements config (hostSetOf family false profile).text ↔
      config.upstream.enabled = true ∧ listed (lists profile).hostRoutes route ∧
        familyOf route = some family)

theorem LiveShows.congr {config : AppConfig} {host : HostState}
    {lists others : UpstreamProfileConfig → PushedRouting} (shows : LiveShows config host lists)
    (same : ∀ profile ∈ config.upstream.profiles, SamePushed (lists profile) (others profile)) :
    LiveShows config host others := by
  intro profile member family route notOwn
  rw [shows profile member family route notOwn, (same profile member).hostRoutes]

theorem LinesShow.congr {repr : Json → String} {files : Files} {config : AppConfig}
    {lines : List Directive} {lists others : UpstreamProfileConfig → PushedRouting}
    (shows : LinesShow repr files config lines lists)
    (same : ∀ profile ∈ config.upstream.profiles, SamePushed (lists profile) (others profile)) :
    LinesShow repr files config lines others := by
  intro line notOwn
  rw [shows line notOwn]
  refine and_congr_right fun _ => ?_
  cases line with
  | serverFor domain address =>
      refine and_congr_right fun _ => exists_congr fun profile => and_congr_right fun member => ?_
      simp only [RoutesDomains, (same profile member).hostDomains,
        (same profile member).resolves repr domain address]
  | nftset domain table setV4 setV6 =>
      refine and_congr_right fun _ => exists_congr fun profile => and_congr_right fun member => ?_
      simp only [(same profile member).hostDomains]
  | option name => rfl
  | setting name value => rfl
  | server address => rfl
  | address host ip => rfl

theorem SamePushed.symm {first second : PushedRouting} (same : SamePushed first second) :
    SamePushed second first := by
  rcases same with ⟨routes, domains, dns⟩ | ⟨empty, alsoEmpty⟩
  · exact Or.inl ⟨routes.symm, domains.symm, dns.symm⟩
  · exact Or.inr ⟨alsoEmpty, empty⟩

theorem applied_shows {answers : Answers} {files : Files} {config : AppConfig}
    {outbound : Option String} {host after : HostState} {result : RulesetResult}
    (facts : config.Facts)
    (ran : nftablesApply answers files config outbound host = .ok (result, after))
    (loaded : result ≠ .failed) : LiveShows config after (files.effectivePushed config) := by
  obtain ⟨routes, domains, named, kept, split, namedListed, pairs, elements⟩ :=
    applied_elements facts ran loaded
  intro profile member family route notOwn
  rw [elements _ (by rw [SetName.isDynamic_text]; rfl),
    hostSet_declared pairs namedListed facts member, loadedHostRoutes]
  by_cases enabled : config.upstream.enabled = true
  · obtain ⟨lists, found⟩ := namedTargets_hostLists namedListed enabled profile member
    have inLists : route ∈ lists.routes ↔ listed (files.effectivePushed config profile).hostRoutes route := by
      rw [(hostLists_ok found).1 route, or_iff_right notOwn]
    rw [if_pos enabled, found]
    by_cases active : hostActive profile lists = true
    · simp only [active, if_true, List.mem_filter, beq_iff_eq, inLists, enabled, true_and]
    · have notListed : ¬listed (files.effectivePushed config profile).hostRoutes route := by
        intro isListed
        have nonempty : lists.routes ≠ [] := List.ne_nil_of_mem (inLists.mpr isListed)
        exact active (by simp [hostActive, routeHostEnabled_of_listed (Or.inr isListed), nonempty])
      simp [active, notListed]
  · simp [enabled]

theorem nftablesApply_failed {answers : Answers} {files : Files} {config : AppConfig}
    {outbound : Option String} {host after : HostState}
    (ran : nftablesApply answers files config outbound host = .ok (.failed, after)) : after = host := by
  obtain ⟨resolved, loaded, -, ruleset, rfl⟩ := nftablesApply_cases ran
  rcases applyRuleset_cases ruleset with ⟨refreshed, -⟩ | ⟨recreated, -⟩ | ⟨-, same, -⟩
  · nomatch refreshed
  · nomatch recreated
  · exact same

theorem listsOf_nil (profile : UpstreamProfileConfig) : (listsOf [] profile).isEmpty = true := rfl

theorem LiveShows.nothing (config : AppConfig) {host : HostState}
    (noTable : host.inet (filterTable config) = none) : LiveShows config host (listsOf []) := by
  intro profile member family route notOwn
  simp [HostState.elements, noTable, hostRoutes_empty (listsOf_nil profile)]

theorem LinesShow.nothing (repr : Json → String) (files : Files) (config : AppConfig) :
    LinesShow repr files config [] (listsOf []) := by
  intro line notOwn
  simp only [List.not_mem_nil, false_iff, not_and]
  intro enabled isPushed
  cases line with
  | serverFor domain address =>
      obtain ⟨-, profile, -, -, resolves⟩ := isPushed
      exact resolves_empty (listsOf_nil profile) domain address resolves
  | nftset domain table setV4 setV6 =>
      obtain ⟨-, profile, -, -, -, isListed⟩ := isPushed
      exact hostDomains_empty (listsOf_nil profile) domain isListed
  | option name => exact isPushed
  | setting name value => exact isPushed
  | server address => exact isPushed
  | address host ip => exact isPushed

section Saved

variable {files : Files} {json : String → JsonFile}

theorem listItemsOfAll_json (normalize : String → Option String) (paths : List String) :
    { files with json }.listItemsOfAll normalize paths = files.listItemsOfAll normalize paths := by
  induction paths with
  | nil => rfl
  | cons path rest ih =>
      simp only [Files.listItemsOfAll, ih]
      rfl

theorem splitDomainsOf_json (config : AppConfig) :
    splitDomainsOf { files with json } config = splitDomainsOf files config := by
  simp only [splitDomainsOf, listDomains, listDomainsOf, listItemsOfAll_json]
  rfl

theorem LinesShow.saved {repr : Json → String} {config : AppConfig} {lines : List Directive}
    {lists : UpstreamProfileConfig → PushedRouting} (shows : LinesShow repr files config lines lists) :
    LinesShow repr { files with json } config lines lists := by
  intro line notOwn
  refine shows line fun own => notOwn ?_
  cases line with
  | serverFor domain address =>
      simp only [OwnLine, splitDomainsOf_json]
      exact own
  | nftset domain table setV4 setV6 => exact own
  | option name => exact own
  | setting name value => exact own
  | server address => exact own
  | address host ip => exact own

theorem HookCall.run_json (hook : HookCall) (config : AppConfig) (files : Files) :
    ∃ json, hook.run config files = { files with json } := by
  simp only [HookCall.run, HookCall.step]
  cases hook.profile config with
  | some profile => exact ⟨_, rfl⟩
  | none => exact ⟨_, rfl⟩

theorem SyncCall.run_json (call : SyncCall) (config : AppConfig) (files : Files) :
    ∃ json, call.run config files = { files with json } := by
  simp only [SyncCall.run, SyncCall.step]
  cases truthy call.profile.syncUrl with
  | some url => cases call.answer <;> exact ⟨_, rfl⟩
  | none => exact ⟨_, rfl⟩

end Saved

section Toggled

variable (name : String) (acceptServerRoutes routeHostEnabled enabled : Bool)
  (profile : UpstreamProfileConfig)

@[simp] theorem toggle_name :
    (profile.toggle name acceptServerRoutes routeHostEnabled enabled).name = profile.name := by
  unfold UpstreamProfileConfig.toggle
  split <;> rfl

@[simp] theorem toggle_hostRoutes :
    (profile.toggle name acceptServerRoutes routeHostEnabled enabled).hostRoutes =
      profile.hostRoutes := by
  unfold UpstreamProfileConfig.toggle
  split <;> rfl

@[simp] theorem toggle_hostDomains :
    (profile.toggle name acceptServerRoutes routeHostEnabled enabled).hostDomains =
      profile.hostDomains := by
  unfold UpstreamProfileConfig.toggle
  split <;> rfl

@[simp] theorem toggle_hostSetOf (family : Family) (dynamic : Bool) :
    hostSetOf family dynamic (profile.toggle name acceptServerRoutes routeHostEnabled enabled) =
      hostSetOf family dynamic profile := by
  simp [hostSetOf]

@[simp] theorem toggle_listsOf (parts : List PushedPart) :
    listsOf parts (profile.toggle name acceptServerRoutes routeHostEnabled enabled) =
      listsOf parts profile := by
  simp [listsOf]

variable {config : AppConfig} {parts : List PushedPart}

theorem LiveShows.toggle {host : HostState} (shows : LiveShows config host (listsOf parts)) :
    LiveShows (config.toggle name acceptServerRoutes routeHostEnabled enabled) host (listsOf parts) := by
  intro toggled member family route notOwn
  obtain ⟨profile, before, rfl⟩ := List.mem_map.mp member
  simp only [toggle_hostRoutes, toggle_hostSetOf, toggle_listsOf] at notOwn ⊢
  exact shows profile before family route notOwn

theorem LinesShow.toggle {repr : Json → String} {files : Files} {lines : List Directive}
    (shows : LinesShow repr files config lines (listsOf parts)) :
    LinesShow repr files (config.toggle name acceptServerRoutes routeHostEnabled enabled) lines
      (listsOf parts) := by
  intro line notOwn
  have sameOwn : OwnLine files (config.toggle name acceptServerRoutes routeHostEnabled enabled) line ↔
      OwnLine files config line := by
    cases line with
    | nftset domain table setV4 setV6 =>
        simp only [OwnLine, AppConfig.toggle, List.mem_map, exists_exists_and_eq_and,
          toggle_hostSetOf, toggle_hostDomains]
    | serverFor domain address => exact Iff.rfl
    | option name => exact Iff.rfl
    | setting name value => exact Iff.rfl
    | server address => exact Iff.rfl
    | address host ip => exact Iff.rfl
  have samePushed :
      PushedLine repr (config.toggle name acceptServerRoutes routeHostEnabled enabled)
          (listsOf parts) line ↔ PushedLine repr config (listsOf parts) line := by
    cases line with
    | nftset domain table setV4 setV6 =>
        simp only [PushedLine, AppConfig.toggle, List.mem_map, exists_exists_and_eq_and,
          toggle_hostSetOf, toggle_listsOf]
        exact Iff.rfl
    | serverFor domain address =>
        simp only [PushedLine, RoutesDomains, AppConfig.toggle, List.mem_map,
          exists_exists_and_eq_and, toggle_hostDomains, toggle_listsOf]
    | option name => exact Iff.rfl
    | setting name value => exact Iff.rfl
    | server address => exact Iff.rfl
    | address host ip => exact Iff.rfl
  rw [shows line (sameOwn.not.mp notOwn), samePushed]
  exact Iff.rfl

end Toggled

/-! The applied fingerprint as a record of what is shown. -/

namespace PushedState

section

variable {Digest : Type} [DecidableEq Digest] (digest : List PushedPart → Digest) (repr : Json → String)
  (state : PushedState Digest)

def Current : Prop :=
  LiveShows state.config state.host (state.files.effectivePushed state.config) ∧
    LinesShow repr state.files state.config state.dnsmasq (state.files.effectivePushed state.config)

/-- `apply_server_routing_if_changed` returns early only over current rules and lines. -/
def NeverStale : Prop := state.fingerprint digest = state.applied → state.Current repr

structure Fresh : Prop where
  valid : state.config.Valid
  live : LiveShows state.config state.host (listsOf [])
  lines : LinesShow repr state.files state.config state.dnsmasq (listsOf [])
  applied : state.applied = none
  recorded : state.unrecorded = false

/-- `next` does not return to the applied fingerprint under rules loaded from other lists. -/
def NoReturn (next : PushedState Digest) : Prop :=
  state.unrecorded = true → next.fingerprint digest ≠ state.applied

/-- What is recorded next is rendered for dnsmasq, or is in its lines already. -/
def LinesFollow : Prop :=
  state.fingerprint digest ≠ state.applied → state.config.dnsTunnelActive state.files.pathExists = true ∨
    LinesShow repr state.files state.config state.dnsmasq (state.files.effectivePushed state.config)

def Sound : PushedCall → Prop
  | .saveHandshake hook =>
      state.NoReturn digest { state with files := hook.run state.config state.files }
  | .sync call => state.NoReturn digest { state with files := call.run state.config state.files }
  | .toggle name acceptServerRoutes routeHostEnabled enabled => state.NoReturn digest
      { state with config := state.config.toggle name acceptServerRoutes routeHostEnabled enabled }
  | .applyNftables _ _ => True
  | .applyIfChanged _ _ => state.LinesFollow digest repr
  | .connect answers outbound hook _ => ∀ loaded, state.applyNftables digest answers outbound = .ok loaded →
      loaded.NoReturn digest (loaded.hooked hook) ∧ (loaded.hooked hook).LinesFollow digest repr

def SoundRun : PushedState Digest → List PushedCall → Prop
  | _, [] => True
  | state, call :: rest => state.Sound digest repr call ∧
      ∀ next, state.step digest repr call = .ok next → SoundRun next rest

/-- The live rules show some lists, and so do the lines. The applied fingerprint is that of the
lines' lists, and of the live ones unless a load went unrecorded. -/
structure Tracked : Prop where
  valid : state.config.Valid
  live : ∃ parts, LiveShows state.config state.host (listsOf parts) ∧
    (state.unrecorded = false → fingerprintOf digest parts = state.applied)
  lines : ∃ parts, LinesShow repr state.files state.config state.dnsmasq (listsOf parts) ∧
    fingerprintOf digest parts = state.applied
  outdated : state.unrecorded = true → state.fingerprint digest ≠ state.applied

end

end PushedState

section Record

variable {Digest : Type} {digest : List PushedPart → Digest} {repr : Json → String}
  {state next : PushedState Digest}

theorem fingerprintOf_injective (injective : Function.Injective digest) :
    Function.Injective (fingerprintOf digest) := by
  intro parts others same
  cases parts with
  | nil => cases others with
    | nil => rfl
    | cons part rest => simp [fingerprintOf] at same
  | cons part rest => cases others with
    | nil => simp [fingerprintOf] at same
    | cons other others => exact injective (Option.some.inj same)

theorem PushedState.Tracked.fresh (fresh : state.Fresh repr) : state.Tracked digest repr where
  valid := fresh.valid
  live := ⟨[], fresh.live, fun _ => fresh.applied.symm⟩
  lines := ⟨[], fresh.lines, fresh.applied.symm⟩
  outdated := by simp [fresh.recorded]

theorem PushedState.Tracked.neverStale (injective : Function.Injective digest)
    (tracked : state.Tracked digest repr) : state.NeverStale digest repr := by
  intro same
  have recorded : state.unrecorded = false := by
    by_contra unrecorded
    exact tracked.outdated (by simpa using unrecorded) same
  have effective := fun profile member => @listsOf_samePushed state.files state.config
    tracked.valid.facts profile member
  obtain ⟨liveParts, live, liveApplied⟩ := tracked.live
  obtain ⟨lineParts, lines, lineApplied⟩ := tracked.lines
  obtain rfl := fingerprintOf_injective injective ((liveApplied recorded).trans same.symm)
  obtain rfl := fingerprintOf_injective injective (lineApplied.trans same.symm)
  exact ⟨live.congr effective, lines.congr effective⟩

theorem PushedState.Tracked.loaded {answers : Answers} {outbound : Option String} {after : HostState}
    {result : RulesetResult} (tracked : state.Tracked digest repr)
    (ran : nftablesApply answers state.files state.config outbound state.host = .ok (result, after))
    (loaded : result ≠ .failed) :
    LiveShows state.config after (listsOf (fingerprintParts state.files state.config)) := by
  refine (applied_shows tracked.valid.facts ran loaded).congr fun profile member => ?_
  exact (listsOf_samePushed tracked.valid.facts member).symm

theorem PushedState.Tracked.saved (tracked : state.Tracked digest repr) (json : String → JsonFile)
    (noReturn : state.NoReturn digest { state with files := { state.files with json } }) :
    PushedState.Tracked digest repr { state with files := { state.files with json } } where
  valid := tracked.valid
  live := tracked.live
  lines := by
    obtain ⟨parts, lines, applied⟩ := tracked.lines
    exact ⟨parts, lines.saved, applied⟩
  outdated := noReturn

theorem PushedState.Tracked.hooked (tracked : state.Tracked digest repr) (hook : Option HookCall)
    (noReturn : state.NoReturn digest (state.hooked hook)) :
    (state.hooked hook).Tracked digest repr := by
  cases hook with
  | none => exact tracked
  | some hook =>
      obtain ⟨json, saved⟩ := hook.run_json state.config state.files
      simp only [PushedState.hooked, saved] at noReturn ⊢
      exact tracked.saved json noReturn

variable [DecidableEq Digest]

theorem PushedState.Tracked.toggled {name : String} {acceptServerRoutes routeHostEnabled enabled : Bool}
    (tracked : state.Tracked digest repr)
    (ran : state.toggled name acceptServerRoutes routeHostEnabled enabled = .ok next)
    (sound : state.Sound digest repr (.toggle name acceptServerRoutes routeHostEnabled enabled)) :
    next.Tracked digest repr := by
  simp only [PushedState.toggled] at ran
  split at ran
  · rename_i valid
    obtain rfl := Except.ok.inj ran
    obtain ⟨liveParts, live, liveApplied⟩ := tracked.live
    obtain ⟨lineParts, lines, lineApplied⟩ := tracked.lines
    exact {
      valid := ⟨state.files.pathExists, valid⟩
      live := ⟨liveParts, live.toggle name acceptServerRoutes routeHostEnabled enabled, liveApplied⟩
      lines := ⟨lineParts, lines.toggle name acceptServerRoutes routeHostEnabled enabled, lineApplied⟩
      outdated := sound }
  · nomatch ran

theorem PushedState.Tracked.applyNftables {answers : Answers} {outbound : Option String}
    (tracked : state.Tracked digest repr)
    (ran : state.applyNftables digest answers outbound = .ok next) : next.Tracked digest repr := by
  obtain ⟨⟨result, after⟩, loaded, same⟩ := bind_ok.mp ran
  obtain rfl := pure_ok.mp same
  by_cases failed : result = .failed
  · subst failed
    obtain rfl := nftablesApply_failed loaded
    exact ⟨tracked.valid, tracked.live, tracked.lines, tracked.outdated⟩
  · simp only [if_neg failed]
    exact {
      valid := tracked.valid
      live := ⟨_, tracked.loaded loaded failed, fun recorded => not_not.mp (of_decide_eq_false recorded)⟩
      lines := tracked.lines
      outdated := of_decide_eq_true }

theorem PushedState.Tracked.applyIfChanged {answers : Answers} {outbound : Option String}
    (tracked : state.Tracked digest repr) (follow : state.LinesFollow digest repr)
    (ran : state.applyIfChanged digest repr answers outbound = .ok next) : next.Tracked digest repr := by
  unfold PushedState.applyIfChanged at ran
  split at ran
  · obtain rfl := Except.ok.inj ran
    exact tracked
  · rename_i changed
    obtain ⟨⟨result, after⟩, loaded, ran⟩ := bind_ok.mp ran
    by_cases failed : result = .failed
    · subst failed
      obtain rfl := nftablesApply_failed loaded
      obtain rfl := pure_ok.mp ran
      exact tracked
    · simp only [if_neg failed] at ran
      obtain ⟨lines, rendered, same⟩ := bind_ok.mp ran
      obtain rfl := pure_ok.mp same
      have shown : LinesShow repr state.files state.config lines
          (state.files.effectivePushed state.config) := by
        unfold PushedState.renderedDnsmasq at rendered
        split at rendered
        · exact rendered_lines tracked.valid.facts rendered
        · rename_i inactive
          obtain rfl := Except.ok.inj rendered
          exact (follow changed).resolve_left inactive
      exact {
        valid := tracked.valid
        live := ⟨_, tracked.loaded loaded failed, fun _ => rfl⟩
        lines := ⟨_, shown.congr fun profile member =>
          (listsOf_samePushed tracked.valid.facts member).symm, rfl⟩
        outdated := by simp }

theorem PushedState.Tracked.step {call : PushedCall} (tracked : state.Tracked digest repr)
    (sound : state.Sound digest repr call) (ran : state.step digest repr call = .ok next) :
    next.Tracked digest repr := by
  cases call with
  | saveHandshake hook =>
      obtain rfl := Except.ok.inj ran
      exact tracked.hooked (some hook) sound
  | sync call =>
      obtain rfl := Except.ok.inj ran
      obtain ⟨json, saved⟩ := call.run_json state.config state.files
      simp only [PushedState.Sound, saved] at sound ⊢
      exact tracked.saved json sound
  | toggle name acceptServerRoutes routeHostEnabled enabled => exact tracked.toggled ran sound
  | applyNftables answers outbound => exact tracked.applyNftables ran
  | applyIfChanged answers outbound => exact tracked.applyIfChanged sound ran
  | connect answers outbound hook later =>
      obtain ⟨loaded, load, apply⟩ := bind_ok.mp ran
      obtain ⟨noReturn, follow⟩ := sound loaded load
      exact ((tracked.applyNftables load).hooked hook noReturn).applyIfChanged follow apply

theorem PushedState.Tracked.run {calls : List PushedCall} {final : PushedState Digest}
    (tracked : state.Tracked digest repr) (sound : state.SoundRun digest repr calls)
    (ran : state.run digest repr calls = .ok final) : final.Tracked digest repr := by
  induction calls generalizing state with
  | nil =>
      obtain rfl := Except.ok.inj ran
      exact tracked
  | cons call rest ih =>
      obtain ⟨next, step, ran⟩ := bind_ok.mp ran
      exact ih (tracked.step sound.1 step) (sound.2 next step) ran

/-- In a run of sound calls, an early return is one over current rules. -/
theorem pushedRules_neverStale (injective : Function.Injective digest) {calls : List PushedCall}
    {final : PushedState Digest} (fresh : state.Fresh repr) (sound : state.SoundRun digest repr calls)
    (ran : state.run digest repr calls = .ok final) : final.NeverStale digest repr :=
  ((PushedState.Tracked.fresh fresh).run sound ran).neverStale injective

end Record

/-! A load between two handshakes. -/

def acceptingProfile : UpstreamProfileConfig :=
  { name := "office", server := "vpn.example.com", username := some "me"
    acceptServerRoutes := true, routeHostEnabled := true }

def acceptingConfig : AppConfig := { upstream := { enabled := true, profiles := [acceptingProfile] } }

def splitHandshake (network : String) : HookCall where
  reason := "connect"
  environ := fun key => dictGet key [
    ("TUNDEV", acceptingConfig.upstream.profileInterface acceptingProfile), ("CISCO_SPLIT_INC", "1"),
    ("CISCO_SPLIT_INC_0_ADDR", network), ("CISCO_SPLIT_INC_0_MASKLEN", "24")]
  now := 200

def firstPush : Files := (splitHandshake "10.1.0.0").run acceptingConfig {}

def secondPush : Files := (splitHandshake "10.2.0.0").run acceptingConfig firstPush

def thirdPush : Files := (splitHandshake "10.1.0.0").run acceptingConfig secondPush

def loadedHost (files : Files) (host : HostState) : HostState :=
  match nftablesApply willingAnswers files acceptingConfig none host with
  | .ok (_, after) => after
  | .error _ => host

def firstHost : HostState := loadedHost firstPush {}

def secondHost : HostState := loadedHost secondPush firstHost

theorem loadedHost_ok {files : Files} {host : HostState} {result : RulesetResult}
    (ran : (nftablesApply willingAnswers files acceptingConfig none host).toOption.map Prod.fst =
      some result) :
    nftablesApply willingAnswers files acceptingConfig none host = .ok (result, loadedHost files host) := by
  unfold loadedHost
  cases applied : nftablesApply willingAnswers files acceptingConfig none host with
  | ok outcome =>
      rw [applied] at ran
      obtain rfl := Option.some.inj ran
      rfl
  | error problem => simp [applied, Except.toOption] at ran

theorem HookCall.run_load {hook : HookCall} {config : AppConfig} {profile : UpstreamProfileConfig}
    (found : hook.profile config = some profile) (files : Files) :
    (hook.run config files).loadPushed config profile =
      hook.pushed.paced (files.loadPushed config profile) := by
  simp only [HookCall.run, HookCall.step, found]
  exact loadPushed_savePushed files config profile _

theorem fingerprint_splitHandshake (network : String) (files others : Files) :
    fingerprintParts ((splitHandshake network).run acceptingConfig files) acceptingConfig =
      fingerprintParts ((splitHandshake network).run acceptingConfig others) acceptingConfig := by
  have found : (splitHandshake network).profile acceptingConfig = some acceptingProfile := rfl
  have part (files : Files) : ((splitHandshake network).run acceptingConfig files).effectivePushed
      acceptingConfig acceptingProfile = (splitHandshake network).pushed.paced
        (files.loadPushed acceptingConfig acceptingProfile) := HookCall.run_load found files
  change List.filterMap _ [acceptingProfile] = List.filterMap _ [acceptingProfile]
  simp only [List.filterMap_cons, List.filterMap_nil, fingerprintPart, part, PushedRouting.paced, PushedRouting.isEmpty]

theorem fingerprintOf_nonempty {Digest : Type} (digest : List PushedPart → Digest)
    {parts : List PushedPart} (nonempty : parts.isEmpty = false) :
    fingerprintOf digest parts = some (digest parts) := by
  cases parts with
  | nil => nomatch nonempty
  | cons part rest => rfl

def firstLines : List Directive :=
  match renderDnsmasq (fun _ => "") firstPush acceptingConfig with
  | .ok lines => lines
  | .error _ => []

theorem firstLines_rendered : renderDnsmasq (fun _ => "") firstPush acceptingConfig = .ok firstLines := by
  have rendered : (renderDnsmasq (fun _ => "") firstPush acceptingConfig).toOption.isSome = true := by
    decide +kernel
  unfold firstLines
  cases lines : renderDnsmasq (fun _ => "") firstPush acceptingConfig with
  | ok lines => rfl
  | error problem => simp [lines, Except.toOption] at rendered

def appliedState : PushedState (List PushedPart) where
  config := acceptingConfig
  files := firstPush
  host := firstHost
  dnsmasq := firstLines
  applied := fingerprintOf id (fingerprintParts firstPush acceptingConfig)

theorem acceptingState_fresh :
    PushedState.Fresh (fun _ => "") ({ config := acceptingConfig } : PushedState (List PushedPart)) where
  valid := ⟨fun _ => false, by decide⟩
  live := LiveShows.nothing acceptingConfig rfl
  lines := LinesShow.nothing (fun _ => "") {} acceptingConfig
  applied := rfl
  recorded := rfl

open Classical in
theorem firstPush_applied : PushedState.applyIfChanged id (fun _ => "") willingAnswers none
    ({ config := acceptingConfig, files := firstPush } : PushedState (List PushedPart)) =
      .ok appliedState := by
  have changed : PushedState.fingerprint id
      ({ config := acceptingConfig, files := firstPush } : PushedState (List PushedPart)) ≠ none := by
    rw [PushedState.fingerprint, fingerprintOf_nonempty id (by decide +kernel)]
    simp
  have loaded : nftablesApply willingAnswers firstPush acceptingConfig none {} =
      .ok (.recreated, firstHost) := loadedHost_ok (by decide +kernel)
  have running : acceptingConfig.dnsTunnelActive firstPush.pathExists = true := by decide +kernel
  unfold PushedState.applyIfChanged
  rw [if_neg changed]
  simp only [loaded, PushedState.renderedDnsmasq, running, if_true, firstLines_rendered]
  rfl

def pushedCalls : List PushedCall :=
  [.saveHandshake (splitHandshake "10.1.0.0"), .applyIfChanged willingAnswers none]

open Classical in
theorem pushedRules_neverStale_sample : appliedState.NeverStale id fun _ => "" := by
  refine @pushedRules_neverStale _ id (fun _ => "") { config := acceptingConfig } _
    Function.injective_id pushedCalls appliedState acceptingState_fresh ⟨nofun, ?_⟩
    (bind_ok.mpr ⟨_, rfl, bind_ok.mpr ⟨_, firstPush_applied, rfl⟩⟩)
  intro next step
  obtain rfl := Except.ok.inj step
  exact ⟨fun _ => Or.inl (by decide +kernel), fun _ _ => trivial⟩

open Classical in
/-- A load between two handshakes is not recorded, and the next handshake returns to the fingerprint
that was applied. -/
theorem unrecordedLoad_stale : ∃ final,
    ({ config := acceptingConfig } : PushedState (List PushedPart)).run id (fun _ => "") [
      .saveHandshake (splitHandshake "10.1.0.0"), .applyIfChanged willingAnswers none,
      .saveHandshake (splitHandshake "10.2.0.0"), .applyNftables willingAnswers none,
      .saveHandshake (splitHandshake "10.1.0.0")] = .ok final ∧ ¬final.NeverStale id fun _ => "" := by
  have loaded : nftablesApply willingAnswers secondPush acceptingConfig none firstHost =
      .ok (.refreshed, secondHost) := loadedHost_ok (by decide +kernel)
  have live : secondHost.elements acceptingConfig (hostSetOf .v4 false acceptingProfile).text =
      ["10.2.0.0/24"] := by decide +kernel
  have inEffect : (thirdPush.effectivePushed acceptingConfig acceptingProfile).hostRoutes.toOption =
      some ["10.1.0.0/24"] := by decide +kernel
  refine ⟨_, bind_ok.mpr ⟨_, rfl, bind_ok.mpr ⟨_, firstPush_applied, bind_ok.mpr ⟨_, rfl,
    bind_ok.mpr ⟨_, bind_ok.mpr ⟨_, loaded, rfl⟩, bind_ok.mpr ⟨_, rfl, rfl⟩⟩⟩⟩⟩, ?_⟩
  intro never
  have same : fingerprintOf id (fingerprintParts thirdPush acceptingConfig) =
      fingerprintOf id (fingerprintParts firstPush acceptingConfig) :=
    congrArg _ (fingerprint_splitHandshake "10.1.0.0" secondPush {})
  have shown := ((never same).1 acceptingProfile (List.mem_singleton_self _) .v4 "10.2.0.0/24"
    (by decide)).mp (by
      change _ ∈ secondHost.elements acceptingConfig _
      rw [live]
      exact List.mem_singleton_self _)
  obtain ⟨-, ⟨routes, listedRoutes, member⟩, -⟩ := shown
  change (thirdPush.effectivePushed acceptingConfig acceptingProfile).hostRoutes = .ok routes at listedRoutes
  rw [listedRoutes] at inEffect
  obtain rfl := Option.some.inj inEffect
  simp at member

end Korserver
