import Korserver.Runs
import Korserver.StaticRefresh
import Korserver.UpstreamService

/-!
One active interface everywhere, over runs of the calls in any order, and the kill-switch
of the profile that the marker selects.
-/

namespace Korserver

open PythonText PythonValue IpAddress PacketFilter Effects Runs

def SoundApplies (config : AppConfig) (state : Runtime) (input : ServiceInput) : Prop :=
  ∀ event ∈ (input.program config state).events, Sound config event

theorem good_run {config : AppConfig} (facts : config.Facts) {state : Runtime}
    {inputs : List ServiceInput} (good : Good config state)
    (sound : Throughout (serviceStep config) (SoundApplies config) state inputs) :
    AfterEach (serviceStep config) (fun state _ => Good config state) state inputs := by
  induction inputs generalizing state with
  | nil => trivial
  | cons input rest ih =>
      have next := serviceStep_good facts good sound.1
      exact ⟨next, ih next sound.2⟩

/-- From a start without connections, whatever the marker says: after every call the rules
and the route of the default mark name the device of the selected profile, if it is
connected. -/
theorem oneActiveInterface {config : AppConfig} (valid : config.Valid) (start : Runtime)
    (idle : ∀ name, start.connected name = false) (inputs : List ServiceInput)
    (sound : Throughout (serviceStep config) (SoundApplies config) start inputs) :
    AfterEach (serviceStep config) (fun state _ => Good config state) start inputs := by
  refine good_run valid.facts ?_ sound
  intro profile _ connected
  rw [idle] at connected
  simp at connected

def tunnelsOnly : Surroundings where
  answers := { willingAnswers with links := fun _ => false }

def quietEnvironment : Environment where
  around := fun _ => tunnelsOnly
  dial := fun _ => .up

def connectCall (name : String) : ServiceInput :=
  { call := .connect (some name), env := quietEnvironment }

def switchCall (name : String) : ServiceInput :=
  { call := .switchProfile name, env := quietEnvironment }

def switchedRun : List ServiceInput :=
  [connectCall "first", connectCall "second", switchCall "second"]

theorem connectFirst_repoints :
    Repoints switchedConfig
      { before := { attempts := ["first"] }, outbound := some "oc-middle0", around := tunnelsOnly }
      (plainProfile "first") where
  active := rfl
  interface := rfl
  loads := by
    refine Or.inr ⟨?_, fun _ _ => rfl⟩
    rintro ⟨ready, -⟩
    have absent : staticSetsReady
      (tunnelsOnly.answersIn switchedConfig { attempts := ["first"] }) {} switchedConfig
      (some "oc-middle0") {} = .ok false := rfl
    exact absurd (absent.symm.trans ready) (by simp)
  readable := ⟨switchedRuleset "oc-middle0", rfl⟩
  route := by simp
  spares := by simp

theorem selectsFirst {profile : UpstreamProfileConfig}
    (selected : runtimeProfile switchedConfig .missing = .ok (some profile)) : profile = plainProfile "first" := by
  have first : runtimeProfile switchedConfig .missing = .ok (some (plainProfile "first")) := rfl
  exact (Option.some.inj (Except.ok.inj (first.symm.trans selected))).symm

theorem connectFirst_sound :
    Throughout (serviceStep switchedConfig) (SoundApplies switchedConfig) {} [connectCall "first"] := by
  refine ⟨?_, trivial⟩
  intro event member profile selected
  have events : ((connectCall "first").program switchedConfig {}).events =
    [{ before := { attempts := ["first"] }, outbound := some "oc-middle0", around := tunnelsOnly }] :=
      rfl
  rw [events] at member
  obtain rfl := List.mem_singleton.mp member
  rw [selectsFirst selected]
  exact connectFirst_repoints

def firstConnected : Runtime := run (serviceStep switchedConfig) {} [connectCall "first"]

theorem connectSecond_repoints :
    Repoints switchedConfig
      { before := { firstConnected with attempts := ["first", "second"] }, outbound := some "oc-middle0",
        around := tunnelsOnly }
      (plainProfile "first") where
  active := rfl
  interface := rfl
  loads := by
    obtain ⟨good, -⟩ := good_run switchedConfig_valid.facts (fun _ _ connected => absurd connected (by simp))
      connectFirst_sound
    exact Or.inl (good (plainProfile "first") rfl rfl).rules
  readable := ⟨switchedRuleset "oc-middle0", rfl⟩
  route := fun _ _ => rfl
  spares := by
    rintro - targets routing listed ⟨entry, recorded, stale, -⟩
    have known : listTargets {} switchedConfig "oc-middle0" =
      .ok [defaultTarget switchedConfig "oc-middle0" [] []] := rfl
    obtain rfl := Except.ok.inj (known.symm.trans listed)
    have written : (firstConnected.host.stateFiles (targetsStatePath switchedConfig)).previous =
      [("default", defaultPolicyRouting switchedConfig)] := rfl
    rw [written] at recorded
    obtain rfl := List.mem_singleton.mp recorded
    exact absurd List.mem_cons_self stale

theorem connects_sound :
    Throughout (serviceStep switchedConfig) (SoundApplies switchedConfig) {}
      [connectCall "first", connectCall "second"] := by
  refine ⟨connectFirst_sound.1, ?_, trivial⟩
  intro event member profile selected
  have events : ((connectCall "second").program switchedConfig firstConnected).events =
    [{ before := { firstConnected with attempts := ["first", "second"] }, outbound := some "oc-middle0",
       around := tunnelsOnly }] := rfl
  change event ∈ ((connectCall "second").program switchedConfig firstConnected).events at member
  rw [events] at member
  obtain rfl := List.mem_singleton.mp member
  rw [selectsFirst selected]
  exact connectSecond_repoints

theorem oneActiveInterface_sample :
    AfterEach (serviceStep switchedConfig) (fun state _ => Good switchedConfig state) {}
      [connectCall "first", connectCall "second"] :=
  oneActiveInterface switchedConfig_valid {} (fun _ => rfl) _ connects_sound

theorem switchedRun_disagrees :
    switchedConfig.Valid ∧
      ((switchCall "second").program switchedConfig
        (run (serviceStep switchedConfig) {} [connectCall "first", connectCall "second"])).result =
          .ok () ∧
      ¬AfterEach (serviceStep switchedConfig) (fun state _ => Good switchedConfig state) {}
        switchedRun := by
  refine ⟨switchedConfig_valid, rfl, ?_⟩
  rintro ⟨-, -, good, -⟩
  have agrees := (good (plainProfile "second") rfl rfl).rules.clientDrop rfl
  have named := agrees.only "oc-middle0"
  revert named
  decide

/-- The ruleset polices the default mark on one interface: the drop rule is there, and a
packet of the mark passes the forward chain to no other device. -/
structure PolicesDefault (config : AppConfig) (ruleset : Ruleset) (interface : String) : Prop where
  dropRule : liveDrop (hostExit config interface) ∈ ruleset.chainRules "forward"
  confined : ∀ contents (packet : Packet) output,
    some packet.mark = intLiteral config.routing.fwmark →
    (runChain contents (ruleset.chainRules "forward") { packet with output }).accepted = true →
    output = interface

theorem liveDrop_drops {contents : SetContents} {mark : Int} {device : String} {packet : Packet}
    {rules : List LiveRule} (marked : mark = packet.mark)
    (passes : (runChain contents (liveDrop ⟨some mark, device⟩ :: rules) packet).accepted = true) :
    packet.output = device := by
  by_contra other
  have dropped : Rule.effect contents (liveDrop ⟨some mark, device⟩) packet = .drop := by
    refine (effect_policing contents mark device packet).trans (if_pos ?_)
    simp [violates, marked, other]
  simp [runChain, PacketFilter.traverse, dropped, Outcome.accepted] at passes

/-- The kill-switch is rendered for the profile that the marker selects exactly when the
configuration selects one by itself. -/
theorem policesDefault_iff {config : AppConfig} (valid : config.Valid)
    (enabled : config.upstream.enabled = true) (client : config.routing.clientTraffic = true)
    (start : Runtime) (inputs : List ServiceInput) {profile : UpstreamProfileConfig}
    {interface : String} {files : Files} {ruleset : Ruleset}
    (selected : runtimeProfile config (run (serviceStep config) start inputs).marker =
      .ok (some profile))
    (active : activeInterface config (run (serviceStep config) start inputs).marker = .ok interface)
    (rendered : render files config (some interface) = .ok ruleset) :
    PolicesDefault config ruleset (config.upstream.profileInterface profile) ↔
      config.upstream.selectedProfile.isSome = true := by
  have facts := valid.facts
  rw [← activeInterface_selected selected active]
  obtain ⟨_, split, resolution, -, rfl⟩ := render_ok rendered
  obtain ⟨routes, domains, named, kept, -, -, pairs, rfl⟩ := resolveTargets_ok resolution
  have resolved : resolvedInterface config (some interface) = interface := rfl
  have forward := (chainRules_forward config (resolvedOf config interface routes domains named)
    split).trans (forwardRules_read pairs interface routes domains)
  have own : defaultExit config interface = hostExit config interface := by
    simp [defaultExit, hostExit, defaultTargetInterface, client]
  constructor
  · intro polices
    by_contra unselected
    have unpoliced : defaultPoliced config = false := by
      simpa [defaultPoliced, upstreamActive, enabled, client] using unselected
    have member : liveDrop (hostExit config interface) ∈ (named.map RoutingTarget.exit).map liveDrop := by
      have dropRule := polices.dropRule
      change liveDrop _ ∈ (rulesetOf config (resolvedOf config interface routes domains named)
        split).chainRules "forward" at dropRule
      rw [forward, unpoliced] at dropRule
      exact dropRule
    rw [List.mem_map_of_injective liveDrop_injective] at member
    exact pairs.exits_ne facts _ member rfl
  · intro configured
    have policed : defaultPoliced config = true := by
      simp [defaultPoliced, upstreamActive, enabled, client, configured]
    rw [policed, own] at forward
    constructor
    · change liveDrop _ ∈ (rulesetOf config (resolvedOf config interface routes domains named)
        split).chainRules "forward"
      rw [forward]
      simp
    · intro contents packet output marked passes
      change (runChain contents ((rulesetOf config (resolvedOf config interface routes domains
        named) split).chainRules "forward") { packet with output }).accepted = true at passes
      rw [forward, hostExit, ← marked] at passes
      have through : ({ packet with output } : Packet).output = interface := liveDrop_drops rfl passes
      exact through

def disabledActiveConfig : AppConfig where
  upstream := {
    enabled := true
    failover := true
    activeProfile := some "primary"
    profiles := [{ plainProfile "primary" with enabled := false }, plainProfile "backup"] }

def recoverCall : ServiceInput := { call := .recover, env := quietEnvironment }

def backupRuleset : Ruleset :=
  rulesetOf disabledActiveConfig (resolvedOf disabledActiveConfig "oc-up1" [] [] []) []

theorem recovered_unpoliced :
    disabledActiveConfig.Valid ∧ disabledActiveConfig.upstream.enabled = true ∧
      disabledActiveConfig.routing.clientTraffic = true ∧
      (recoverCall.program disabledActiveConfig {}).result = .ok () ∧
      runtimeProfile disabledActiveConfig
        (run (serviceStep disabledActiveConfig) {} [recoverCall]).marker =
          .ok (some (plainProfile "backup")) ∧
      activeInterface disabledActiveConfig
        (run (serviceStep disabledActiveConfig) {} [recoverCall]).marker = .ok "oc-up1" ∧
      render {} disabledActiveConfig (some "oc-up1") = .ok backupRuleset ∧
      ¬PolicesDefault disabledActiveConfig backupRuleset "oc-up1" := by
  refine ⟨⟨fun _ => false, by decide⟩, rfl, rfl, rfl, rfl, rfl, rfl, ?_⟩
  rintro ⟨dropRule, -⟩
  revert dropRule
  decide

theorem policesDefault_iff_sample :
    PolicesDefault switchedConfig (switchedRuleset "oc-up1") "oc-up1" ↔
      switchedConfig.upstream.selectedProfile.isSome = true :=
  policesDefault_iff switchedConfig_valid rfl rfl {} switchedRun
    (rfl : runtimeProfile switchedConfig
      (run (serviceStep switchedConfig) {} switchedRun).marker = .ok (some (plainProfile "second")))
    rfl (rfl : render {} switchedConfig (some "oc-up1") = .ok (switchedRuleset "oc-up1"))

end Korserver
