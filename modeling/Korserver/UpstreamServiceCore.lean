import Korserver.Effects
import Korserver.NftablesServiceCore

/-!
`services/upstream.py`: which profile is active at run time, the policy routing of the named targets,
and the calls of `UpstreamService` that switch, dial and recover profiles, as programs on the state they
share with `NftablesService.apply`. They run under one lock, so that calls never interleave.
-/

namespace Korserver

open PythonText PythonValue Effects

/-- The last profile of a name, as a dictionary by name keeps it. -/
def profileNamed (upstream : UpstreamConfig) (name : String) : Option UpstreamProfileConfig :=
  upstream.profiles.reverse.find? (·.name = name)

/-- The first line of the marker that names a profile decides; `none` when no line does. -/
def markedProfile (upstream : UpstreamConfig) : List String → Option UpstreamProfileConfig
  | [] => none
  | line :: rest =>
      match (truthy (some (strip line))).bind (profileNamed upstream) with
      | some profile => some profile
      | none => markedProfile upstream rest

def markerLines : TextFile → Except PyError (List String)
  | .missing => .ok []
  | .unreadable => .error .osError
  | .text content => .ok (splitLines content)

/-- `UpstreamService.selected_profile`. -/
def runtimeProfile (config : AppConfig) (marker : TextFile) :
    Except PyError (Option UpstreamProfileConfig) := do
  let lines ← markerLines marker
  match markedProfile config.upstream lines with
  | some profile => return if profile.enabled then some profile else none
  | none => return config.upstream.selectedProfile

def activeInterface (config : AppConfig) (marker : TextFile) : Except PyError String := do
  match ← runtimeProfile config marker with
  | some profile => return config.upstream.profileInterface profile
  | none => return config.upstream.interface

/-- `_named_target_routing`: the profiles that have a named target, with its policy routing. -/
def namedTargetRouting (files : Files) (config : AppConfig) :
    Except PyError (List (UpstreamProfileConfig × PolicyRouting)) :=
  if config.upstream.enabled then do
    let targets ← listTargets files config config.routing.mainInterface
    let byName := dictOf ((targets.filter (·.name ≠ "default")).map fun target => (target.name, target))
    return config.upstream.profiles.filterMap fun profile =>
      (dictGet profile.name byName).map fun target => (profile, target.policyRouting)
  else .ok []

/-- What the calls read and change: the host, the marker file of the active profile, which
profiles have a running openconnect, and the fingerprint last applied. `attempts` and `reached`
are history: whom `connect` set out to dial, and for whom it returned. -/
structure Runtime where
  host : HostState := {}
  marker : TextFile := .missing
  connected : String → Bool := fun _ => false
  appliedFingerprint : String := ""
  attempts : List String := []
  reached : List String := []

/-- What one step of a call finds around it. `answers.links` are the devices other than the
tunnels, `fingerprint` is that of the pushed lists, `dnsmasq` how its reload ends. -/
structure Surroundings where
  files : Files := {}
  answers : Answers
  ruleProbe : Bool := true
  fingerprint : String := ""
  dnsmasq : Except PyError Unit := .ok ()

inductive Moment
  | called
  | switching (name : String)
  | dialing (name : String)
  | dialed (name : String)
  deriving DecidableEq

/-- How dialing ends: openconnect fails, or goes to the background and is gone a moment
later, or stays. -/
inductive Dial
  | refused (error : PyError)
  | gone
  | up

structure Environment where
  around : Moment → Surroundings
  dial : String → Dial

/-- One `NftablesService.apply`. -/
structure ApplyEvent where
  before : Runtime
  outbound : Option String
  around : Surroundings

abbrev Service := Program Runtime ApplyEvent PyError

section

variable (config : AppConfig)

def tunnelUp (connected : String → Bool) (device : String) : Bool :=
  config.upstream.profiles.any fun profile =>
    connected profile.name && config.upstream.profileInterface profile == device

def Surroundings.linkUp (around : Surroundings) (state : Runtime) (device : String) : Bool :=
  around.answers.links device || tunnelUp config state.connected device

def Surroundings.answersIn (around : Surroundings) (state : Runtime) : Answers :=
  { around.answers with links := around.linkUp config state }

/-- `NftablesService.apply` in the state it finds. -/
def ApplyEvent.run (event : ApplyEvent) : Except PyError (RulesetResult × HostState) :=
  nftablesApply (event.around.answersIn config event.before) event.around.files config event.outbound
    event.before.host

def applyNftables (around : Surroundings) (outbound : Option String) : Service RulesetResult :=
  fun state =>
    let event : ApplyEvent := { before := state, outbound, around }
    match event.run config with
    | .ok (result, host) => ⟨.ok result, { state with host }, [event]⟩
    | .error error => ⟨.error error, state, [event]⟩

def tryPolicy (change : Runtime → PolicyTables → Except PyError PolicyTables) : Service Unit :=
  Program.tryModify fun state => do
    let policy ← change state state.host.policy
    return { state with host := { state.host with policy } }

def pointRoute (around : Surroundings) (routing : PolicyRouting) (interface : String) : Service Unit :=
  tryPolicy fun state tables =>
    .ok (routing.apply (around.linkUp config state) (routeDevice config interface) tables)

def ensureRoute (around : Surroundings) (routing : PolicyRouting) (interface : String) : Service Unit :=
  tryPolicy fun state tables =>
    routing.ensure (around.linkUp config state) around.ruleProbe (routeDevice config interface) tables

def cleanupRoute (routing : PolicyRouting) : Service Unit :=
  tryPolicy fun _ tables => .ok (routing.cleanup tables)

def namedRouting (around : Surroundings) : Service (List (UpstreamProfileConfig × PolicyRouting)) :=
  Program.fromExcept fun _ => namedTargetRouting around.files config

/-! Selection. -/

def selectedProfile : Service (Option UpstreamProfileConfig) :=
  Program.fromExcept fun state => runtimeProfile config state.marker

def activeDevice : Service String :=
  Program.fromExcept fun state => activeInterface config state.marker

def profileByName (name : String) : Service UpstreamProfileConfig :=
  Program.fromExcept fun _ =>
    match config.upstream.profiles.find? (·.name = name) with
    | some profile => .ok profile
    | none => .error (.valueError ("unknown upstream profile: " ++ name))

/-- `_profile_by_name(name) if name else selected_profile()`. -/
def profileOrSelected (name : Option String) : Service (Option UpstreamProfileConfig) :=
  match truthy name with
  | some name => do
      let profile ← profileByName config name
      pure (some profile)
  | none => selectedProfile config

def profileConnected (profile : UpstreamProfileConfig) : Service Bool :=
  Program.read fun state => state.connected profile.name

def markerOf (name : String) : TextFile := .text (name ++ "\n")

def switchProfile (env : Environment) (name : String) : Service Unit := do
  let profile ← profileByName config name
  Program.modify fun state => { state with marker := markerOf name }
  let interface := config.upstream.profileInterface profile
  let _ ← applyNftables config (env.around (.switching name)) (some interface)
  let connected ← profileConnected profile
  Program.when connected
    (pointRoute config (env.around (.switching name)) (defaultPolicyRouting config) interface)

/-- `apply_server_routing_if_changed`. -/
def applyServerRouting (around : Surroundings) : Service Unit := do
  let applied ← Program.read Runtime.appliedFingerprint
  Program.when (around.fingerprint ≠ applied) do
    let interface ← activeDevice config
    let result ← applyNftables config around (some interface)
    Program.when (result ≠ .failed) do
      Program.fromExcept fun _ => around.dnsmasq
      Program.modify fun state => { state with appliedFingerprint := around.fingerprint }

/-- openconnect and `_verify_backgrounded`. -/
def dial (env : Environment) (profile : UpstreamProfileConfig) : Service Unit :=
  match env.dial profile.name with
  | .refused error => Program.raise error
  | .gone => Program.raise .commandError
  | .up => Program.modify fun state =>
      { state with connected := Function.update state.connected profile.name true }

/-- A connected profile with a named target has its own table pointed at its device. -/
def pointNamedTarget (around : Surroundings) (profile : UpstreamProfileConfig) : Service Unit := do
  let named ← namedRouting config around
  Program.forEach named fun (target, routing) =>
    Program.when (target.name = profile.name)
      (pointRoute config around routing (config.upstream.profileInterface profile))

def noteAttempt (name : String) : Service Unit :=
  Program.modify fun state => { state with attempts := state.attempts ++ [name] }

def noteReached (name : String) : Service Unit :=
  Program.modify fun state => { state with reached := state.reached ++ [name] }

def connectProfile (env : Environment) (profile : UpstreamProfileConfig) : Service Unit := do
  noteAttempt profile.name
  let selected ← selectedProfile config
  let interface ← activeDevice config
  -- The kill-switch is loaded before dialing.
  let _ ← applyNftables config (env.around (.dialing profile.name)) (some interface)
  dial env profile
  Program.when (selected.any (·.name = profile.name))
    (pointRoute config (env.around (.dialed profile.name)) (defaultPolicyRouting config)
      (config.upstream.profileInterface profile))
  pointNamedTarget config (env.around (.dialed profile.name)) profile
  applyServerRouting config (env.around (.dialed profile.name))
  noteReached profile.name

def connectUnlessUp (env : Environment) : Option UpstreamProfileConfig → Service Unit
  | none => Program.raise (.valueError "no upstream profile configured")
  | some profile => do
      let connected ← profileConnected profile
      Program.when (!connected) (connectProfile config env profile)

def connect (env : Environment) (name : Option String) : Service Unit := do
  let profile ← profileOrSelected config name
  connectUnlessUp config env profile

/-- The process ends, and the kernel drops the routes through its device. -/
def hangUp (profile : UpstreamProfileConfig) : Service Unit :=
  Program.modify fun state =>
    { state with
      connected := Function.update state.connected profile.name false
      host := { state.host with policy := { state.host.policy with
        routes := fun table =>
          if state.host.policy.routes table = some (config.upstream.profileInterface profile) then none
          else state.host.policy.routes table } } }

def disconnectProfile (around : Surroundings) (profile : UpstreamProfileConfig) : Service Unit := do
  hangUp config profile
  let selected ← selectedProfile config
  Program.when (selected.any (·.name = profile.name)) (cleanupRoute (defaultPolicyRouting config))
  let named ← namedRouting config around
  Program.forEach named fun (target, routing) =>
    Program.when (target.name = profile.name) (cleanupRoute routing)

def disconnectIfUp (around : Surroundings) : Option UpstreamProfileConfig → Service Unit
  | none => pure ()
  | some profile => do
      let connected ← profileConnected profile
      Program.when connected (disconnectProfile config around profile)

def disconnect (around : Surroundings) (name : Option String) : Service Unit := do
  let profile ← profileOrSelected config name
  disconnectIfUp config around profile

def ensureSelected (around : Surroundings) : Option UpstreamProfileConfig → Service Unit
  | none => pure ()
  | some profile => do
      let connected ← profileConnected profile
      Program.when connected
        (ensureRoute config around (defaultPolicyRouting config) (config.upstream.profileInterface profile))

def ensurePolicyRouting (around : Surroundings) : Service Unit := do
  let selected ← selectedProfile config
  ensureSelected config around selected
  let named ← namedRouting config around
  Program.forEach named fun (target, routing) => do
    let connected ← profileConnected target
    Program.when connected (ensureRoute config around routing (config.upstream.profileInterface target))

/-- `except (ValueError, CommandError)`. -/
def isDialError : PyError → Bool
  | .valueError _ => true
  | .commandError => true
  | _ => false

def tryConnect (env : Environment) (name : String) : Service Bool :=
  (connect config env (some name)).succeeds isDialError

/-- The live but unhealthy connection of the active profile is torn down before redialing. -/
def redial (env : Environment) (profile : UpstreamProfileConfig) : Service Bool := do
  let connected ← profileConnected profile
  Program.when connected (disconnect config (env.around .called) (some profile.name))
  tryConnect config env profile.name

def dialUnlessUp (env : Environment) (profile : UpstreamProfileConfig) : Service Bool := do
  let connected ← profileConnected profile
  if connected then pure true else tryConnect config env profile.name

def reach (env : Environment) (active : Bool) (profile : UpstreamProfileConfig) : Service Bool :=
  if active then redial config env profile else dialUnlessUp config env profile

/-- The loop over the names, of which `current` alone may be active already. -/
def recoverInOrder (env : Environment) (current : Option String) : List String → Service Bool
  | [] => pure false
  | name :: rest => do
      let profile ← profileByName config name
      let reachable ← reach config env (some name = current) profile
      if reachable then do
        Program.when (some name ≠ current) (switchProfile config env name)
        pure true
      else recoverInOrder env current rest

def enabledNames : List String :=
  (config.upstream.profiles.filter (·.enabled)).map (·.name)

def recoverOrder (active : Option UpstreamProfileConfig) : List String :=
  let names := enabledNames config
  let current := (active.map (·.name)).getD (names.headD "")
  if config.upstream.failover && decide (1 < names.length) then
    names.rotateLeft (if current ∈ names then names.idxOf current else 0)
  else [current]

def recover (env : Environment) : Service Bool := do
  if enabledNames config = [] then pure false
  else do
    let active ← selectedProfile config
    recoverInOrder config env (active.map (·.name)) (recoverOrder config active)

/-- A disabled profile is torn down, and an enabled one that is not the active one is dialed. -/
def enforceProfile (env : Environment) (active : Option String) (profile : UpstreamProfileConfig) :
    Service Unit := do
  let connected ← profileConnected profile
  if profile.enabled then
    Program.when (decide (some profile.name ≠ active) && !connected) do
      let _ ← tryConnect config env profile.name
  else
    Program.when connected (disconnect config (env.around .called) (some profile.name))

def enforceProfileEnablement (env : Environment) : Service Unit := do
  let selected ← selectedProfile config
  Program.forEach config.upstream.profiles (enforceProfile config env (selected.map (·.name)))

/-- The calls, and that a profile's process ends by itself. -/
inductive UpstreamCall
  | switchProfile (name : String)
  | connect (name : Option String)
  | disconnect (name : Option String)
  | recover
  | ensurePolicyRouting
  | applyNftables (outbound : Option String)
  | exited (name : String)
  deriving DecidableEq

structure ServiceInput where
  call : UpstreamCall
  env : Environment

def ServiceInput.program (input : ServiceInput) : Service Unit :=
  match input.call with
  | .switchProfile name => switchProfile config input.env name
  | .connect name => connect config input.env name
  | .disconnect name => disconnect config (input.env.around .called) name
  | .recover => do let _ ← recover config input.env
  | .ensurePolicyRouting => ensurePolicyRouting config (input.env.around .called)
  | .applyNftables outbound => do let _ ← applyNftables config (input.env.around .called) outbound
  | .exited name => profileByName config name >>= hangUp config

def serviceStep (state : Runtime) (input : ServiceInput) : Runtime :=
  (input.program config state).state

end

end Korserver
