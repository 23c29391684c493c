import Korserver.DnsmasqCore
import Korserver.NftablesServiceCore
import Korserver.PushedStoreCore

/-!
Pushed lists on their way into the live rules: the fingerprint of `upstream_pushed.py`, and the
calls of `services/upstream.py` and `services/nftables.py` that render them.
-/

namespace Korserver

open PythonText PythonValue

structure PushedPart where
  profile : String
  routes : Json
  domains : Json
  dns : Json

def PushedRouting.isEmpty (pushed : PushedRouting) : Bool :=
  !(pushed.routes.truthy || pushed.domains.truthy)

def fingerprintPart (files : Files) (config : AppConfig) (profile : UpstreamProfileConfig) :
    Option PushedPart :=
  let pushed := files.effectivePushed config profile
  if pushed.isEmpty then none
  else some { profile := profile.name, routes := pushed.routes, domains := pushed.domains, dns := pushed.dns }

def fingerprintParts (files : Files) (config : AppConfig) : List PushedPart :=
  config.upstream.profiles.filterMap (fingerprintPart files config)

/-- What is stored, what is live, and the fingerprint in the applied marker; the empty text, which
no digest is, is `none`. `unrecorded` is history: the live rules were last loaded from lists whose
fingerprint was not the applied one, and was not recorded. -/
structure PushedState (Digest : Type) where
  config : AppConfig
  files : Files := {}
  host : HostState := {}
  dnsmasq : List Directive := []
  applied : Option Digest := none
  unrecorded : Bool := false

/-- The operations. `answers` are those of the commands of one `NftablesService.apply`. -/
inductive PushedCall
  | saveHandshake (hook : HookCall)
  | sync (call : SyncCall)
  | toggle (name : String) (acceptServerRoutes routeHostEnabled enabled : Bool)
  | applyNftables (answers : Answers) (outbound : Option String)
  | applyIfChanged (answers : Answers) (outbound : Option String)
  | connect (answers : Answers) (outbound : Option String) (hook : Option HookCall) (later : Answers)

def HookCall.run (hook : HookCall) (config : AppConfig) (files : Files) : Files :=
  let (files, stage) := hook.step config files .called
  (hook.step config files stage).1

def SyncCall.run (call : SyncCall) (config : AppConfig) (files : Files) : Files :=
  let (files, stage) := call.step config files .called
  let (files, stage) := call.step config files stage
  (call.step config files stage).1

def UpstreamProfileConfig.toggle (name : String) (acceptServerRoutes routeHostEnabled enabled : Bool)
    (profile : UpstreamProfileConfig) : UpstreamProfileConfig :=
  if profile.name = name then { profile with acceptServerRoutes, routeHostEnabled, enabled } else profile

def AppConfig.toggle (config : AppConfig) (name : String)
    (acceptServerRoutes routeHostEnabled enabled : Bool) : AppConfig :=
  { config with upstream := { config.upstream with
      profiles := config.upstream.profiles.map
        (UpstreamProfileConfig.toggle name acceptServerRoutes routeHostEnabled enabled) } }

section

variable {Digest : Type} [DecidableEq Digest] (digest : List PushedPart → Digest) (repr : Json → String)

/-- `PushedRoutingStore.fingerprint`. -/
def fingerprintOf : List PushedPart → Option Digest
  | [] => none
  | parts => some (digest parts)

namespace PushedState

def fingerprint (state : PushedState Digest) : Option Digest :=
  fingerprintOf digest (fingerprintParts state.files state.config)

/-- A changed profile is saved only if the configuration validates. -/
def toggled (state : PushedState Digest) (name : String)
    (acceptServerRoutes routeHostEnabled enabled : Bool) : Except PyError (PushedState Digest) :=
  let config := state.config.toggle name acceptServerRoutes routeHostEnabled enabled
  match config.validate state.files.pathExists with
  | .ok _ => .ok { state with config }
  | .error message => .error (.valueError message)

/-- `NftablesService.apply`, which records no fingerprint. -/
def applyNftables (answers : Answers) (outbound : Option String) (state : PushedState Digest) :
    Except PyError (PushedState Digest) := do
  let (result, host) ← nftablesApply answers state.files state.config outbound state.host
  return { state with
    host
    unrecorded :=
      if result = .failed then state.unrecorded else decide (state.fingerprint digest ≠ state.applied) }

/-- dnsmasq is rendered only while it runs. -/
def renderedDnsmasq (state : PushedState Digest) : Except PyError (List Directive) :=
  if state.config.dnsTunnelActive state.files.pathExists then
    renderDnsmasq repr state.files state.config
  else .ok state.dnsmasq

/-- `apply_server_routing_if_changed`. -/
def applyIfChanged (answers : Answers) (outbound : Option String) (state : PushedState Digest) :
    Except PyError (PushedState Digest) :=
  if state.fingerprint digest = state.applied then .ok state
  else do
    let (result, host) ← nftablesApply answers state.files state.config outbound state.host
    if result = .failed then return { state with host }
    let dnsmasq ← state.renderedDnsmasq repr
    return { state with host, dnsmasq, applied := state.fingerprint digest, unrecorded := false }

def hooked (state : PushedState Digest) : Option HookCall → PushedState Digest
  | some hook => { state with files := hook.run state.config state.files }
  | none => state

/-- `connect`, as far as pushed lists go: the rules are loaded, openconnect runs the hook, and what
changed is applied. -/
def connect (answers : Answers) (outbound : Option String) (hook : Option HookCall) (later : Answers)
    (state : PushedState Digest) : Except PyError (PushedState Digest) := do
  let loaded ← state.applyNftables digest answers outbound
  (loaded.hooked hook).applyIfChanged digest repr later outbound

def step (state : PushedState Digest) : PushedCall → Except PyError (PushedState Digest)
  | .saveHandshake hook => .ok { state with files := hook.run state.config state.files }
  | .sync call => .ok { state with files := call.run state.config state.files }
  | .toggle name acceptServerRoutes routeHostEnabled enabled =>
      state.toggled name acceptServerRoutes routeHostEnabled enabled
  | .applyNftables answers outbound => state.applyNftables digest answers outbound
  | .applyIfChanged answers outbound => state.applyIfChanged digest repr answers outbound
  | .connect answers outbound hook later => state.connect digest repr answers outbound hook later

def run : PushedState Digest → List PushedCall → Except PyError (PushedState Digest)
  | state, [] => .ok state
  | state, call :: rest => do
      let next ← state.step digest repr call
      run next rest

end PushedState

end

end Korserver
