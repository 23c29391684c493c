import Korserver.Doubles
import Korserver.PushedRulesCore
import Korserver.UnexpectedStateCore

/-!
The readers of the stored pushed lists on whatever their files hold: `load` and `fingerprint` of
`services/upstream_pushed.py`, `list_targets` and `refresh_server_routes`.
-/

namespace Korserver

open PythonText PythonValue Doubles

/-- `json.loads` may leave lone surrogates in a text, which no file can be written with. Each stands as a
private-use character that no other text holds. -/
structure LoneSurrogates where
  stands : Char → Bool
  privateUse : ∀ c, stands c = true → 0xe000 ≤ c.toNat

def LoneSurrogates.encodes (lone : LoneSurrogates) (text : String) : Bool :=
  text.toList.all fun c => !lone.stands c

/-- `atomic_write_text` of a file with these texts in it. -/
def LoneSurrogates.write (lone : LoneSurrogates) (texts : List String) : Except PyError Unit :=
  if texts.all lone.encodes then .ok () else .error .unicodeEncodeError

/-- The values that `asdict` and `json.dumps` nest too deep for. -/
structure RecursionLimit where
  exceeded : Json → Bool
  text : ∀ text, exceeded (.str text) = false
  int : ∀ number, exceeded (.int number) = false
  bool : ∀ flag, exceeded (.bool flag) = false
  texts : ∀ items : List String, exceeded (texts items) = false

def StateContent.jsonFile : StateContent → JsonFile
  | .missing => .missing
  | .text (.value json) => .value json
  | _ => .malformed

abbrev PushedContents := String → StateContent

/-- `PushedRoutingStore.load`; what is unreadable, undecodable or no JSON raises `OSError` or `ValueError`. -/
def loadPushedContent : StateContent → Except PyError PushedRouting
  | .text .recursionError => .error .recursionError
  | .text (.value (.dict entries)) => .ok (PushedRouting.ofEntries entries)
  | _ => .ok {}

def PushedContents.load (contents : PushedContents) (config : AppConfig) (profile : UpstreamProfileConfig) :
    Except PyError PushedRouting :=
  loadPushedContent (contents (pushedPath config profile))

def UpstreamProfileConfig.usesPushed (profile : UpstreamProfileConfig) : Bool :=
  profile.acceptServerRoutes && profile.routeHostEnabled

/-- `effective` of each profile. Which error comes first does not matter here. -/
def PushedContents.effectiveAll (contents : PushedContents) (config : AppConfig) :
    List UpstreamProfileConfig → Except PyError (List PushedRouting)
  | [] => .ok []
  | profile :: rest => do
      let pushed ← if profile.usesPushed then contents.load config profile else .ok {}
      let others ← contents.effectiveAll config rest
      return pushed :: others

def Files.withPushed (files : Files) (contents : PushedContents) : Files :=
  { files with json := fun path => (contents path).jsonFile }

def readingProfiles (config : AppConfig) : List UpstreamProfileConfig :=
  if config.upstream.enabled then config.upstream.profiles else []

def listTargetsOn (contents : PushedContents) (files : Files) (config : AppConfig) (defaultInterface : String) :
    Except PyError (List RoutingTarget) := do
  let _ ← contents.effectiveAll config (readingProfiles config)
  listTargets (files.withPushed contents) config defaultInterface

def RoutingTarget.hostElements (target : RoutingTarget) : List String :=
  if target.hostEnabled then target.hostRoutes ++ target.hostRoutesV6 else []

/-- The domains and servers in a target's lines of `dnsmasq.conf`. What is no text is written with `repr`, which
escapes lone surrogates. -/
def RoutingTarget.hostNames (config : AppConfig) (target : RoutingTarget) : List String :=
  if target.hostEnabled && !target.hostDomains.isEmpty then
    (stringItems (some target.serverDomains)).flatMap (fun domain =>
      if domain ∈ config.internalDns.publicDomains then []
      else (stringItems (some target.serverDns)).flatMap fun server => [domain, server]) ++
    target.hostDomains
  else []

section

variable {Digest : Type} [DecidableEq Digest] (digest : List PushedPart → Digest) (repr : Json → String)
  (limit : RecursionLimit) {lone : LoneSurrogates}

def RecursionLimit.dumps (values : List Json) : Except PyError Unit :=
  if values.any limit.exceeded then .error .recursionError else .ok ()

def partValues (parts : List PushedPart) : List Json :=
  parts.flatMap fun part => [part.routes, part.domains, part.dns]

def fingerprintOn (contents : PushedContents) (files : Files) (config : AppConfig) :
    Except PyError (Option Digest) := do
  let _ ← contents.effectiveAll config config.upstream.profiles
  let parts := fingerprintParts (files.withPushed contents) config
  limit.dumps (partValues parts)
  return fingerprintOf digest parts

/-- `sync_server_routes` with what it stores. -/
def syncOn (config : AppConfig) (call : SyncCall) (contents : PushedContents) :
    Except PyError PushedContents := do
  let previous ← contents.load config call.profile
  match call.answer with
  | .raised => .error .commandError
  | _ =>
      let updated := call.result config previous
      limit.dumps (updated.entries.map Prod.snd)
      return Function.update contents (pushedPath config call.profile) (.text (.value (.dict updated.entries)))

/-- What one tick of the watchdog meets. `floatDue` compares for a `synced_at` that is a float. No answer to a
sync has lone surrogates of its own. -/
structure RefreshRun (lone : LoneSurrogates) where
  now : ℚ
  double : toDouble now = now
  clock : Int
  clockFits : clock.natAbs < integerLimit
  floatDue : Nat → String → Bool
  connected : UpstreamProfileConfig → Bool
  answer : UpstreamProfileConfig → SyncAnswer
  plain : ∀ profile entries, answer profile = .json (.dict entries) →
    ∀ text ∈ stringItems (lookup "routes" entries), lone.encodes text
  answers : Answers
  outbound : Option String

def UpstreamProfileConfig.syncs (profile : UpstreamProfileConfig) : Bool :=
  profile.enabled && profile.usesPushed && (truthy profile.syncUrl).isSome

/-- Not `current - synced_at < sync_interval`. -/
def RefreshRun.isDue (run : RefreshRun lone) (interval : Nat) : Json → Except PyError Bool
  | .int number =>
      if integerLimit ≤ number.natAbs then .error .overflowError
      else .ok (decide ((interval : ℚ) ≤ minus run.now (toDouble number)))
  | .bool flag => .ok (decide ((interval : ℚ) ≤ minus run.now (if flag then 1 else 0)))
  | .float text => .ok (run.floatDue interval text)
  | _ => .error .typeError

def RefreshRun.syncCall (run : RefreshRun lone) (profile : UpstreamProfileConfig) : SyncCall :=
  { profile, answer := run.answer profile, now := run.clock, repr }

/-- One turn of the loop of `refresh_server_routes`. -/
def RefreshRun.turn (run : RefreshRun lone) (config : AppConfig) (contents : PushedContents)
    (profile : UpstreamProfileConfig) : Except PyError PushedContents :=
  if profile.syncs && run.connected profile then do
    let pushed ← contents.load config profile
    let due ← run.isDue profile.syncInterval pushed.syncedAt
    if due then syncOn limit config (run.syncCall repr profile) contents else return contents
  else .ok contents

def RefreshRun.turns (run : RefreshRun lone) (config : AppConfig) :
    PushedContents → List UpstreamProfileConfig → Except PyError PushedContents
  | contents, [] => .ok contents
  | contents, profile :: rest => do
      let next ← run.turn repr limit config contents profile
      run.turns config next rest

/-- The first script that `NftablesService.apply` writes: the refresh or the whole ruleset. A second one has the
same elements. -/
def RefreshRun.writeScript (run : RefreshRun lone) (state : PushedState Digest) : Except PyError Unit := do
  let resolved ← resolveTargets state.files state.config run.outbound
  if ← staticSetsReady run.answers state.files state.config run.outbound state.host then
    let _ ← renderStaticRefresh state.files state.config run.outbound
  else
    let _ ← render state.files state.config run.outbound
  lone.write (resolved.targets.flatMap RoutingTarget.hostElements)

/-- `dnsmasq.conf`, while dnsmasq is in use. -/
def PushedState.writeDnsmasq (lone : LoneSurrogates) (state : PushedState Digest) :
    Except PyError (List Directive) := do
  let directives ← state.renderedDnsmasq repr
  if state.config.dnsTunnelActive state.files.pathExists then
    let targets ← listTargets state.files state.config state.config.routing.mainInterface
    lone.write (targets.flatMap (RoutingTarget.hostNames state.config))
  return directives

/-- `apply_server_routing_if_changed`; the state says what is live. -/
def applyChangedOn (run : RefreshRun lone) (contents : PushedContents) (state : PushedState Digest) :
    Except PyError (PushedState Digest) := do
  let fingerprint ← fingerprintOn digest limit contents state.files state.config
  if fingerprint = state.applied then return state
  let _ ← contents.effectiveAll state.config (readingProfiles state.config)
  let stored := { state with files := state.files.withPushed contents }
  run.writeScript stored
  let (result, host) ← nftablesApply run.answers stored.files stored.config run.outbound stored.host
  if result = .failed then return { stored with host }
  let dnsmasq ← stored.writeDnsmasq repr lone
  return { stored with host, dnsmasq, applied := fingerprint, unrecorded := false }

def refreshServerRoutesOn (run : RefreshRun lone) (contents : PushedContents) (state : PushedState Digest) :
    Except PyError (PushedState Digest) := do
  let contents ← run.turns repr limit state.config contents state.config.upstream.profiles
  applyChangedOn digest repr limit run contents state

end

end Korserver
