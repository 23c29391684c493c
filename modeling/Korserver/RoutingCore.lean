import Korserver.FileStore

/-!
Routing targets (`services/routing.py`): the merged route and domain lists and
`list_targets`, which gives every target its mark, table, device and set names.
-/

namespace Korserver

open PythonText IpAddress PythonValue

/-- `_merge_unique`: stripped entries in order of first occurrence, without comments. -/
def mergeUniqueFrom : List String → List String → List String
  | [], merged => merged
  | item :: rest, merged =>
      let stripped := strip item
      if stripped = "" ∨ stripped.toList.head? = some '#' ∨ stripped ∈ merged then
        mergeUniqueFrom rest merged
      else mergeUniqueFrom rest (merged ++ [stripped])

def mergeUnique (sources : List (List String)) : List String :=
  mergeUniqueFrom sources.flatten []

def normalizeRoute (value : String) : Option String :=
  if '/' ∈ value.toList then (ipNetwork value).map Network.text
  else (ipAddress value).map Address.text

/-- `_normalize_domain` with routing's own, looser `DOMAIN_RE`. -/
def normalizeDomain (value : String) : Option String :=
  let domain := stripEnd '.' (lower (strip value))
  let body := beforeDollar domain.toList
  if body ≠ [] ∧ body.all (fun c => isAlnum c || c == '.' || c == '-') = true then some domain
  else none

def listRoutesOf (files : Files) (split : HostSplitConfig) (cacheDir : String) :
    Except PyError (List String) := do
  let runtime ← files.readLines split.routesFile
  let fromFiles ← files.listItemsOfAll normalizeRoute split.routesFiles
  let fromUrls ← files.listItemsOfAll normalizeRoute (split.routesUrls.map (files.cachePath cacheDir))
  return mergeUnique [split.routes, runtime, fromFiles, fromUrls]

def listDomainsOf (files : Files) (split : HostSplitConfig) (cacheDir : String) :
    Except PyError (List String) := do
  let runtime ← files.readLines split.domainsFile
  let fromFiles ← files.listItemsOfAll normalizeDomain split.domainsFiles
  let fromUrls ← files.listItemsOfAll normalizeDomain
    (split.domainsUrls.map (files.cachePath cacheDir))
  return mergeUnique [split.domains, runtime, fromFiles, fromUrls]

def listRoutes (files : Files) (config : AppConfig) : Except PyError (List String) :=
  listRoutesOf files config.routing.split.toHostSplitConfig
    (config.system.dataDir ++ "/routing/route-urls")

def listDomains (files : Files) (config : AppConfig) : Except PyError (List String) :=
  listDomainsOf files config.routing.split.toHostSplitConfig
    (config.system.dataDir ++ "/routing/domain-urls")

def listHostRoutes (files : Files) (config : AppConfig) : Except PyError (List String) :=
  listRoutesOf files config.routing.hostSplit (config.system.dataDir ++ "/routing/host-route-urls")

def listHostDomains (files : Files) (config : AppConfig) : Except PyError (List String) :=
  listDomainsOf files config.routing.hostSplit
    (config.system.dataDir ++ "/routing/host-domain-urls")

/-- Routes by family; entries that are no network are dropped. -/
def splitByFamily (routes : List String) : List String × List String :=
  (routes.filter fun route => familyOf route == some .v4,
    routes.filter fun route => familyOf route == some .v6)

structure RoutingTarget where
  name : String
  fwmark : String
  tableId : Nat
  interface : String
  setV4Static : String
  setV4Dynamic : String
  setV6Static : String
  setV6Dynamic : String
  mode : RoutingMode
  routes : List String
  domains : List String
  killswitch : Bool
  profile : Option UpstreamProfileConfig
  hostRoutes : List String := []
  hostDomains : List String := []
  hostSetV4Static : Option String := none
  hostSetV4Dynamic : Option String := none
  hostSetV6Static : Option String := none
  hostSetV6Dynamic : Option String := none
  hostRoutesV6 : List String := []
  serverDomains : Json := .list []
  serverDns : Json := .list []

def RoutingTarget.hostEnabled (target : RoutingTarget) : Bool :=
  (truthy target.hostSetV4Static).isSome

def upstreamActive (config : AppConfig) : Bool :=
  config.upstream.enabled && config.upstream.selectedProfile.isSome

def defaultTargetInterface (config : AppConfig) (defaultInterface : String) : String :=
  if config.routing.clientTraffic then defaultInterface else config.routing.mainInterface

def defaultTarget (config : AppConfig) (defaultInterface : String) (routes domains : List String) :
    RoutingTarget where
  name := "default"
  fwmark := config.routing.fwmark
  tableId := config.routing.tableId
  interface := defaultTargetInterface config defaultInterface
  setV4Static := "split_v4_static"
  setV4Dynamic := "split_v4_dynamic"
  setV6Static := "split_v6_static"
  setV6Dynamic := "split_v6_dynamic"
  mode := config.routing.mode
  routes := routes
  domains := domains
  killswitch := upstreamActive config && config.routing.clientTraffic
  profile := config.upstream.selectedProfile

/-- `f"0x{base_fwmark + offset:0{fwmark_width}x}"` with the width of the configured text. A
negative width makes the format specifier invalid. -/
def offsetFwmark (fwmark : String) (base : Int) (offset : Nat) : Except PyError String :=
  if fwmark.toList.length < 2 then .error (.valueError "Invalid format specifier")
  else .ok ("0x" ++ String.ofList (formatHex (fwmark.toList.length - 2) (base + offset)))

/-- What a profile's host routing consists of: its own lists and the pushed ones. -/
structure HostLists where
  routes : List String
  domains : List String

/-- Pushed domains resolve through the pushed DNS servers, which are then routed too. -/
def pushedDnsRoutes (pushed : PushedRouting) : Except PyError (List String) :=
  if pushed.domains.truthy then pushed.dnsHostRoutes else .ok []

def hostLists (profile : UpstreamProfileConfig) (pushed : PushedRouting) :
    Except PyError HostLists := do
  let dnsRoutes ← pushedDnsRoutes pushed
  let pushedRoutes ← pushed.routes.items
  let pushedRoutes ← textsOf pushedRoutes
  let pushedDomains ← pushed.domains.items
  let pushedDomains ← textsOf pushedDomains
  return {
    routes := mergeUnique [profile.hostRoutes, pushedRoutes, dnsRoutes]
    domains := mergeUnique [profile.hostDomains, pushedDomains] }

def clientActive (profile : UpstreamProfileConfig) : Bool :=
  profile.routeClientsEnabled && (!profile.routes.isEmpty || !profile.domains.isEmpty)

def hostActive (profile : UpstreamProfileConfig) (lists : HostLists) : Bool :=
  profile.routeHostEnabled && (!lists.routes.isEmpty || !lists.domains.isEmpty)

def namedTarget (config : AppConfig) (profile : UpstreamProfileConfig) (lists : HostLists)
    (pushed : PushedRouting) (fwmark : String) : RoutingTarget :=
  let safeName := profileSafeName profile.name
  let host := hostActive profile lists
  { name := profile.name
    fwmark := fwmark
    tableId := config.routing.tableId + config.upstream.profileRoutingOffset profile
    interface := config.upstream.profileInterface profile
    setV4Static := "split_v4_" ++ safeName ++ "_static"
    setV4Dynamic := "split_v4_" ++ safeName ++ "_dynamic"
    setV6Static := "split_v6_" ++ safeName ++ "_static"
    setV6Dynamic := "split_v6_" ++ safeName ++ "_dynamic"
    mode := .split
    routes := if profile.routeClientsEnabled then profile.routes else []
    domains := if profile.routeClientsEnabled then profile.domains else []
    killswitch := true
    profile := some profile
    hostRoutes := if host then (splitByFamily lists.routes).1 else []
    hostDomains := if host then lists.domains else []
    hostSetV4Static := if host then some ("host_v4_" ++ safeName ++ "_static") else none
    hostSetV4Dynamic := if host then some ("host_v4_" ++ safeName ++ "_dynamic") else none
    hostSetV6Static := if host then some ("host_v6_" ++ safeName ++ "_static") else none
    hostSetV6Dynamic := if host then some ("host_v6_" ++ safeName ++ "_dynamic") else none
    hostRoutesV6 := if host then (splitByFamily lists.routes).2 else []
    serverDomains := if host then pushed.domains else .list []
    serverDns := if host then pushed.dns else .list [] }

/-- One turn of the loop over the profiles: a profile without traffic of its own has no
target. -/
def profileTarget (files : Files) (config : AppConfig) (base : Int)
    (profile : UpstreamProfileConfig) : Except PyError (Option RoutingTarget) := do
  let pushed := files.effectivePushed config profile
  let lists ← hostLists profile pushed
  if !clientActive profile && !hostActive profile lists then return none
  let fwmark ← offsetFwmark config.routing.fwmark base
    (config.upstream.profileRoutingOffset profile)
  return some (namedTarget config profile lists pushed fwmark)

def profileTargets (files : Files) (config : AppConfig) (base : Int) :
    List UpstreamProfileConfig → Except PyError (List RoutingTarget)
  | [] => .ok []
  | profile :: rest => do
      let target ← profileTarget files config base profile
      let targets ← profileTargets files config base rest
      return target.toList ++ targets

def intOrValueError (text : String) : Except PyError Int :=
  match intLiteral text with
  | some value => .ok value
  | none => .error (.valueError "invalid literal for int() with base 0")

/-- The targets of the profiles; none exist while upstream is disabled. -/
def namedTargets (files : Files) (config : AppConfig) : Except PyError (List RoutingTarget) :=
  if config.upstream.enabled then do
    let base ← intOrValueError config.routing.fwmark
    profileTargets files config base config.upstream.profiles
  else .ok []

/-- The default target's domains, which only split mode lists. -/
def defaultDomains (files : Files) (config : AppConfig) : Except PyError (List String) :=
  if config.routing.mode = .split then listDomains files config else .ok []

def listTargets (files : Files) (config : AppConfig) (defaultInterface : String) :
    Except PyError (List RoutingTarget) := do
  let routes ← listRoutes files config
  let domains ← defaultDomains files config
  let named ← namedTargets files config
  return defaultTarget config defaultInterface routes domains :: named

end Korserver
