import Korserver.PacketFilter
import Korserver.RoutingCore

/-!
The nftables renderer and its two templates (`renderers/nftables.py`,
`templates/nftables.nft.j2`, `templates/nftables-static-refresh.nft.j2`), rule by rule in
the order of the templates.
-/

namespace Korserver

open PythonValue IpAddress PacketFilter

abbrev ScriptRule := Rule String String
abbrev ScriptChain := Chain String String
abbrev ScriptTable := Table String String

/-- What `resolve_targets` returns: the targets, the resolved outbound interface and
whether an upstream profile is there to police. -/
structure ResolvedTargets where
  targets : List RoutingTarget
  outboundInterface : String
  upstreamActive : Bool

def resolvedInterface (config : AppConfig) : Option String → String
  | some interface => interface
  | none =>
      match config.upstream.selectedProfile with
      | some profile =>
          if config.upstream.enabled then config.upstream.profileInterface profile
          else config.routing.mainInterface
      | none => config.routing.mainInterface

def resolveTargets (files : Files) (config : AppConfig) (outbound : Option String) :
    Except PyError ResolvedTargets := do
  let interface := resolvedInterface config outbound
  let targets ← listTargets files config interface
  return { targets, outboundInterface := interface, upstreamActive := upstreamActive config }

/-! The rules of the template. -/

def markRule (test : Test String String) (fwmark : String) : ScriptRule :=
  { tests := [test], counter := true, action := .setMark fwmark }

def splitMarking (target : RoutingTarget) : List ScriptRule := [
  markRule (.ipDestinationIn target.setV4Static) target.fwmark,
  markRule (.ipDestinationIn target.setV4Dynamic) target.fwmark,
  markRule (.ip6DestinationIn target.setV6Static) target.fwmark,
  markRule (.ip6DestinationIn target.setV6Dynamic) target.fwmark]

/-- A target's marking of client packets. The default target marks none while
`client_traffic` is off. -/
def clientMarking (config : AppConfig) (target : RoutingTarget) : List ScriptRule :=
  if target.name = "default" ∧ config.routing.clientTraffic = false then []
  else match target.mode with
    | .split => splitMarking target
    | .full => [markRule (.ipSource config.server.ipv4Network) target.fwmark]

def hostMarkV4 (config : AppConfig) (tests : List (Test String String)) (fwmark : String) :
    ScriptRule where
  tests := [.directionOriginal, .ipDestinationNot config.server.ipv4Network] ++ tests
  counter := true
  action := .setMark fwmark

def hostMarkV6 (test : Test String String) (fwmark : String) : ScriptRule where
  tests := [.directionOriginal, test]
  counter := true
  action := .setMark fwmark

def defaultHostMarking (config : AppConfig) : List ScriptRule :=
  let fwmark := config.routing.fwmark
  if config.routing.hostTraffic then
    match config.routing.hostMode with
    | .full => [hostMarkV4 config [] fwmark, hostMarkV6 .ip6 fwmark]
    | .split => [
        hostMarkV4 config [.ipDestinationIn "host_split_v4_static"] fwmark,
        hostMarkV4 config [.ipDestinationIn "host_split_v4_dynamic"] fwmark,
        hostMarkV6 (.ip6DestinationIn "host_split_v6_static") fwmark,
        hostMarkV6 (.ip6DestinationIn "host_split_v6_dynamic") fwmark]
  else []

/-- A host-enabled target's block of the output chain; its set names are present then. -/
def hostMarking (config : AppConfig) (target : RoutingTarget) : List ScriptRule := [
  hostMarkV4 config [.ipDestinationIn (target.hostSetV4Static.getD "None")] target.fwmark,
  hostMarkV4 config [.ipDestinationIn (target.hostSetV4Dynamic.getD "None")] target.fwmark,
  hostMarkV6 (.ip6DestinationIn (target.hostSetV6Static.getD "None")) target.fwmark,
  hostMarkV6 (.ip6DestinationIn (target.hostSetV6Dynamic.getD "None")) target.fwmark]

/-- Marked traffic that does not leave through its own device is dropped. -/
def dropUnless (fwmark interface : String) : ScriptRule :=
  { tests := [.markIs fwmark, .outputIsNot interface], counter := true, action := .drop }

def killSwitch (target : RoutingTarget) : ScriptRule :=
  dropUnless target.fwmark target.interface

def hostTargets (targets : List RoutingTarget) : List RoutingTarget :=
  targets.filter RoutingTarget.hostEnabled

def preroutingRules (config : AppConfig) (targets : List RoutingTarget) : List ScriptRule :=
  targets.flatMap (clientMarking config)

def outputRules (config : AppConfig) (targets : List RoutingTarget) : List ScriptRule :=
  defaultHostMarking config ++ (hostTargets targets).flatMap (hostMarking config)

def forwardRules (targets : List RoutingTarget) : List ScriptRule :=
  (targets.filter (·.killswitch)).map killSwitch

def acceptLoopback : ScriptRule := { tests := [.outputIs "lo"], action := .accept }

def postroutingRules (config : AppConfig) (resolved : ResolvedTargets) : List ScriptRule :=
  [acceptLoopback] ++
  (if resolved.upstreamActive && config.routing.hostTraffic then
    [dropUnless config.routing.fwmark resolved.outboundInterface] else []) ++
  (hostTargets resolved.targets).map killSwitch

def preroutingChain (config : AppConfig) (targets : List RoutingTarget) : ScriptChain where
  name := "prerouting"
  type := .filter
  hook := .prerouting
  priority := "mangle"
  rules := preroutingRules config targets

def outputChain (config : AppConfig) (targets : List RoutingTarget) : ScriptChain where
  name := "output"
  type := .route
  hook := .output
  priority := "mangle"
  rules := outputRules config targets

def forwardChain (targets : List RoutingTarget) : ScriptChain where
  name := "forward"
  type := .filter
  hook := .forward
  priority := "filter"
  rules := forwardRules targets

def postroutingChain (config : AppConfig) (resolved : ResolvedTargets) : ScriptChain where
  name := "postrouting"
  type := .filter
  hook := .postrouting
  priority := "filter"
  rules := postroutingRules config resolved

def filterChains (config : AppConfig) (resolved : ResolvedTargets) : List ScriptChain :=
  let hosts := !(hostTargets resolved.targets).isEmpty
  [preroutingChain config resolved.targets] ++
  (if config.routing.hostTraffic || hosts then [outputChain config resolved.targets] else []) ++
  (if resolved.targets.any (·.killswitch) then [forwardChain resolved.targets] else []) ++
  (if (resolved.upstreamActive && config.routing.hostTraffic) || hosts then
    [postroutingChain config resolved] else [])

def masqueradeMarked (network fwmark interface : String) : ScriptRule where
  tests := [.ipSource network, .markIs fwmark, .outputIs interface]
  action := .masquerade

def masqueradeHost (fwmark interface : String) : ScriptRule where
  tests := [.markIs fwmark, .outputIs interface]
  counter := true
  action := .masquerade

def namedMasquerade (config : AppConfig) (target : RoutingTarget) : ScriptRule :=
  masqueradeMarked config.server.ipv4Network target.fwmark target.interface

/-- The rules of `targets[0]`. -/
def defaultMasquerade (config : AppConfig) (target : RoutingTarget) : List ScriptRule :=
  let network := config.server.ipv4Network
  if target.killswitch then [
    masqueradeMarked network target.fwmark target.interface,
    { tests := [.ipSource network, .markIsNot target.fwmark], action := .masquerade }]
  else if target.interface ≠ "auto" then
    [{ tests := [.ipSource network, .outputIs target.interface], action := .masquerade }]
  else [{ tests := [.ipSource network], action := .masquerade }]

def natRules (config : AppConfig) (resolved : ResolvedTargets) : List ScriptRule :=
  (resolved.targets.filter (·.name ≠ "default")).map (namedMasquerade config) ++
  (resolved.targets.head?.toList).flatMap (defaultMasquerade config) ++
  (if config.routing.hostTraffic && resolved.outboundInterface ≠ "auto" then
    [masqueradeHost config.routing.fwmark resolved.outboundInterface] else []) ++
  (hostTargets resolved.targets).map fun target => masqueradeHost target.fwmark target.interface

def natChain (config : AppConfig) (resolved : ResolvedTargets) : ScriptChain where
  name := "postrouting"
  type := .nat
  hook := .postrouting
  priority := "srcnat"
  rules := natRules config resolved

def clientSets (target : RoutingTarget) : List SetDeclaration := [
  { name := target.setV4Static, type := .v4, elements := target.routes },
  { name := target.setV4Dynamic, type := .v4 },
  { name := target.setV6Static, type := .v6 },
  { name := target.setV6Dynamic, type := .v6 }]

def hostSets (target : RoutingTarget) : List SetDeclaration :=
  if target.hostEnabled then [
    { name := target.hostSetV4Static.getD "None", type := .v4, elements := target.hostRoutes },
    { name := target.hostSetV4Dynamic.getD "None", type := .v4 },
    { name := target.hostSetV6Static.getD "None", type := .v6, elements := target.hostRoutesV6 },
    { name := target.hostSetV6Dynamic.getD "None", type := .v6 }]
  else []

def hostSplitActive (config : AppConfig) : Bool :=
  config.routing.hostTraffic && config.routing.hostMode == .split

def hostSplitSets (config : AppConfig) (hostSplitRoutes : List String) : List SetDeclaration :=
  if hostSplitActive config then [
    { name := "host_split_v4_static", type := .v4, elements := hostSplitRoutes },
    { name := "host_split_v4_dynamic", type := .v4 },
    { name := "host_split_v6_static", type := .v6 },
    { name := "host_split_v6_dynamic", type := .v6 }]
  else []

def tableSets (config : AppConfig) (targets : List RoutingTarget) (hostSplitRoutes : List String) :
    List SetDeclaration :=
  targets.flatMap (fun target => clientSets target ++ hostSets target) ++
    hostSplitSets config hostSplitRoutes

/-! The two scripts. -/

def filterTable (config : AppConfig) : String := config.routing.nftPrefix ++ "_filter"

def natTable (config : AppConfig) : String := config.routing.nftPrefix ++ "_nat"

/-- The full definition: both tables are deleted and defined anew in one transaction. -/
structure Ruleset where
  filter : ScriptTable
  nat : ScriptTable
  deriving DecidableEq

def rulesetOf (config : AppConfig) (resolved : ResolvedTargets) (hostSplitRoutes : List String) :
    Ruleset where
  filter := {
    name := filterTable config
    sets := tableSets config resolved.targets hostSplitRoutes
    chains := filterChains config resolved }
  nat := { name := natTable config, chains := [natChain config resolved] }

/-- The `host_split_routes` of the template context. -/
def hostSplitRoutesOf (files : Files) (config : AppConfig) : Except PyError (List String) :=
  if hostSplitActive config then listHostRoutes files config else .ok []

/-- The `host_split_domains` of the template context, which the template does not use. -/
def hostSplitDomainsOf (files : Files) (config : AppConfig) : Except PyError (List String) :=
  if hostSplitActive config then listHostDomains files config else .ok []

def render (files : Files) (config : AppConfig) (outbound : Option String) :
    Except PyError Ruleset := do
  let resolved ← resolveTargets files config outbound
  let hostSplitRoutes ← hostSplitRoutesOf files config
  let _ ← hostSplitDomainsOf files config
  return rulesetOf config resolved hostSplitRoutes

inductive SetCommand
  | flush (set : String)
  | add (set : String) (elements : List String)
  deriving DecidableEq

structure StaticRefresh where
  table : String
  commands : List SetCommand
  deriving DecidableEq

def addElements (set : String) (elements : List String) : List SetCommand :=
  if elements.isEmpty then [] else [.add set elements]

def refreshTarget (target : RoutingTarget) : List SetCommand :=
  [.flush target.setV4Static] ++ addElements target.setV4Static target.routes ++
  [.flush target.setV6Static] ++
  (if target.hostEnabled then
    [.flush (target.hostSetV4Static.getD "None")] ++
    addElements (target.hostSetV4Static.getD "None") target.hostRoutes ++
    [.flush (target.hostSetV6Static.getD "None")] ++
    addElements (target.hostSetV6Static.getD "None") target.hostRoutesV6
  else [])

def refreshOf (config : AppConfig) (targets : List RoutingTarget) (hostSplitRoutes : List String) :
    StaticRefresh where
  table := filterTable config
  commands :=
    targets.flatMap refreshTarget ++
    (if hostSplitActive config then
      [.flush "host_split_v4_static"] ++ addElements "host_split_v4_static" hostSplitRoutes ++
      [.flush "host_split_v6_static"]
    else [])

def renderStaticRefresh (files : Files) (config : AppConfig) (outbound : Option String) :
    Except PyError StaticRefresh := do
  let resolved ← resolveTargets files config outbound
  let hostSplitRoutes ← hostSplitRoutesOf files config
  return refreshOf config resolved.targets hostSplitRoutes

/-- Every set name the configuration should produce. The list stands for the frozenset:
only membership is ever asked. -/
def targetSetNames (target : RoutingTarget) : List String :=
  [target.setV4Static, target.setV4Dynamic, target.setV6Static, target.setV6Dynamic] ++
  [target.hostSetV4Static, target.hostSetV4Dynamic, target.hostSetV6Static,
    target.hostSetV6Dynamic].filterMap id

def hostSplitSetNames : List String :=
  ["host_split_v4_static", "host_split_v4_dynamic", "host_split_v6_static", "host_split_v6_dynamic"]

def setNamesOf (config : AppConfig) (targets : List RoutingTarget) : List String :=
  targets.flatMap targetSetNames ++ if hostSplitActive config then hostSplitSetNames else []

def expectedSetNames (files : Files) (config : AppConfig) (outbound : Option String) :
    Except PyError (List String) := do
  let resolved ← resolveTargets files config outbound
  return setNamesOf config resolved.targets

def readRule : ScriptRule → LiveRule := Rule.map ipNetwork PythonText.intLiteral

def loadedTable : ScriptTable → LiveTable := Table.map ipNetwork PythonText.intLiteral

def Ruleset.chainRules (ruleset : Ruleset) (name : String) : List LiveRule :=
  (loadedTable ruleset.filter).rulesOf name

/-- Accepted by the rules of one hook, then sent out through `output` and by those of a
second one. -/
def Ruleset.passes (ruleset : Ruleset) (contents : SetContents) (marking policing : String)
    (packet : Packet) (output : String) : Bool :=
  match runChain contents (ruleset.chainRules marking) packet with
  | .pass marked => (runChain contents (ruleset.chainRules policing) { marked with output }).accepted
  | .accept marked => (runChain contents (ruleset.chainRules policing) { marked with output }).accepted
  | .drop => false

/-- A client's packet is marked in prerouting and policed in forward. -/
def Ruleset.forwards (ruleset : Ruleset) (contents : SetContents) (packet : Packet)
    (output : String) : Bool :=
  ruleset.passes contents "prerouting" "forward" packet output

/-- A packet of the host itself is marked in output and policed in postrouting. -/
def Ruleset.emits (ruleset : Ruleset) (contents : SetContents) (packet : Packet)
    (output : String) : Bool :=
  ruleset.passes contents "output" "postrouting" packet output

end Korserver
