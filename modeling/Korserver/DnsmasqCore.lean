import Korserver.NftablesCore

/-!
The dnsmasq renderer and its template (`renderers/dnsmasq.py`, `templates/dnsmasq.conf.j2`),
directive by directive in the order of the template.
-/

namespace Korserver

open PythonText PythonValue

inductive Directive
  | option (name : String)
  | setting (name value : String)
  | server (address : String)
  | serverFor (domain address : String)
  | nftset (domain table setV4 setV6 : String)
  | address (host ip : String)
  deriving DecidableEq

def splitDnsActive (config : AppConfig) : Bool :=
  config.routing.clientTraffic && config.routing.mode == .split && config.routing.split.tunnelDns

/-- `server.dns` without dnsmasq's own address. -/
def upstreamDns (config : AppConfig) : List String :=
  config.server.dns.filter (· ≠ config.internalDns.listen)

/-- `host, ip = record.split()`. -/
def localRecord (record : String) : Except PyError Directive :=
  match splitSpace record.toList with
  | [] => .error (.valueError "not enough values to unpack (expected 2, got 0)")
  | [_] => .error (.valueError "not enough values to unpack (expected 2, got 1)")
  | [host, ip] => .ok (.address (String.ofList host) (String.ofList ip))
  | _ => .error (.valueError "too many values to unpack (expected 2)")

def localRecordsFrom : List String → Except PyError (List Directive)
  | [] => .ok []
  | record :: rest => do
      let directive ← localRecord record
      let directives ← localRecordsFrom rest
      return directive :: directives

def localRecords (config : AppConfig) : Except PyError (List Directive) :=
  if config.internalDns.localRecordsEnabled then localRecordsFrom config.internalDns.localRecords
  else .ok []

def splitDomainsOf (files : Files) (config : AppConfig) : Except PyError (List String) :=
  if splitDnsActive config then listDomains files config else .ok []

def generalDirectives (config : AppConfig) : List Directive :=
  let dns := config.internalDns
  [.setting "port" (toString dns.port), .setting "listen-address" dns.listen,
    .option "bind-interfaces", .option "no-hosts", .option "domain-needed", .option "bogus-priv",
    .option "no-negcache", .setting "cache-size" (toString dns.cacheSize)] ++
  (if dns.logQueries then [.option "log-queries"] else []) ++
  (if upstreamDns config = [] then [] else [.option "no-resolv"]) ++
  (upstreamDns config).map .server ++
  dns.publicDomains.flatMap fun domain => dns.publicUpstreams.map (.serverFor domain)

/-- The split domains resolve through the first upstream server, and without one they are
left out. -/
def splitDirectives (config : AppConfig) (domains : List String) : List Directive :=
  match upstreamDns config with
  | [] => []
  | dns :: _ =>
      if splitDnsActive config then
        domains.flatMap fun domain =>
          (if domain ∈ config.internalDns.publicDomains then [] else [.serverFor domain dns]) ++
          [.nftset domain (filterTable config) "split_v4_dynamic" "split_v6_dynamic"]
      else []

def clientDirectives (config : AppConfig) (target : RoutingTarget) : List Directive :=
  if target.name = "default" then []
  else target.domains.map fun domain =>
    .nftset domain (filterTable config) target.setV4Dynamic target.setV6Dynamic

/-- Pushed domains resolve through the pushed servers, unless they are public ones. -/
def serversFor (config : AppConfig) (target : RoutingTarget) (domain : String) :
    Except PyError (List Json) :=
  if domain ∈ config.internalDns.publicDomains then .ok [] else target.serverDns.items

def serverDirectives (repr : Json → String) (config : AppConfig) (target : RoutingTarget) :
    List Json → Except PyError (List Directive)
  | [] => .ok []
  | domain :: rest => do
      let domain := domain.pyStr repr
      let servers ← serversFor config target domain
      let others ← serverDirectives repr config target rest
      return servers.map (fun dns => .serverFor domain (dns.pyStr repr)) ++ others

def hostDirectives (repr : Json → String) (config : AppConfig) (target : RoutingTarget) :
    Except PyError (List Directive) :=
  if target.hostEnabled && !target.hostDomains.isEmpty then do
    let pushed ← target.serverDomains.items
    let servers ← serverDirectives repr config target pushed
    return servers ++ target.hostDomains.map fun domain =>
      .nftset domain (filterTable config) (target.hostSetV4Dynamic.getD "None")
        (target.hostSetV6Dynamic.getD "None")
  else .ok []

def hostDirectivesOf (repr : Json → String) (config : AppConfig) :
    List RoutingTarget → Except PyError (List Directive)
  | [] => .ok []
  | target :: rest => do
      let directives ← hostDirectives repr config target
      let others ← hostDirectivesOf repr config rest
      return directives ++ others

def hostSplitDirectives (config : AppConfig) (domains : List String) : List Directive :=
  domains.map fun domain =>
    .nftset domain (filterTable config) "host_split_v4_dynamic" "host_split_v6_dynamic"

def blocklistDirectives (config : AppConfig) : List Directive :=
  if config.internalDns.blocklistEnabled then
    [.setting "conf-file" (config.system.generatedDir ++ "/dnsmasq-blocklist.conf")]
  else []

/-- `DnsmasqConfigRenderer.render`. -/
def renderDnsmasq (repr : Json → String) (files : Files) (config : AppConfig) :
    Except PyError (List Directive) := do
  let records ← localRecords config
  let targets ← listTargets files config config.routing.mainInterface
  let splitDomains ← splitDomainsOf files config
  let hostSplitDomains ← hostSplitDomainsOf files config
  let hosts ← hostDirectivesOf repr config targets
  return generalDirectives config ++ splitDirectives config splitDomains ++
    targets.flatMap (clientDirectives config) ++ hosts ++
    hostSplitDirectives config hostSplitDomains ++ records ++ blocklistDirectives config

end Korserver
