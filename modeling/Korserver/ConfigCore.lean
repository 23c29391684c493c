import Korserver.IpAddressCore

/-!
The validated configuration of `config/models.py`: the fields the routing, firewall and
upstream services read, their defaults, the validators over them, and the functions of
`UpstreamConfig` that derive the selected profile, tunnel device and routing offset.
A validator that normalizes its value is stated on the value it leaves behind.
-/

namespace Korserver

open PythonText IpAddress

/-! Validator building blocks. -/

def check (condition : Prop) [Decidable condition] (message : String) : Except String Unit :=
  if condition then .ok () else .error message

def checkAll {α : Type} (validate : α → Except String Unit) : List α → Except String Unit
  | [] => .ok ()
  | item :: rest => do validate item; checkAll validate rest

/-- A regular expression's `$` also matches in front of one final newline. -/
def beforeDollar (chars : List Char) : List Char :=
  if chars.getLast? = some '\n' then chars.dropLast else chars

def isAlnum (c : Char) : Bool :=
  ('A' ≤ c && c ≤ 'Z') || ('a' ≤ c && c ≤ 'z') || ('0' ≤ c && c ≤ '9')

theorem isAlnum_range {c : Char} (letter : isAlnum c = true) :
    (48 ≤ c.toNat ∧ c.toNat ≤ 57) ∨ (65 ≤ c.toNat ∧ c.toNat ≤ 122) := by
  simp only [isAlnum, Bool.or_eq_true, Bool.and_eq_true, decide_eq_true_eq] at letter
  rcases letter with (upper | lower) | digit
  · have high : c.toNat ≤ 90 := upper.2
    exact .inr ⟨upper.1, by omega⟩
  · have low : 97 ≤ c.toNat := lower.1
    exact .inr ⟨by omega, lower.2⟩
  · exact .inl digit

def isAlpha (c : Char) : Bool := ('A' ≤ c && c ≤ 'Z') || ('a' ≤ c && c ≤ 'z')

/-- `^[first][rest]{0,limit}$`. -/
def matchesIdentifier (first rest : Char → Bool) (limit : Nat) (text : String) : Bool :=
  match beforeDollar text.toList with
  | [] => false
  | c :: tail => first c && tail.all rest && decide (tail.length ≤ limit)

theorem matchesIdentifier_body {first rest : Char → Bool} {limit : Nat} {text : String}
    (wider : ∀ c, first c = true → rest c = true) (matched : matchesIdentifier first rest limit text = true) :
    beforeDollar text.toList ≠ [] ∧ ∀ c ∈ beforeDollar text.toList, rest c = true := by
  unfold matchesIdentifier at matched
  split at matched
  · nomatch matched
  · rename_i c tail body
    simp only [Bool.and_eq_true, List.all_eq_true] at matched
    rw [body]
    exact ⟨List.cons_ne_nil _ _, List.forall_mem_cons.mpr ⟨wider c matched.1.1, matched.1.2⟩⟩

def isNameChar (c : Char) : Bool := isAlnum c || c == '_' || c == '.' || c == '-'

def matchesLabel (label : List Char) : Bool :=
  decide (label ≠ [] ∧ label.length ≤ 63) &&
    (label.head?.any isAlnum && label.getLast?.any isAlnum && label.all fun c => isAlnum c || c == '-')

/-- `DOMAIN_RE`. -/
def matchesDomain (text : String) : Bool :=
  let body := beforeDollar text.toList
  let labels := if body.getLast? = some '.' then body.dropLast else body
  decide (body.length ≤ 253 ∨ (body.length = 254 ∧ body.getLast? = some '.')) &&
    (splitChar '.' labels).all matchesLabel

def validateCidr (value : String) : Except String Unit :=
  check ((ipNetwork value).isSome = true) (value ++ " does not appear to be an IPv4 or IPv6 network")

def validateIp (value : String) : Except String Unit :=
  check ((ipAddress value).isSome = true) (value ++ " does not appear to be an IPv4 or IPv6 address")

def validateDomain (value : String) : Except String Unit :=
  check (matchesDomain value = true ∧ value.toList.getLast? ≠ some '.')
    ("invalid domain name: " ++ value)

def validateInterfaceName (value : String) : Except String Unit :=
  check (matchesIdentifier isNameChar isNameChar 14 value = true)
    ("invalid network interface name (1-15 chars, alphanumeric/._-): " ++ value)

def reservedRoutingTableIds : List Nat := [253, 254, 255]

def validateRoutingTableId (value : Nat) (fieldName : String) : Except String Unit :=
  check (value ∉ reservedRoutingTableIds)
    (fieldName ++ " must not be one of the kernel-reserved routing table IDs [253, 254, 255] " ++
      "(default/main/local) -- using one would corrupt the host's own routing table")

def isSafeNameChar (c : Char) : Bool := ('a' ≤ c && c ≤ 'z') || ('0' ≤ c && c ≤ '9') || c == '_'

/-- `re.sub(r"[^a-z0-9_]", "_", name.lower())`. -/
def profileSafeName (name : String) : String :=
  String.ofList ((lower name).toList.map fun c => if isSafeNameChar c then c else '_')

def truthy : Option String → Option String
  | some text => if text = "" then none else some text
  | none => none

/-! Upstream profiles. -/

inductive AuthType
  | password
  | cert
  | p12
  deriving DecidableEq, Repr

structure UpstreamProfileConfig where
  name : String
  server : String
  port : String := "443"
  enabled : Bool := true
  interface : Option String := none
  authType : AuthType := .password
  username : Option String := none
  certFile : Option String := none
  certFileBase64 : Option String := none
  keyFile : Option String := none
  keyFileBase64 : Option String := none
  checkHost : Option String := none
  routeClientsEnabled : Bool := true
  routes : List String := []
  domains : List String := []
  routeHostEnabled : Bool := false
  hostRoutes : List String := []
  hostDomains : List String := []
  acceptServerRoutes : Bool := false
  syncUrl : Option String := none
  syncInterval : Nat := 60
  routingOffset : Option Nat := none
  deriving DecidableEq

def UpstreamProfileConfig.validateName (name : String) : Except String Unit :=
  check (matchesIdentifier isAlnum isNameChar 63 name = true)
    "upstream.profiles[].name must be a short identifier"

def UpstreamProfileConfig.validateSyncUrl (url : String) : Except String Unit := do
  check ("https://".toList <+: url.toList ∨ "http://".toList <+: url.toList)
    "upstream.profiles[].sync_url must be an HTTP(S) URL"
  check (url.toList.any isSpace = false)
    "upstream.profiles[].sync_url must not contain whitespace"

def UpstreamProfileConfig.validateAuthFields (profile : UpstreamProfileConfig) :
    Except String Unit := do
  check (profile.authType ≠ .password ∨ (truthy profile.username).isSome = true)
    ("upstream profile '" ++ profile.name ++ "' requires username")
  check (profile.authType = .password ∨ profile.certFile.isSome = true ∨
      (truthy profile.certFileBase64).isSome = true)
    ("upstream profile '" ++ profile.name ++ "' requires cert_file or cert_file_base64")
  check (¬(profile.certFile.isSome = true ∧ (truthy profile.certFileBase64).isSome = true))
    ("upstream profile '" ++ profile.name ++ "': set cert_file or cert_file_base64, not both")
  check (¬(profile.keyFile.isSome = true ∧ (truthy profile.keyFileBase64).isSome = true))
    ("upstream profile '" ++ profile.name ++ "': set key_file or key_file_base64, not both")

def UpstreamProfileConfig.validate (profile : UpstreamProfileConfig) : Except String Unit := do
  UpstreamProfileConfig.validateName profile.name
  checkAll validateCidr profile.routes
  checkAll validateDomain profile.domains
  checkAll validateCidr profile.hostRoutes
  checkAll validateDomain profile.hostDomains
  checkAll validateIp profile.checkHost.toList
  checkAll validateInterfaceName profile.interface.toList
  check (∀ offset ∈ profile.routingOffset, 1 ≤ offset)
    "Input should be greater than or equal to 1"
  check (10 ≤ profile.syncInterval) "Input should be greater than or equal to 10"
  checkAll UpstreamProfileConfig.validateSyncUrl profile.syncUrl.toList
  profile.validateAuthFields

structure UpstreamConfig where
  enabled : Bool := false
  interface : String := "oc-middle0"
  activeProfile : Option String := none
  checkInterval : Nat := 5
  checkThreshold : Nat := 3
  checkSettleSeconds : Nat := 15
  failover : Bool := false
  connectOnBoot : Bool := true
  profiles : List UpstreamProfileConfig := []
  deriving DecidableEq

/-- The effective active profile: the configured one unless it is disabled, and the
first enabled one when none is configured. -/
def UpstreamConfig.selectedProfile (upstream : UpstreamConfig) : Option UpstreamProfileConfig :=
  match (truthy upstream.activeProfile).bind fun name =>
      upstream.profiles.find? (·.name = name) with
  | some profile => if profile.enabled then some profile else none
  | none => upstream.profiles.find? (·.enabled)

/-- The index a `for index, candidate in enumerate(profiles)` loop stops at. -/
def UpstreamConfig.profileIndex (upstream : UpstreamConfig) (profile : UpstreamProfileConfig) :
    Option Nat :=
  upstream.profiles.findIdx? (·.name = profile.name)

def UpstreamConfig.profileInterface (upstream : UpstreamConfig) (profile : UpstreamProfileConfig) :
    String :=
  match truthy profile.interface with
  | some interface => interface
  | none =>
      match upstream.profileIndex profile with
      | some 0 => upstream.interface
      | some index => "oc-up" ++ toString index
      | none => upstream.interface

def UpstreamConfig.profileRoutingOffset (upstream : UpstreamConfig)
    (profile : UpstreamProfileConfig) : Nat :=
  match profile.routingOffset with
  | some offset => offset
  | none =>
      match upstream.profileIndex profile with
      | some index => index + 1
      | none => 1

def UpstreamConfig.validateProfiles (upstream : UpstreamConfig) : Except String Unit := do
  check (upstream.profiles.map (·.name)).Nodup "upstream profile names must be unique"
  check (upstream.enabled = true → upstream.profiles ≠ [])
    "upstream.profiles is required when upstream is enabled"
  check (∀ name ∈ truthy upstream.activeProfile, name ∈ upstream.profiles.map (·.name))
    "upstream.active_profile must match an existing profile"
  check (upstream.profiles.map upstream.profileInterface).Nodup
    ("upstream profiles must use distinct interfaces so their connections can be up " ++
      "simultaneously")
  check (upstream.profiles.map fun profile => profileSafeName profile.name).Nodup
    ("upstream profile names must remain distinct once normalized to a-z0-9_ for their " ++
      "nftables set names")
  check (upstream.profiles.map upstream.profileRoutingOffset).Nodup
    ("upstream profiles must use distinct routing_offset values (or leave it unset so it's " ++
      "derived from list position)")

def UpstreamConfig.validate (upstream : UpstreamConfig) : Except String Unit := do
  checkAll UpstreamProfileConfig.validate upstream.profiles
  validateInterfaceName upstream.interface
  check (1 ≤ upstream.checkInterval) "Input should be greater than or equal to 1"
  check (1 ≤ upstream.checkThreshold) "Input should be greater than or equal to 1"
  upstream.validateProfiles

inductive RoutingMode
  | full
  | split
  deriving DecidableEq, Repr

@[simp] theorem RoutingMode.split_beq_full : (RoutingMode.split == RoutingMode.full) = false := rfl

structure HostSplitConfig where
  routesFile : String := "/var/lib/korserver/host-routes.txt"
  domainsFile : String := "/var/lib/korserver/host-domains.txt"
  routes : List String := []
  domains : List String := []
  routesFiles : List String := []
  routesUrls : List String := []
  domainsFiles : List String := []
  domainsUrls : List String := []
  deriving DecidableEq

structure RoutingSplitConfig extends HostSplitConfig where
  routesFile := "/var/lib/korserver/routes.txt"
  domainsFile := "/var/lib/korserver/domains.txt"
  tunnelDns : Bool := false
  deriving DecidableEq

def HostSplitConfig.validate (split : HostSplitConfig) : Except String Unit := do
  checkAll validateCidr split.routes
  checkAll validateDomain split.domains

structure RoutingConfig where
  clientTraffic : Bool := true
  mode : RoutingMode := .full
  hostTraffic : Bool := false
  hostMode : RoutingMode := .full
  mainInterface : String := "auto"
  fwmark : String := "0x0c01"
  tableId : Nat := 1201
  nftPrefix : String := "korserver"
  split : RoutingSplitConfig := {}
  hostSplit : HostSplitConfig := {}
  deriving DecidableEq

def RoutingConfig.validateNftPrefix (value : String) : Except String Unit :=
  check (matchesIdentifier isAlpha (fun c => isAlnum c || c == '_') 31 value = true)
    "routing.nft_prefix must be a short nftables-safe identifier"

def RoutingConfig.validateFwmark (value : String) : Except String Unit := do
  check ((intLiteral value).isSome = true) "invalid literal for int() with base 0"
  check (intLiteral value ≠ some 0) "routing.fwmark must not be 0"

def RoutingConfig.validateTableId (value : Nat) : Except String Unit := do
  check (1 ≤ value) "Input should be greater than or equal to 1"
  validateRoutingTableId value "routing.table_id"

def RoutingConfig.validate (routing : RoutingConfig) : Except String Unit := do
  RoutingConfig.validateFwmark routing.fwmark
  RoutingConfig.validateTableId routing.tableId
  RoutingConfig.validateNftPrefix routing.nftPrefix
  routing.split.toHostSplitConfig.validate
  routing.hostSplit.validate

/-! The whole configuration. -/

structure SystemConfig where
  dataDir : String := "/var/lib/korserver"
  generatedDir : String := "/var/lib/korserver/generated"
  deriving DecidableEq

structure ServerConfig where
  ipv4Network : String := "10.10.10.0/24"
  dns : List String := ["1.1.1.1", "8.8.8.8"]
  deriving DecidableEq

structure InternalDnsConfig where
  resolverEnabled : Bool := false
  listen : String := "10.10.10.1"
  port : Nat := 53
  blocklistEnabled : Bool := false
  localRecordsEnabled : Bool := false
  cacheSize : Nat := 150
  logQueries : Bool := false
  localRecords : List String := []
  publicUpstreams : List String := []
  publicDomains : List String := []
  deriving DecidableEq

def validateLocalRecord (value : String) : Except String Unit :=
  match (splitSpace value.toList).map String.ofList with
  | [hostname, ip] => do
      validateDomain hostname
      validateIp ip
  | _ => .error ("local DNS record must be 'hostname ip': " ++ value)

/-- `_validate_domain(domain).lower()`. -/
def validatePublicDomain (value : String) : Except String Unit := do
  validateDomain value
  check (lower value = value) ("invalid domain name: " ++ value)

def InternalDnsConfig.validate (dns : InternalDnsConfig) : Except String Unit := do
  validateIp dns.listen
  check (1 ≤ dns.port) "Input should be greater than or equal to 1"
  check (dns.port ≤ 65535) "Input should be less than or equal to 65535"
  check (dns.cacheSize ≤ 10000) "Input should be less than or equal to 10000"
  checkAll validateLocalRecord dns.localRecords
  checkAll validateIp dns.publicUpstreams
  checkAll validatePublicDomain dns.publicDomains
  check (dns.publicUpstreams.isEmpty = dns.publicDomains.isEmpty)
    ("internal_dns.public_upstreams and internal_dns.public_domains must either both be " ++
      "configured or both be empty")

structure AppConfig where
  system : SystemConfig := {}
  server : ServerConfig := {}
  upstream : UpstreamConfig := {}
  routing : RoutingConfig := {}
  internalDns : InternalDnsConfig := {}
  deriving DecidableEq

inductive DnsmasqReason
  | resolverEnabled
  | blocklistEnabled
  | localRecordsEnabled
  | splitDns
  | profileDomains
  | hostSplitDomains
  | profileHostDomains
  | profileServerRoutes
  deriving DecidableEq, Repr

/-- The configured features that need dnsmasq. `pathExists` answers the one question
that is asked of the file system. -/
def AppConfig.dnsmasqActiveReasons (pathExists : String → Bool) (config : AppConfig) :
    List DnsmasqReason :=
  let settings := config.internalDns
  let anyProfile (wanted : UpstreamProfileConfig → Bool) : Bool :=
    config.upstream.enabled && config.upstream.profiles.any fun profile =>
      profile.enabled && wanted profile
  let hostSplit := config.routing.hostSplit
  (if settings.resolverEnabled then [.resolverEnabled] else []) ++
  (if settings.blocklistEnabled then [.blocklistEnabled] else []) ++
  (if settings.localRecordsEnabled then [.localRecordsEnabled] else []) ++
  (if config.routing.clientTraffic && config.routing.mode == .split && config.routing.split.tunnelDns
    then [.splitDns] else []) ++
  (if anyProfile fun profile => profile.routeClientsEnabled && !profile.domains.isEmpty
    then [.profileDomains] else []) ++
  (if config.routing.hostTraffic && config.routing.hostMode == .split &&
      (!hostSplit.domains.isEmpty || !hostSplit.domainsFiles.isEmpty ||
        !hostSplit.domainsUrls.isEmpty || pathExists hostSplit.domainsFile)
    then [.hostSplitDomains] else []) ++
  (if anyProfile fun profile => profile.routeHostEnabled && !profile.hostDomains.isEmpty
    then [.profileHostDomains] else []) ++
  (if anyProfile fun profile => profile.routeHostEnabled && profile.acceptServerRoutes
    then [.profileServerRoutes] else [])

def AppConfig.dnsTunnelActive (pathExists : String → Bool) (config : AppConfig) : Bool :=
  !(config.dnsmasqActiveReasons pathExists).isEmpty

def insideNetwork (network : String) (address : String) : Bool :=
  match ipNetwork network, ipAddress address with
  | some network, some address => network.contains address
  | _, _ => false

def AppConfig.validateRoutingCompatibility (pathExists : String → Bool) (config : AppConfig) :
    Except String Unit := do
  check (∀ route ∈ config.routing.split.routes,
      ipNetwork route ≠ ipNetwork config.server.ipv4Network)
    "routing.split.routes must not contain the VPN client subnet itself"
  if config.upstream.enabled then
    check (∀ profile ∈ config.upstream.selectedProfile, ∀ host ∈ truthy profile.checkHost,
        insideNetwork config.server.ipv4Network host = false)
      "upstream.check_host must not be inside the VPN client subnet"
    checkAll (fun profile => validateRoutingTableId
        (config.routing.tableId + config.upstream.profileRoutingOffset profile)
        ("upstream.profiles['" ++ profile.name ++ "']'s derived table_id"))
      config.upstream.profiles
  check (config.dnsTunnelActive pathExists = true →
      insideNetwork config.server.ipv4Network config.internalDns.listen = true)
    ("internal_dns.listen must be inside server.ipv4_network when internal_dns or " ++
      "split-mode DNS tunneling is enabled so VPN clients can reach the DNS server")

def AppConfig.validate (pathExists : String → Bool) (config : AppConfig) : Except String Unit := do
  validateCidr config.server.ipv4Network
  checkAll validateIp config.server.dns
  config.internalDns.validate
  config.upstream.validate
  config.routing.validate
  config.validateRoutingCompatibility pathExists

/-- A configuration some load accepted, whatever files existed at that moment. -/
def AppConfig.Valid (config : AppConfig) : Prop :=
  ∃ pathExists, config.validate pathExists = .ok ()

end Korserver
