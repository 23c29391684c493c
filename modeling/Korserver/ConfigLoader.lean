import Korserver.FileStore

/-!
How `config.yaml` becomes a configuration (`config/loader.py`, `config/env.py` and the defaults of
`config/defaults.py`). YAML, JSON and the validation of models are the libraries'.
-/

namespace Korserver

open PythonText PythonValue

mutual

/-- What an entry of the override leaves: mappings merge, anything else replaces. -/
def mergeValue (old : Option Json) : Json → Json
  | .dict override =>
      match old with
      | some (.dict base) => .dict (deepMerge base override)
      | _ => .dict override
  | value => value

def deepMerge (base : List (String × Json)) : List (String × Json) → List (String × Json)
  | [] => base
  | entry :: rest => deepMerge (mergeEntry base entry) rest

def mergeEntry (base : List (String × Json)) : String × Json → List (String × Json)
  | (key, value) => dictSet key (mergeValue (dictGet key base) value) base

end

/-- `entries.update(others)`. -/
def dictUpdate (entries others : List (String × Json)) : List (String × Json) :=
  others.foldl (fun entries other => dictSet other.1 other.2 entries) entries

def isReferenceStart (c : Char) : Bool := isAlpha c || c == '_'

def isReferenceChar (c : Char) : Bool := isAlnum c || c == '_'

/-- The name in a text that matches `SECRET_REF_RE`. -/
def secretName (text : String) : Option String :=
  match "$\x7bSECRET:".toList.isPrefixOf? (beforeDollar text.toList) with
  | some rest =>
      let name := rest.dropLast
      if rest.getLast? = some '}' ∧ name.head?.any isReferenceStart = true ∧
        name.all isReferenceChar = true then some (String.ofList name) else none
  | none => none

def resolveSecretRef (secrets : List (String × String)) (text : String) : Except PyError String :=
  match secretName text with
  | some name =>
      match dictGet name secrets with
      | some secret => .ok secret
      | none => .error (.valueError ("missing required secret environment variable: " ++ name))
  | none => .ok text

mutual

def resolveSecretRefs (secrets : List (String × String)) : Json → Except PyError Json
  | .dict entries => do
      let entries ← resolveEntries secrets entries
      return .dict entries
  | .list items => do
      let items ← resolveItems secrets items
      return .list items
  | .str text => do
      let text ← resolveSecretRef secrets text
      return .str text
  | value => .ok value

def resolveEntries (secrets : List (String × String)) :
    List (String × Json) → Except PyError (List (String × Json))
  | [] => .ok []
  | entry :: rest => do
      let entry ← resolveEntry secrets entry
      let others ← resolveEntries secrets rest
      return entry :: others

def resolveEntry (secrets : List (String × String)) : String × Json → Except PyError (String × Json)
  | (key, value) => do
      let value ← resolveSecretRefs secrets value
      return (key, value)

def resolveItems (secrets : List (String × String)) : List Json → Except PyError (List Json)
  | [] => .ok []
  | item :: rest => do
      let item ← resolveSecretRefs secrets item
      let others ← resolveItems secrets rest
      return item :: others

end

def overrideStart : String := "KORSERVER_"

/-- `text.split("__")`, with the current part in reverse. -/
def splitUnderscores : List Char → List Char → List (List Char)
  | [], part => [part.reverse]
  | '_' :: '_' :: rest, part => part.reverse :: splitUnderscores rest []
  | c :: rest, part => splitUnderscores rest (c :: part)

def overridePath (key : String) : Option (List String) :=
  if key ∈ ["KORSERVER_CONFIG", "KORSERVER_ENV_FILE"] then none
  else match overrideStart.toList.isPrefixOf? key.toList with
    | some rest =>
        match splitUnderscores rest [] with
        | [_] => none
        | parts =>
            match (parts.filter (· ≠ [])).map fun part => lower (String.ofList part) with
            | [] => none
            | path => some path
    | none => none

/-- Case folding of a regular expression, as far as it leads to ASCII letters. -/
def foldChar (c : Char) : Char :=
  if c.toNat = 0x17f then 's'
  else if c.toNat = 0x130 ∨ c.toNat = 0x131 then 'i'
  else lowerChar c

/-- `SECRET_ENV_SEGMENT_RE`. -/
def isSecretSegment (segment : String) : Bool :=
  ["password", "passphrase", "secret", "token"].any fun word =>
    word.toList.isSuffixOf ((beforeDollar segment.toList).map foldChar)

def parseEnvValue (jsonLoads : String → JsonLoaded) (value : String) : Except PyError Json :=
  let stripped := strip value
  if stripped = "" then .ok (.str "")
  else match jsonLoads stripped with
    | .value parsed => .ok parsed
    | .raised error => .error error
    | .undecodable =>
        let lowered := lower stripped
        if lowered ∈ ["true", "yes", "on"] then .ok (.bool true)
        else if lowered ∈ ["false", "no", "off"] then .ok (.bool false)
        else if lowered ∈ ["null", "none"] then .ok .null
        else if "0".toList.isPrefixOf stripped.toList ∧ stripped ≠ "0" ∧
          ¬"0.".toList.isPrefixOf stripped.toList then .ok (.str stripped)
        else match readInt stripped with
          | some number => .ok (.int number)
          | none => .ok (.str stripped)

/-- Values at secret paths stay texts. -/
def overrideValue (jsonLoads : String → JsonLoaded) (path : List String) (rawValue : String) :
    Except PyError Json :=
  if path.getLast?.any isSecretSegment then .ok (.str rawValue) else parseEnvValue jsonLoads rawValue

def setOverride (key : String) (value : Json) :
    List String → List (String × Json) → Except PyError (List (String × Json))
  | [], current => .ok current
  | [segment], current => .ok (dictSet segment value current)
  | segment :: rest, current =>
      match dictGet segment current with
      | some (.dict child) => do
          let child ← setOverride key value rest child
          return dictSet segment (.dict child) current
      | some _ => .error (.valueError ("conflicting environment override at " ++ key))
      | none => do
          let child ← setOverride key value rest []
          return dictSet segment (.dict child) current

/-- One variable. The value is read after the walk to its place. -/
def setVariable (jsonLoads : String → JsonLoaded) (key rawValue : String) (path : List String)
    (overrides : List (String × Json)) : Except PyError (List (String × Json)) :=
  match overrideValue jsonLoads path rawValue with
  | .ok value => setOverride key value path overrides
  | .error error => do
      let _ ← setOverride key .null path overrides
      .error error

def envOverridesFrom (jsonLoads : String → JsonLoaded) :
    List (String × String) → List (String × Json) → Except PyError (List (String × Json))
  | [], overrides => .ok overrides
  | (key, rawValue) :: rest, overrides =>
      match overridePath key with
      | some path => do
          let overrides ← setVariable jsonLoads key rawValue path overrides
          envOverridesFrom jsonLoads rest overrides
      | none => envOverridesFrom jsonLoads rest overrides

/-- `env_overrides_from_mapping`. -/
def envOverrides (jsonLoads : String → JsonLoaded) (values : List (String × String)) :
    Except PyError (List (String × Json)) :=
  envOverridesFrom jsonLoads values []

def defaultConfig : List (String × Json) := [
  ("system", .dict [
    ("timezone", .str "UTC"), ("data_dir", .str "/var/lib/korserver"),
    ("log_dir", .str "/var/log/korserver"), ("generated_dir", .str "/var/lib/korserver/generated"),
    ("secrets_dir", .str "/var/lib/korserver/secrets"), ("log_level", .str "info"),
    ("project_name", .str "korserver"),
    ("log_rotation", .dict [
      ("enabled", .bool false), ("max_size_mb", .int 50), ("max_age", .int 0),
      ("max_age_unit", .str "days"), ("keep_files", .int 5)])]),
  ("server", .dict [
    ("enabled", .bool true), ("listen", .str "0.0.0.0"), ("port", .int 443),
    ("udp_enabled", .bool true), ("device", .str "vpns"), ("cn", .str "vpn.example.com"),
    ("realm", .str "Korvus VPN Server"), ("ipv4_network", .str "10.10.10.0/24"),
    ("dns", .list [.str "1.1.1.1", .str "8.8.8.8"]), ("search_domains", .list []),
    ("routes", .list []), ("no_routes", .list []), ("max_clients", .int 128),
    ("max_same_clients", .int 2), ("keepalive", .int 32400), ("compression", .bool false),
    ("cisco_client_compat", .bool true),
    ("camouflage", .dict [
      ("enabled", .bool false), ("secret", .null), ("realm", .str "Hidden service")]),
    ("connect_script", .null), ("disconnect_script", .null), ("debug_level", .int 2)]),
  ("certificates", .dict [
    ("mode", .str "auto"), ("ca_name", .str "Korvus Server CA"), ("server_cert", .null),
    ("server_key", .null), ("ca_cert", .null),
    ("letsencrypt", .dict [
      ("enabled", .bool false), ("email", .null), ("domains", .list []),
      ("renew_reload", .bool true), ("auto_renew_enabled", .bool true),
      ("auto_renew_interval", .int 7), ("auto_renew_interval_unit", .str "days"),
      ("http01_address", .null), ("http01_port", .int 80)])]),
  ("auth", .dict [
    ("password", .dict [("enabled", .bool true)]),
    ("certificate", .dict [("enabled", .bool false)]),
    ("otp", .dict [
      ("enabled", .bool false), ("ocserv_oath_auth", .bool false),
      ("issuer", .str "Korvus Server"), ("send_by_email", .bool false),
      ("send_by_telegram", .bool false), ("smtp_host", .null), ("smtp_port", .int 587),
      ("smtp_username", .null), ("smtp_password", .null), ("smtp_from", .null),
      ("smtp_starttls", .bool true), ("smtp_test_recipient", .null), ("telegram_bot_token", .null),
      ("telegram_chat_id", .null)])]),
  ("upstream", .dict [
    ("enabled", .bool false), ("interface", .str "oc-middle0"), ("active_profile", .null),
    ("check_interval", .int 5), ("check_threshold", .int 3), ("failover", .bool false),
    ("profiles", .list [])]),
  ("routing", .dict [
    ("mode", .str "full"), ("host_traffic", .bool false), ("host_mode", .str "full"),
    ("host_dns", .str "off"), ("main_interface", .str "auto"), ("fwmark", .str "0x0c01"),
    ("table_id", .int 1201), ("nft_prefix", .str "korserver"),
    ("split", .dict [
      ("tunnel_dns", .bool false), ("routes_file", .str "/var/lib/korserver/routes.txt"),
      ("domains_file", .str "/var/lib/korserver/domains.txt"), ("routes", .list []),
      ("domains", .list [])])]),
  ("internal_dns", .dict [
    ("resolver_enabled", .bool false), ("listen", .str "10.10.10.1"), ("port", .int 53),
    ("blocklist_enabled", .bool false), ("local_records_enabled", .bool false),
    ("blocklist_domains", .list []), ("blocklist_files", .list []), ("blocklist_urls", .list []),
    ("cache_size", .int 150), ("log_queries", .bool false), ("local_records", .list []),
    ("public_upstreams", .list []), ("public_domains", .list [])]),
  ("web", .dict [
    ("enabled", .bool false), ("listen", .str "127.0.0.1"), ("port", .int 8443),
    ("tls", .bool true), ("tls_cert", .null), ("tls_key", .null),
    ("allow_insecure_http", .bool false), ("trusted_proxies", .list []),
    ("admin_user", .str "admin"), ("admin_password", .null), ("admin_password_hash", .null),
    ("static_dir", .str "/usr/share/korserver/frontend"), ("terminal_enabled", .bool false),
    ("terminal_idle_timeout", .int 900), ("terminal_max_sessions", .int 2),
    ("session_lifetime", .int 43200), ("session_cookie_secure", .bool true)]),
  ("cli", .dict [("enabled", .bool true)]),
  ("advanced", .dict [("raw_ocserv_options", .list [])])]

/-- What the code takes from its libraries and from outside, and `app.state.config_path`. -/
structure ConfigContext (Config : Type) where
  path : String
  yamlLoad : String → Except PyError Json
  yamlDump : List (String × Json) → String
  jsonLoads : String → JsonLoaded
  environment : List (String × String)
  modelValidate : List (String × Json) → Except PyError Config
  writeRendered : Config → Except PyError (List String)

namespace ConfigContext

variable {Config : Type} (context : ConfigContext Config)

def parseYamlMapping (content : String) : Except PyError (List (String × Json)) := do
  match ← context.yamlLoad content with
  | .null => return []
  | .dict entries => return entries
  | _ => .error (.valueError ("configuration root must be a mapping: " ++ context.path))

def loadExistingMapping : TextFile → Except PyError (List (String × Json))
  | .missing => .ok []
  | .unreadable => .error .osError
  | .text content => context.parseYamlMapping content

/-- `_validate_yaml_config`, and what `load_config` does with a mapping. -/
def validateYamlConfig (data : List (String × Json)) : Except PyError Config := do
  let overrides ← envOverrides context.jsonLoads context.environment
  let merged ← resolveEntries context.environment (deepMerge (deepMerge defaultConfig data) overrides)
  context.modelValidate merged

def loadConfig (file : TextFile) : Except PyError Config := do
  let data ← context.loadExistingMapping file
  context.validateYamlConfig data

end ConfigContext

end Korserver
