import Korserver.Settings
import Korserver.UserConfigCore

/-!
The `ocserv.conf` that `renderers/ocserv.py` renders from its template, what `services/ocserv_reload.py`
reads of it, and how `services/server.py` makes the running ocserv use a saved configuration.
-/

namespace Korserver

open PythonText PythonValue Effects

structure CamouflageConfig where
  enabled : Bool := false
  secret : String := ""
  realm : String := "Hidden service"

structure OcservServer where
  enabled : Bool := true
  listen : String := "0.0.0.0"
  port : Int := 443
  udpEnabled : Bool := true
  device : String := "vpns"
  realm : String := "Korvus VPN Server"
  ipv4Network : String := "10.10.10.0/24"
  searchDomains : List String := []
  routes : List String := []
  noRoutes : List String := []
  maxClients : Int := 128
  maxSameClients : Int := 2
  keepalive : Int := 32400
  compression : Bool := false
  ciscoClientCompat : Bool := true
  camouflage : CamouflageConfig := {}
  connectScript : Option String := none
  disconnectScript : Option String := none
  debugLevel : Int := 2

inductive OidcConnector
  | pam (service : String) (gidMin : Option Int)
  | radius (configFile : String) (groupconfig : Bool) (groupSeparator : String) (nasIdentifier : Option String)

structure OcservAuth where
  passwordEnabled : Bool := true
  certificateEnabled : Bool := false
  otpEnabled : Bool := false
  ocservOathAuth : Bool := false
  oidcEnabled : Bool := false
  connector : OidcConnector := .pam "ocserv" (some 1000)

structure OcservIdentity where
  configPerUserDir : String := "/var/lib/korserver/generated/config-per-user"
  configPerGroupDir : String := "/var/lib/korserver/generated/config-per-group"
  defaultGroupConfig : Option String := none
  selectGroupByUrl : Bool := false
  defaultSelectGroup : Option String := none
  /-- The names of the group policies, and the names that are shown. -/
  groupPolicies : List (String × Option String) := []

inductive RawOcservOptions
  | lines (items : List String)
  | mapping (entries : List (String × Option String))

structure OcservConfig where
  server : OcservServer := {}
  auth : OcservAuth := {}
  identity : OcservIdentity := {}
  /-- The paths of an external certificate, its key and its authority. -/
  externalCertificate : Option (String × String × String) := none
  dataDir : String := "/var/lib/korserver"
  generatedDir : String := "/var/lib/korserver/generated"
  secretsDir : String := "/var/lib/korserver/secrets"
  clientDns : List String := ["1.1.1.1", "8.8.8.8"]
  dnsTunnelActive : Bool := false
  rawOcservOptions : RawOcservOptions := .lines []

def trueFalse (value : Bool) : String := if value then "true" else "false"

/-- `_oidc_auth_line`. -/
def OidcConnector.authLine : OidcConnector → String
  | .pam service gidMin =>
      "pam[" ++ join "," (("service=" ++ service) :: (gidMin.map fun gid => "gid-min=" ++ toString gid).toList) ++
        "]"
  | .radius configFile groupconfig groupSeparator nasIdentifier =>
      "radius[" ++ join "," (["config=" ++ configFile, "groupconfig=" ++ trueFalse groupconfig,
        "group-separator=" ++ groupSeparator] ++
          ((truthy nasIdentifier).map fun identifier => "nas-identifier=" ++ identifier).toList) ++ "]"

def OcservConfig.authLines (config : OcservConfig) : List String :=
  (if config.auth.passwordEnabled then ["plain[passwd=" ++ config.secretsDir ++ "/ocpasswd]"] else []) ++
    (if config.auth.oidcEnabled then [config.auth.connector.authLine] else []) ++
    (if config.auth.certificateEnabled then ["certificate"] else []) ++
    (if config.auth.otpEnabled && config.auth.ocservOathAuth then
      ["oath[usersfile=" ++ config.secretsDir ++ "/users.oath]"] else [])

/-- `_select_group_lines`. -/
def OcservIdentity.selectGroups (identity : OcservIdentity) : List String :=
  identity.groupPolicies.map fun (name, displayName) =>
    match truthy displayName with
    | some shown => name ++ "[" ++ shown ++ "]"
    | none => name

def OcservConfig.certificatePaths (config : OcservConfig) : String × String × String :=
  config.externalCertificate.getD (config.dataDir ++ "/certs/server.crt", config.dataDir ++ "/certs/server.key",
    config.dataDir ++ "/certs/ca.crt")

def setting (key value : String) : String := key ++ " = " ++ value

def optionalSetting (key : String) (value : Option String) : List String := (value.map (setting key)).toList

def linesWhen (condition : Bool) (lines : List String) : List String := if condition then lines else []

/-- The template between its first line and the options that are taken over as they are. -/
def OcservConfig.settingLines (config : OcservConfig) : List String :=
  let server := config.server
  let identity := config.identity
  let (serverCert, serverKey, caCert) := config.certificatePaths
  [setting "tcp-port" (toString server.port)] ++
    linesWhen server.udpEnabled [setting "udp-port" (toString server.port)] ++
    [setting "listen-host" server.listen, setting "device" server.device, setting "run-as-user" "nobody",
      setting "run-as-group" "nogroup", setting "use-occtl" "true",
      setting "occtl-socket-file" (config.generatedDir ++ "/occtl.sock"),
      setting "socket-file" (config.generatedDir ++ "/ocserv.sock")] ++
    linesWhen (decide (0 < server.debugLevel)) [setting "log-level" (toString server.debugLevel)] ++
    ["", setting "server-cert" serverCert, setting "server-key" serverKey, setting "ca-cert" caCert] ++
    linesWhen config.auth.certificateEnabled [setting "cert-user-oid" "2.5.4.3"] ++
    [""] ++
    config.authLines.map (fun item => setting "auth" ("\"" ++ item ++ "\"")) ++
    [setting "config-per-user" identity.configPerUserDir, setting "config-per-group" identity.configPerGroupDir] ++
    optionalSetting "default-group-config" identity.defaultGroupConfig ++
    identity.selectGroups.map (setting "select-group") ++
    [setting "select-group-by-url" (trueFalse identity.selectGroupByUrl)] ++
    optionalSetting "default-select-group" (truthy identity.defaultSelectGroup) ++
    ["", "# UI/API realm label: " ++ server.realm, setting "max-clients" (toString server.maxClients),
      setting "max-same-clients" (toString server.maxSameClients), setting "keepalive" (toString server.keepalive),
      setting "compression" (trueFalse server.compression),
      setting "cisco-client-compat" (trueFalse server.ciscoClientCompat), setting "try-mtu-discovery" "true",
      setting "isolate-workers" "true", "", setting "ipv4-network" server.ipv4Network] ++
    config.clientDns.map (setting "dns") ++
    linesWhen config.dnsTunnelActive [setting "tunnel-all-dns" "true"] ++
    server.searchDomains.map (setting "split-dns") ++
    optionalSetting "default-domain" server.searchDomains.head? ++
    server.routes.map (setting "route") ++ server.noRoutes.map (setting "no-route") ++
    [""] ++
    optionalSetting "connect-script" server.connectScript ++
    optionalSetting "disconnect-script" server.disconnectScript ++
    [""] ++
    linesWhen server.camouflage.enabled [setting "camouflage" "true",
      setting "camouflage_secret" server.camouflage.secret, setting "camouflage_realm" server.camouflage.realm] ++
    [""]

def OcservConfig.lines (config : OcservConfig) : List String :=
  "# Generated by korserver. Manual edits may be overwritten." :: config.settingLines

/-- In a mapping every entry ends in a block, and the line feed behind a block is trimmed. -/
def RawOcservOptions.text : RawOcservOptions → String
  | .lines items => String.join (items.map (· ++ "\n"))
  | .mapping entries => String.join (entries.map fun (key, value) =>
      match value with
      | some value => setting key value
      | none => key)

def OcservConfig.render (config : OcservConfig) : String :=
  join "\n" config.lines ++ "\n" ++ config.rawOcservOptions.text

def restartOnlyDirectives : List String := [
  "auth", "enable-auth", "acct", "cert-user-oid", "cert-group-oid", "tcp-port", "udp-port", "listen-host",
  "udp-listen-host", "listen-proxy-proto", "device", "run-as-user", "run-as-group", "socket-file",
  "occtl-socket-file", "use-occtl", "isolate-workers", "pid-file"]

def restartOnlySetting (rawLine : String) : Option (String × String) :=
  let line := strip rawLine
  if line = "" ∨ line.toList.head? = some '#' then none
  else (splitOnce '=' line).bind fun (key, value) =>
    if strip key ∈ restartOnlyDirectives then some (strip key, strip value) else none

def restartOnlySettings (ocservConf : String) : List (String × String) :=
  (splitLines ocservConf).filterMap restartOnlySetting

def restartRequired (previous current : String) : Bool :=
  decide (restartOnlySettings previous ≠ restartOnlySettings current)

inductive ServerAction
  | reload
  | restart
  deriving DecidableEq

/-- What `apply_config_change` does, none if the server is disabled. -/
def applyConfigChange (previousOcservConf : String) (config : OcservConfig) : Option ServerAction :=
  if !config.server.enabled then none
  else if restartRequired previousOcservConf config.render then some .restart
  else some .reload

/-- `other` stands for the endpoints that save a patch and leave it at that. -/
inductive SettingsSave
  | server (patch : List (String × Json)) (reload : Bool)
  | authentication (patch : List (String × Json))
  | oidc (patch : List (String × Json))
  | identity (patch : List (String × Json))
  | source (content : String) (writeRendered : Bool)
  | other (patch : List (String × Json)) (writeRendered : Bool)

def SettingsSave.request : SettingsSave → SettingsRequest
  | .server patch _ => .patch [("server", .dict patch)] true
  | .authentication patch => .patch [("auth", .dict patch)] true
  | .oidc patch => .patch [("auth", .dict [("oidc", .dict patch)])] true
  | .identity patch => .patch [("identity", .dict patch)] true
  | .source content writeRendered => .source content writeRendered
  | .other patch writeRendered => .patch patch writeRendered

def SettingsSave.applies : SettingsSave → Bool
  | .server _ reload => reload
  | .authentication _ => true
  | .oidc _ => true
  | .identity _ => false
  | .source _ _ => false
  | .other _ _ => false

/-- The service, and the `ocserv.conf` that the running ocserv was last started with. -/
structure RunningServer (Config : Type) where
  settings : ConfigState Config
  startedWith : String

section

variable {Config : Type} (context : ConfigContext Config) (ocserv : Config → OcservConfig)

/-- A restart renders the files once more and starts ocserv with them. -/
def RunningServer.applied (running : RunningServer Config) (previousOcservConf : String) (config : Config) :
    RunningServer Config :=
  match applyConfigChange previousOcservConf (ocserv config) with
  | some .restart => { running with startedWith := (ocserv config).render }
  | some .reload => running
  | none => running

def RunningServer.step (running : RunningServer Config) (save : SettingsSave) : RunningServer Config :=
  let previous := (ocserv running.settings.config).render
  let outcome := save.request.save context running.settings
  let saved := { running with settings := outcome.state }
  match outcome.result with
  | .error _ => saved
  | .ok (config, _) => if save.applies then saved.applied ocserv previous config else saved

end

end Korserver
