import Korserver.ConfigLoader
import Korserver.Effects

/-!
The endpoints that save settings: those that go through `apply_config_patch` and the config source
of `api/routes_config.py`, the certificate endpoints of `api/routes_certificates.py`, and the log
rotation of `api/routes_logs.py`.
-/

namespace Korserver

open PythonText PythonValue Effects

def nonSecretKeys : List String := ["secret_dir", "secrets_dir", "secret_path", "secrets_path", "secret"]

/-- The texts that `SECRET_KEY_RE` searches for. -/
def secretKeyWords : List String := [
  "password", "passphrase", "passwd", "token", "secret", "privatekey", "private_key", "private-key",
  "certpass", "cert_pass", "cert-pass", "admin_password"]

def isSecretKey (key : String) : Bool :=
  lower key ∉ nonSecretKeys && secretKeyWords.any fun word =>
    (key.toList.map foldChar).tails.any word.toList.isPrefixOf

def maskedReference : String := "$\x7bSECRET:***\x7d"

mutual

def restoreMaskedValues (key : Option String) (old : Json) : Json → Json
  | .str text =>
      if key.any isSecretKey = true ∧ text ∈ ["***", maskedReference] then old
      else match old with
        | .str oldText => .str (if text = maskedReference then oldText else text)
        | _ => .str text
  | .dict entries =>
      .dict (restoreEntries (match old with | .dict oldEntries => oldEntries | _ => []) entries)
  | .list items =>
      .list (restoreItems key (match old with | .list oldItems => oldItems | _ => []) items)
  | value => value
termination_by structural value => value

def restoreEntries (old : List (String × Json)) : List (String × Json) → List (String × Json)
  | [] => []
  | entry :: rest => restoreEntry old entry :: restoreEntries old rest
termination_by structural entries => entries

def restoreEntry (old : List (String × Json)) : String × Json → String × Json
  | (key, value) => (key, restoreMaskedValues (some key) ((dictGet key old).getD .null) value)
termination_by structural entry => entry

/-- An item is paired with the old one at its place. -/
def restoreItems (key : Option String) (old : List Json) : List Json → List Json
  | [] => []
  | item :: rest =>
      restoreMaskedValues key (old.head?.getD .null) item :: restoreItems key old.tail rest
termination_by structural items => items

end

structure ServerCertificatePaths where
  serverCert : String
  serverKey : String
  caCert : String

structure LetsEncryptSettings where
  enabled : Bool
  email : Option String
  domains : List String
  renewReload : Bool
  autoRenewEnabled : Bool
  autoRenewInterval : Int
  autoRenewIntervalUnit : String
  http01Address : Option String
  http01Port : Int

def optionalText (text : Option String) : Json := text.elim .null .str

def LetsEncryptSettings.entries (settings : LetsEncryptSettings) : List (String × Json) := [
  ("enabled", .bool settings.enabled), ("email", optionalText settings.email),
  ("domains", texts settings.domains), ("renew_reload", .bool settings.renewReload),
  ("auto_renew_enabled", .bool settings.autoRenewEnabled),
  ("auto_renew_interval", .int settings.autoRenewInterval),
  ("auto_renew_interval_unit", .str settings.autoRenewIntervalUnit),
  ("http01_address", optionalText settings.http01Address), ("http01_port", .int settings.http01Port)]

def ServerCertificatePaths.entries (paths : ServerCertificatePaths) : List (String × Json) := [
  ("mode", .str "external"), ("server_cert", .str paths.serverCert),
  ("server_key", .str paths.serverKey), ("ca_cert", .str paths.caCert)]

/-- A request with what its endpoint has prepared: validated settings, saved material, an issued
certificate. Where that fails, the endpoint fails. -/
inductive CertificateRequest
  | settings (mode caName : String)
  | letsencryptSettings (validated : Except PyError LetsEncryptSettings)
  | external (saved : Except PyError ServerCertificatePaths)
  | letsencryptIssue (issued : Except PyError (ServerCertificatePaths × LetsEncryptSettings))

/-- The patch for the `certificates` section. -/
def CertificateRequest.patch : CertificateRequest → Except PyError (List (String × Json))
  | .settings mode caName => .ok [("mode", .str mode), ("ca_name", .str caName)]
  | .letsencryptSettings validated => do
      let letsencrypt ← validated
      return [("letsencrypt", .dict letsencrypt.entries)]
  | .external saved => do
      let paths ← saved
      return paths.entries ++ [("letsencrypt", .dict [("enabled", .bool false)])]
  | .letsencryptIssue issued => do
      let (paths, letsencrypt) ← issued
      return paths.entries ++ [("letsencrypt", .dict { letsencrypt with enabled := true }.entries)]

/-- `patch` stands for every endpoint that goes through `apply_config_patch`. -/
inductive SettingsRequest
  | patch (changes : List (String × Json)) (writeRendered : Bool)
  | source (content : String) (writeRendered : Bool)
  | certificates (request : CertificateRequest)
  | rotation (validated : Except PyError Json)

/-- `data.setdefault(section, {})`, which has to be a mapping. -/
def configSection (name : String) (data : List (String × Json)) :
    Except PyError (List (String × Json)) :=
  match dictGet name data with
  | none => .ok []
  | some (.dict entries) => .ok entries
  | some _ => .error (.valueError (name ++ " config must be a mapping"))

section

variable {Config : Type} (context : ConfigContext Config)

def SettingsRequest.data (file : TextFile) : SettingsRequest → Except PyError (List (String × Json))
  | .patch changes _ => do
      let old ← context.loadExistingMapping file
      return deepMerge old changes
  | .source content _ => do
      let submitted ← context.parseYamlMapping content
      let old ← context.loadExistingMapping file
      return restoreEntries old submitted
  | .certificates request => do
      let changes ← request.patch
      let old ← context.loadExistingMapping file
      let current ← configSection "certificates" old
      return dictSet "certificates" (.dict (dictUpdate current changes)) old
  | .rotation validated => do
      let settings ← validated
      let old ← context.loadExistingMapping file
      let current ← configSection "system" old
      return dictSet "system" (.dict (dictSet "log_rotation" settings current)) old

/-- `config.yaml` and `app.state.config`. -/
structure ConfigState (Config : Type) where
  file : TextFile
  config : Config

abbrev Saving (Config α : Type) : Type := Program (ConfigState Config) Empty PyError α

/-- The file is written, loaded and put in place. -/
def commit (data : List (String × Json)) : Saving Config Config := do
  Program.modify fun state => { state with file := .text (context.yamlDump data) }
  let config ← Program.fromExcept fun state => context.loadConfig state.file
  Program.modify fun state => { state with config }
  return config

def writeRenderedFiles (wanted : Bool) (config : Config) : Saving Config (List String) :=
  if wanted then Program.fromExcept fun _ => context.writeRendered config else pure []

/-- The mapping is validated before the file is touched. -/
def saveValidated (request : SettingsRequest) (writeRendered : Bool) :
    Saving Config (Config × List String) := do
  let data ← Program.fromExcept fun state => request.data context state.file
  let _ ← Program.fromExcept fun _ => context.validateYamlConfig data
  let config ← commit context data
  let written ← writeRenderedFiles context writeRendered config
  return (config, written)

/-- The mapping is first validated when the written file is loaded. -/
def saveUnvalidated (request : SettingsRequest) (writeRendered : Bool) :
    Saving Config (Config × List String) := do
  let data ← Program.fromExcept fun state => request.data context state.file
  let config ← commit context data
  let written ← writeRenderedFiles context writeRendered config
  return (config, written)

def applyConfigPatch (changes : List (String × Json)) (writeRendered : Bool) :
    Saving Config (Config × List String) :=
  saveValidated context (.patch changes writeRendered) writeRendered

def saveConfigSource (content : String) (writeRendered : Bool) : Saving Config (Config × List String) :=
  saveValidated context (.source content writeRendered) writeRendered

/-- `_update_certificate_config` and the rendering that each of its endpoints does next. -/
def updateCertificateConfig (request : CertificateRequest) : Saving Config (Config × List String) :=
  saveUnvalidated context (.certificates request) true

def saveRotationSettings (validated : Except PyError Json) : Saving Config (Config × List String) :=
  saveUnvalidated context (.rotation validated) false

def SettingsRequest.save : SettingsRequest → Saving Config (Config × List String)
  | .patch changes writeRendered => applyConfigPatch context changes writeRendered
  | .source content writeRendered => saveConfigSource context content writeRendered
  | .certificates request => updateCertificateConfig context request
  | .rotation validated => saveRotationSettings context validated

end

end Korserver
