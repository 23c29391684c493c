import Korserver.SettingsRaceCore
import Korserver.UpstreamServiceCore

/-!
The requests that make a profile the active one: `switch_profile` and `save_settings` of
`api/routes_upstream.py`. They write the marker file, the rules and `config.yaml`.
-/

namespace Korserver

open PythonText PythonValue Effects

structure UpstreamSettingsRequest where
  enabled : Bool
  interface : Option String := none
  activeProfile : Option String := none
  checkInterval : Option Int := none
  checkThreshold : Option Int := none
  checkSettleSeconds : Option Int := none
  failover : Option Bool := none
  connectOnBoot : Option Bool := none

/-- `if value is not None: patch[key] = value`. -/
def givenField {α : Type} (key : String) (json : α → Json) (value : Option α) : List (String × Json) :=
  value.toList.map fun given => (key, json given)

/-- The patch, when `active` is the active profile of the configuration in use. -/
def UpstreamSettingsRequest.patch (payload : UpstreamSettingsRequest) (active : Option String) :
    List (String × Json) :=
  ("enabled", .bool payload.enabled) :: (givenField "interface" .str payload.interface ++
    givenField "active_profile" .str (payload.activeProfile.or active) ++
    givenField "check_interval" .int payload.checkInterval ++
    givenField "check_threshold" .int payload.checkThreshold ++
    givenField "check_settle_seconds" .int payload.checkSettleSeconds ++
    givenField "failover" .bool payload.failover ++
    givenField "connect_on_boot" .bool payload.connectOnBoot)

inductive ActivationRequest
  | switch (profile : String)
  | settings (payload : UpstreamSettingsRequest)

def ActivationRequest.profile : ActivationRequest → Option String
  | .switch profile => some profile
  | .settings payload => payload.activeProfile

def ActivationRequest.status : ActivationRequest → String
  | .switch _ => "switched"
  | .settings _ => "saved"

/-- What `UpstreamService` and the endpoints share. -/
structure ServerState (Config : Type) where
  runtime : Runtime
  settings : ConfigState Config

abbrev Request (Config α : Type) : Type := Program (ServerState Config) ApplyEvent PyError α

section

variable {Config α : Type}

def onRuntime (program : Service α) : Request Config α := fun state =>
  let outcome := program state.runtime
  { outcome with state := { state with runtime := outcome.state } }

def onSettings (program : Saving Config α) : Request Config α := fun state =>
  let outcome := program state.settings
  ⟨outcome.result, { state with settings := outcome.state }, []⟩

variable (appConfig : Config → AppConfig) (context : ConfigContext Config)

def ActivationRequest.change (config : Config) : ActivationRequest → List (String × Json)
  | .switch profile => [("active_profile", .str profile)]
  | .settings payload => payload.patch (appConfig config).upstream.activeProfile

/-- Only `switch_profile` touches the marker and the rules, before the patch is validated. -/
def ActivationRequest.switchFirst (env : Environment) (config : Config) :
    ActivationRequest → Request Config Unit
  | .switch profile => onRuntime (switchProfile (appConfig config) env profile)
  | .settings _ => pure ()

def ActivationRequest.handle (env : Environment) (request : ActivationRequest) :
    Request Config String := do
  let config ← Program.read fun state => state.settings.config
  request.switchFirst appConfig env config
  let changes := [("upstream", .dict (request.change appConfig config))]
  let _ ← onSettings (applyConfigPatch context changes true)
  return request.status

end

end Korserver
