import Korserver.AdminAccessCore
import Korserver.MaskedValuesCore
import Korserver.SettingsRaceCore

/-!
The requests that change the list of upstream profiles: `save_profile`, `set_profile_enabled` and
`delete_profile` of `api/routes_upstream.py`.
-/

namespace Korserver

open PythonText PythonValue Effects

inductive ProfileRequest
  | save (payload : UpstreamProfileRequest)
  | setEnabled (name : String) (enabled : Bool)
  | delete (name : String)

abbrev Endpoint (Config α : Type) : Type := Program (ConfigState Config) Empty RequestError α

def uncaught {Config α : Type} (program : Saving Config α) : Endpoint Config α := fun state =>
  let outcome := program state
  { outcome with result := outcome.result.mapError .uncaught }

structure ProfilesSaved where
  status : String
  written : List String
  profiles : List (List (String × Json))

section

variable {Config Profile : Type} (model : ProfileModel Config Profile)

/-- `{**item.model_dump(mode="json"), "enabled": enabled}` for the profile of that name. -/
def enabledDump (name : String) (enabled : Bool) (profile : Profile) : Json :=
  if model.name profile = name then
    .dict (dictSet "enabled" (.bool enabled) (oldEntries (model.modelDump profile)))
  else model.modelDump profile

/-- Deleting the last profile turns the upstream off, and deleting the active one makes the first of
the others active. -/
def deleteChanges (config : Config) (name : String) (profiles : List Profile) : List (String × Json) :=
  ("profiles", .list (profiles.map model.modelDump)) ::
    match profiles with
    | [] => [("active_profile", .null), ("enabled", .bool false)]
    | first :: _ =>
        if model.activeProfile config = some name then [("active_profile", .str (model.name first))] else []

def ProfileRequest.changes (config : Config) : ProfileRequest → Except RequestError (List (String × Json))
  | .save payload => ((saveProfilePlan model config payload).map SavePlan.changes).mapError .uncaught
  | .setEnabled name enabled =>
      if (model.profiles config).any fun item => model.name item == name then
        .ok [("upstream", .dict [("profiles",
          .list ((model.profiles config).map (enabledDump model name enabled)))])]
      else .error (.http 404 ("unknown upstream profile: " ++ name))
  | .delete name =>
      .ok [("upstream", .dict (deleteChanges model config name
        ((model.profiles config).filter fun item => model.name item != name)))]

def ProfileRequest.status : ProfileRequest → String
  | .delete _ => "deleted"
  | _ => "saved"

def ProfileRequest.response (request : ProfileRequest) (config : Config) (written : List String) :
    ProfilesSaved where
  status := request.status
  written := written
  profiles := (model.profiles config).map fun profile =>
    safeProfileDump (oldEntries (model.modelDump profile))

variable (context : ConfigContext Config)

def ProfileRequest.handle (request : ProfileRequest) : Endpoint Config ProfilesSaved := do
  let changes ← Program.fromExcept fun state => request.changes model state.config
  let (config, written) ← uncaught (applyConfigPatch context changes true)
  return request.response model config written

end

end Korserver
