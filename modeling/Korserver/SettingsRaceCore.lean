import Korserver.Interleavings
import Korserver.SettingsCore

/-!
Two settings requests at once: `apply_config_patch` of `api/routes_config.py` and `save_profile` of
`api/routes_upstream.py`, step by step. Endpoints run in worker threads, and no lock is taken.
-/

namespace Korserver

open PythonText PythonValue Interleavings

/-- What `save_profile` reads of a configuration, and what it asks of the model of a profile, which
takes a valid name as it is. -/
structure ProfileModel (Config Profile : Type) where
  profiles : Config → List Profile
  activeProfile : Config → Option String
  name : Profile → String
  field : Profile → String → Json
  modelValidate : List (String × Json) → Except PyError Profile
  modelDump : Profile → Json
  keepsName : ∀ data profile, modelValidate data = .ok profile →
    dictGet "name" data = some (.str (name profile))

/-- The payload: its name, its other fields as dumped without `enable` and without null fields, the
fields that were sent, and `enable`. -/
structure UpstreamProfileRequest where
  name : String
  fields : List (String × Json)
  fieldsSet : List String
  enable : Bool

def UpstreamProfileRequest.data (payload : UpstreamProfileRequest) : List (String × Json) :=
  ("name", .str payload.name) :: payload.fields

def preserveUnsetSecret (existing : String → Json) (field : String) (data : List (String × Json)) :
    List (String × Json) :=
  if (dictGet field data).isNone ∧ (existing field).truthy = true then
    dictSet field (existing field) data
  else data

def preserveUnsetFileField (existing : String → Json) (pathField base64Field : String)
    (data : List (String × Json)) : List (String × Json) :=
  if (dictGet pathField data).isSome ∨ (dictGet base64Field data).isSome then data
  else if (existing pathField).truthy then dictSet pathField (existing pathField) data
  else if (existing base64Field).truthy then dictSet base64Field (existing base64Field) data
  else data

def preserveUnsetField (payload : UpstreamProfileRequest) (existing : String → Json) (field : String)
    (data : List (String × Json)) : List (String × Json) :=
  match existing field with
  | .null => data
  | value => if field ∈ payload.fieldsSet then data else dictSet field value data

def UpstreamProfileRequest.profileData (payload : UpstreamProfileRequest) :
    Option (String → Json) → List (String × Json)
  | none => payload.data
  | some existing =>
      let data := preserveUnsetSecret existing "password" payload.data
      let data := preserveUnsetSecret existing "cert_pass" data
      let data := preserveUnsetSecret existing "camouflage_secret" data
      let data := preserveUnsetFileField existing "cert_file" "cert_file_base64" data
      let data := preserveUnsetFileField existing "key_file" "key_file_base64" data
      let data := preserveUnsetField payload existing "interface" data
      preserveUnsetField payload existing "routing_offset" data

/-- What a request is going to merge, and for `save_profile` the profile and the list it is in. -/
inductive SavePlan (Profile : Type)
  | patch (changes : List (String × Json))
  | profile (saved : Profile) (profiles : List Profile) (changes : List (String × Json))

def SavePlan.changes {Profile : Type} : SavePlan Profile → List (String × Json)
  | .patch changes => changes
  | .profile _ _ changes => changes

section

variable {Config Profile : Type} (model : ProfileModel Config Profile)

def upstreamPatch (config : Config) (profile : Profile) (profiles : List Profile) (enable : Bool) :
    List (String × Json) :=
  [("upstream", .dict ([("profiles", .list (profiles.map model.modelDump)), ("enabled", .bool enable)] ++
    if model.activeProfile config = none then [("active_profile", .str (model.name profile))] else []))]

def saveProfilePlan (config : Config) (payload : UpstreamProfileRequest) :
    Except PyError (SavePlan Profile) := do
  let existing := (model.profiles config).find? fun item => model.name item == payload.name
  let profile ← model.modelValidate (payload.profileData (existing.map model.field))
  let replaced := (model.profiles config).map fun item =>
    if model.name item = model.name profile then profile else item
  let profiles := if existing.isNone then replaced ++ [profile] else replaced
  return .profile profile profiles (upstreamPatch model config profile profiles payload.enable)

inductive SaveRequest
  | patch (changes : List (String × Json))
  | profile (payload : UpstreamProfileRequest)

def SaveRequest.plan (config : Config) : SaveRequest → Except PyError (SavePlan Profile)
  | .patch changes => .ok (.patch changes)
  | .profile payload => saveProfilePlan model config payload

/-- How far a request has come: it has its plan, it has read the file, it has validated the merged
mapping, it has written it, it has loaded the file, it has put the configuration in place. -/
inductive SaveStage (Config Profile : Type)
  | called
  | planned (plan : SavePlan Profile)
  | loaded (plan : SavePlan Profile) (data : List (String × Json))
  | validated (plan : SavePlan Profile) (merged : List (String × Json))
  | written (plan : SavePlan Profile)
  | reloaded (plan : SavePlan Profile) (config : Config)
  | returned (plan : SavePlan Profile)
  | failed

variable (context : ConfigContext Config)

/-- One step; a patch is planned without a look at `app.state.config`. -/
def SaveRequest.step (request : SaveRequest) (state : ConfigState Config) :
    SaveStage Config Profile → ConfigState Config × SaveStage Config Profile
  | .called =>
      match request.plan model state.config with
      | .ok plan => (state, .planned plan)
      | .error _ => (state, .failed)
  | .planned plan =>
      match context.loadExistingMapping state.file with
      | .ok data => (state, .loaded plan data)
      | .error _ => (state, .failed)
  | .loaded plan data =>
      let merged := deepMerge data plan.changes
      match context.validateYamlConfig merged with
      | .ok _ => (state, .validated plan merged)
      | .error _ => (state, .failed)
  | .validated plan merged => ({ state with file := .text (context.yamlDump merged) }, .written plan)
  | .written plan =>
      match context.loadConfig state.file with
      | .ok config => (state, .reloaded plan config)
      | .error _ => (state, .failed)
  | .reloaded plan config => ({ state with config }, .returned plan)
  | .returned plan => (state, .returned plan)
  | .failed => (state, .failed)

abbrev SaveRace (Config Profile : Type) : Type :=
  Pair (ConfigState Config) (SaveStage Config Profile) (SaveStage Config Profile)

def saveTurn (left right : SaveRequest) : SaveRace Config Profile → Side → SaveRace Config Profile :=
  turn (left.step model context) (right.step model context)

def saveStart (state : ConfigState Config) : SaveRace Config Profile :=
  { shared := state, left := .called, right := .called }

end

end Korserver
