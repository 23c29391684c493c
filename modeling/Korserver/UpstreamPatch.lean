import Korserver.ProfileData
import Korserver.ProfileRequestsCore
import Korserver.SourceEdit

/-!
What a patch of the `upstream` section leaves in `config.yaml`, and what the requests on profiles
make of it.
-/

namespace Korserver

open PythonText PythonValue Effects

def upstreamOf (data : List (String × Json)) : List (String × Json) :=
  oldEntries (valueAt "upstream" (.dict data))

section

variable {change : List (String × Json)} (distinct : (change.map Prod.fst).Nodup) (old : List (String × Json))

include distinct

theorem dictGet_mergeValue (found : Option Json) (key : String) :
    dictGet key (oldEntries (mergeValue found (.dict change))) =
      (dictGet key change).elim (dictGet key (oldEntries (found.getD .null))) fun value =>
        some (mergeValue (dictGet key (oldEntries (found.getD .null))) value) := by
  have fresh : dictGet key change = (dictGet key change).elim none fun value =>
      some (mergeValue none value) := by
    cases dictGet key change with
    | none => rfl
    | some value => cases value <;> rfl
  cases found with
  | none => exact fresh
  | some base =>
      cases base with
      | dict entries => exact dictGet_deepMerge distinct entries key
      | _ => exact fresh

end

section

variable {Config Profile : Type} {model : ProfileModel Config Profile} {context : ConfigContext Config}
  {request : ProfileRequest} {state : ConfigState Config}

def ProfileRequest.Writes (model : ProfileModel Config Profile) (config : Config) (items : List Json) :
    ProfileRequest → Prop
  | .save payload => ∃ saved, model.modelValidate (payload.profileData
        (((model.profiles config).find? fun item => model.name item == payload.name).map model.field)) =
          .ok saved ∧ model.name saved = payload.name ∧
        items = ((model.profiles config).map fun item =>
          if model.name item = payload.name then model.modelDump saved else model.modelDump item) ++
            if ((model.profiles config).find? fun item => model.name item == payload.name).isNone then
              [model.modelDump saved] else []
  | .setEnabled name enabled => items = (model.profiles config).map (enabledDump model name enabled)
  | .delete name => items =
      ((model.profiles config).filter fun item => model.name item != name).map model.modelDump

end

end Korserver
