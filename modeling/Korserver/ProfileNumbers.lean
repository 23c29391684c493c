import Korserver.MinimalModel
import Korserver.TunnelNumbers

/-!
Whether the requests on profiles renumber the tunnels of the other profiles.
-/

namespace Korserver

open PythonText PythonValue Effects

section

variable {Config Profile : Type} {model : ConfigModel Config Profile} {context : ConfigContext Config}
  {secrets : List (String × String)}

example : (resolveItems [] [.str "office-1", .int 3]).isOk = true := by decide +kernel

def ProfileRequest.name : ProfileRequest → String
  | .save payload => payload.name
  | .setEnabled name _ => name
  | .delete name => name

end

/-! The first of two profiles is deleted. -/

end Korserver
