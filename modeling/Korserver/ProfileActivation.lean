import Korserver.Marker
import Korserver.MinimalModel
import Korserver.ProfileActivationCore

/-!
Whether a request that makes a profile the active one takes effect or is refused as a whole.
-/

namespace Korserver

open PythonText PythonValue Effects

section

variable {Config : Type} {context : ConfigContext Config}

variable {changes : List (String × Json)} {settings : ConfigState Config}

end

section

variable {α : Type} (json : α → Json) (value : Option α)

end

example : (dictGet "active_profile" (({ enabled := true } : UpstreamSettingsRequest).patch (some "a"))).isSome = true := by
  decide +kernel

section

variable {Config Profile : Type} {model : ConfigModel Config Profile} {context : ConfigContext Config}

variable {stored change overrides resolved afterResolved : List (String × Json)} {name : String}
  {config after : Config}

end

/-! The request. -/

section

variable {Config Profile : Type} (model : ConfigModel Config Profile) (context : ConfigContext Config)

end

section

variable {Config Profile : Type} {model : ConfigModel Config Profile} {context : ConfigContext Config}

section

variable {config : AppConfig} {around : Surroundings} {outbound : Option String} {runtime : Runtime}

end

end

/-! The marker names the first profile, and the second one is configured. -/

def silent : Environment where
  around _ := { answers :=
    { probeWorks := false, acceptsRefresh := fun _ => false, acceptsRuleset := fun _ => false
      links := fun _ => false } }
  dial _ := .gone

end Korserver
