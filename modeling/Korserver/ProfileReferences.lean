import Korserver.UpstreamPatch

/-!
Whether the requests on profiles leave the secret references of `config.yaml` in place.
-/

namespace Korserver

open PythonText PythonValue Effects

mutual

def references : Json → List String
  | .str text => if (secretName text).isSome then [text] else []
  | .list items => itemReferences items
  | .dict entries => entryReferences entries
  | _ => []
termination_by structural value => value

def itemReferences : List Json → List String
  | [] => []
  | item :: rest => references item ++ itemReferences rest
termination_by structural items => items

def entryReferences : List (String × Json) → List String
  | [] => []
  | entry :: rest => pairReferences entry ++ entryReferences rest
termination_by structural entries => entries

def pairReferences : String × Json → List String
  | (_, value) => references value
termination_by structural entry => entry

end

example : references (.list [.str "10.0.0.0/8", .str "$\x7bSECRET:NET\x7d"]) = ["$\x7bSECRET:NET\x7d"] := by decide

section

variable {Config Profile : Type} (model : ProfileModel Config Profile)

end

section

variable {Config Profile : Type} {model : ProfileModel Config Profile} {secrets : List (String × String)}

end

/-! A toggle of another profile. -/

structure NamedProfile where
  name : String
  password : Json
  plain : secretName name = none

def NamedProfile.dump (profile : NamedProfile) : Json :=
  .dict [("name", .str profile.name), ("password", profile.password)]

def NamedProfile.validate (data : List (String × Json)) : Except PyError NamedProfile :=
  match dictGet "name" data with
  | some (.str name) =>
      if plain : secretName name = none then .ok ⟨name, valueAt "password" (.dict data), plain⟩
      else .error (.valueError "upstream.profiles[].name must be a short identifier")
  | _ => .error (.valueError "Field required")

theorem NamedProfile.validate_ok {data : List (String × Json)} {profile : NamedProfile}
    (valid : NamedProfile.validate data = .ok profile) :
    dictGet "name" data = some (.str profile.name) ∧ profile.password = valueAt "password" (.dict data) := by
  rw [NamedProfile.validate] at valid
  split at valid
  · rename_i name found
    split at valid
    · obtain rfl := Except.ok.inj valid
      exact ⟨found, rfl⟩
    · nomatch valid
  · nomatch valid

def toggle : ProfileRequest := .setEnabled "second" false

end Korserver
