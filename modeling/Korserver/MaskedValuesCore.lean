import Korserver.SettingsCore

/-!
`services/secrets.py`: what of a configuration is shown, and the two dumps that are made of it,
`AppConfig.model_dump_safe` and `_safe_profile_dump` of `api/routes_upstream.py`.
-/

namespace Korserver

open PythonText PythonValue

def oldEntries : Json → List (String × Json)
  | .dict entries => entries
  | _ => []

def oldItems : Json → List Json
  | .list items => items
  | _ => []

def valueAt (key : String) (value : Json) : Json := (dictGet key (oldEntries value)).getD .null

def listAt (path : String × String) (data : List (String × Json)) : List Json :=
  oldItems (valueAt path.2 (valueAt path.1 (.dict data)))

/-- How much of the text `SECRET_REF_VALUE_RE` matches at its start. -/
def referenceLength (chars : List Char) : Option Nat :=
  match "$\x7bSECRET:".toList.isPrefixOf? chars with
  | none => none
  | some rest =>
      let name := rest.takeWhile (· != '}')
      if name ≠ [] ∧ name.length < rest.length then
        some ("$\x7bSECRET:".toList.length + name.length + 1)
      else none

/-- The count is what is left of the current match. -/
def maskReferencesFrom : Nat → List Char → List Char
  | _, [] => []
  | left + 1, _ :: rest => maskReferencesFrom left rest
  | 0, c :: rest =>
      match referenceLength (c :: rest) with
      | some length => maskedReference.toList ++ maskReferencesFrom (length - 1) rest
      | none => c :: maskReferencesFrom 0 rest

/-- `SECRET_REF_VALUE_RE.sub("$\x7bSECRET:***\x7d", text)`. -/
def maskReferences (text : String) : String := String.ofList (maskReferencesFrom 0 text.toList)

mutual

/-- The items of a list are shown without its key. -/
def redactValue (key : Option String) : Json → Json
  | .dict entries => .dict (redactEntries entries)
  | .list items => .list (redactItems items)
  | .str text =>
      if key.any isSecretKey = true ∧ text ≠ "" then .str "***" else .str (maskReferences text)
  | value => if key.any isSecretKey = true ∧ value.truthy = true then .str "***" else value
termination_by structural value => value

def redactEntries : List (String × Json) → List (String × Json)
  | [] => []
  | entry :: rest => redactEntry entry :: redactEntries rest
termination_by structural entries => entries

def redactEntry : String × Json → String × Json
  | (key, value) => (key, redactValue (some key) value)
termination_by structural entry => entry

def redactItems : List Json → List Json
  | [] => []
  | item :: rest => redactValue none item :: redactItems rest
termination_by structural items => items

end

/-- What an `AppConfig` dumps to, with the profiles of its upstream apart. They are the last field of
`UpstreamConfig`. -/
structure ConfigDump where
  before : List (String × Json)
  upstream : List (String × Json)
  profiles : List (List (String × Json))
  after : List (String × Json)

def ConfigDump.modelDump (config : ConfigDump) : List (String × Json) :=
  config.before ++
    ("upstream", .dict (config.upstream ++ [("profiles", .list (config.profiles.map .dict))])) :: config.after

def ConfigDump.modelDumpSafe (config : ConfigDump) : List (String × Json) := redactEntries config.modelDump

def alwaysMaskProfileFields : List String := ["cert_file_base64", "key_file_base64"]

/-- `value in (None, "", False)`. -/
def isUnset : Json → Bool
  | .list _ => false
  | .dict _ => false
  | value => !value.truthy

/-- `_safe_profile_dump`, of what a profile dumps to. -/
def safeProfileDump (data : List (String × Json)) : List (String × Json) :=
  data.map fun (key, value) =>
    if isUnset value = true then (key, value)
    else if key ∈ alwaysMaskProfileFields ∨ isSecretKey key = true then (key, .str "***")
    else (key, value)

end Korserver
