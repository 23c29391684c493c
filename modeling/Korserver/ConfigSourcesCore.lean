import Korserver.DeepMerge

/-!
Where `load_config` takes a configuration from: the `.env` file, the process environment and what the
command line gives, next to the defaults and the YAML mapping (`config/env.py`, `config/loader.py`).
-/

namespace Korserver

open PythonText PythonValue

def singleQuote : Char := Char.ofNat 39
def doubleQuote : Char := Char.ofNat 34
def backslash : Char := Char.ofNat 92

/-- The loop of `_strip_inline_comment`; `passed` holds the characters in front, the last one first. -/
def stripInlineCommentFrom : List Char → List Char → Option Char → Bool → List Char
  | [], passed, _, _ => passed.reverse
  | c :: rest, passed, quote, escaped =>
      if escaped then stripInlineCommentFrom rest (c :: passed) quote false
      else if quote = some doubleQuote ∧ c = backslash then
        stripInlineCommentFrom rest (c :: passed) quote true
      else if c = singleQuote ∨ c = doubleQuote then
        let after := if quote = some c then none else if quote = none then some c else quote
        stripInlineCommentFrom rest (c :: passed) after false
      else if c = '#' ∧ quote = none ∧ passed.head?.all isSpace then
        dropEndWhile isSpace passed.reverse
      else stripInlineCommentFrom rest (c :: passed) quote false

def stripInlineComment (value : List Char) : List Char := stripInlineCommentFrom value [] none false

/-- `value.replace(first + second, new)`. -/
def replacePair (first second new : Char) : List Char → List Char
  | c :: next :: rest =>
      if c = first ∧ next = second then new :: replacePair first second new rest
      else c :: replacePair first second new (next :: rest)
  | rest => rest

def dotenvReplacements : List (Char × Char) :=
  [('n', '\n'), ('r', '\r'), ('t', '\t'), (doubleQuote, doubleQuote), (backslash, backslash)]

/-- One replacement after the other, so an escaped backslash can start a later escape. -/
def unescapeDoubleQuotedDotenv (value : List Char) : List Char :=
  dotenvReplacements.foldl (fun value replacement => replacePair backslash replacement.1 replacement.2 value) value

def parseDotenvValue (value : List Char) : String :=
  let stripped := stripInlineComment (stripChars isSpace value)
  if stripped.head? = some singleQuote ∧ stripped.getLast? = some singleQuote then
    String.ofList stripped.tail.dropLast
  else if stripped.head? = some doubleQuote ∧ stripped.getLast? = some doubleQuote then
    String.ofList (unescapeDoubleQuotedDotenv stripped.tail.dropLast)
  else String.ofList stripped

/-- `DOTENV_KEY_RE`. -/
def matchesDotenvKey (key : List Char) : Bool :=
  match beforeDollar key with
  | [] => false
  | c :: rest => isReferenceStart c && rest.all isReferenceChar

/-- `text.split("=", 1)`, if there is an `=`. -/
def splitEquals : List Char → Option (List Char × List Char)
  | [] => none
  | c :: rest =>
      if c = '=' then some ([], rest)
      else (splitEquals rest).map fun (before, after) => (c :: before, after)

def dotenvLine (rawLine : String) : Option (String × String) := do
  let line := stripChars isSpace rawLine.toList
  guard (line.head? ≠ some '#')
  let line := match "export ".toList.isPrefixOf? line with
    | some rest => rest.dropWhile isSpace
    | none => line
  let (key, value) ← splitEquals line
  let key := stripChars isSpace key
  guard (matchesDotenvKey key)
  return (String.ofList key, parseDotenvValue value)

def parseDotenvFile : TextFile → Except PyError (List (String × String))
  | .missing => .ok []
  | .unreadable => .error .osError
  | .text content => .ok (dictOf ((splitLines content).filterMap dotenvLine))

/-- `{**values, **others}`. -/
def combineVariables (values others : List (String × String)) : List (String × String) :=
  others.foldl (fun entries other => dictSet other.1 other.2 entries) values

/-- What `load_config` is called with, once the YAML file is read and the `.env` file chosen. Python's
dictionaries have each key once. -/
structure ConfigSources where
  defaults : List (String × Json)
  yaml : List (String × Json)
  dotenv : TextFile
  process : List (String × String)
  cli : List (String × Json)
  defaultsMapping : IsMapping defaults
  yamlMapping : IsMapping yaml
  processKeys : (process.map Prod.fst).Nodup
  cliMapping : IsMapping cli

namespace ConfigSources

variable (jsonLoads : String → JsonLoaded) (sources : ConfigSources)

def combinedEnvironment : Except PyError (List (String × String)) := do
  let fileValues ← parseDotenvFile sources.dotenv
  return combineVariables fileValues sources.process

/-- `merged`, before references are resolved. -/
def mergedTree : Except PyError (List (String × Json)) := do
  let environment ← sources.combinedEnvironment
  let overrides ← envOverrides jsonLoads environment
  let merged := deepMerge (deepMerge sources.defaults sources.yaml) overrides
  return if sources.cli = [] then merged else deepMerge merged sources.cli

/-- What `load_config` has validated. -/
def validatedTree : Except PyError (List (String × Json)) := do
  let environment ← sources.combinedEnvironment
  let merged ← sources.mergedTree jsonLoads
  resolveEntries environment merged

theorem validateYamlConfig_eq {Config : Type} {context : ConfigContext Config} {sources : ConfigSources}
    (defaults : sources.defaults = defaultConfig) (cli : sources.cli = [])
    (environment : sources.combinedEnvironment = .ok context.environment) :
    context.validateYamlConfig sources.yaml = sources.validatedTree context.jsonLoads >>= context.modelValidate := by
  rw [ConfigContext.validateYamlConfig, validatedTree, mergedTree, environment, defaults, cli]
  simp only [bind, Except.bind, pure, Except.pure, if_true]
  cases envOverrides context.jsonLoads context.environment <;> rfl

end ConfigSources

end Korserver
