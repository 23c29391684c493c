import Korserver.NftablesServiceCore
import Korserver.UserConfigCore

/-!
`NftablesService.apply` (`services/nftables.py`) on what the probe of the live table prints and on
what the state file holds, whatever that is.
-/

namespace Korserver

open PythonText PythonValue PacketFilter

/-- What `json.loads` makes of a text; too many brackets inside each other exceed the recursion limit. -/
inductive Loaded
  | value (json : Json)
  | valueError
  | recursionError

/-- `nft -j list table`: the runner raises when the output is no text. -/
inductive ProbeOutput
  | failed
  | undecodable
  | printed (loaded : Loaded)

inductive StateContent
  | missing
  | unreadable
  | text (loaded : Loaded)

inductive ApplyError
  | raised (error : PyError)
  | recursionError
  deriving DecidableEq

def raising {α : Type} : Except PyError α → Except ApplyError α
  | .ok value => .ok value
  | .error error => .error (.raised error)

/-- What an item adds to the set of names: `item["set"]["name"]`, if it is a dictionary with a set. -/
def setName : Json → Except PyError (List Json)
  | .dict entries =>
      match lookup "set" entries with
      | none => .ok []
      | some (.dict set) =>
          match lookup "name" set with
          | none => .error .keyError
          | some (.list _) => .error .typeError
          | some (.dict _) => .error .typeError
          | some name => .ok [name]
      | some _ => .error .typeError
  | _ => .ok []

def setNames : List Json → Except PyError (List Json)
  | [] => .ok []
  | item :: rest => do
      let name ← setName item
      let names ← setNames rest
      return name ++ names

def currentSets : Json → Except PyError (List Json)
  | .dict entries => do
      let items ← ((lookup "nftables" entries).getD (.list [])).items
      setNames items
  | _ => .error .attributeError

def Json.isText (text : String) : Json → Bool
  | .str other => other == text
  | _ => false

/-- `current == expected`, of which only the second is known to hold texts. -/
def sameNames (current : List Json) (expected : List String) : Bool :=
  current.all (fun name => expected.any fun text => Json.isText text name) &&
    expected.all fun text => current.any (Json.isText text)

section Apply

variable (answers : Answers) (reprOf : Json → String) (files : Files) (config : AppConfig)
  (outbound : Option String)

/-- `_static_sets_ready` -/
def probedSetsReady (probe : ProbeOutput) : Except ApplyError Bool := do
  let expected ← raising (expectedSetNames files config outbound)
  match probe with
  | .failed => return false
  | .undecodable => .error (.raised (.valueError "invalid start byte"))
  | .printed .valueError => return false
  | .printed .recursionError => .error .recursionError
  | .printed (.value data) => do
      let current ← raising (currentSets data)
      return sameNames current expected

def loadRuleset (ready : Bool) (host : HostState) : Except PyError (RulesetResult × HostState) := do
  if ready then
    match ← applyStaticRefresh answers files config outbound host with
    | some refreshed => return (.refreshed, refreshed)
    | none => recreate answers files config outbound host
  else recreate answers files config outbound host

def loadState : StateContent → Except ApplyError Json
  | .missing => .ok (.dict [])
  | .unreadable => .ok (.dict [])
  | .text .valueError => .ok (.dict [])
  | .text .recursionError => .error .recursionError
  | .text (.value json) => .ok json

/-- `previous.items()` -/
def dictItems : Json → Except PyError (List (String × Json))
  | .dict entries => .ok (dictOf entries)
  | _ => .error .attributeError

/-- A command takes no empty argument and none with a NUL. -/
def isArgument (text : String) : Bool := text != "" && !text.toList.contains (Char.ofNat 0)

/-- `PolicyRoutingService(fwmark=..., table_id=...)` -/
def staleInstance : Json → Except PyError (String × Int)
  | .dict entries =>
      match lookup "fwmark" entries, lookup "table_id" entries with
      | some fwmark, some table =>
          match readInt (table.pyStr reprOf) with
          | some number => .ok (fwmark.pyStr reprOf, number)
          | none => .error (.valueError "invalid literal for int() with base 10")
      | _, _ => .error .keyError
  | _ => .error .typeError

/-- `ip` refuses a table with a negative number. -/
def cleanupInstance (fwmark : String) (table : Int) (tables : PolicyTables) : PolicyTables :=
  match table with
  | .ofNat tableId => PolicyRouting.cleanup { fwmark, tableId } tables
  | .negSucc _ => tables

def runCleanup (fwmark : String) (table : Int) (tables : PolicyTables) : Except PyError PolicyTables :=
  if isArgument fwmark then .ok (cleanupInstance fwmark table tables)
  else .error (.valueError "argv must contain non-empty strings")

def cleanupItems (names : List String) : List (String × Json) → PolicyTables → Except PyError PolicyTables
  | [], tables => .ok tables
  | (name, info) :: rest, tables =>
      if name ∈ names then cleanupItems names rest tables
      else do
        let (fwmark, table) ← staleInstance reprOf info
        let cleaned ← runCleanup fwmark table tables
        cleanupItems names rest cleaned

/-- `_cleanup_stale_targets` -/
def cleanupRecorded (targets : List RoutingTarget) (state : StateContent) (host : HostState) :
    Except ApplyError HostState := do
  let previous ← loadState state
  let items ← raising (dictItems previous)
  let policy ← raising (cleanupItems reprOf (targetNames targets) items host.policy)
  return { host with
    policy
    stateFiles := Function.update host.stateFiles (targetsStatePath config) (.stored (targetsState targets)) }

def probedApply (probe : ProbeOutput) (state : StateContent) (host : HostState) :
    Except ApplyError (RulesetResult × HostState) := do
  let resolved ← raising (resolveTargets files config outbound)
  let ready ← probedSetsReady files config outbound probe
  let (result, loaded) ← raising (loadRuleset answers files config outbound ready host)
  match result with
  | .failed => return (.failed, loaded)
  | _ => do
      let cleaned ← cleanupRecorded reprOf config resolved.targets state
        (loaded.reassert answers.links config resolved.targets)
      return (result, cleaned)

def listedName : Json → Option (List String)
  | .dict entries =>
      match lookup "set" entries with
      | none => some []
      | some (.dict set) =>
          match lookup "name" set with
          | some (.str name) => some [name]
          | _ => none
      | some _ => none
  | _ => some []

def listedNames : List Json → Option (List String)
  | [] => some []
  | item :: rest => do
      let name ← listedName item
      let names ← listedNames rest
      return name ++ names

def tableListing : Json → Option (List String)
  | .dict entries =>
      match lookup "nftables" entries with
      | some (.list items) => listedNames items
      | _ => none
  | _ => none

def listsExactly (expected : List String) : ProbeOutput → Bool
  | .printed (.value data) => (tableListing data).any fun names => sameMembers names expected
  | _ => false

/-- The instances recorded for names that are no longer there, if all of them can be read. -/
def recordedInstances (names : List String) : List (String × Json) → Option (List (String × Int))
  | [] => some []
  | (name, info) :: rest =>
      if name ∈ names then recordedInstances names rest
      else
        match staleInstance reprOf info with
        | .ok recorded =>
            if isArgument recorded.1 then (recordedInstances names rest).map (recorded :: ·) else none
        | .error _ => none

/-- A file that cannot be used counts as empty. -/
def usableInstances (names : List String) : StateContent → List (String × Int)
  | .text (.value (.dict entries)) => (recordedInstances reprOf names (dictOf entries)).getD []
  | _ => []

def cleanupInstances (instances : List (String × Int)) (tables : PolicyTables) : PolicyTables :=
  instances.foldl (fun tables recorded => cleanupInstance recorded.1 recorded.2 tables) tables

def expectedApply (probe : ProbeOutput) (state : StateContent) (host : HostState) :
    Except PyError (RulesetResult × HostState) := do
  let resolved ← resolveTargets files config outbound
  let expected ← expectedSetNames files config outbound
  let (result, loaded) ← loadRuleset answers files config outbound (listsExactly expected probe) host
  match result with
  | .failed => return (.failed, loaded)
  | _ =>
      let reasserted := loaded.reassert answers.links config resolved.targets
      return (result, { reasserted with
        policy := cleanupInstances (usableInstances reprOf (targetNames resolved.targets) state)
          reasserted.policy
        stateFiles := Function.update reasserted.stateFiles (targetsStatePath config)
          (.stored (targetsState resolved.targets)) })

end Apply

end Korserver
