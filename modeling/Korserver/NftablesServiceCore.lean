import Korserver.NftablesCore
import Korserver.PolicyRoutingCore

/-!
`services/nftables.py`: `NftablesService.apply` on the state of the host. It loads or
refreshes the ruleset, re-asserts the policy routing of every target, and cleans up after
targets that an earlier apply recorded and that no longer exist.
-/

namespace Korserver

open PythonValue PacketFilter

/-- `.routing_targets.json`: what an earlier apply recorded. -/
inductive StateFile
  | missing
  | malformed
  | stored (entries : List (String × PolicyRouting))
  deriving DecidableEq

def StateFile.previous : StateFile → List (String × PolicyRouting)
  | .stored entries => entries
  | _ => []

/-- What `apply` reads and changes: the loaded tables by family and name, the policy
routing, and the state files by path. -/
structure HostState where
  inet : String → Option LiveTable := fun _ => none
  ip : String → Option LiveTable := fun _ => none
  policy : PolicyTables := {}
  stateFiles : String → StateFile := fun _ => .missing

structure Answers where
  probeWorks : Bool
  acceptsRefresh : StaticRefresh → Bool
  acceptsRuleset : Ruleset → Bool
  links : String → Bool

def hasSet (set : String) (sets : List SetDeclaration) : Bool := sets.any (·.name = set)

def changeSet (set : String) (change : List String → List String) (sets : List SetDeclaration) :
    List SetDeclaration :=
  sets.map fun declared =>
    if declared.name = set then { declared with elements := change declared.elements } else declared

def SetCommand.set : SetCommand → String
  | .flush set => set
  | .add set _ => set

def SetCommand.change : SetCommand → List String → List String
  | .flush _, _ => []
  | .add _ added, elements => elements ++ added

def runSetCommands : List SetCommand → List SetDeclaration → Option (List SetDeclaration)
  | [], sets => some sets
  | command :: rest, sets =>
      if hasSet command.set sets then
        runSetCommands rest (changeSet command.set command.change sets)
      else none

def StaticRefresh.run (refresh : StaticRefresh) (table : LiveTable) : Option LiveTable :=
  (runSetCommands refresh.commands table.sets).map fun sets => { table with sets }

def HostState.refresh (host : HostState) (refresh : StaticRefresh) : Option HostState := do
  let table ← host.inet refresh.table
  let refreshed ← refresh.run table
  return { host with inet := Function.update host.inet refresh.table (some refreshed) }

def HostState.load (host : HostState) (ruleset : Ruleset) : HostState :=
  { host with
    inet := Function.update host.inet ruleset.filter.name (some (loadedTable ruleset.filter))
    ip := Function.update host.ip ruleset.nat.name (some (loadedTable ruleset.nat)) }

def sameMembers (xs ys : List String) : Bool :=
  xs.all (fun x => decide (x ∈ ys)) && ys.all fun y => decide (y ∈ xs)

def staticSetsReady (answers : Answers) (files : Files) (config : AppConfig)
    (outbound : Option String) (host : HostState) : Except PyError Bool := do
  let expected ← expectedSetNames files config outbound
  match host.inet (filterTable config) with
  | some table => return answers.probeWorks && sameMembers (table.sets.map (·.name)) expected
  | none => return false

/-- `none` when nft fails, which changes nothing. -/
def applyStaticRefresh (answers : Answers) (files : Files) (config : AppConfig)
    (outbound : Option String) (host : HostState) : Except PyError (Option HostState) := do
  let refresh ← renderStaticRefresh files config outbound
  return if answers.acceptsRefresh refresh then host.refresh refresh else none

def applyFullRecreate (answers : Answers) (files : Files) (config : AppConfig)
    (outbound : Option String) (host : HostState) : Except PyError (Option HostState) := do
  let ruleset ← render files config outbound
  return if answers.acceptsRuleset ruleset then some (host.load ruleset) else none

inductive RulesetResult
  | refreshed
  | recreated
  | failed
  deriving DecidableEq, Repr

def recreate (answers : Answers) (files : Files) (config : AppConfig) (outbound : Option String)
    (host : HostState) : Except PyError (RulesetResult × HostState) := do
  match ← applyFullRecreate answers files config outbound host with
  | some loaded => return (.recreated, loaded)
  | none => return (.failed, host)

def applyRuleset (answers : Answers) (files : Files) (config : AppConfig)
    (outbound : Option String) (host : HostState) : Except PyError (RulesetResult × HostState) := do
  if ← staticSetsReady answers files config outbound host then
    match ← applyStaticRefresh answers files config outbound host with
    | some refreshed => return (.refreshed, refreshed)
    | none => recreate answers files config outbound host
  else recreate answers files config outbound host

/-- The default target is left alone while no profile is selected. -/
def skipsTarget (config : AppConfig) (target : RoutingTarget) : Bool :=
  target.name = "default" && config.upstream.selectedProfile.isNone

def reassertTargets (links : String → Bool) (config : AppConfig) :
    List RoutingTarget → PolicyTables → PolicyTables
  | [], tables => tables
  | target :: rest, tables =>
      reassertTargets links config rest
        (if skipsTarget config target then tables
        else target.policyRouting.apply links (routeDevice config target.interface) tables)

def reassertPolicyRouting (links : String → Bool) (config : AppConfig)
    (targets : List RoutingTarget) (tables : PolicyTables) : PolicyTables :=
  if config.upstream.enabled then reassertTargets links config targets tables else tables

def targetsStatePath (config : AppConfig) : String :=
  config.system.generatedDir ++ "/.routing_targets.json"

def targetNames (targets : List RoutingTarget) : List String := targets.map (·.name)

def cleanupEntries (names : List String) :
    List (String × PolicyRouting) → PolicyTables → PolicyTables
  | [], tables => tables
  | (name, routing) :: rest, tables =>
      cleanupEntries names rest (if name ∈ names then tables else routing.cleanup tables)

/-- The state a run of `apply` records: one entry a name. -/
def targetsState (targets : List RoutingTarget) : List (String × PolicyRouting) :=
  dictOf (targets.map fun target => (target.name, target.policyRouting))

def cleanupStaleTargets (config : AppConfig) (targets : List RoutingTarget) (host : HostState) :
    HostState :=
  let path := targetsStatePath config
  { host with
    policy := cleanupEntries (targetNames targets) (host.stateFiles path).previous host.policy
    stateFiles := Function.update host.stateFiles path (.stored (targetsState targets)) }

def HostState.reassert (links : String → Bool) (config : AppConfig) (targets : List RoutingTarget)
    (host : HostState) : HostState :=
  { host with policy := reassertPolicyRouting links config targets host.policy }

/-- `NftablesService.apply`: routing is only touched after a successful load. -/
def nftablesApply (answers : Answers) (files : Files) (config : AppConfig)
    (outbound : Option String) (host : HostState) : Except PyError (RulesetResult × HostState) := do
  let resolved ← resolveTargets files config outbound
  let (result, loaded) ← applyRuleset answers files config outbound host
  match result with
  | .failed => return (.failed, loaded)
  | _ => return (result, cleanupStaleTargets config resolved.targets
      (loaded.reassert answers.links config resolved.targets))

end Korserver
