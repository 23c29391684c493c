import Korserver.RoutingCore
import Mathlib.Logic.Function.Basic

/-!
Policy routing (`services/policy_routing.py`): an ip rule sends a mark to a table, and the
table's default route names a device. The kernel keeps no two equal rules, refuses a mark
it cannot read and a route through a device that does not exist.
-/

namespace Korserver

open PythonText PythonValue

structure PolicyRule where
  mark : Int
  table : Nat
  deriving DecidableEq

structure PolicyTables where
  rules : List PolicyRule := []
  routes : Nat → Option String := fun _ => none

def PolicyTables.deleteRule (rule : Option PolicyRule) (tables : PolicyTables) : PolicyTables :=
  { tables with rules := tables.rules.filter fun other => some other ≠ rule }

def PolicyTables.addRule (rule : Option PolicyRule) (tables : PolicyTables) : PolicyTables :=
  match rule with
  | some rule =>
      if rule ∈ tables.rules then tables else { tables with rules := tables.rules ++ [rule] }
  | none => tables

def PolicyTables.replaceRoute (links : String → Bool) (device : String) (table : Nat)
    (tables : PolicyTables) : PolicyTables :=
  if links device then { tables with routes := Function.update tables.routes table (some device) }
  else tables

def PolicyTables.flush (table : Nat) (tables : PolicyTables) : PolicyTables :=
  { tables with routes := Function.update tables.routes table none }

structure PolicyRouting where
  fwmark : String
  tableId : Nat
  deriving DecidableEq

def PolicyRouting.rule (routing : PolicyRouting) : Option PolicyRule :=
  (intLiteral routing.fwmark).map fun mark => { mark, table := routing.tableId }

/-- `interface or self.config.upstream.interface`. -/
def routeDevice (config : AppConfig) (interface : String) : String :=
  if interface = "" then config.upstream.interface else interface

def PolicyRouting.apply (links : String → Bool) (device : String) (routing : PolicyRouting)
    (tables : PolicyTables) : PolicyTables :=
  ((tables.deleteRule routing.rule).addRule routing.rule).replaceRoute links device routing.tableId

/-- `_rule_present`; `probeWorks` tells whether `ip -j rule show` answers. -/
def PolicyRouting.rulePresent (probeWorks : Bool) (routing : PolicyRouting) (tables : PolicyTables) :
    Except PyError Bool :=
  if probeWorks then do
    let mark ← intOrValueError routing.fwmark
    return decide ({ mark, table := routing.tableId } ∈ tables.rules)
  else .ok false

def PolicyRouting.ensure (links : String → Bool) (probeWorks : Bool) (device : String)
    (routing : PolicyRouting) (tables : PolicyTables) : Except PyError PolicyTables := do
  let present ← routing.rulePresent probeWorks tables
  let ruled := if present then tables else tables.addRule routing.rule
  return ruled.replaceRoute links device routing.tableId

def PolicyRouting.cleanup (routing : PolicyRouting) (tables : PolicyTables) : PolicyTables :=
  (tables.deleteRule routing.rule).flush routing.tableId

def RoutingTarget.policyRouting (target : RoutingTarget) : PolicyRouting :=
  { fwmark := target.fwmark, tableId := target.tableId }

/-- `fwmark` and `table_id` default to the top-level ones. -/
def defaultPolicyRouting (config : AppConfig) : PolicyRouting :=
  { fwmark := config.routing.fwmark, tableId := config.routing.tableId }

end Korserver
