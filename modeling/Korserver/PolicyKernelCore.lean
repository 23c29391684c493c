import Korserver.PolicyRoutingCore

/-!
The commands of `services/policy_routing.py` and the kernel they are for: rules with a priority, a
mask and further selectors, of which `ip -j rule show` prints a listing.
-/

namespace Korserver

open PythonText PythonValue

structure KernelRule where
  priority : Nat
  mark : Nat
  mask : Nat := 0xffffffff
  table : Nat
  /-- What else the rule asks for: a source, a device. -/
  selector : String := ""
  deriving DecidableEq

def KernelRule.pair (rule : KernelRule) : Nat × Nat := (rule.mark, rule.table)

structure RoutingKernel where
  rules : List KernelRule := []
  /-- The device of each table's default route. -/
  routes : Nat → Option String := fun _ => none

inductive IpCommand
  /-- `ip rule add fwmark M table T priority P` -/
  | ruleAdd (fwmark table priority : String)
  /-- `ip rule del fwmark M table T priority P` -/
  | ruleDel (fwmark table priority : String)
  /-- `ip route replace default dev D table T` -/
  | routeReplace (device table : String)
  /-- `ip route flush table T` -/
  | routeFlush (table : String)
  deriving DecidableEq

def readNumber (text : String) : Option Nat :=
  match intLiteral text with
  | some (.ofNat value) => some value
  | _ => none

def RoutingKernel.addRule (rule : KernelRule) (kernel : RoutingKernel) : RoutingKernel :=
  if rule ∈ kernel.rules then kernel else { kernel with rules := kernel.rules ++ [rule] }

/-- The first rule with this mark in full, this table and this priority, whatever else it asks for. -/
def RoutingKernel.deleteRule (mark table priority : Nat) (kernel : RoutingKernel) : RoutingKernel :=
  { kernel with
    rules := kernel.rules.eraseP fun rule =>
      rule.mark = mark ∧ rule.mask = 0xffffffff ∧ rule.table = table ∧ rule.priority = priority }

def RoutingKernel.setRoute (table : Nat) (device : Option String) (kernel : RoutingKernel) :
    RoutingKernel :=
  { kernel with routes := Function.update kernel.routes table device }

/-- The kernel refuses what `ip` cannot read, a rule it has and a route through a missing device;
`check=False` passes over it. -/
def RoutingKernel.execute (links : String → Bool) (kernel : RoutingKernel) : IpCommand → RoutingKernel
  | .ruleAdd fwmark table priority =>
      match readNumber fwmark, readNumber table, readNumber priority with
      | some mark, some table, some priority => kernel.addRule { priority, mark, table }
      | _, _, _ => kernel
  | .ruleDel fwmark table priority =>
      match readNumber fwmark, readNumber table, readNumber priority with
      | some mark, some table, some priority => kernel.deleteRule mark table priority
      | _, _, _ => kernel
  | .routeReplace device table =>
      match readNumber table with
      | some table => if links device then kernel.setRoute table (some device) else kernel
      | none => kernel
  | .routeFlush table =>
      match readNumber table with
      | some table => kernel.setRoute table none
      | none => kernel

inductive MarkStyle
  | hex
  | decimal
  | number
  deriving DecidableEq

def printMark (style : MarkStyle) (mark : Nat) : Json :=
  match style with
  | .hex => .str ("0x" ++ String.ofList (Nat.toDigits 16 mark))
  | .decimal => .str (Nat.repr mark)
  | .number => .int mark

/-- The kernel's own tables have names. -/
def printTable (table : Nat) : String :=
  if table = 253 then "default"
  else if table = 254 then "main"
  else if table = 255 then "local"
  else Nat.repr table

/-- The mark 0 is not printed. -/
def KernelRule.listed (style : MarkStyle) (rule : KernelRule) : Json :=
  .dict ([("priority", .int rule.priority), ("src", .str "all")] ++
    (if rule.mark = 0 then [] else [("fwmark", printMark style rule.mark)]) ++
    [("table", .str (printTable rule.table))])

def RoutingKernel.listing (style : MarkStyle) (kernel : RoutingKernel) : Json :=
  .list (kernel.rules.map (KernelRule.listed style))

def rulePriority : Nat := 100

structure PolicyService where
  fwmark : String
  tableId : Nat
  /-- `config.upstream.interface` -/
  upstreamInterface : String
  deriving DecidableEq

section

variable (service : PolicyService)

def PolicyService.table : String := Nat.repr service.tableId

def PolicyService.device (interface : Option String) : String :=
  match interface with
  | some name => if name = "" then service.upstreamInterface else name
  | none => service.upstreamInterface

def PolicyService.addRule : IpCommand :=
  .ruleAdd service.fwmark service.table (Nat.repr rulePriority)

def PolicyService.deleteRule : List IpCommand :=
  [.ruleDel service.fwmark service.table (Nat.repr rulePriority)]

def PolicyService.apply (interface : Option String) : List IpCommand :=
  service.deleteRule ++ [service.addRule, .routeReplace (service.device interface) service.table]

/-- `int(str(mark), 0)`; a rule without a mark has the value `none`. -/
def markValue (reprOf : Json → String) (mark : Json) : Except PyError (Option Int) :=
  match mark with
  | .null => .ok none
  | value => (intOrValueError (value.pyStr reprOf)).map some

/-- Whether an item of the listing is the rule; no error leaves the loop. -/
def PolicyService.isRule (reprOf : Json → String) (expectedMark : Int) : Json → Bool
  | .dict entries =>
      let mark := (lookup "fwmark" entries).getD .null
      let table := ((lookup "table" entries).getD (.str "")).pyStr reprOf
      match markValue reprOf mark with
      | .ok value => value == some expectedMark && table == service.table
      | .error _ => false
  | _ => false

/-- `_rule_present`; `none` is a failed command or an output that is no JSON. -/
def PolicyService.rulePresent (reprOf : Json → String) (listing : Option Json) : Except PyError Bool :=
  match listing with
  | none => .ok false
  | some rules => do
      let expectedMark ← intOrValueError service.fwmark
      let items ← rules.items
      return items.any (service.isRule reprOf expectedMark)

def PolicyService.ensure (reprOf : Json → String) (listing : Option Json) (interface : Option String) :
    Except PyError (List IpCommand) := do
  let present ← service.rulePresent reprOf listing
  return (if present then [] else [service.addRule]) ++
    [.routeReplace (service.device interface) service.table]

def PolicyService.cleanup : List IpCommand := service.deleteRule ++ [.routeFlush service.table]

end

inductive PolicyCall
  | apply (interface : Option String)
  | ensure (interface : Option String)
  | cleanup
  deriving DecidableEq

/-- Where the calls happen: the devices there are and how `ip` prints. -/
structure PolicyHost where
  links : String → Bool
  style : MarkStyle
  reprOf : Json → String

def PolicyHost.commands (host : PolicyHost) (kernel : RoutingKernel) (service : PolicyService) :
    PolicyCall → Except PyError (List IpCommand)
  | .apply interface => .ok (service.apply interface)
  | .ensure interface => service.ensure host.reprOf (some (kernel.listing host.style)) interface
  | .cleanup => .ok service.cleanup

def PolicyHost.call (host : PolicyHost) (kernel : RoutingKernel)
    (event : PolicyService × PolicyCall) : Except PyError RoutingKernel := do
  let commands ← host.commands kernel event.1 event.2
  return commands.foldl (RoutingKernel.execute host.links) kernel

def PolicyHost.run (host : PolicyHost) : List (PolicyService × PolicyCall) → RoutingKernel →
    Except PyError RoutingKernel
  | [], kernel => .ok kernel
  | event :: rest, kernel => do
      let next ← host.call kernel event
      host.run rest next

end Korserver
