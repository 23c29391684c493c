import Korserver.HexText
import Korserver.PolicyKernelCore
import Korserver.PolicyRouting

/-!
Calls on several policy routing instances: what each does to the rules and the routes of the kernel.
-/

namespace Korserver

open PythonText PythonValue

theorem readNumber_repr (number : Nat) : readNumber (Nat.repr number) = some number := by
  rw [readNumber, intLiteral_repr]

theorem intLiteral_printMark (reprOf : Json → String) (style : MarkStyle) (mark : Nat) :
    intLiteral ((printMark style mark).pyStr reprOf) = some (mark : Int) := by
  cases style with
  | hex => exact intLiteral_hex mark
  | decimal => exact intLiteral_repr mark
  | number => exact intLiteral_repr mark

def ReservedTable (table : Nat) : Prop := table = 253 ∨ table = 254 ∨ table = 255

theorem printTable_eq {table other : Nat} :
    printTable other = Nat.repr table ↔ other = table ∧ ¬ReservedTable other := by
  have named : ∀ name, intLiteral name = none → name ≠ Nat.repr table := by
    intro name unread same
    rw [same, intLiteral_repr] at unread
    cases unread
  unfold printTable ReservedTable
  split
  · rename_i default
    simp [default, named "default" (by decide)]
  · split
    · rename_i main
      simp [main, named "main" (by decide)]
    · split
      · rename_i own
        simp [own, named "local" (by decide)]
      · rename_i notDefault notMain notLocal
        simp only [notDefault, notMain, notLocal, or_self, not_false_eq_true, and_true]
        exact ⟨toString_injective, fun same => by rw [same]⟩

/-- The value of the mark; 0 when it has none. -/
def PolicyService.mark (service : PolicyService) : Nat := (readNumber service.fwmark).getD 0

def PolicyService.pair (service : PolicyService) : Nat × Nat := (service.mark, service.tableId)

def PolicyService.ownRule (service : PolicyService) : KernelRule where
  priority := rulePriority
  mark := service.mark
  table := service.tableId

/-- Marks are numbers other than 0, and no two instances share a mark or a table. -/
structure Instances (services : List PolicyService) : Prop where
  nonzero : ∀ service ∈ services, service.mark ≠ 0
  marks : (services.map PolicyService.mark).Nodup
  tables : (services.map PolicyService.tableId).Nodup

theorem Instances.tables_ne {services : List PolicyService} (instances : Instances services)
    {service other : PolicyService} (member : service ∈ services) (otherMember : other ∈ services)
    (different : other ≠ service) : other.tableId ≠ service.tableId :=
  fun same => different (List.inj_on_of_nodup_map instances.tables otherMember member same)

section Steps

variable {service : PolicyService} (nonzero : service.mark ≠ 0)

include nonzero

theorem readNumber_fwmark : readNumber service.fwmark = some service.mark := by
  unfold PolicyService.mark at nonzero ⊢
  cases read : readNumber service.fwmark with
  | none => simp [read] at nonzero
  | some mark => rfl

theorem intLiteral_fwmark : intLiteral service.fwmark = some (service.mark : Int) := by
  have read := readNumber_fwmark nonzero
  unfold readNumber at read
  split at read
  · rename_i value literal
    cases read
    exact literal
  · cases read

theorem isRule_listed (reprOf : Json → String) (style : MarkStyle) (rule : KernelRule) :
    service.isRule reprOf service.mark (rule.listed style) = true ↔
      rule.pair = service.pair ∧ ¬ReservedTable rule.table := by
  have table : printTable rule.table = service.table ↔
      rule.table = service.tableId ∧ ¬ReservedTable rule.table := printTable_eq
  by_cases unmarked : rule.mark = 0
  · have different : rule.pair ≠ service.pair := by
      intro same
      exact nonzero ((congrArg Prod.fst same).symm.trans unmarked)
    simp [KernelRule.listed, PolicyService.isRule, unmarked, lookup, markValue, different]
  · have value : markValue reprOf (printMark style rule.mark) = .ok (some (rule.mark : Int)) := by
      have literal := intLiteral_printMark reprOf style rule.mark
      cases style <;> simp only [printMark] at literal ⊢ <;>
        simp only [markValue, intOrValueError, literal] <;> rfl
    simp only [KernelRule.listed, PolicyService.isRule, unmarked, if_false, lookup, List.cons_append,
      List.nil_append, List.reverse_cons, List.reverse_nil, List.find?_cons, String.reduceEq, decide_false,
      decide_true, Option.map_some, Option.getD_some, value, Json.pyStr, Bool.and_eq_true, beq_iff_eq,
      Option.some.injEq, Nat.cast_inj, table, KernelRule.pair, PolicyService.pair, Prod.mk.injEq, and_assoc]

example : printTable 254 = "main" := by decide +kernel

theorem rulePresent_listing (reprOf : Json → String) (style : MarkStyle) (kernel : RoutingKernel) :
    ∃ present, service.rulePresent reprOf (some (kernel.listing style)) = .ok present ∧
      (present = true ↔ ∃ rule ∈ kernel.rules, rule.pair = service.pair ∧ ¬ReservedTable rule.table) := by
  refine ⟨(kernel.rules.map (KernelRule.listed style)).any
    (service.isRule reprOf service.mark), ?_, ?_⟩
  · simp only [PolicyService.rulePresent, intOrValueError, intLiteral_fwmark nonzero,
      RoutingKernel.listing, Json.items]
    rfl
  · simp only [List.any_map, List.any_eq_true, Function.comp_apply, isRule_listed nonzero]

theorem execute_addRule (links : String → Bool) (kernel : RoutingKernel) :
    kernel.execute links service.addRule = kernel.addRule service.ownRule := by
  simp only [PolicyService.addRule, RoutingKernel.execute, readNumber_fwmark nonzero,
    PolicyService.table, readNumber_repr]
  rfl

theorem execute_deleteRule (links : String → Bool) (kernel : RoutingKernel) :
    service.deleteRule.foldl (RoutingKernel.execute links) kernel =
      kernel.deleteRule service.mark service.tableId rulePriority := by
  simp only [PolicyService.deleteRule, List.foldl_cons, List.foldl_nil, RoutingKernel.execute,
    readNumber_fwmark nonzero, PolicyService.table, readNumber_repr]

end Steps

section

variable {service : PolicyService} (links : String → Bool) (kernel : RoutingKernel)

theorem execute_routeReplace (device : String) : kernel.execute links (.routeReplace device service.table) =
    if links device then kernel.setRoute service.tableId (some device) else kernel := by
  simp only [RoutingKernel.execute, PolicyService.table, readNumber_repr]

theorem execute_routeFlush : kernel.execute links (.routeFlush service.table) =
    kernel.setRoute service.tableId none := by
  simp only [RoutingKernel.execute, PolicyService.table, readNumber_repr]

end

def RoutingKernel.rulesOf (kernel : RoutingKernel) (pair : Nat × Nat) : List KernelRule :=
  kernel.rules.filter fun rule => rule.pair = pair

def RoutingKernel.replaceRoute (links : String → Bool) (table : Nat) (device : String)
    (kernel : RoutingKernel) : RoutingKernel :=
  if links device then kernel.setRoute table (some device) else kernel

section

variable {host : PolicyHost} {service : PolicyService} (nonzero : service.mark ≠ 0)
  (kernel : RoutingKernel) (interface : Option String)

include nonzero

theorem call_apply : host.call kernel (service, .apply interface) =
    .ok (((kernel.deleteRule service.mark service.tableId rulePriority).addRule service.ownRule).replaceRoute
      host.links service.tableId (service.device interface)) := by
  simp only [PolicyHost.call, PolicyHost.commands, PolicyService.apply, bind, Except.bind, pure, Except.pure,
    List.foldl_append, execute_deleteRule nonzero, List.foldl_cons, List.foldl_nil, execute_addRule nonzero,
    execute_routeReplace]
  rfl

theorem call_cleanup : host.call kernel (service, .cleanup) =
    .ok ((kernel.deleteRule service.mark service.tableId rulePriority).setRoute service.tableId none) := by
  simp only [PolicyHost.call, PolicyHost.commands, PolicyService.cleanup, bind, Except.bind, pure,
    Except.pure, List.foldl_append, execute_deleteRule nonzero, List.foldl_cons, List.foldl_nil,
    execute_routeFlush]

/-- A rule for the pair in a table without a name is seen; in another table the kernel refuses the
rule it has. -/
theorem call_ensure : ∃ present : Bool,
    (present = true ↔ ∃ rule ∈ kernel.rules, rule.pair = service.pair ∧ ¬ReservedTable rule.table) ∧
      host.call kernel (service, .ensure interface) =
        .ok ((if present then kernel else kernel.addRule service.ownRule).replaceRoute
          host.links service.tableId (service.device interface)) := by
  obtain ⟨present, read, found⟩ := rulePresent_listing nonzero host.reprOf host.style kernel
  refine ⟨present, found, ?_⟩
  simp only [PolicyHost.call, PolicyHost.commands, PolicyService.ensure, read, bind, Except.bind, pure,
    Except.pure, List.foldl_append, List.foldl_cons, List.foldl_nil, execute_routeReplace]
  cases present
  · simp only [Bool.false_eq_true, if_false, List.foldl_cons, List.foldl_nil, execute_addRule nonzero]
    rfl
  · rfl

end

theorem filter_eraseP {α : Type} {erased kept : α → Bool} (apart : ∀ item, erased item = true → kept item = false)
    (items : List α) : (items.eraseP erased).filter kept = items.filter kept := by
  induction items with
  | nil => rfl
  | cons item rest ih =>
      by_cases chosen : erased item = true
      · rw [List.eraseP_cons_of_pos chosen, List.filter_cons_of_neg (by simp [apart item chosen])]
      · rw [List.eraseP_cons_of_neg chosen, List.filter_cons, List.filter_cons, ih]

theorem mem_addRule_kernel {rule other : KernelRule} {kernel : RoutingKernel} :
    other ∈ (kernel.addRule rule).rules ↔ other ∈ kernel.rules ∨ other = rule := by
  unfold RoutingKernel.addRule
  split
  · rename_i present
    constructor
    · exact Or.inl
    · rintro (old | rfl)
      · exact old
      · exact present
  · simp

theorem mem_deleteRule_kernel {mark table priority : Nat} {rule : KernelRule} {kernel : RoutingKernel}
    (member : rule ∈ (kernel.deleteRule mark table priority).rules) : rule ∈ kernel.rules :=
  List.mem_of_mem_eraseP member

theorem addRule_rulesOf {rule : KernelRule} {pair : Nat × Nat} (other : rule.pair ≠ pair)
    (kernel : RoutingKernel) : (kernel.addRule rule).rulesOf pair = kernel.rulesOf pair := by
  unfold RoutingKernel.addRule
  split
  · rfl
  · simp [RoutingKernel.rulesOf, List.filter_append, other]

theorem deleteRule_rulesOf {mark table priority : Nat} {pair : Nat × Nat} (other : (mark, table) ≠ pair)
    (kernel : RoutingKernel) :
    (kernel.deleteRule mark table priority).rulesOf pair = kernel.rulesOf pair := by
  refine filter_eraseP ?_ kernel.rules
  intro rule chosen
  simp only [decide_eq_true_eq] at chosen
  obtain ⟨rfl, -, rfl, -⟩ := chosen
  exact decide_eq_false other

@[simp] theorem replaceRoute_rules_kernel (links : String → Bool) (table : Nat) (device : String)
    (kernel : RoutingKernel) : (kernel.replaceRoute links table device).rules = kernel.rules := by
  unfold RoutingKernel.replaceRoute
  split <;> rfl

@[simp] theorem addRule_routes_kernel (rule : KernelRule) (kernel : RoutingKernel) :
    (kernel.addRule rule).routes = kernel.routes := by
  unfold RoutingKernel.addRule
  split <;> rfl

theorem setRoute_other {table other : Nat} (different : other ≠ table) (device : Option String)
    (kernel : RoutingKernel) : (kernel.setRoute table device).routes other = kernel.routes other :=
  Function.update_of_ne different _ _

theorem replaceRoute_other {table other : Nat} (different : other ≠ table) (links : String → Bool)
    (device : String) (kernel : RoutingKernel) :
    (kernel.replaceRoute links table device).routes other = kernel.routes other := by
  unfold RoutingKernel.replaceRoute
  split
  · exact setRoute_other different _ _
  · rfl

theorem replaceRoute_twice (links : String → Bool) (table : Nat) (device : String)
    (kernel : RoutingKernel) :
    (kernel.replaceRoute links table device).replaceRoute links table device =
      kernel.replaceRoute links table device := by
  unfold RoutingKernel.replaceRoute
  split
  · simp [RoutingKernel.setRoute]
  · rfl

/-! What every call keeps. -/

def OnePerPair (kernel : RoutingKernel) : Prop := (kernel.rules.map KernelRule.pair).Nodup

instance (kernel : RoutingKernel) : Decidable (OnePerPair kernel) :=
  inferInstanceAs (Decidable (kernel.rules.map KernelRule.pair).Nodup)

/-- Whatever rule there is for an instance's mark and table is the one the instance installs. -/
def OwnRules (services : List PolicyService) (kernel : RoutingKernel) : Prop :=
  ∀ service ∈ services, ∀ rule ∈ kernel.rules, rule.pair = service.pair → rule = service.ownRule

instance (services : List PolicyService) (kernel : RoutingKernel) : Decidable (OwnRules services kernel) :=
  inferInstanceAs (Decidable (∀ service ∈ services, ∀ rule ∈ kernel.rules,
    rule.pair = service.pair → rule = service.ownRule))

structure Independent (host : PolicyHost) (services : List PolicyService) (service : PolicyService)
    (kernel : RoutingKernel) : Prop where
  returns : ∀ call, ∃ next, host.call kernel (service, call) = .ok next
  elsewhere : ∀ call next, host.call kernel (service, call) = .ok next →
    ∀ other ∈ services, other ≠ service →
      next.rulesOf other.pair = kernel.rulesOf other.pair ∧
        next.routes other.tableId = kernel.routes other.tableId
  idempotent : ∀ interface next, host.call kernel (service, .ensure interface) = .ok next →
    host.call next (service, .ensure interface) = .ok next
  installs : ∀ call interface next, call = .apply interface ∨ call = .ensure interface →
    host.call kernel (service, call) = .ok next →
      (∃ rule ∈ next.rules, rule.pair = service.pair) ∧
        (host.links (service.device interface) = true →
          next.routes service.tableId = some (service.device interface))

theorem addRule_onePerPair {rule : KernelRule} {kernel : RoutingKernel} (single : OnePerPair kernel)
    (own : ∀ other ∈ kernel.rules, other.pair = rule.pair → other = rule) :
    OnePerPair (kernel.addRule rule) := by
  unfold RoutingKernel.addRule
  split
  · exact single
  · rename_i absent
    simp only [OnePerPair, List.map_append, List.map_cons, List.map_nil]
    refine List.nodup_append.mpr ⟨single, List.nodup_singleton _, ?_⟩
    rintro pair inRules pair' inNew rfl
    obtain ⟨other, member, same⟩ := List.mem_map.mp inRules
    rw [List.mem_singleton] at inNew
    exact absurd (own other member (same.trans inNew) ▸ member) absent

theorem ownRule_of_pair {service other : PolicyService} (same : service.pair = other.pair) :
    service.ownRule = other.ownRule := by
  simp only [PolicyService.pair, Prod.mk.injEq] at same
  simp [PolicyService.ownRule, same.1, same.2]

section

variable {services : List PolicyService} {service : PolicyService} {kernel : RoutingKernel}

theorem OwnRules.addRule (own : OwnRules services kernel) : OwnRules services (kernel.addRule service.ownRule) := by
  intro other otherMember rule inRules same
  rcases mem_addRule_kernel.mp inRules with old | rfl
  · exact own other otherMember rule old same
  · exact ownRule_of_pair same

theorem OwnRules.deleteRule (own : OwnRules services kernel) (mark table priority : Nat) :
    OwnRules services (kernel.deleteRule mark table priority) :=
  fun other otherMember rule inRules same =>
    own other otherMember rule (mem_deleteRule_kernel inRules) same

theorem call_onePerPair {host : PolicyHost} (instances : Instances services) (member : service ∈ services)
    (own : OwnRules services kernel) (single : OnePerPair kernel) {call : PolicyCall} {next : RoutingKernel}
    (called : host.call kernel (service, call) = .ok next) : OwnRules services next ∧ OnePerPair next := by
  have nonzero := instances.nonzero service member
  have ownDeleted := own.deleteRule service.mark service.tableId rulePriority
  have singleDeleted : OnePerPair (kernel.deleteRule service.mark service.tableId rulePriority) :=
    List.Nodup.sublist (List.Sublist.map _ List.eraseP_sublist) single
  cases call with
  | apply interface =>
      rw [call_apply nonzero] at called
      cases called
      simp only [OwnRules, OnePerPair, replaceRoute_rules_kernel]
      exact ⟨ownDeleted.addRule, addRule_onePerPair singleDeleted (ownDeleted service member)⟩
  | ensure interface =>
      obtain ⟨present, -, ensured⟩ := @call_ensure host service nonzero kernel interface
      rw [ensured] at called
      cases called
      simp only [OwnRules, OnePerPair, replaceRoute_rules_kernel]
      cases present with
      | true => exact ⟨own, single⟩
      | false => exact ⟨own.addRule, addRule_onePerPair single (own service member)⟩
  | cleanup =>
      rw [call_cleanup nonzero] at called
      cases called
      exact ⟨ownDeleted, singleDeleted⟩

theorem call_returns (host : PolicyHost) (nonzero : service.mark ≠ 0) (call : PolicyCall) :
    ∃ next, host.call kernel (service, call) = .ok next := by
  cases call with
  | apply interface => exact ⟨_, call_apply nonzero kernel interface⟩
  | ensure interface =>
      obtain ⟨present, -, ensured⟩ := call_ensure nonzero kernel interface
      exact ⟨_, ensured⟩
  | cleanup => exact ⟨_, call_cleanup nonzero kernel⟩

theorem call_elsewhere {host : PolicyHost} (nonzero : service.mark ≠ 0) {call : PolicyCall}
    {next : RoutingKernel} (called : host.call kernel (service, call) = .ok next) {pair : Nat × Nat}
    (otherPair : service.pair ≠ pair) {table : Nat} (otherTable : table ≠ service.tableId) :
    next.rulesOf pair = kernel.rulesOf pair ∧ next.routes table = kernel.routes table := by
  have otherRule : service.ownRule.pair ≠ pair := otherPair
  cases call with
  | apply interface =>
      rw [call_apply nonzero] at called
      cases called
      constructor
      · rw [RoutingKernel.rulesOf, replaceRoute_rules_kernel, ← RoutingKernel.rulesOf,
          addRule_rulesOf otherRule, deleteRule_rulesOf otherPair]
      · rw [replaceRoute_other otherTable, addRule_routes_kernel]
        rfl
  | ensure interface =>
      obtain ⟨present, -, ensured⟩ := @call_ensure host service nonzero kernel interface
      rw [ensured] at called
      cases called
      constructor
      · rw [RoutingKernel.rulesOf, replaceRoute_rules_kernel, ← RoutingKernel.rulesOf]
        cases present with
        | true => rfl
        | false => exact addRule_rulesOf otherRule kernel
      · rw [replaceRoute_other otherTable]
        cases present with
        | true => rfl
        | false => exact congrFun (addRule_routes_kernel _ _) _
  | cleanup =>
      rw [call_cleanup nonzero] at called
      cases called
      exact ⟨deleteRule_rulesOf otherPair kernel, setRoute_other otherTable none _⟩

theorem ensure_twice {host : PolicyHost} (nonzero : service.mark ≠ 0) {interface : Option String}
    {next : RoutingKernel} (called : host.call kernel (service, .ensure interface) = .ok next) :
    host.call next (service, .ensure interface) = .ok next := by
  obtain ⟨present, found, ensured⟩ := @call_ensure host service nonzero kernel interface
  obtain ⟨again, foundAgain, ensuredAgain⟩ := @call_ensure host service nonzero next interface
  rw [ensured] at called
  simp only [Except.ok.injEq] at called
  have rules : next.rules = (if present then kernel else kernel.addRule service.ownRule).rules := by
    rw [← called, replaceRoute_rules_kernel]
  rw [ensuredAgain]
  congr 1
  have unchanged : (if again then next else next.addRule service.ownRule) = next := by
    cases again with
    | true => rfl
    | false =>
        cases present with
        | true =>
            have seen := found.mp rfl
            rw [if_pos rfl] at rules
            rw [← rules] at seen
            exact absurd (foundAgain.mpr seen) (by decide)
        | false =>
            have own : service.ownRule ∈ next.rules := by
              rw [rules]
              exact mem_addRule_kernel.mpr (.inr rfl)
            exact if_pos own
  rw [unchanged, ← called, replaceRoute_twice]

theorem call_installs {host : PolicyHost} (nonzero : service.mark ≠ 0) {call : PolicyCall}
    {interface : Option String} (installing : call = .apply interface ∨ call = .ensure interface)
    {next : RoutingKernel} (called : host.call kernel (service, call) = .ok next) :
    (∃ rule ∈ next.rules, rule.pair = service.pair) ∧
      (host.links (service.device interface) = true →
        next.routes service.tableId = some (service.device interface)) := by
  have routed : ∀ ruled : RoutingKernel, host.links (service.device interface) = true →
      (ruled.replaceRoute host.links service.tableId (service.device interface)).routes service.tableId =
        some (service.device interface) := by
    intro ruled up
    rw [RoutingKernel.replaceRoute, if_pos up]
    exact Function.update_self _ _ _
  rcases installing with rfl | rfl
  · rw [call_apply nonzero] at called
    cases called
    refine ⟨⟨service.ownRule, ?_, rfl⟩, routed _⟩
    rw [replaceRoute_rules_kernel]
    exact mem_addRule_kernel.mpr (.inr rfl)
  · obtain ⟨present, found, ensured⟩ := @call_ensure host service nonzero kernel interface
    rw [ensured] at called
    cases called
    refine ⟨?_, routed _⟩
    rw [replaceRoute_rules_kernel]
    cases present with
    | true =>
        obtain ⟨rule, inRules, same, -⟩ := found.mp rfl
        exact ⟨rule, inRules, same⟩
    | false => exact ⟨service.ownRule, mem_addRule_kernel.mpr (.inr rfl), rfl⟩

theorem call_independent (host : PolicyHost) (instances : Instances services) (member : service ∈ services)
    (kernel : RoutingKernel) : Independent host services service kernel where
  returns := call_returns host (instances.nonzero service member)
  elsewhere := by
    intro call next called other otherMember different
    have tables := instances.tables_ne member otherMember different
    exact call_elsewhere (instances.nonzero service member) called
      (fun same => tables (congrArg Prod.snd same).symm) tables
  idempotent := fun _ _ => ensure_twice (instances.nonzero service member)
  installs := fun _ _ _ installing called =>
    call_installs (instances.nonzero service member) installing called

end

/-! The rules and routes as `PolicyTables` has them. -/

def PolicyService.routing (service : PolicyService) : PolicyRouting :=
  { fwmark := service.fwmark, tableId := service.tableId }

def KernelRule.policyRule (rule : KernelRule) : PolicyRule := { mark := rule.mark, table := rule.table }

def RoutingKernel.tables (kernel : RoutingKernel) : PolicyTables :=
  { rules := kernel.rules.map KernelRule.policyRule, routes := kernel.routes }

def PolicyHost.tablesCall (host : PolicyHost) (tables : PolicyTables) (service : PolicyService) :
    PolicyCall → Except PyError PolicyTables
  | .apply interface => .ok (service.routing.apply host.links (service.device interface) tables)
  | .ensure interface => service.routing.ensure host.links true (service.device interface) tables
  | .cleanup => .ok (service.routing.cleanup tables)

theorem policyRule_eq {rule : KernelRule} {service : PolicyService} :
    rule.policyRule = service.ownRule.policyRule ↔ rule.pair = service.pair := by
  simp [KernelRule.policyRule, PolicyService.ownRule, KernelRule.pair, PolicyService.pair]

theorem routing_rule {service : PolicyService} (nonzero : service.mark ≠ 0) :
    service.routing.rule = some service.ownRule.policyRule := by
  simp only [PolicyRouting.rule, PolicyService.routing, intLiteral_fwmark nonzero]
  rfl

theorem not_mem_eraseP {α : Type} {chosen : α → Bool} {item : α} {items : List α} (distinct : items.Nodup)
    (own : chosen item = true) (only : ∀ other ∈ items, chosen other = true → other = item) :
    item ∉ items.eraseP chosen := by
  induction items with
  | nil => simp
  | cons first rest ih =>
      obtain ⟨absent, distinctRest⟩ := List.nodup_cons.mp distinct
      by_cases taken : chosen first = true
      · obtain rfl := only first (by simp) taken
        rwa [List.eraseP_cons_of_pos taken]
      · rw [List.eraseP_cons_of_neg taken, List.mem_cons, not_or]
        refine ⟨?_, ih distinctRest fun other member => only other (by simp [member])⟩
        rintro rfl
        exact taken own

theorem mem_deleteRule_own {service : PolicyService} {kernel : RoutingKernel}
    (own : OwnRules [service] kernel) (single : OnePerPair kernel) {rule : KernelRule} :
    rule ∈ (kernel.deleteRule service.mark service.tableId rulePriority).rules ↔
      rule ∈ kernel.rules ∧ rule.pair ≠ service.pair := by
  have distinct : kernel.rules.Nodup := List.Nodup.of_map _ single
  constructor
  · intro kept
    refine ⟨mem_deleteRule_kernel kept, ?_⟩
    intro same
    obtain rfl := own service (by simp) rule (mem_deleteRule_kernel kept) same
    refine not_mem_eraseP distinct ?_ ?_ kept
    · simp [PolicyService.ownRule]
    · intro other inRules chosen
      simp only [decide_eq_true_eq] at chosen
      exact own service (by simp) other inRules (Prod.ext chosen.1 chosen.2.2.1)
  · rintro ⟨member, different⟩
    refine (List.mem_eraseP_of_neg ?_).mpr member
    simp only [decide_eq_true_eq]
    rintro ⟨mark, -, table, -⟩
    exact different (Prod.ext mark table)

theorem mem_tables {kernel : RoutingKernel} {rule : PolicyRule} :
    rule ∈ kernel.tables.rules ↔ ∃ other ∈ kernel.rules, other.policyRule = rule :=
  List.mem_map

theorem mem_tables_addRule {service : PolicyService} {kernel : RoutingKernel} {rule : PolicyRule} :
    rule ∈ (kernel.addRule service.ownRule).tables.rules ↔
      rule ∈ kernel.tables.rules ∨ service.ownRule.policyRule = rule := by
  simp only [mem_tables, mem_addRule_kernel]
  constructor
  · rintro ⟨other, old | rfl, same⟩
    · exact .inl ⟨other, old, same⟩
    · exact .inr same
  · rintro (⟨other, old, same⟩ | same)
    · exact ⟨other, .inl old, same⟩
    · exact ⟨service.ownRule, .inr rfl, same⟩

theorem mem_tables_deleteRule {service : PolicyService} {kernel : RoutingKernel}
    (own : OwnRules [service] kernel) (single : OnePerPair kernel) {rule : PolicyRule} :
    rule ∈ (kernel.deleteRule service.mark service.tableId rulePriority).tables.rules ↔
      rule ∈ kernel.tables.rules ∧ rule ≠ service.ownRule.policyRule := by
  simp only [mem_tables, mem_deleteRule_own own single]
  constructor
  · rintro ⟨other, ⟨old, different⟩, rfl⟩
    exact ⟨⟨other, old, rfl⟩, fun same => different (policyRule_eq.mp same)⟩
  · rintro ⟨⟨other, old, rfl⟩, different⟩
    exact ⟨other, ⟨old, fun same => different (policyRule_eq.mpr same)⟩, rfl⟩

@[simp] theorem replaceRoute_tables (links : String → Bool) (table : Nat) (device : String)
    (kernel : RoutingKernel) :
    (kernel.replaceRoute links table device).tables = kernel.tables.replaceRoute links device table := by
  unfold RoutingKernel.replaceRoute PolicyTables.replaceRoute
  split <;> rfl

theorem replaceRoute_routes_congr {links : String → Bool} {device : String} {table : Nat}
    {first second : PolicyTables} (same : first.routes = second.routes) :
    (first.replaceRoute links device table).routes = (second.replaceRoute links device table).routes := by
  unfold PolicyTables.replaceRoute
  split
  · simp [same]
  · exact same

theorem mem_ensured {present : Bool} {rule own : PolicyRule} {tables : PolicyTables}
    (there : present = true → own ∈ tables.rules) :
    rule ∈ (if present then tables else tables.addRule (some own)).rules ↔
      rule ∈ tables.rules ∨ own = rule := by
  cases present with
  | true =>
      constructor
      · exact Or.inl
      · rintro (old | rfl)
        · exact old
        · exact there rfl
  | false =>
      rw [if_neg Bool.false_ne_true, mem_addRule, Option.some.injEq, eq_comm (a := rule)]

/-- A call does to the rules and routes what the coarser calls do, which every service uses. -/
theorem call_refines {host : PolicyHost} {service : PolicyService} {kernel : RoutingKernel}
    (nonzero : service.mark ≠ 0) (own : OwnRules [service] kernel) (single : OnePerPair kernel)
    {call : PolicyCall} {next : RoutingKernel} (called : host.call kernel (service, call) = .ok next) :
    ∃ tables, host.tablesCall kernel.tables service call = .ok tables ∧
      (∀ rule, rule ∈ next.tables.rules ↔ rule ∈ tables.rules) ∧ next.tables.routes = tables.routes := by
  cases call with
  | apply interface =>
      rw [call_apply nonzero] at called
      cases called
      refine ⟨_, rfl, ?_, ?_⟩
      · intro rule
        rw [mem_apply, routing_rule nonzero, replaceRoute_tables, replaceRoute_rules, mem_tables_addRule,
          mem_tables_deleteRule own single, Option.some.injEq]
        by_cases same : service.ownRule.policyRule = rule
        · simp [same]
        · simp [same, Ne.symm same]
      · rw [replaceRoute_tables]
        refine replaceRoute_routes_congr ?_
        rw [addRule_routes, deleteRule_routes]
        exact addRule_routes_kernel _ _
  | ensure interface =>
      obtain ⟨present, found, ensured⟩ := @call_ensure host service nonzero kernel interface
      rw [ensured] at called
      cases called
      have there : present = true → service.ownRule.policyRule ∈ kernel.tables.rules := by
        intro seen
        obtain ⟨rule, member, same, -⟩ := found.mp seen
        exact mem_tables.mpr ⟨rule, member, policyRule_eq.mpr same⟩
      have coarse : host.tablesCall kernel.tables service (.ensure interface) =
          .ok ((if decide (service.ownRule.policyRule ∈ kernel.tables.rules) then kernel.tables
            else kernel.tables.addRule (some service.ownRule.policyRule)).replaceRoute host.links
              (service.device interface) service.tableId) := by
        rw [← routing_rule nonzero]
        simp only [PolicyHost.tablesCall, PolicyRouting.ensure, PolicyRouting.rulePresent, if_true,
          PolicyService.routing, intOrValueError, intLiteral_fwmark nonzero, bind, Except.bind, pure,
          Except.pure]
        rfl
      refine ⟨_, coarse, ?_, ?_⟩
      · intro rule
        rw [replaceRoute_tables, replaceRoute_rules, replaceRoute_rules, mem_ensured of_decide_eq_true]
        cases present with
        | true =>
            constructor
            · exact Or.inl
            · rintro (old | rfl)
              · exact old
              · exact there rfl
        | false => exact mem_tables_addRule
      · rw [replaceRoute_tables]
        refine replaceRoute_routes_congr ?_
        have fine : (if present then kernel else kernel.addRule service.ownRule).routes = kernel.routes := by
          cases present with
          | true => rfl
          | false => exact addRule_routes_kernel _ _
        refine Eq.trans fine ?_
        split
        · rfl
        · rw [addRule_routes]
          rfl
  | cleanup =>
      rw [call_cleanup nonzero] at called
      cases called
      refine ⟨_, rfl, ?_, ?_⟩
      · intro rule
        rw [mem_cleanup, routing_rule nonzero, ne_eq, Option.some.injEq, eq_comm]
        exact mem_tables_deleteRule own single
      · rfl

theorem run_onePerPair {host : PolicyHost} {services : List PolicyService} (instances : Instances services)
    {calls : List (PolicyService × PolicyCall)} (known : ∀ event ∈ calls, event.1 ∈ services)
    (kernel : RoutingKernel) : ∃ state, host.run calls kernel = .ok state ∧
      (OwnRules services kernel → OnePerPair kernel → OnePerPair state) := by
  induction calls generalizing kernel with
  | nil => exact ⟨kernel, rfl, fun _ single => single⟩
  | cons event rest ih =>
      have member : event.1 ∈ services := known event (by simp)
      obtain ⟨next, called⟩ := @call_returns event.1 kernel host (instances.nonzero event.1 member) event.2
      obtain ⟨state, ran, kept⟩ := ih (fun other later => known other (by simp [later])) next
      refine ⟨state, ?_, ?_⟩
      · rw [PolicyHost.run, called]
        exact ran
      · intro own single
        obtain ⟨ownNext, singleNext⟩ := call_onePerPair instances member own single called
        exact kept ownNext singleNext

/-- After any calls there is at most one rule for each pair, if no rule of another kind was there for
an instance's pair; and every further call keeps to its instance, whatever rules there were. -/
theorem policyCalls_independent (host : PolicyHost) {services : List PolicyService}
    (instances : Instances services) {kernel : RoutingKernel} (single : OnePerPair kernel)
    {calls : List (PolicyService × PolicyCall)} (known : ∀ event ∈ calls, event.1 ∈ services) :
    ∃ state, host.run calls kernel = .ok state ∧ (OwnRules services kernel → OnePerPair state) ∧
      ∀ service ∈ services, Independent host services service state := by
  obtain ⟨state, ran, kept⟩ := @run_onePerPair host services instances calls known kernel
  exact ⟨state, ran, fun own => kept own single,
    fun service member => call_independent host instances member state⟩

def sampleHost : PolicyHost where
  links := fun device => device = "oc-middle0"
  style := .hex
  reprOf := fun _ => ""

def sampleServices : List PolicyService :=
  [⟨"0x0c01", 1201, "oc-middle0"⟩, ⟨"0x0c02", 1202, "oc-middle0"⟩]

def samplePolicyKernel : RoutingKernel where
  rules := [⟨0, 0, 0, 255, ""⟩, ⟨100, 3073, 0xffffffff, 1201, ""⟩, ⟨32766, 0, 0, 254, ""⟩]

def samplePolicyCalls : List (PolicyService × PolicyCall) := [
  (⟨"0x0c01", 1201, "oc-middle0"⟩, .apply none),
  (⟨"0x0c02", 1202, "oc-middle0"⟩, .ensure (some "oc-work")),
  (⟨"0x0c01", 1201, "oc-middle0"⟩, .ensure none)]

theorem policyCalls_independent_sample :
    ∃ state, sampleHost.run samplePolicyCalls samplePolicyKernel = .ok state ∧ OnePerPair state := by
  obtain ⟨state, ran, single, -⟩ := @policyCalls_independent sampleHost sampleServices
    ⟨by decide, by decide, by decide⟩ samplePolicyKernel (by decide) samplePolicyCalls (by decide)
  exact ⟨state, ran, single (by decide)⟩

/-- Beside a rule with another priority `apply` adds its own. -/
theorem otherPriority_twice :
    ¬∀ (host : PolicyHost) (services : List PolicyService) (kernel : RoutingKernel)
        (calls : List (PolicyService × PolicyCall)) (state : RoutingKernel),
      Instances services → OnePerPair kernel → (∀ event ∈ calls, event.1 ∈ services) →
        host.run calls kernel = .ok state → OnePerPair state := by
  intro always
  have twice := always sampleHost sampleServices { rules := [⟨50, 3073, 0xffffffff, 1201, ""⟩] }
    [(⟨"0x0c01", 1201, "oc-middle0"⟩, .apply none)] _ ⟨by decide, by decide, by decide⟩ (by decide)
    (by decide) rfl
  revert twice
  decide

end Korserver
