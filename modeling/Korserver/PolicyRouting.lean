import Korserver.NftablesServiceCore
import Korserver.Nftables

/-!
What one apply leaves behind in the policy tables: the effect of each command, of the loop
that re-asserts the targets, and of the loop that cleans up recorded entries.
-/

namespace Korserver

open PythonText PythonValue

theorem mem_deleteRule {rule : Option PolicyRule} {tables : PolicyTables} {other : PolicyRule} :
    other ∈ (tables.deleteRule rule).rules ↔ other ∈ tables.rules ∧ some other ≠ rule := by
  simp [PolicyTables.deleteRule]

theorem mem_addRule {rule : Option PolicyRule} {tables : PolicyTables} {other : PolicyRule} :
    other ∈ (tables.addRule rule).rules ↔ other ∈ tables.rules ∨ some other = rule := by
  cases rule with
  | none => simp [PolicyTables.addRule]
  | some rule =>
      by_cases present : rule ∈ tables.rules
      · simp only [PolicyTables.addRule, present, if_true, Option.some.injEq]
        constructor
        · exact Or.inl
        · rintro (old | rfl)
          · exact old
          · exact present
      · simp [PolicyTables.addRule, present]

@[simp] theorem deleteRule_routes (rule : Option PolicyRule) (tables : PolicyTables) :
    (tables.deleteRule rule).routes = tables.routes := rfl

@[simp] theorem addRule_routes (rule : Option PolicyRule) (tables : PolicyTables) :
    (tables.addRule rule).routes = tables.routes := by
  unfold PolicyTables.addRule
  split
  · split <;> rfl
  · rfl

@[simp] theorem replaceRoute_rules (links : String → Bool) (device : String) (table : Nat)
    (tables : PolicyTables) : (tables.replaceRoute links device table).rules = tables.rules := by
  unfold PolicyTables.replaceRoute
  split <;> rfl

@[simp] theorem flush_rules (table : Nat) (tables : PolicyTables) :
    (tables.flush table).rules = tables.rules := rfl

theorem mem_apply {links : String → Bool} {device : String} {routing : PolicyRouting}
    {tables : PolicyTables} {rule : PolicyRule} :
    rule ∈ (routing.apply links device tables).rules ↔
      rule ∈ tables.rules ∨ routing.rule = some rule := by
  simp only [PolicyRouting.apply, replaceRoute_rules, mem_addRule, mem_deleteRule]
  by_cases own : routing.rule = some rule
  · simp [own]
  · simp [own, Ne.symm own]

theorem apply_routes {links : String → Bool} {device : String} (up : links device = true)
    (routing : PolicyRouting) (tables : PolicyTables) :
    (routing.apply links device tables).routes =
      Function.update tables.routes routing.tableId (some device) := by
  simp [PolicyRouting.apply, PolicyTables.replaceRoute, up]

theorem replaceRoute_routes_own (links : String → Bool) (device : String) (table : Nat)
    (tables : PolicyTables) :
    (tables.replaceRoute links device table).routes table =
      if links device then some device else tables.routes table := by
  unfold PolicyTables.replaceRoute
  split
  · exact Function.update_self _ _ _
  · rfl

theorem apply_routes_own (links : String → Bool) (device : String) (routing : PolicyRouting)
    (tables : PolicyTables) :
    (routing.apply links device tables).routes routing.tableId =
      if links device then some device else tables.routes routing.tableId := by
  rw [PolicyRouting.apply, replaceRoute_routes_own, addRule_routes, deleteRule_routes]

theorem replaceRoute_routes_other {table other : Nat} (different : table ≠ other)
    (links : String → Bool) (device : String) (tables : PolicyTables) :
    (tables.replaceRoute links device table).routes other = tables.routes other := by
  unfold PolicyTables.replaceRoute
  split
  · exact Function.update_of_ne (Ne.symm different) _ _
  · rfl

theorem apply_routes_other {routing : PolicyRouting} {table : Nat} (other : routing.tableId ≠ table)
    (links : String → Bool) (device : String) (tables : PolicyTables) :
    (routing.apply links device tables).routes table = tables.routes table := by
  rw [PolicyRouting.apply, replaceRoute_routes_other other, addRule_routes, deleteRule_routes]

theorem ensure_ok {links : String → Bool} {probeWorks : Bool} {device : String}
    {routing : PolicyRouting} {tables next : PolicyTables}
    (ran : routing.ensure links probeWorks device tables = .ok next) :
    ∃ ruled : PolicyTables, ruled.routes = tables.routes ∧
      next = ruled.replaceRoute links device routing.tableId := by
  simp only [PolicyRouting.ensure, bind_ok, pure_ok] at ran
  obtain ⟨present, -, rfl⟩ := ran
  exact ⟨_, by split <;> simp, rfl⟩

theorem mem_cleanup {routing : PolicyRouting} {tables : PolicyTables} {rule : PolicyRule} :
    rule ∈ (routing.cleanup tables).rules ↔ rule ∈ tables.rules ∧ routing.rule ≠ some rule := by
  simp only [PolicyRouting.cleanup, flush_rules, mem_deleteRule, ne_comm]

theorem cleanup_routes (routing : PolicyRouting) (tables : PolicyTables) :
    (routing.cleanup tables).routes = Function.update tables.routes routing.tableId none := rfl

section Reassert

variable {links : String → Bool} {config : AppConfig}

theorem mem_reassertTargets {targets : List RoutingTarget} {tables : PolicyTables}
    {rule : PolicyRule} :
    rule ∈ (reassertTargets links config targets tables).rules ↔
      rule ∈ tables.rules ∨
        ∃ target ∈ targets, skipsTarget config target = false ∧
          target.policyRouting.rule = some rule := by
  induction targets generalizing tables with
  | nil => simp [reassertTargets]
  | cons target rest ih =>
      rw [reassertTargets, ih]
      cases skipped : skipsTarget config target with
      | true => simp [skipped]
      | false =>
          simp only [Bool.false_eq_true, if_false, mem_apply, List.mem_cons, exists_eq_or_imp,
            skipped, true_and, or_assoc]

theorem reassertTargets_routes_other {targets : List RoutingTarget} {table : Nat}
    (free : ∀ target ∈ targets, skipsTarget config target = false → target.tableId ≠ table)
    (tables : PolicyTables) :
    (reassertTargets links config targets tables).routes table = tables.routes table := by
  induction targets generalizing tables with
  | nil => rfl
  | cons target rest ih =>
      rw [reassertTargets, ih fun other member => free other (by simp [member])]
      cases skipped : skipsTarget config target with
      | true => simp
      | false =>
          rw [if_neg (by simp)]
          exact apply_routes_other (free target (by simp) skipped) _ _ _

theorem reassertTargets_routes {targets : List RoutingTarget}
    (up : ∀ device, links device = true)
    (distinct : (targets.map (·.tableId)).Nodup) {target : RoutingTarget} (member : target ∈ targets)
    (reasserted : skipsTarget config target = false) (tables : PolicyTables) :
    (reassertTargets links config targets tables).routes target.tableId =
      some (routeDevice config target.interface) := by
  induction targets generalizing tables with
  | nil => simp at member
  | cons first rest ih =>
      rw [List.map_cons, List.nodup_cons] at distinct
      rw [reassertTargets]
      rcases List.mem_cons.mp member with rfl | later
      · have free : ∀ other ∈ rest, skipsTarget config other = false →
            other.tableId ≠ target.tableId := by
          intro other otherMember _ same
          exact distinct.1 (List.mem_map.mpr ⟨other, otherMember, same⟩)
        rw [reassertTargets_routes_other free, reasserted]
        simp only [Bool.false_eq_true, if_false, apply_routes (up _)]
        exact Function.update_self _ _ _
      · exact ih distinct.2 later _

end Reassert

def IsStale (names : List String) (entries : List (String × PolicyRouting))
    (routing : PolicyRouting) : Prop :=
  ∃ entry ∈ entries, entry.1 ∉ names ∧ entry.2 = routing

theorem mem_cleanupEntries {names : List String} {entries : List (String × PolicyRouting)}
    {tables : PolicyTables} {rule : PolicyRule} :
    rule ∈ (cleanupEntries names entries tables).rules ↔
      rule ∈ tables.rules ∧ ∀ routing, IsStale names entries routing → routing.rule ≠ some rule := by
  induction entries generalizing tables with
  | nil => simp [cleanupEntries, IsStale]
  | cons entry rest ih =>
      have split : (∀ routing, IsStale names (entry :: rest) routing → routing.rule ≠ some rule) ↔
          (entry.1 ∉ names → entry.2.rule ≠ some rule) ∧
            ∀ routing, IsStale names rest routing → routing.rule ≠ some rule := by
        simp [IsStale, or_imp, forall_and]
      rw [cleanupEntries, ih, split]
      by_cases current : entry.1 ∈ names
      · simp [current]
      · simp only [current, if_false, mem_cleanup, not_false_eq_true, true_imp_iff, and_assoc]

theorem cleanupEntries_routes {names : List String} {entries : List (String × PolicyRouting)}
    {tables : PolicyTables} {table : Nat} {device : String} :
    (cleanupEntries names entries tables).routes table = some device ↔
      tables.routes table = some device ∧
        ∀ routing, IsStale names entries routing → routing.tableId ≠ table := by
  induction entries generalizing tables with
  | nil => simp [cleanupEntries, IsStale]
  | cons entry rest ih =>
      have split : (∀ routing, IsStale names (entry :: rest) routing → routing.tableId ≠ table) ↔
          (entry.1 ∉ names → entry.2.tableId ≠ table) ∧
            ∀ routing, IsStale names rest routing → routing.tableId ≠ table := by
        simp [IsStale, or_imp, forall_and]
      rw [cleanupEntries, ih, split]
      by_cases current : entry.1 ∈ names
      · simp [current]
      · simp only [current, if_false, cleanup_routes, not_false_eq_true, true_imp_iff]
        by_cases same : entry.2.tableId = table
        · simp [same]
        · rw [Function.update_of_ne (Ne.symm same)]
          simp [same]

end Korserver
