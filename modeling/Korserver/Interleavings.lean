import Korserver.Runs
import Mathlib.Data.List.Basic

/-!
Two processes that take turns on a shared state, each with a state of its own. A schedule says
whose turn it is; every schedule is possible.
-/

namespace Interleavings

inductive Side
  | left
  | right
  deriving DecidableEq

structure Pair (Shared Left Right : Type) where
  shared : Shared
  left : Left
  right : Right

variable {Shared Left Right : Type}

def turn (left : Shared → Left → Shared × Left) (right : Shared → Right → Shared × Right)
    (pair : Pair Shared Left Right) : Side → Pair Shared Left Right
  | .left =>
      let next := left pair.shared pair.left
      { pair with shared := next.1, left := next.2 }
  | .right =>
      let next := right pair.shared pair.right
      { pair with shared := next.1, right := next.2 }

def Pair.swap (pair : Pair Shared Left Right) : Pair Shared Right Left :=
  { shared := pair.shared, left := pair.right, right := pair.left }

/-! Any number of processes, kept in a list by number: how many of them are in a phase. -/

theorem countP_set_of_getElem? {Entry : Type} {entries : List Entry} {index : Nat} {old : Entry}
    (found : entries[index]? = some old) (holds : Entry → Bool) (new : Entry) :
    (entries.set index new).countP holds =
      entries.countP holds - (if holds old then 1 else 0) + (if holds new then 1 else 0) := by
  obtain ⟨bound, rfl⟩ := List.getElem?_eq_some_iff.mp found
  exact List.countP_set bound

theorem countP_pos_of_getElem? {Entry : Type} {entries : List Entry} {index : Nat} {entry : Entry}
    (found : entries[index]? = some entry) {holds : Entry → Bool} (true_of : holds entry = true) :
    0 < entries.countP holds :=
  List.countP_pos_iff.mpr ⟨entry, List.mem_of_getElem? found, true_of⟩

/-- `final` is what the operations make of `initial` in some order. -/
def Sequential {State Operation : Type} (perform : State → Operation → State) (initial final : State)
    (operations : List Operation) : Prop :=
  ∃ order : List Operation, order.Perm operations ∧ order.foldl perform initial = final

namespace Sequential

variable {State Operation : Type} {perform : State → Operation → State} {initial final : State}
  {operations : List Operation}

theorem nil : Sequential perform initial initial [] := ⟨[], List.Perm.refl [], rfl⟩

theorem next (sequential : Sequential perform initial final operations) (operation : Operation)
    {operations' : List Operation} (more : operations'.Perm (operation :: operations)) :
    Sequential perform initial (perform final operation) operations' := by
  obtain ⟨order, same, reached⟩ := sequential
  refine ⟨order ++ [operation], ?_, by rw [List.foldl_append, reached]; rfl⟩
  exact ((List.perm_append_singleton operation order).trans (same.cons operation)).trans more.symm

end Sequential

theorem filterMap_set_perm {Entry Operation : Type} {entries : List Entry} {index : Nat} {old new : Entry}
    (found : entries[index]? = some old) {pick : Entry → Option Operation} {operation : Operation}
    (before : pick old = none) (after : pick new = some operation) :
    ((entries.set index new).filterMap pick).Perm (operation :: entries.filterMap pick) := by
  induction entries generalizing index with
  | nil => cases found
  | cons entry rest ih =>
      cases index with
      | zero =>
          obtain rfl := Option.some.inj found
          rw [List.set_cons_zero, List.filterMap_cons_some after, List.filterMap_cons_none before]
      | succ index =>
          have later := ih (by simpa using found)
          rw [List.set_cons_succ]
          cases picked : pick entry with
          | none => rwa [List.filterMap_cons_none picked, List.filterMap_cons_none picked]
          | some other =>
              rw [List.filterMap_cons_some picked, List.filterMap_cons_some picked]
              exact (later.cons other).trans (List.Perm.swap ..)

theorem filterMap_set_same {Entry Operation : Type} {entries : List Entry} {index : Nat} {old new : Entry}
    (found : entries[index]? = some old) {pick : Entry → Option Operation} (same : pick new = pick old) :
    (entries.set index new).filterMap pick = entries.filterMap pick := by
  induction entries generalizing index with
  | nil => rfl
  | cons entry rest ih =>
      cases index with
      | zero =>
          obtain rfl := Option.some.inj found
          rw [List.set_cons_zero, List.filterMap_cons, List.filterMap_cons, same]
      | succ index =>
          rw [List.set_cons_succ, List.filterMap_cons, List.filterMap_cons, ih (by simpa using found)]

end Interleavings
