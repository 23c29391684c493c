import Mathlib.Algebra.Order.Group.Defs
import Mathlib.Data.List.Basic

/-!
A limit on failed attempts in a sliding window of time, when attempts overlap: an attempt is
admitted while few failures are on record, evaluated later, and recorded or cleared later still.
-/

namespace AttemptLimit

variable {Time : Type} [AddCommGroup Time] [LinearOrder Time]

/-- The failures on record, the attempts under way by what is known of them, and what was
evaluated, the latest one first. -/
@[ext] structure Attempts (Time : Type) where
  failures : List Time := []
  admitted : Nat := 0
  wrong : Nat := 0
  right : Nat := 0
  evaluations : List (Time × Bool) := []

inductive Event (Time : Type)
  | accept (time : Time)
  | refuse (time : Time)
  | evaluate (time : Time) (isRight : Bool)
  | raise (time : Time)
  | record (time : Time)
  | clear (time evaluated : Time)

def Event.time : Event Time → Time
  | .accept time | .refuse time | .evaluate time _ | .raise time | .record time | .clear time _ => time

def counted (window now : Time) (failures : List Time) : List Time :=
  failures.filter fun failure => decide (now - window ≤ failure)

namespace Attempts

def underway (state : Attempts Time) : Nat := state.admitted + state.wrong + state.right

def step (window : Time) (state : Attempts Time) : Event Time → Attempts Time
  | .accept now =>
      { state with failures := counted window now state.failures, admitted := state.admitted + 1 }
  | .refuse now => { state with failures := counted window now state.failures }
  | .evaluate now true =>
      { state with
        admitted := state.admitted - 1
        right := state.right + 1
        evaluations := (now, true) :: state.evaluations }
  | .evaluate now false =>
      { state with
        admitted := state.admitted - 1
        wrong := state.wrong + 1
        evaluations := (now, false) :: state.evaluations }
  | .raise now =>
      { state with admitted := state.admitted - 1, evaluations := (now, false) :: state.evaluations }
  | .record now => { state with failures := state.failures ++ [now], wrong := state.wrong - 1 }
  | .clear _ _ => { state with failures := [], right := state.right - 1 }

def Possible (state : Attempts Time) : Event Time → Prop
  | .evaluate _ _ | .raise _ => 0 < state.admitted
  | .record _ => 0 < state.wrong
  | .clear _ evaluated => 0 < state.right ∧ (evaluated, true) ∈ state.evaluations
  | _ => True

/-- Attempts under way are counted as failures when another is admitted, none is lost, and a
success clears only what was on record when it was evaluated. -/
def Orderly (limit : Nat) (window : Time) (state : Attempts Time) : Event Time → Prop
  | .accept now => (counted window now state.failures).length + state.underway < limit
  | .raise _ => False
  | .clear _ evaluated => ∀ failure ∈ state.failures, failure ≤ evaluated
  | _ => True

instance (limit : Nat) (window : Time) (state : Attempts Time) (event : Event Time) :
    Decidable (state.Orderly limit window event) :=
  match event with
  | .accept now =>
      inferInstanceAs (Decidable ((counted window now state.failures).length + state.underway < limit))
  | .raise _ => inferInstanceAs (Decidable False)
  | .clear _ evaluated => inferInstanceAs (Decidable (∀ failure ∈ state.failures, failure ≤ evaluated))
  | .refuse _ | .evaluate _ _ | .record _ => inferInstanceAs (Decidable True)

def within (window start : Time) (evaluation : Time × Bool) : Bool :=
  decide (start ≤ evaluation.1) && decide (evaluation.1 ≤ start + window)

def Successless (window start : Time) (state : Attempts Time) : Prop :=
  ∀ evaluation ∈ state.evaluations, within window start evaluation = true → evaluation.2 = false

def evaluatedWithin (window start : Time) (state : Attempts Time) : Nat :=
  state.evaluations.countP (within window start)

/-- In a window without a success at most `limit` attempts were evaluated. -/
def Limited (limit : Nat) (window : Time) (state : Attempts Time) : Prop :=
  ∀ start, state.Successless window start → state.evaluatedWithin window start ≤ limit

def recent (start : Time) (state : Attempts Time) : Nat :=
  state.failures.countP fun failure => decide (start ≤ failure)

/-- What holds of a window when the clock stands at `now`. -/
structure Bounded (limit : Nat) (window start : Time) (state : Attempts Time) (now : Time) : Prop where
  past : ∀ evaluation ∈ state.evaluations, evaluation.1 ≤ now
  room : state.recent start + state.underway ≤ limit
  covered : now ≤ start + window → state.Successless window start →
    state.evaluatedWithin window start ≤ state.recent start + state.wrong
  few : state.Successless window start → state.evaluatedWithin window start ≤ limit

section

variable {limit : Nat} {window start now : Time} {state : Attempts Time}

theorem recent_counted_le (time : Time) :
    (counted window time state.failures).countP (fun failure => decide (start ≤ failure)) ≤
      state.recent start :=
  List.filter_sublist.countP_le

theorem evaluatedWithin_eq_zero (past : ∀ evaluation ∈ state.evaluations, evaluation.1 ≤ now)
    (before : now < start) : state.evaluatedWithin window start = 0 := by
  refine List.countP_eq_zero.mpr fun evaluation member => ?_
  have early : evaluation.1 < start := lt_of_le_of_lt (past evaluation member) before
  simp [within, not_le.mpr early]

theorem Bounded.later (bounded : Bounded limit window start state now) {time : Time}
    (later : now ≤ time) : Bounded limit window start state time where
  past evaluation member := le_trans (bounded.past evaluation member) later
  room := bounded.room
  covered lasts := bounded.covered (le_trans later lasts)
  few := bounded.few

theorem Bounded.evaluate_wrong (bounded : Bounded limit window start state now)
    (possible : Possible state (.evaluate now false)) :
    Bounded limit window start (state.step window (.evaluate now false)) now := by
  have admitted : 0 < state.admitted := possible
  have room := bounded.room
  simp only [underway] at room
  have counts : within window start (now, false) = true → state.Successless window start →
      state.evaluatedWithin window start + 1 ≤ state.recent start + (state.wrong + 1) := by
    intro inside success
    have lasts : now ≤ start + window := by
      simp only [within, Bool.and_eq_true, decide_eq_true_eq] at inside
      exact inside.2
    exact Nat.succ_le_succ (bounded.covered lasts success)
  refine ⟨List.forall_mem_cons.mpr ⟨le_rfl, bounded.past⟩, ?_, ?_, ?_⟩
  · simp only [step, recent, underway] at room ⊢
    omega
  · intro lasts success
    have before : state.Successless window start := (List.forall_mem_cons.mp success).2
    by_cases inside : within window start (now, false) = true
    · have count := counts inside before
      simp only [evaluatedWithin, step, recent, List.countP_cons_of_pos inside] at count ⊢
      exact count
    · have covered := bounded.covered lasts before
      simp only [evaluatedWithin, step, List.countP_cons_of_neg inside, recent] at covered ⊢
      exact Nat.le_succ_of_le covered
  · intro success
    have before : state.Successless window start := (List.forall_mem_cons.mp success).2
    by_cases inside : within window start (now, false) = true
    · have count := counts inside before
      simp only [evaluatedWithin, step, List.countP_cons_of_pos inside] at count ⊢
      omega
    · simpa only [evaluatedWithin, step, List.countP_cons_of_neg inside] using bounded.few before

theorem Bounded.evaluate_right (bounded : Bounded limit window start state now)
    (possible : Possible state (.evaluate now true)) :
    Bounded limit window start (state.step window (.evaluate now true)) now := by
  have admitted : 0 < state.admitted := possible
  have unchanged : (state.step window (.evaluate now true)).Successless window start →
      state.Successless window start ∧
        (state.step window (.evaluate now true)).evaluatedWithin window start =
          state.evaluatedWithin window start := by
    intro success
    obtain ⟨outside, before⟩ := List.forall_mem_cons.mp success
    refine ⟨before, List.countP_cons_of_neg ?_⟩
    intro inside
    exact absurd (outside inside) (by simp)
  refine ⟨List.forall_mem_cons.mpr ⟨le_rfl, bounded.past⟩, ?_, ?_, ?_⟩
  · have room := bounded.room
    simp only [step, recent, underway] at room ⊢
    omega
  · intro lasts success
    obtain ⟨before, same⟩ := unchanged success
    rw [same]
    exact bounded.covered lasts before
  · intro success
    obtain ⟨before, same⟩ := unchanged success
    rw [same]
    exact bounded.few before

theorem Bounded.record (bounded : Bounded limit window start state now)
    (possible : Possible state (.record now)) :
    Bounded limit window start (state.step window (.record now)) now := by
  have wrong : 0 < state.wrong := possible
  refine ⟨bounded.past, ?_, ?_, bounded.few⟩
  · have room := bounded.room
    have one : [now].countP (fun failure => decide (start ≤ failure)) ≤ 1 := List.countP_le_length
    simp only [step, recent, underway, List.countP_append] at room ⊢
    omega
  · intro lasts success
    rcases lt_or_ge now start with before | inside
    · have none : state.evaluatedWithin window start = 0 := evaluatedWithin_eq_zero bounded.past before
      simp only [evaluatedWithin, step] at none ⊢
      omega
    · have covered := bounded.covered lasts success
      have one : [now].countP (fun failure => decide (start ≤ failure)) = 1 := by simp [inside]
      simp only [evaluatedWithin, step, recent, List.countP_append, one] at covered ⊢
      omega

/-- What a success clears in a window that it does not lie in was on record before the window. -/
theorem Bounded.clear (bounded : Bounded limit window start state now) {evaluated : Time}
    (possible : Possible state (.clear now evaluated))
    (orderly : Orderly limit window state (.clear now evaluated)) :
    Bounded limit window start (state.step window (.clear now evaluated)) now := by
  obtain ⟨right, logged⟩ := possible
  refine ⟨bounded.past, ?_, ?_, bounded.few⟩
  · have room := bounded.room
    simp only [step, recent, underway, List.countP_nil] at room ⊢
    omega
  · intro lasts success
    have early : evaluated < start := by
      by_contra late
      have inside : within window start (evaluated, true) = true := by
        simp only [within, Bool.and_eq_true, decide_eq_true_eq]
        exact ⟨not_lt.mp late, le_trans (bounded.past _ logged) lasts⟩
      exact absurd (success _ logged inside) (by simp)
    have older : state.recent start = 0 := by
      refine List.countP_eq_zero.mpr fun failure member => ?_
      have before : failure < start := lt_of_le_of_lt (orderly failure member) early
      simp [not_le.mpr before]
    have covered := bounded.covered lasts success
    simp only [evaluatedWithin, step, recent, List.countP_nil] at covered older ⊢
    omega

theorem Bounded.initial (limit : Nat) (window start now : Time) :
    Bounded limit window start {} now where
  past := by simp
  room := by simp [recent, underway]
  covered _ _ := Nat.zero_le _
  few _ := Nat.zero_le _

end

section

variable [IsOrderedAddMonoid Time] {limit : Nat} {window start now : Time} {state : Attempts Time}

theorem recent_counted {time : Time} (lasts : time ≤ start + window) :
    (counted window time state.failures).countP (fun failure => decide (start ≤ failure)) =
      state.recent start := by
  rw [counted, recent, List.countP_filter]
  refine List.countP_congr fun failure _ => ?_
  have counts : start ≤ failure → time - window ≤ failure :=
    fun later => le_trans (sub_le_iff_le_add.mpr lasts) later
  simpa using counts

theorem Bounded.covered_counted (bounded : Bounded limit window start state now)
    (lasts : now ≤ start + window) (success : state.Successless window start) :
    state.evaluatedWithin window start ≤
      (counted window now state.failures).countP (fun failure => decide (start ≤ failure)) +
        state.wrong := by
  rw [recent_counted lasts]
  exact bounded.covered lasts success

theorem Bounded.step (bounded : Bounded limit window start state now) {event : Event Time}
    (later : now ≤ event.time) (possible : Possible state event)
    (orderly : Orderly limit window state event) :
    Bounded limit window start (state.step window event) event.time := by
  have bounded := bounded.later later
  cases event with
  | accept time =>
      refine ⟨bounded.past, ?_, bounded.covered_counted, bounded.few⟩
      have counts : (counted window time state.failures).countP
          (fun failure => decide (start ≤ failure)) ≤ (counted window time state.failures).length :=
        List.countP_le_length
      simp only [Orderly, underway] at orderly
      simp only [Attempts.step, recent, underway]
      omega
  | refuse time =>
      refine ⟨bounded.past, ?_, bounded.covered_counted, bounded.few⟩
      have fewer : (counted window time state.failures).countP (fun failure => decide (start ≤ failure)) ≤
          state.recent start := recent_counted_le time
      have room := bounded.room
      simp only [Attempts.step, recent, underway] at fewer room ⊢
      omega
  | evaluate time isRight =>
      cases isRight with
      | false => exact bounded.evaluate_wrong possible
      | true => exact bounded.evaluate_right possible
  | raise time => exact absurd orderly id
  | record time => exact bounded.record possible
  | clear time evaluated => exact bounded.clear possible orderly

end

end Attempts

end AttemptLimit
