import Mathlib.Data.List.Infix

/-!
Replacing parts of a list by a mark. What has no mark in it and is in the result was in the list, and
a part that is always replaced is in no result.
-/

namespace Redaction

variable {α : Type} {mark : α}

inductive Marked (mark : α) : List α → List α → Prop
  | nil : Marked mark [] []
  | keep (item : α) {before after : List α} : Marked mark before after → Marked mark (item :: before) (item :: after)
  | hide (part : List α) {before after : List α} :
      Marked mark before after → Marked mark (part ++ before) (mark :: after)

namespace Marked

variable {before after before' after' part : List α}

theorem refl (mark : α) (items : List α) : Marked mark items items := by
  induction items with
  | nil => exact nil
  | cons item rest ih => exact keep item ih

theorem append (first : Marked mark before after) (second : Marked mark before' after') :
    Marked mark (before ++ before') (after ++ after') := by
  induction first with
  | nil => exact second
  | keep item _ ih => exact keep item ih
  | hide part _ ih =>
      rw [List.append_assoc]
      exact hide part ih

theorem hidden (part : List α) (count : Nat) : Marked mark part (mark :: List.replicate count mark) := by
  have last (part : List α) : Marked mark part [mark] := by
    have hides := hide part (@nil _ mark)
    rwa [List.append_nil] at hides
  induction count generalizing part with
  | zero => exact last part
  | succ count ih =>
      have both := (last part).append (ih [])
      rwa [List.append_nil] at both

theorem revealsStart (marked : Marked mark before after) (plain : mark ∉ part) (start : part <+: after) :
    part <+: before := by
  induction marked generalizing part with
  | nil => exact start
  | keep item _ ih =>
      cases part with
      | nil => exact List.nil_prefix
      | cons first rest =>
          rw [List.cons_prefix_cons] at start ⊢
          exact ⟨start.1, ih (List.not_mem_of_not_mem_cons plain) start.2⟩
  | hide hidden _ ih =>
      cases part with
      | nil => exact List.nil_prefix
      | cons first rest =>
          rw [List.cons_prefix_cons] at start
          exact absurd (start.1 ▸ List.mem_cons_self) plain

theorem reveals (marked : Marked mark before after) (plain : mark ∉ part) (inside : part <:+: after) :
    part <:+: before := by
  induction marked with
  | nil => exact inside
  | keep item rest ih =>
      rcases List.infix_cons_iff.mp inside with start | later
      · exact (revealsStart (keep item rest) plain start).isInfix
      · exact (ih later).trans (List.suffix_cons _ _).isInfix
  | hide hidden rest ih =>
      rcases List.infix_cons_iff.mp inside with start | later
      · exact (revealsStart (hide hidden rest) plain start).isInfix
      · exact (ih later).trans (List.suffix_append _ _).isInfix

end Marked

section

variable (find : List α → Option Nat) (replacement : List α)

/-- `find` says how much of a list matches at its start; the count is what is left of the current match. -/
def substitute : Nat → List α → List α
  | _, [] => []
  | left + 1, _ :: rest => substitute left rest
  | 0, item :: rest =>
      match find (item :: rest) with
      | some length => replacement ++ substitute (length - 1) rest
      | none => item :: substitute 0 rest

example : substitute (fun _ => none) [0] 0 [1, 2] = [1, 2] := by simp [substitute]

variable {find replacement}

theorem substitute_drop (left : Nat) (items : List α) :
    substitute find replacement left items = substitute find replacement 0 (items.drop left) := by
  induction items generalizing left with
  | nil => simp [substitute]
  | cons item rest ih =>
      cases left with
      | zero => rfl
      | succ left => rw [substitute, ih, List.drop_succ_cons]

theorem substitute_none {items : List α} (unmatched : ∀ rest, rest <:+ items → find rest = none) :
    substitute find replacement 0 items = items := by
  induction items with
  | nil => rfl
  | cons item rest ih =>
      simp only [substitute, unmatched _ List.suffix_rfl,
        ih fun other suffix => unmatched other (suffix.trans (List.suffix_cons _ _))]

theorem substitute_some {item : α} {rest : List α} {length : Nat} (found : find (item :: rest) = some length)
    (positive : 0 < length) : substitute find replacement 0 (item :: rest) =
      replacement ++ substitute find replacement 0 ((item :: rest).drop length) := by
  obtain ⟨count, rfl⟩ := Nat.exists_eq_succ_of_ne_zero (Nat.pos_iff_ne_zero.mp positive)
  simp only [substitute, found, Nat.succ_sub_one, List.drop_succ_cons]
  rw [substitute_drop]

theorem substitute_same {items : List α} (same : ∀ rest length, rest <:+ items → find rest = some length →
    0 < length ∧ rest.take length = replacement) : substitute find replacement 0 items = items := by
  induction size : items.length using Nat.strongRecOn generalizing items with
  | ind size ih =>
      cases items with
      | nil => rfl
      | cons item rest =>
          cases found : find (item :: rest) with
          | none =>
              have later := ih rest.length (by simp [← size])
                (fun other length suffix => same other length (suffix.trans (List.suffix_cons _ _))) rfl
              simp only [substitute, found, later]
          | some length =>
              obtain ⟨positive, whole⟩ := same _ _ List.suffix_rfl found
              have later := ih ((item :: rest).drop length).length
                (by rw [← size, List.length_drop, List.length_cons]; omega)
                (fun other length suffix => same other length (suffix.trans (List.drop_suffix _ _))) rfl
              rw [substitute_some found positive, later, ← whole, List.take_append_drop]

def Hides (mark : α) (find : List α → Option Nat) (replacement : List α) : Prop :=
  ∀ items length, find items = some length → 0 < length ∧ Marked mark (items.take length) replacement

theorem substitute_marked (hides : Hides mark find replacement) (items : List α) :
    Marked mark items (substitute find replacement 0 items) := by
  induction size : items.length using Nat.strongRecOn generalizing items with
  | ind size ih =>
      cases items with
      | nil => exact .nil
      | cons item rest =>
          cases found : find (item :: rest) with
          | none =>
              simp only [substitute, found]
              exact .keep item (ih rest.length (by simp [← size]) rest rfl)
          | some length =>
              obtain ⟨positive, marked⟩ := hides _ _ found
              rw [substitute_some found positive]
              have later := ih ((item :: rest).drop length).length
                (by rw [← size, List.length_drop, List.length_cons]; omega) _ rfl
              have whole := marked.append later
              rwa [List.take_append_drop] at whole

theorem substitute_free (hides : Hides mark find replacement) {part : List α} (plain : mark ∉ part)
    (nonempty : part ≠ []) (matches_ : ∀ rest, part <+: rest → (find rest).isSome = true)
    (block : ∀ rest, part <:+: replacement ++ rest → part <:+: rest) (items : List α) :
    ¬part <:+: substitute find replacement 0 items := by
  induction size : items.length using Nat.strongRecOn generalizing items with
  | ind size ih =>
      intro inside
      cases items with
      | nil => exact nonempty (List.eq_nil_of_infix_nil inside)
      | cons item rest =>
          cases found : find (item :: rest) with
          | none =>
              have marked := substitute_marked hides (item :: rest)
              simp only [substitute, found] at inside marked
              rcases List.infix_cons_iff.mp inside with start | later
              · have known := matches_ _ (marked.revealsStart plain start)
                rw [found] at known
                nomatch known
              · exact ih rest.length (by simp [← size]) rest rfl later
          | some length =>
              obtain ⟨positive, -⟩ := hides _ _ found
              rw [substitute_some found positive] at inside
              exact ih ((item :: rest).drop length).length
                (by rw [← size, List.length_drop, List.length_cons]; omega) _ rfl (block _ inside)

end

end Redaction
