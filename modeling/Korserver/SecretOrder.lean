import Korserver.SecretText
import Mathlib.Data.List.Perm.Basic

/-!
Whether it makes a difference in which order `mask_text` takes the secrets.
-/

namespace Korserver

open PythonText Redaction

/-- In every order no secret without asterisks is left, and the result is the same. -/
def MasksAll (secrets : List String) : Prop :=
  ∀ text order, order.Perm secrets →
    (∀ secret ∈ secrets, secret ≠ "" → '*' ∉ secret.toList → ¬Occurs secret (maskText order text)) ∧
      maskText order text = maskText secrets text

def Unreferenced (chars : List Char) : Prop := ∀ part, IsReference part → '*' ∉ part → ¬part <:+: chars

def Meet (left right union : List Char) : Prop :=
  (right <:+: left ∧ union = left) ∨
    ∃ before shared after, shared ≠ [] ∧ left = before ++ shared ∧ right = shared ++ after ∧
      union = before ++ shared ++ after

structure Clear (chars : List Char) : Prop where
  opening : chars.head? ≠ some '*'
  closing : chars.getLast? ≠ some '*'
  middle : ¬asterisks <:+: chars

/-- No two secrets have characters of a text in common, unless a reference is there as well. -/
def SecretsApart (secrets : List String) : Prop :=
  ∀ left ∈ secrets, ∀ right ∈ secrets, left ≠ right → left ≠ "" → right ≠ "" →
    Clear left.toList ∧ ∀ union, Meet left.toList right.toList union → ¬Unreferenced union

section

variable {left right : List Char}

theorem prefix_asterisks {part rest : List Char} (closing : part.getLast? ≠ some '*')
    (middle : ¬asterisks <:+: part) (start : part <+: asterisks ++ rest) : part = [] := by
  rcases part with _ | ⟨a, _ | ⟨b, _ | ⟨c, more⟩⟩⟩
  · rfl
  · obtain rfl : a = '*' := (List.cons_prefix_cons.mp start).1
    exact absurd rfl closing
  · obtain ⟨rfl, second⟩ : a = '*' ∧ _ := List.cons_prefix_cons.mp start
    obtain rfl : b = '*' := (List.cons_prefix_cons.mp second).1
    exact absurd rfl closing
  · obtain ⟨rfl, second⟩ : a = '*' ∧ _ := List.cons_prefix_cons.mp start
    obtain ⟨rfl, third⟩ : b = '*' ∧ _ := List.cons_prefix_cons.mp second
    obtain rfl : c = '*' := (List.cons_prefix_cons.mp third).1
    exact absurd ⟨[], more, rfl⟩ middle

theorem prefix_substitute {part chars : List Char} (some_ne : left ≠ []) (closing : part.getLast? ≠ some '*')
    (middle : ¬asterisks <:+: part) (start : part <+: substitute (secretLength left) asterisks 0 chars) :
    part <+: chars := by
  induction chars generalizing part with
  | nil => exact start
  | cons c rest ih =>
      cases found : secretLength left (c :: rest) with
      | some length =>
          rw [substitute_some found (hides_secret some_ne _ _ found).1] at start
          rw [prefix_asterisks closing middle start]
          exact List.nil_prefix
      | none =>
          simp only [substitute, found] at start
          cases part with
          | nil => exact List.nil_prefix
          | cons first more =>
              rw [List.cons_prefix_cons] at start ⊢
              refine ⟨start.1, ih (fun last => ?_) (fun inside => ?_) start.2⟩
              · cases more with
                | nil => cases last
                | cons second others => exact closing (by rwa [List.getLast?_cons_cons])
              · exact middle (inside.trans (List.suffix_cons _ _).isInfix)

theorem substitute_past {part more : List Char}
    (unmatched : ∀ rest, rest ≠ [] → rest <:+ part → ¬right <+: rest ++ more) :
    substitute (secretLength right) asterisks 0 (part ++ more) =
      part ++ substitute (secretLength right) asterisks 0 more := by
  induction part with
  | nil => rfl
  | cons c part ih =>
      have none : secretLength right (c :: (part ++ more)) = none :=
        if_neg (unmatched (c :: part) (List.cons_ne_nil _ _) List.suffix_rfl)
      rw [List.cons_append]
      simp only [substitute, none]
      rw [ih fun rest rest_ne suffix => unmatched rest rest_ne (suffix.trans (List.suffix_cons _ _)), List.cons_append]

theorem eq_of_mem_asterisks {c : Char} (member : c ∈ asterisks) : c = '*' := by
  simpa [asterisks] using member

theorem substitute_asterisks (some_ne : right ≠ []) (opening : right.head? ≠ some '*') (more : List Char) :
    substitute (secretLength right) asterisks 0 (asterisks ++ more) =
      asterisks ++ substitute (secretLength right) asterisks 0 more := by
  refine substitute_past fun rest rest_ne suffix start => ?_
  obtain ⟨c, others, rfl⟩ := List.exists_cons_of_ne_nil rest_ne
  obtain rfl : c = '*' := eq_of_mem_asterisks (suffix.subset List.mem_cons_self)
  cases right with
  | nil => exact some_ne rfl
  | cons first later => exact opening (congrArg some (List.cons_prefix_cons.mp start).1)

theorem unreferenced_within {part chars : List Char} (unreferenced : Unreferenced chars) (inside : part <:+: chars) :
    Unreferenced part :=
  fun reference isReference plain within => unreferenced reference isReference plain (within.trans inside)

theorem substitute_apart (apart : ∀ union, Meet left right union → ¬Unreferenced union) {more : List Char}
    (unreferenced : Unreferenced (left ++ more)) :
    substitute (secretLength right) asterisks 0 (left ++ more) =
      left ++ substitute (secretLength right) asterisks 0 more := by
  refine substitute_past fun shared shared_ne suffix start => ?_
  obtain ⟨before, rfl⟩ := suffix
  by_cases short : right.length ≤ shared.length
  · have inside : right <:+: before ++ shared :=
      (List.prefix_of_prefix_length_le start (List.prefix_append _ _) short).isInfix.trans
        (List.suffix_append _ _).isInfix
    exact apart _ (Or.inl ⟨inside, rfl⟩) (unreferenced_within unreferenced (List.prefix_append _ _).isInfix)
  · obtain ⟨after, rfl⟩ := List.prefix_of_prefix_length_le (List.prefix_append _ _) start (Nat.le_of_not_le short)
    rw [List.prefix_append_right_inj] at start
    refine apart _ (Or.inr ⟨before, shared, after, shared_ne, rfl, rfl, rfl⟩) (unreferenced_within unreferenced ?_)
    exact ((List.prefix_append_right_inj _).mpr start).isInfix

theorem substitute_comm (left_ne : left ≠ []) (right_ne : right ≠ []) (leftClear : Clear left)
    (rightClear : Clear right) (apart : ∀ union, Meet left right union → ¬Unreferenced union)
    (apart' : ∀ union, Meet right left union → ¬Unreferenced union) {chars : List Char}
    (unreferenced : Unreferenced chars) :
    substitute (secretLength right) asterisks 0 (substitute (secretLength left) asterisks 0 chars) =
      substitute (secretLength left) asterisks 0 (substitute (secretLength right) asterisks 0 chars) := by
  induction size : chars.length using Nat.strongRecOn generalizing chars with
  | ind size ih =>
      have whole {part : List Char} (part_ne : part ≠ []) (rest : List Char) :
          substitute (secretLength part) asterisks 0 (part ++ rest) =
            asterisks ++ substitute (secretLength part) asterisks 0 rest := by
        obtain ⟨c, others, rfl⟩ := List.exists_cons_of_ne_nil part_ne
        have found : secretLength (c :: others) (c :: (others ++ rest)) = some (c :: others).length :=
          if_pos (List.prefix_append _ _)
        rw [List.cons_append, substitute_some found (Nat.succ_pos _), ← List.cons_append, List.drop_left]
      have shorter {part : List Char} (part_ne : part ≠ []) (rest : List Char) :
          rest.length < (part ++ rest).length := by
        have positive := List.length_pos_iff.mpr part_ne
        rw [List.length_append]
        omega
      by_cases leftStart : left <+: chars
      · obtain ⟨rest, rfl⟩ := leftStart
        have later := unreferenced_within unreferenced (List.suffix_append left rest).isInfix
        rw [whole left_ne, substitute_asterisks right_ne rightClear.opening, substitute_apart apart unreferenced,
          whole left_ne, ih rest.length (size ▸ shorter left_ne rest) later rfl]
      · by_cases rightStart : right <+: chars
        · obtain ⟨rest, rfl⟩ := rightStart
          have later := unreferenced_within unreferenced (List.suffix_append right rest).isInfix
          rw [whole right_ne, substitute_asterisks left_ne leftClear.opening, substitute_apart apart' unreferenced,
            whole right_ne, ih rest.length (size ▸ shorter right_ne rest) later rfl]
        · cases chars with
          | nil => rfl
          | cons c rest =>
              have kept {part items : List Char} (other : ¬part <+: c :: items) :
                  substitute (secretLength part) asterisks 0 (c :: items) =
                    c :: substitute (secretLength part) asterisks 0 items := by
                have none : secretLength part (c :: items) = none := if_neg other
                simp only [substitute, none]
              have later := unreferenced_within unreferenced (List.suffix_cons c rest).isInfix
              have rightLater : ¬right <+: c :: substitute (secretLength left) asterisks 0 rest := fun start =>
                rightStart (prefix_substitute left_ne rightClear.closing rightClear.middle (by rwa [kept leftStart]))
              have leftLater : ¬left <+: c :: substitute (secretLength right) asterisks 0 rest := fun start =>
                leftStart (prefix_substitute right_ne leftClear.closing leftClear.middle (by rwa [kept rightStart]))
              rw [kept leftStart, kept rightStart, kept rightLater, kept leftLater,
                ih rest.length (by simp [← size]) later rfl]

end

theorem replaceSecret_unreferenced {chars : List Char} (unreferenced : Unreferenced chars) (secret : String) :
    Unreferenced (replaceSecret chars secret) :=
  fun part reference plain inside =>
    unreferenced part reference plain ((replaceSecret_marked chars secret).reveals plain inside)

theorem replaceSecret_comm {secrets : List String} (apart : SecretsApart secrets) {left right : String}
    (leftMember : left ∈ secrets) (rightMember : right ∈ secrets) {chars : List Char}
    (unreferenced : Unreferenced chars) :
    replaceSecret (replaceSecret chars left) right = replaceSecret (replaceSecret chars right) left := by
  by_cases same : left = right
  · rw [same]
  by_cases left_ne : left = ""
  · simp [replaceSecret, left_ne]
  by_cases right_ne : right = ""
  · simp [replaceSecret, right_ne]
  have first := apart left leftMember right rightMember same left_ne right_ne
  have second := apart right rightMember left leftMember (Ne.symm same) right_ne left_ne
  simp only [replaceSecret, if_neg left_ne, if_neg right_ne]
  exact substitute_comm (toList_ne_nil left_ne) (toList_ne_nil right_ne) first.1 second.1 first.2 second.2 unreferenced

theorem replaceSecrets_perm {secrets order other : List String} (apart : SecretsApart secrets)
    (perm : order.Perm other) (known : ∀ secret ∈ order, secret ∈ secrets) {chars : List Char}
    (unreferenced : Unreferenced chars) : order.foldl replaceSecret chars = other.foldl replaceSecret chars := by
  induction perm generalizing chars with
  | nil => rfl
  | cons secret _ ih =>
      exact ih (fun other member => known other (List.mem_cons_of_mem _ member))
        (replaceSecret_unreferenced unreferenced secret)
  | swap first second rest =>
      have firstKnown := known first (List.mem_cons_of_mem _ List.mem_cons_self)
      have secondKnown := known second List.mem_cons_self
      rw [List.foldl_cons, List.foldl_cons, List.foldl_cons, List.foldl_cons,
        replaceSecret_comm apart secondKnown firstKnown unreferenced]
  | trans first _ ih ih' =>
      exact (ih known unreferenced).trans (ih' (fun secret member => known secret (first.mem_iff.mpr member)) unreferenced)

theorem maskReferences_unreferenced (chars : List Char) : Unreferenced (maskReferencesFrom 0 chars) :=
  fun _ reference plain => maskReferences_free reference plain chars

theorem masksAll_of_apart {secrets : List String} (apart : SecretsApart secrets) : MasksAll secrets := by
  intro text order perm
  constructor
  · exact fun secret member nonempty plain => maskText_secret plain nonempty (perm.mem_iff.mpr member) text
  · rw [← String.toList_inj, toList_maskText, toList_maskText]
    congr 1
    exact replaceSecrets_perm apart perm (fun _ member => perm.mem_iff.mp member) (maskReferences_unreferenced _)

/-! Secrets that are not apart. -/

section

variable {secret : List Char}

theorem substitute_changes (some_ne : secret ≠ []) (chars : List Char) :
    substitute (secretLength secret) asterisks 0 chars = chars ∨
      asterisks <:+: substitute (secretLength secret) asterisks 0 chars := by
  induction chars with
  | nil => exact Or.inl rfl
  | cons c rest ih =>
      cases found : secretLength secret (c :: rest) with
      | some length =>
          rw [substitute_some found (hides_secret some_ne _ _ found).1]
          exact Or.inr (List.prefix_append _ _).isInfix
      | none =>
          simp only [substitute, found]
          exact ih.imp (congrArg _) fun inside => inside.trans (List.suffix_cons _ _).isInfix

theorem substitute_nil_iff (some_ne : secret ≠ []) {chars : List Char} :
    substitute (secretLength secret) asterisks 0 chars = [] ↔ chars = [] := by
  constructor
  · intro none
    rcases substitute_changes some_ne chars with same | inside
    · rwa [same] at none
    · rw [none] at inside
      exact absurd (List.eq_nil_of_infix_nil inside) (by decide)
  · rintro rfl
    rfl

theorem substitute_eq_asterisks (some_ne : secret ≠ []) {chars : List Char}
    (same : substitute (secretLength secret) asterisks 0 chars = asterisks) : chars = asterisks ∨ chars = secret := by
  cases chars with
  | nil => exact absurd (show asterisks = [] from same.symm) (by decide)
  | cons c rest =>
      cases found : secretLength secret (c :: rest) with
      | some length =>
          obtain ⟨start, rfl⟩ := secretLength_some.mp found
          rw [substitute_some found (hides_secret some_ne _ _ found).1] at same
          have empty := List.append_right_eq_self.mp same
          rw [substitute_nil_iff some_ne, List.drop_eq_nil_iff] at empty
          exact Or.inr (start.eq_of_length_le empty).symm
      | none =>
          simp only [substitute, found] at same
          obtain ⟨star, last⟩ : c = '*' ∧ substitute (secretLength secret) asterisks 0 rest = ['*', '*'] :=
            List.cons.inj same
          rcases substitute_changes some_ne rest with kept | inside
          · rw [kept] at last
            exact Or.inl (by rw [star, last]; rfl)
          · rw [last] at inside
            exact absurd inside.length_le (by decide)

end

theorem redactAssignment_start (line : List Char) :
    (redactAssignment line).head? = line.head? ∧ (redactAssignment line = asterisks → line = asterisks) := by
  rcases redactAssignment_cases line with ⟨head, value, rfl, ⟨key, found, -, -⟩, same⟩ | ⟨-, same⟩
  · have longer := length_assignment found
    cases head with
    | nil => exact absurd longer (Nat.lt_irrefl _)
    | cons c head =>
        rw [same]
        refine ⟨rfl, fun short => ?_⟩
        have size := congrArg List.length short
        simp only [List.cons_append, List.length_cons, List.length_append] at size
        omega
  · rw [same]
    exact ⟨rfl, id⟩

theorem redactAssignments_start (chars : List Char) :
    (redactAssignments chars).head? = chars.head? ∧ (redactAssignments chars = asterisks → chars = asterisks) := by
  rcases line_cases chars with single | ⟨line, rest, rfl, single⟩
  · rw [redactAssignments_last single]
    exact redactAssignment_start chars
  · rw [redactAssignments_line single]
    constructor
    · rw [List.head?_append, List.head?_append, (redactAssignment_start line).1]
      rfl
    · intro same
      have newline : '\n' ∈ asterisks := by
        rw [← same]
        simp
      exact absurd newline (by decide)

theorem maskReferences_plain {chars : List Char} (unreferenced : Unreferenced chars) (whole : '*' ∉ chars) :
    maskReferencesFrom 0 chars = chars :=
  maskReferences_none fun part reference inside =>
    unreferenced part reference (fun star => whole (inside.subset star)) inside

theorem replaceSecret_head {chars : List Char} {secret : String} (other : secret ≠ "" → ¬secret.toList <+: chars) :
    (replaceSecret chars secret).head? = chars.head? := by
  rw [replaceSecret]
  split
  · rfl
  · rename_i nonempty
    cases chars with
    | nil => rfl
    | cons c rest =>
        have none : secretLength secret.toList (c :: rest) = none := if_neg (other nonempty)
        simp only [substitute, none, List.head?_cons]

section

variable {secrets : List String} (plain : ∀ secret ∈ secrets, '*' ∉ secret.toList)

include plain

theorem replaceSecrets_asterisks : secrets.foldl replaceSecret asterisks = asterisks := by
  refine replaceSecrets_absent fun secret member nonempty inside => ?_
  obtain ⟨c, rest, whole⟩ := List.exists_cons_of_ne_nil (toList_ne_nil nonempty)
  obtain rfl : c = '*' := eq_of_mem_asterisks (inside.subset (by rw [whole]; exact List.mem_cons_self))
  exact plain secret member (by rw [whole]; exact List.mem_cons_self)

theorem replaceSecrets_longer {chars : List Char} (star : '*' ∈ chars) (other : chars ≠ asterisks) :
    secrets.foldl replaceSecret chars ≠ asterisks := by
  induction secrets generalizing chars with
  | nil => exact other
  | cons secret rest ih =>
      obtain ⟨first, later⟩ := List.forall_mem_cons.mp plain
      refine ih later ?_ ?_
      · rw [replaceSecret]
        split
        · exact star
        · rename_i nonempty
          rcases substitute_changes (toList_ne_nil nonempty) chars with same | inside
          · rwa [same]
          · exact inside.subset (by decide)
      · rw [replaceSecret]
        split
        · exact other
        · rename_i nonempty
          intro same
          rcases substitute_eq_asterisks (toList_ne_nil nonempty) same with rfl | rfl
          · exact other rfl
          · exact first star

theorem masksAll_nested (masks : MasksAll secrets) {inner outer : String} (innerMember : inner ∈ secrets)
    (outerMember : outer ∈ secrets) (different : inner ≠ outer) (inner_ne : inner ≠ "")
    (inside : inner.toList <:+: outer.toList) : ¬Unreferenced outer.toList := by
  intro unreferenced
  have outer_ne : outer ≠ "" := by
    rintro rfl
    exact toList_ne_nil inner_ne (List.eq_nil_of_infix_nil inside)
  have same := (masks outer _ (List.perm_cons_erase outerMember).symm).2.trans
    (masks outer _ (List.perm_cons_erase innerMember).symm).2.symm
  have plainRest (removed : String) : ∀ secret ∈ secrets.erase removed, '*' ∉ secret.toList :=
    fun secret member => plain secret (List.mem_of_mem_erase member)
  rw [← String.toList_inj, toList_maskText, toList_maskText,
    maskReferences_plain unreferenced (plain outer outerMember), List.foldl_cons, List.foldl_cons] at same
  have whole : replaceSecret outer.toList outer = asterisks := by
    obtain ⟨c, rest, spelled⟩ := List.exists_cons_of_ne_nil (toList_ne_nil outer_ne)
    have found : secretLength outer.toList (c :: rest) = some outer.toList.length :=
      secretLength_some.mpr ⟨by rw [spelled], rfl⟩
    rw [replaceSecret, if_neg outer_ne]
    nth_rewrite 2 [spelled]
    rw [substitute_some found (by rw [spelled]; exact Nat.succ_pos _), ← spelled, List.drop_length]
    rfl
  have kept : redactAssignments asterisks = asterisks := by decide
  rw [whole, replaceSecrets_asterisks (plainRest outer), kept] at same
  have changed : asterisks <:+: replaceSecret outer.toList inner := by
    have free := replaceSecret_free inner_ne (plain inner innerMember) outer.toList
    rw [replaceSecret, if_neg inner_ne] at free ⊢
    refine (substitute_changes (toList_ne_nil inner_ne) _).resolve_left fun unchanged => ?_
    rw [unchanged] at free
    exact free inside
  refine replaceSecrets_longer (plainRest inner) (changed.subset (by decide)) (fun short => ?_)
    ((redactAssignments_start _).2 same.symm)
  rw [replaceSecret, if_neg inner_ne] at short
  rcases substitute_eq_asterisks (toList_ne_nil inner_ne) short with stars | whole
  · exact plain outer outerMember (by rw [stars]; decide)
  · exact different (String.toList_inj.mp whole.symm)

theorem replaceSecrets_star {chars : List Char} (star : chars.head? = some '*') :
    (secrets.foldl replaceSecret chars).head? = some '*' := by
  induction secrets generalizing chars with
  | nil => exact star
  | cons secret rest ih =>
      obtain ⟨first, later⟩ := List.forall_mem_cons.mp plain
      refine ih later ((replaceSecret_head fun nonempty start => first ?_).trans star)
      obtain ⟨c, others, whole⟩ := List.exists_cons_of_ne_nil (toList_ne_nil nonempty)
      obtain ⟨more, rfl⟩ := start
      rw [whole, List.cons_append, List.head?_cons] at star
      rw [whole, Option.some.inj star]
      exact List.mem_cons_self

end

/-- No secret begins what is left of a text that begins with a secret, once that one is gone. -/
theorem replaceSecrets_unstarred {text start : List Char} {order : List String}
    (known : ∀ secret ∈ order, '*' ∉ secret.toList)
    (single : ∀ secret ∈ order, secret ≠ "" → secret.toList <+: text → secret.toList = start)
    (whole : '*' ∉ start) {chars : List Char} (marked : ∀ part, '*' ∉ part → part <+: chars → part <+: text)
    (gone : ¬start <+: chars) (unstarred : chars.head? ≠ some '*') :
    (order.foldl replaceSecret chars).head? ≠ some '*' := by
  induction order generalizing chars with
  | nil => exact unstarred
  | cons secret rest ih =>
      obtain ⟨first, later⟩ := List.forall_mem_cons.mp known
      obtain ⟨alone, others⟩ := List.forall_mem_cons.mp single
      have kept : secret ≠ "" → ¬secret.toList <+: chars := fun nonempty begins =>
        gone (alone nonempty (marked _ first begins) ▸ begins)
      have back (part : List Char) (partPlain : '*' ∉ part) (begins : part <+: replaceSecret chars secret) :
          part <+: chars := (replaceSecret_marked chars secret).revealsStart partPlain begins
      refine ih later others (fun part partPlain begins => marked part partPlain (back part partPlain begins))
        (fun begins => gone (back start whole begins)) ?_
      rwa [replaceSecret_head kept]

theorem not_prefix_cut {before shared secret : List Char} (shared_ne : shared ≠ []) (secret_ne : secret ≠ [])
    (plain : '*' ∉ before ++ shared) :
    ¬before ++ shared <+: substitute (secretLength secret) asterisks 0 (before ++ secret) := by
  induction before with
  | nil =>
      intro start
      have found : secretLength secret secret = some secret.length := secretLength_some.mpr ⟨List.prefix_rfl, rfl⟩
      obtain ⟨c, rest, rfl⟩ := List.exists_cons_of_ne_nil secret_ne
      rw [List.nil_append, List.nil_append, substitute_some found (Nat.succ_pos _)] at start
      obtain ⟨d, others, rfl⟩ := List.exists_cons_of_ne_nil shared_ne
      obtain rfl : d = '*' := (List.cons_prefix_cons.mp start).1
      exact plain List.mem_cons_self
  | cons c before ih =>
      intro start
      rw [List.cons_append, List.mem_cons, not_or] at plain
      rw [List.cons_append, List.cons_append] at start
      cases found : secretLength secret (c :: (before ++ secret)) with
      | some length =>
          rw [substitute_some found (hides_secret secret_ne _ _ found).1] at start
          exact plain.1 (List.cons_prefix_cons.mp start).1.symm
      | none =>
          simp only [substitute, found] at start
          exact ih plain.2 (List.cons_prefix_cons.mp start).2

section

variable {secrets : List String} (plain : ∀ secret ∈ secrets, '*' ∉ secret.toList)

include plain

theorem masksAll_overlapping (masks : MasksAll secrets) {left right : String} (leftMember : left ∈ secrets)
    (rightMember : right ∈ secrets) (different : left ≠ right) (right_ne : right ≠ "")
    {before shared after : List Char} (shared_ne : shared ≠ []) (leftSpelled : left.toList = before ++ shared)
    (rightSpelled : right.toList = shared ++ after) : ¬Unreferenced (before ++ shared ++ after) := by
  intro unreferenced
  have leftPlain := plain left leftMember
  have left_ne : left ≠ "" := by
    rintro rfl
    exact shared_ne (List.append_eq_nil_iff.mp leftSpelled.symm).2
  have text : before ++ shared ++ after = left.toList ++ after := by rw [leftSpelled]
  have text' : before ++ shared ++ after = before ++ right.toList := by rw [rightSpelled, List.append_assoc]
  -- every other secret that begins the text is inside the first, or has it inside
  have single : ∀ secret ∈ secrets, secret ≠ "" → secret.toList <+: left.toList ++ after →
      secret.toList = left.toList := by
    intro secret member nonempty start
    by_contra other
    have apart : secret ≠ left := fun same => other (by rw [same])
    rcases List.prefix_or_prefix_of_prefix start (List.prefix_append _ _) with inside | inside
    · exact masksAll_nested plain masks member leftMember apart nonempty inside.isInfix
        (unreferenced_within unreferenced (by rw [text]; exact (List.prefix_append _ _).isInfix))
    · exact masksAll_nested plain masks leftMember member apart.symm left_ne inside.isInfix
        (unreferenced_within unreferenced (by rw [text]; exact start.isInfix))
  have textPlain : '*' ∉ left.toList ++ after := by
    rw [List.mem_append, not_or]
    refine ⟨leftPlain, fun member => plain right rightMember ?_⟩
    rw [rightSpelled]
    exact List.mem_append_right _ member
  have same := (masks (String.ofList (left.toList ++ after)) _ (List.perm_cons_erase leftMember).symm).2.trans
    (masks (String.ofList (left.toList ++ after)) _ (List.perm_cons_erase rightMember).symm).2.symm
  have plainRest (removed : String) : ∀ secret ∈ secrets.erase removed, '*' ∉ secret.toList :=
    fun secret member => plain secret (List.mem_of_mem_erase member)
  rw [← String.toList_inj, toList_maskText, toList_maskText, String.toList_ofList,
    maskReferences_plain (text ▸ unreferenced) textPlain, List.foldl_cons, List.foldl_cons] at same
  have heads := congrArg List.head? same
  rw [(redactAssignments_start _).1, (redactAssignments_start _).1] at heads
  have starred : (replaceSecret (left.toList ++ after) left).head? = some '*' := by
    obtain ⟨c, rest, spelled⟩ := List.exists_cons_of_ne_nil (toList_ne_nil left_ne)
    have found : secretLength left.toList (c :: (rest ++ after)) = some left.toList.length :=
      secretLength_some.mpr ⟨⟨after, by rw [spelled]; rfl⟩, rfl⟩
    rw [replaceSecret, if_neg left_ne]
    nth_rewrite 2 [spelled]
    rw [List.cons_append, substitute_some found (by rw [spelled]; exact Nat.succ_pos _)]
    rfl
  rw [replaceSecrets_star (plainRest left) starred] at heads
  have notFirst : right ≠ "" → ¬right.toList <+: left.toList ++ after := fun nonempty start =>
    different (String.toList_inj.mp (single right rightMember nonempty start)).symm
  refine replaceSecrets_unstarred (plainRest right)
    (fun secret member => single secret (List.mem_of_mem_erase member)) leftPlain
    (fun part partPlain start => (replaceSecret_marked _ _).revealsStart partPlain start) ?_ ?_ heads.symm
  · rw [replaceSecret, if_neg right_ne, ← text, text', leftSpelled]
    exact not_prefix_cut shared_ne (toList_ne_nil right_ne) (leftSpelled ▸ leftPlain)
  · rw [replaceSecret_head notFirst]
    intro star
    exact textPlain (List.mem_of_head? star)

theorem apart_of_masksAll (masks : MasksAll secrets) : SecretsApart secrets := by
  intro left leftMember right rightMember different left_ne right_ne
  have leftPlain := plain left leftMember
  constructor
  · refine ⟨fun star => leftPlain (List.mem_of_head? star), fun star => leftPlain (List.mem_of_getLast? star), ?_⟩
    exact fun inside => leftPlain (inside.subset (by decide))
  · rintro union (⟨inside, rfl⟩ | ⟨before, shared, after, shared_ne, leftSpelled, rightSpelled, rfl⟩)
    · exact masksAll_nested plain masks rightMember leftMember different.symm right_ne inside
    · exact masksAll_overlapping plain masks leftMember rightMember different right_ne shared_ne leftSpelled rightSpelled

end

/-- Secrets that are apart are masked alike in every order; without asterisks, only these are. -/
theorem masksAll_exact (secrets : List String) : (SecretsApart secrets → MasksAll secrets) ∧
    ((∀ secret ∈ secrets, '*' ∉ secret.toList) → (MasksAll secrets ↔ SecretsApart secrets)) :=
  ⟨masksAll_of_apart, fun plain => ⟨apart_of_masksAll plain, masksAll_of_apart⟩⟩

/-- The rest of the longer secret stays. -/
theorem shorterFirst_leavesRest :
    maskText ["alpha", "alphabet"] "login alphabet" = "login ***bet" ∧
      maskText ["alphabet", "alpha"] "login alphabet" = "login ***" ∧ ¬MasksAll ["alpha", "alphabet"] := by
  have first : maskText ["alpha", "alphabet"] "login alphabet" = "login ***bet" := by decide +kernel
  have second : maskText ["alphabet", "alpha"] "login alphabet" = "login ***" := by decide +kernel
  refine ⟨first, second, fun masks => ?_⟩
  have same := (masks "login alphabet" ["alphabet", "alpha"] (List.Perm.swap _ _ [])).2
  rw [first, second] at same
  exact absurd same (by decide +kernel)

end Korserver
