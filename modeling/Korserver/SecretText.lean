import Korserver.OpenconnectCore
import Korserver.TextParts
import Mathlib.Data.List.TakeWhile

/-!
What `mask_text` leaves of a text. It takes out the secrets that it is given, references, and what a
line assigns to a secret key, and nothing that it leaves was not there before.
-/

namespace Korserver

open PythonText PythonValue IpAddress Redaction

def Occurs (text other : String) : Prop := text.toList <:+: other.toList

theorem secretLength_some {secret chars : List Char} {length : Nat} :
    secretLength secret chars = some length ↔ secret <+: chars ∧ length = secret.length := by
  simp [secretLength, eq_comm]

theorem hides_secret {secret : List Char} (nonempty : secret ≠ []) :
    Hides '*' (secretLength secret) asterisks := by
  intro chars length found
  obtain ⟨-, rfl⟩ := secretLength_some.mp found
  exact ⟨List.length_pos_iff.mpr nonempty, Marked.hidden _ 2⟩

theorem infix_asterisks {part rest : List Char} (plain : '*' ∉ part) (inside : part <:+: asterisks ++ rest) :
    part <:+: rest := by
  have past {items : List Char} (inside : part <:+: '*' :: items) : part <:+: items := by
    rcases List.infix_cons_iff.mp inside with start | later
    · cases part with
      | nil => exact List.nil_infix
      | cons first others =>
          rw [List.cons_prefix_cons] at start
          exact absurd (start.1 ▸ List.mem_cons_self) plain
    · exact later
  exact past (past (past inside))

example : replaceSecret "a key".toList "key" = 'a' :: ' ' :: asterisks := by decide +kernel

theorem toList_ne_nil {text : String} (nonempty : text ≠ "") : text.toList ≠ [] :=
  fun empty => nonempty (String.toList_inj.mp empty)

theorem replaceSecret_marked (chars : List Char) (secret : String) :
    Marked '*' chars (replaceSecret chars secret) := by
  rw [replaceSecret]
  split
  · exact .refl _ _
  · rename_i nonempty
    exact substitute_marked (hides_secret (toList_ne_nil nonempty)) chars

theorem replaceSecret_free {secret : String} (nonempty : secret ≠ "") (plain : '*' ∉ secret.toList)
    (chars : List Char) : ¬secret.toList <:+: replaceSecret chars secret := by
  rw [replaceSecret, if_neg nonempty]
  refine substitute_free (hides_secret (toList_ne_nil nonempty)) plain (toList_ne_nil nonempty) ?_ ?_ chars
  · intro rest start
    rw [secretLength_some.mpr ⟨start, rfl⟩]
    rfl
  · exact fun rest => infix_asterisks plain

theorem replaceSecret_absent {secret : String} {chars : List Char}
    (absent : secret ≠ "" → ¬secret.toList <:+: chars) : replaceSecret chars secret = chars := by
  rw [replaceSecret]
  split
  · rfl
  · rename_i nonempty
    refine substitute_none fun rest suffix => ?_
    refine if_neg fun start => absent nonempty (start.isInfix.trans suffix.isInfix)

theorem replaceSecrets_marked (secrets : List String) (chars : List Char) :
    ∀ part : List Char, '*' ∉ part → part <:+: secrets.foldl replaceSecret chars → part <:+: chars := by
  induction secrets generalizing chars with
  | nil => exact fun _ _ inside => inside
  | cons secret rest ih =>
      exact fun part plain inside => (replaceSecret_marked chars secret).reveals plain (ih _ part plain inside)

theorem replaceSecrets_free {secrets : List String} {secret : String} (member : secret ∈ secrets)
    (nonempty : secret ≠ "") (plain : '*' ∉ secret.toList) (chars : List Char) :
    ¬secret.toList <:+: secrets.foldl replaceSecret chars := by
  induction secrets generalizing chars with
  | nil => nomatch member
  | cons first rest ih =>
      rcases List.mem_cons.mp member with rfl | later
      · exact fun inside => replaceSecret_free nonempty plain chars (replaceSecrets_marked rest _ _ plain inside)
      · exact ih later _

theorem replaceSecrets_absent {secrets : List String} {chars : List Char}
    (absent : ∀ secret ∈ secrets, secret ≠ "" → ¬secret.toList <:+: chars) :
    secrets.foldl replaceSecret chars = chars := by
  induction secrets with
  | nil => rfl
  | cons secret rest ih =>
      rw [List.foldl_cons, replaceSecret_absent (absent secret List.mem_cons_self),
        ih fun other member => absent other (List.mem_cons_of_mem _ member)]

/-! References. -/

def referenceOpening : List Char := ['$', '{', 'S', 'E', 'C', 'R', 'E', 'T', ':']

theorem opening_toList : "$\x7bSECRET:".toList = referenceOpening := by decide +kernel

theorem maskedReference_toList : maskedReference.toList = referenceOpening ++ ['*', '*', '*', '}'] := by
  decide +kernel

theorem isPrefixOf?_some {part items rest : List Char} :
    part.isPrefixOf? items = some rest ↔ items = part ++ rest := by
  induction part generalizing items with
  | nil => simp [List.isPrefixOf?, eq_comm]
  | cons first part ih =>
      cases items with
      | nil => simp [List.isPrefixOf?]
      | cons item items =>
          simp only [List.isPrefixOf?, beq_iff_eq, List.cons_append, List.cons.injEq]
          split
          · rename_i same
            rw [ih, eq_comm (a := item), and_iff_right same]
          · rename_i different
            simp [Ne.symm different]

/-- A text that `SECRET_REF_VALUE_RE` matches. -/
def IsReference (part : List Char) : Prop :=
  ∃ name, part = referenceOpening ++ name ++ ['}'] ∧ name ≠ [] ∧ '}' ∉ name

theorem takeWhile_brace {name : List Char} (closed : '}' ∉ name) (rest : List Char) :
    (name ++ '}' :: rest).takeWhile (· != '}') = name := by
  rw [List.takeWhile_append_of_pos fun c member => ?_]
  · simp
  · simp only [bne_iff_ne, ne_eq]
    rintro rfl
    exact closed member

theorem referenceLength_some {chars : List Char} {length : Nat} :
    referenceLength chars = some length ↔ ∃ part, IsReference part ∧ part <+: chars ∧ length = part.length := by
  rw [referenceLength, opening_toList]
  constructor
  · intro found
    split at found
    · nomatch found
    · rename_i rest opened
      have whole := isPrefixOf?_some.mp opened
      simp only at found
      split at found
      · rename_i name
        obtain rfl := Option.some.inj found
        have split_ := @List.takeWhile_append_dropWhile _ (· != '}') rest
        have closed : '}' ∉ rest.takeWhile (· != '}') := fun member => by
          simpa using List.mem_takeWhile_imp member
        cases last : rest.dropWhile (· != '}') with
        | nil =>
            rw [last, List.append_nil] at split_
            exact absurd name.2 (by rw [split_]; exact Nat.lt_irrefl _)
        | cons c more =>
            have brace : c = '}' := by
              have stops := List.head_dropWhile_not (· != '}') (l := rest) (by rw [last]; simp)
              simpa [last] using stops
            refine ⟨_, ⟨rest.takeWhile (· != '}'), rfl, name.1, closed⟩, ⟨more, ?_⟩, ?_⟩
            · rw [last, brace] at split_
              rw [whole, List.append_assoc, List.append_assoc]
              exact congrArg _ split_
            · simp only [List.length_append, List.length_cons, List.length_nil]
      · nomatch found
  · rintro ⟨_, ⟨name, rfl, some, closed⟩, ⟨rest, rfl⟩, rfl⟩
    have opened : referenceOpening.isPrefixOf? (referenceOpening ++ name ++ ['}'] ++ rest) =
        Option.some (name ++ '}' :: rest) :=
      isPrefixOf?_some.mpr (by simp)
    rw [opened]
    simp only [takeWhile_brace closed]
    rw [if_pos ⟨some, by simp⟩]
    simp [Nat.add_assoc]

theorem maskReferences_substitute (left : Nat) (chars : List Char) :
    maskReferencesFrom left chars = substitute referenceLength maskedReference.toList left chars := by
  induction chars generalizing left with
  | nil => cases left <;> rfl
  | cons c rest ih =>
      cases left with
      | zero =>
          rw [maskReferencesFrom, substitute]
          cases referenceLength (c :: rest) with
          | none => simp only [ih]
          | some length => simp only [ih]
      | succ left => exact ih left

theorem hides_references : Hides '*' referenceLength maskedReference.toList := by
  intro chars length found
  obtain ⟨part, ⟨name, rfl, -, -⟩, ⟨rest, rfl⟩, rfl⟩ := referenceLength_some.mp found
  refine ⟨by rw [List.length_append]; exact Nat.succ_pos _, ?_⟩
  rw [List.take_left, maskedReference_toList]
  have masked := ((Marked.refl '*' referenceOpening).append (Marked.hidden name 2)).append (Marked.refl '*' ['}'])
  rw [List.append_assoc] at masked
  exact masked

theorem maskReferences_marked (chars : List Char) : Marked '*' chars (maskReferencesFrom 0 chars) := by
  rw [maskReferences_substitute]
  exact substitute_marked hides_references chars

theorem infix_past {first : Char} {part block rest : List Char} (starts : part.head? = some first)
    (plain : first ∉ block) (inside : part <:+: block ++ rest) : part <:+: rest := by
  induction block with
  | nil => exact inside
  | cons c block ih =>
      rcases List.infix_cons_iff.mp inside with start | later
      · cases part with
        | nil => nomatch starts
        | cons other others =>
            obtain rfl := Option.some.inj starts
            rw [List.cons_prefix_cons] at start
            exact absurd (start.1 ▸ List.mem_cons_self) plain
      · exact ih (List.not_mem_of_not_mem_cons plain) later

theorem maskReferences_free {part : List Char} (reference : IsReference part) (plain : '*' ∉ part)
    (chars : List Char) : ¬part <:+: maskReferencesFrom 0 chars := by
  rw [maskReferences_substitute]
  obtain ⟨name, rfl, some, closed⟩ := reference
  refine substitute_free hides_references plain (by simp) (fun rest start => ?_) (fun rest inside => ?_) chars
  · rw [referenceLength_some.mpr ⟨_, ⟨name, rfl, some, closed⟩, start, rfl⟩]
    rfl
  · rw [maskedReference_toList, List.append_assoc] at inside
    rcases List.infix_cons_iff.mp inside with start | later
    · change referenceOpening ++ name ++ ['}'] <+: referenceOpening ++ ('*' :: ['*', '*', '}'] ++ rest) at start
      rw [List.append_assoc, List.prefix_append_right_inj] at start
      cases name with
      | nil => exact absurd rfl some
      | cons first others =>
          rw [List.cons_append, List.cons_append, List.cons_prefix_cons] at start
          exact absurd (by simp [start.1]) plain
    · exact @infix_past '$' _ (['{', 'S', 'E', 'C', 'R', 'E', 'T', ':'] ++ ['*', '*', '*', '}']) rest rfl (by decide) later

theorem maskReferences_none {chars : List Char} (absent : ∀ part, IsReference part → ¬part <:+: chars) :
    maskReferencesFrom 0 chars = chars := by
  rw [maskReferences_substitute]
  refine substitute_none fun rest suffix => ?_
  cases found : referenceLength rest with
  | none => rfl
  | some length =>
      obtain ⟨part, reference, start, -⟩ := referenceLength_some.mp found
      exact absurd (start.isInfix.trans suffix.isInfix) (absent part reference)

theorem line_cases (chars : List Char) :
    '\n' ∉ chars ∨ ∃ line rest, chars = line ++ '\n' :: rest ∧ '\n' ∉ line := by
  by_cases newline : '\n' ∈ chars
  · obtain ⟨line, rest, rfl, before⟩ := List.eq_append_cons_of_mem newline
    exact Or.inr ⟨line, rest, rfl, before⟩
  · exact Or.inl newline

theorem redactAssignments_last {line : List Char} (single : '\n' ∉ line) :
    redactAssignments line = redactAssignment line := by
  rw [redactAssignments, splitChar_last single]
  rfl

theorem redactAssignments_line {line : List Char} (single : '\n' ∉ line) (rest : List Char) :
    redactAssignments (line ++ '\n' :: rest) = redactAssignment line ++ '\n' :: redactAssignments rest := by
  rw [redactAssignments, redactAssignments, splitChar_line single]
  cases cut : splitChar '\n' rest with
  | nil => exact absurd cut (splitChar_ne_nil _ _)
  | cons part parts => rfl

/-! Assignments. -/

/-- A character that is part of nothing that `ASSIGNMENT_RE` finds before a value. -/
def isPad (c : Char) : Bool := !isBlank c && !isNameChar c && c ≠ ':' && c ≠ '=' && c ≠ '\n'

theorem separatorValue_cut {line value : List Char} (found : separatorValue line = some value) :
    ∃ head separator, line = head ++ separator :: value ∧ (separator = ':' ∨ separator = '=') ∧
      ∀ other, separatorValue (head ++ separator :: other) = some other := by
  induction line with
  | nil => cases found
  | cons c line ih =>
      rw [separatorValue] at found
      split at found
      · rename_i blank
        obtain ⟨head, separator, rfl, separates, reread⟩ := ih found
        refine ⟨c :: head, separator, rfl, separates, fun other => ?_⟩
        rw [List.cons_append, separatorValue, if_pos blank, reread]
      · rename_i visible
        split at found
        · rename_i separates
          obtain rfl := Option.some.inj found
          refine ⟨[], c, rfl, by simpa using separates, fun other => ?_⟩
          rw [List.nil_append, separatorValue, if_neg visible, if_pos separates]
        · cases found

theorem keyValue_cut {start key line value : List Char} (found : keyValue start line = some (key, value)) :
    ∃ head separator, line = head ++ separator :: value ∧ (separator = ':' ∨ separator = '=') ∧
      ∀ other, keyValue start (head ++ separator :: other) = some (key, other) := by
  induction line generalizing start with
  | nil => cases found
  | cons c line ih =>
      rw [keyValue] at found
      split at found
      · rename_i letter
        obtain ⟨head, separator, rfl, separates, reread⟩ := ih found
        refine ⟨c :: head, separator, rfl, separates, fun other => ?_⟩
        rw [List.cons_append, keyValue, if_pos letter, reread]
      · rename_i different
        obtain ⟨rest, separated, pair⟩ := Option.map_eq_some_iff.mp found
        obtain ⟨rfl, rfl⟩ := Prod.mk.inj pair
        obtain ⟨head, separator, whole, separates, reread⟩ := separatorValue_cut separated
        refine ⟨head, separator, whole, separates, fun other => ?_⟩
        -- the key ends at the same character, the first of the head or the separator itself
        obtain ⟨others, same⟩ : ∃ others, head ++ separator :: other = c :: others := by
          cases head with
          | nil => exact ⟨other, by rw [(List.cons.inj whole).1]; rfl⟩
          | cons first head => exact ⟨head ++ separator :: other, by rw [(List.cons.inj whole).1]; rfl⟩
        rw [same, keyValue, if_neg different, ← same, reread]
        rfl

/-- A value is what stands behind a separator, and any other text there would have been read as the value. -/
theorem assignment_cut {key line value : List Char} (found : assignment line = some (key, value)) :
    ∃ head separator, line = head ++ separator :: value ∧ (separator = ':' ∨ separator = '=') ∧
      ∀ other, assignment (head ++ separator :: other) = some (key, other) := by
  induction line with
  | nil => cases found
  | cons c line ih =>
      rw [assignment] at found
      split at found
      · rename_i blank
        obtain ⟨head, separator, rfl, separates, reread⟩ := ih found
        refine ⟨c :: head, separator, rfl, separates, fun other => ?_⟩
        rw [List.cons_append, assignment, if_pos blank, reread]
      · rename_i visible
        split at found
        · rename_i letter
          obtain ⟨head, separator, rfl, separates, reread⟩ := keyValue_cut found
          refine ⟨c :: head, separator, rfl, separates, fun other => ?_⟩
          rw [List.cons_append, assignment, if_neg visible, if_pos letter, reread]
        · cases found

theorem assignment_suffix {key line value : List Char} (found : assignment line = some (key, value)) :
    value <:+ line := by
  obtain ⟨head, separator, rfl, -, -⟩ := assignment_cut found
  exact (List.suffix_cons separator value).trans (List.suffix_append head _)

theorem length_assignment {key line value : List Char} (found : assignment line = some (key, value)) :
    value.length < line.length := by
  obtain ⟨head, separator, rfl, -, -⟩ := assignment_cut found
  rw [List.length_append, List.length_cons]
  omega

theorem assignment_other {key head value : List Char} (found : assignment (head ++ value) = some (key, value))
    (other : List Char) : assignment (head ++ other) = some (key, other) := by
  obtain ⟨front, separator, whole, -, reread⟩ := assignment_cut found
  rw [List.append_cons] at whole
  rw [List.append_cancel_right whole, List.append_assoc]
  exact reread other

theorem assignment_pad {key line value : List Char} {pad : Char} (padding : isPad pad = true)
    (found : assignment (line ++ [pad]) = some (key, value)) :
    ∃ before, assignment line = some (key, before) ∧ value = before ++ [pad] := by
  obtain ⟨head, separator, whole, separates, reread⟩ := assignment_cut found
  rcases value.eq_nil_or_concat with rfl | ⟨before, last, rfl⟩
  · obtain ⟨rfl, same⟩ := List.append_inj' whole rfl
    obtain rfl := List.singleton_inj.mp same
    rcases separates with rfl | rfl <;> exact absurd padding (by decide)
  · rw [List.concat_eq_append] at whole ⊢
    rw [← List.cons_append, ← List.append_assoc] at whole
    obtain ⟨rfl, same⟩ := List.append_inj' whole rfl
    obtain rfl := List.singleton_inj.mp same
    exact ⟨before, reread before, rfl⟩

theorem isPrefix_valueIndent (value : List Char) : valueIndent value <+: value := by
  rw [valueIndent]
  split
  · exact List.dropLast_prefix _
  · exact List.takeWhile_prefix _

theorem valueIndent_blank (value : List Char) : ∀ c ∈ valueIndent value, isBlank c = true := by
  intro c member
  rw [valueIndent] at member
  split at member
  · rename_i blank
    exact List.all_eq_true.mp blank c (List.dropLast_subset _ member)
  · exact List.mem_takeWhile_imp member

def Redacts (line value : List Char) : Prop :=
  ∃ key, assignment line = some (key, value) ∧ value ≠ [] ∧ isSecretKeyInText (String.ofList key) = true

theorem redactAssignment_cases (line : List Char) :
    (∃ head value, line = head ++ value ∧ Redacts line value ∧
      redactAssignment line = head ++ valueIndent value ++ asterisks) ∨
      ((∀ value, ¬Redacts line value) ∧ redactAssignment line = line) := by
  rw [redactAssignment]
  cases found : assignment line with
  | none => exact Or.inr ⟨fun value ⟨key, same, _⟩ => (nomatch found.symm.trans same), rfl⟩
  | some assigned =>
      obtain ⟨key, value⟩ := assigned
      obtain ⟨head, rfl⟩ := assignment_suffix found
      dsimp only
      split
      · rename_i secret
        refine Or.inl ⟨head, value, rfl, ⟨key, found, secret⟩, ?_⟩
        simp
      · rename_i plain
        refine Or.inr ⟨fun other ⟨_, same, secret⟩ => plain ?_, rfl⟩
        obtain ⟨rfl, rfl⟩ := Prod.mk.inj (Option.some.inj (found.symm.trans same))
        exact secret

theorem redacts_append {line value : List Char} (redacts : Redacts line value) (more : List Char) :
    Redacts (line ++ more) (value ++ more) := by
  obtain ⟨key, found, nonempty, secret⟩ := redacts
  obtain ⟨head, rfl⟩ := assignment_suffix found
  rw [List.append_assoc]
  exact ⟨key, assignment_other found _, by simp [nonempty], secret⟩

theorem redactAssignment_marked (line : List Char) : Marked '*' line (redactAssignment line) := by
  rcases redactAssignment_cases line with ⟨head, value, rfl, -, same⟩ | ⟨-, same⟩
  · obtain ⟨rest, whole⟩ := isPrefix_valueIndent value
    rw [same]
    nth_rewrite 1 [← whole]
    rw [← List.append_assoc]
    exact (Marked.refl _ _).append (Marked.hidden rest 2)
  · rw [same]
    exact .refl _ _

theorem newline_redactAssignment {line : List Char} (single : '\n' ∉ line) : '\n' ∉ redactAssignment line := by
  have marked := redactAssignment_marked line
  intro member
  have inside : ['\n'] <:+: redactAssignment line := (List.singleton_infix_iff ..).mpr member
  exact single ((List.singleton_infix_iff ..).mp (marked.reveals (by decide) inside))

theorem redactAssignments_marked (chars : List Char) : Marked '*' chars (redactAssignments chars) := by
  induction size : chars.length using Nat.strongRecOn generalizing chars with
  | ind size ih =>
      rcases line_cases chars with single | ⟨line, rest, rfl, single⟩
      · rw [redactAssignments_last single]
        exact redactAssignment_marked chars
      · rw [redactAssignments_line single]
        have later := ih rest.length (by rw [← size]; simp; omega) rest rfl
        exact (redactAssignment_marked line).append (.keep _ later)

/-- What begins a line and assigns to a secret key. The end of a line is the end of the text as well, or
a blank value would not be one. -/
def AssignsSecret (chars : List Char) : Prop :=
  ∃ value, Redacts (chars.takeWhile (· != '\n')) value ∧ (value.all isBlank = false ∨ '\n' ∈ chars)

def HoldsAssignment (chars : List Char) : Prop :=
  ∃ before rest, chars = before ++ '\n' :: rest ∧ AssignsSecret rest

theorem takeWhile_last {line : List Char} (single : '\n' ∉ line) : line.takeWhile (· != '\n') = line := by
  rw [List.takeWhile_eq_self_iff]
  intro c member
  simp only [bne_iff_ne, ne_eq]
  rintro rfl
  exact single member

theorem takeWhile_line {line : List Char} (single : '\n' ∉ line) (rest : List Char) :
    (line ++ '\n' :: rest).takeWhile (· != '\n') = line := by
  rw [List.takeWhile_append, takeWhile_last single]
  simp

theorem not_redactAssignment_prefix {line part value : List Char} (plain : '*' ∉ part)
    (redacts : Redacts part value) (visible : value.all isBlank = false) :
    ¬part <+: redactAssignment line := by
  intro start
  rcases redactAssignment_cases line with ⟨head, kept, rfl, lineRedacts, same⟩ | ⟨unredacted, same⟩
  · rw [same] at start
    have within : part <+: head ++ valueIndent kept := by
      have covered : Marked '*' (head ++ valueIndent kept) (head ++ valueIndent kept ++ asterisks) := by
        have marked := (Marked.refl '*' (head ++ valueIndent kept)).append (Marked.hidden [] 2)
        rwa [List.append_nil] at marked
      exact covered.revealsStart plain start
    obtain ⟨more, whole⟩ := within.trans ((List.prefix_append_right_inj head).mpr (isPrefix_valueIndent kept))
    have extended := redacts_append redacts more
    rw [whole] at extended
    obtain ⟨key, found, -, -⟩ := lineRedacts
    obtain ⟨other, otherFound, -, -⟩ := extended
    obtain ⟨rfl, rfl⟩ := Prod.mk.inj (Option.some.inj (found.symm.trans otherFound))
    obtain ⟨key', partFound, -, -⟩ := redacts
    obtain ⟨front, rfl⟩ := assignment_suffix partFound
    have sameFront : front = head := by
      rw [List.append_assoc] at whole
      exact List.append_cancel_right whole
    rw [sameFront, List.prefix_append_right_inj] at within
    have blank : value.all isBlank = true :=
      List.all_eq_true.mpr fun c member => valueIndent_blank _ c (within.subset member)
    rw [visible] at blank
    nomatch blank
  · rw [same] at start
    obtain ⟨more, rfl⟩ := start
    exact unredacted _ (redacts_append redacts more)

theorem not_redactAssignment_eq {line part value : List Char} (plain : '*' ∉ part) (redacts : Redacts part value) :
    redactAssignment line ≠ part := by
  intro same
  rcases redactAssignment_cases line with ⟨head, kept, rfl, -, cut⟩ | ⟨unredacted, whole⟩
  · rw [cut] at same
    exact plain (same ▸ by simp [asterisks])
  · rw [whole] at same
    exact unredacted value (same ▸ redacts)

theorem prefix_line {part line : List Char} (single : '\n' ∉ line) {lines : List Char}
    (lines_ : lines = [] ∨ lines.head? = some '\n') (start : part <+: line ++ lines) :
    ('\n' ∉ part → part <+: line) ∧ ('\n' ∈ part → part.takeWhile (· != '\n') = line) := by
  have cut : (line ++ lines).takeWhile (· != '\n') = line := by
    rcases lines_ with rfl | newline
    · rw [List.append_nil, takeWhile_last single]
    · cases lines with
      | nil => nomatch newline
      | cons c rest =>
          obtain rfl := Option.some.inj newline
          exact takeWhile_line single rest
  obtain ⟨more, whole⟩ := start
  constructor
  · intro partSingle
    rw [← whole, List.takeWhile_append, takeWhile_last partSingle, if_pos rfl] at cut
    exact ⟨_, cut⟩
  · intro newline
    rcases line_cases part with partSingle | ⟨first, rest, rfl, firstSingle⟩
    · exact absurd newline partSingle
    · rw [← whole, List.append_assoc, List.cons_append, takeWhile_line firstSingle] at cut
      rw [takeWhile_line firstSingle, cut]

theorem not_redactAssignments_prefix {part : List Char} (plain : '*' ∉ part) (assigns : AssignsSecret part)
    (chars : List Char) : ¬part <+: redactAssignments chars := by
  obtain ⟨value, redacts, more⟩ := assigns
  intro start
  obtain ⟨line, lines, single, redacted, begins⟩ : ∃ line lines, '\n' ∉ line ∧
      redactAssignments chars = redactAssignment line ++ lines ∧ (lines = [] ∨ lines.head? = some '\n') := by
    rcases line_cases chars with single | ⟨line, rest, rfl, single⟩
    · exact ⟨chars, [], single, by rw [redactAssignments_last single, List.append_nil], Or.inl rfl⟩
    · exact ⟨line, _, single, redactAssignments_line single rest, Or.inr rfl⟩
  rw [redacted] at start
  obtain ⟨whole, first⟩ := prefix_line (newline_redactAssignment single) begins start
  by_cases newline : '\n' ∈ part
  · refine not_redactAssignment_eq (fun member => plain ?_) redacts (first newline).symm
    exact (List.takeWhile_prefix _).subset member
  · rw [takeWhile_last newline] at redacts
    exact not_redactAssignment_prefix plain redacts (more.resolve_right newline) (whole newline)

theorem redactAssignments_free {part : List Char} (plain : '*' ∉ part) (holds : HoldsAssignment part)
    (chars : List Char) : ¬part <:+: redactAssignments chars := by
  obtain ⟨before, rest, rfl, assigns⟩ := holds
  intro inside
  have later : '\n' :: rest <:+: redactAssignments chars := (List.suffix_append _ _).isInfix.trans inside
  have restPlain : '*' ∉ rest := fun member => plain (by simp [member])
  clear inside plain
  induction size : chars.length using Nat.strongRecOn generalizing chars with
  | ind size ih =>
      rcases line_cases chars with single | ⟨line, lines, rfl, single⟩
      · rw [redactAssignments_last single] at later
        exact newline_redactAssignment single (later.subset List.mem_cons_self)
      · rw [redactAssignments_line single] at later
        have past := @infix_past '\n' _ _ _ rfl (newline_redactAssignment single) later
        rcases List.infix_cons_iff.mp past with start | more
        · rw [List.cons_prefix_cons] at start
          exact not_redactAssignments_prefix restPlain assigns lines start.2
        · exact ih lines.length (by rw [← size]; simp; omega) lines more rfl

theorem redactAssignments_keeps {part : List Char} {pad : Char} (padding : isPad pad = true)
    (starts : ¬AssignsSecret part) (holds : ¬HoldsAssignment part) :
    part <+: redactAssignments (part ++ [pad]) := by
  have padLine : '\n' ≠ pad := by
    rintro rfl
    exact absurd padding (by decide)
  induction size : part.length using Nat.strongRecOn generalizing part with
  | ind size ih =>
      rcases line_cases part with single | ⟨line, rest, rfl, single⟩
      · rw [redactAssignments_last (by simp [single, padLine])]
        rcases redactAssignment_cases (part ++ [pad]) with ⟨head, value, whole, redacts, same⟩ | ⟨-, same⟩
        · rw [same]
          obtain ⟨key, found, nonempty, secret⟩ := redacts
          obtain ⟨before, within, rfl⟩ := assignment_pad padding found
          have blank : before.all isBlank = true := by
            by_contra visible
            refine starts ⟨before, ?_, Or.inl (by simpa using visible)⟩
            rw [takeWhile_last single]
            refine ⟨key, within, ?_, secret⟩
            rintro rfl
            exact visible rfl
          have indent : valueIndent (before ++ [pad]) = before := by
            have visible : isBlank pad = false := by
              simp only [isPad, Bool.and_eq_true, Bool.not_eq_true'] at padding
              exact padding.1.1.1.1
            rw [valueIndent, if_neg (by simp [visible]),
              List.takeWhile_append_of_pos (List.all_eq_true.mp blank)]
            simp [visible]
          rw [← List.append_assoc] at whole
          rw [List.append_cancel_right whole, indent]
          exact List.prefix_append _ _
        · rw [same]
          exact List.prefix_append _ _
      · have later : rest <+: redactAssignments (rest ++ [pad]) := by
          refine ih rest.length (by rw [← size]; simp; omega) (fun assigns => ?_) (fun more => ?_) rfl
          · exact holds ⟨line, rest, rfl, assigns⟩
          · obtain ⟨before, after, rfl, assigns⟩ := more
            exact holds ⟨line ++ '\n' :: before, after, by simp, assigns⟩
        have whole : redactAssignment line = line := by
          rcases redactAssignment_cases line with ⟨_, value, -, redacts, -⟩ | ⟨-, same⟩
          · exact absurd ⟨value, by rwa [takeWhile_line single], Or.inr (by simp)⟩ starts
          · exact same
        rw [List.append_assoc, List.cons_append, redactAssignments_line single, whole, List.prefix_append_right_inj,
          List.cons_prefix_cons]
        exact ⟨rfl, later⟩

theorem toList_maskText (secrets : List String) (text : String) : (maskText secrets text).toList =
    redactAssignments (secrets.foldl replaceSecret (maskReferencesFrom 0 text.toList)) := by
  rw [maskText, String.toList_ofList]

theorem maskText_secret {secret : String} (plain : '*' ∉ secret.toList) (nonempty : secret ≠ "")
    {secrets : List String} (member : secret ∈ secrets) (text : String) :
    ¬Occurs secret (maskText secrets text) := by
  rw [Occurs, toList_maskText]
  exact fun left => replaceSecrets_free member nonempty plain _ ((redactAssignments_marked _).reveals plain left)

/-- What `mask_text` always takes out. -/
def HoldsPattern (chars : List Char) : Prop :=
  (∃ part, IsReference part ∧ part <:+: chars) ∨ HoldsAssignment chars

theorem maskText_pattern {text : String} (plain : '*' ∉ text.toList) (holds : HoldsPattern text.toList)
    (secrets : List String) (other : String) : ¬Occurs text (maskText secrets other) := by
  rw [Occurs, toList_maskText]
  intro left
  rcases holds with ⟨part, reference, inside⟩ | assignment
  · have partPlain : '*' ∉ part := fun member => plain (inside.subset member)
    have replaced := (redactAssignments_marked _).reveals partPlain (inside.trans left)
    exact maskReferences_free reference partPlain _ (replaceSecrets_marked secrets _ _ partPlain replaced)
  · exact redactAssignments_free plain assignment _ left

theorem infix_between {part middle : List Char} {first last : Char} (head : part.head? ≠ some first)
    (tail : part.getLast? ≠ some last) (inside : part <:+: first :: (middle ++ [last])) : part <:+: middle := by
  cases part with
  | nil => exact List.nil_infix
  | cons c rest =>
      rcases List.infix_cons_iff.mp inside with start | later
      · rw [List.cons_prefix_cons] at start
        exact absurd (congrArg some start.1) head
      · rcases List.infix_concat_iff.mp later with ⟨before, whole⟩ | within
        · have ends := congrArg List.getLast? whole
          simp only [List.getLast?_append, List.getLast?_singleton, Option.some_or] at ends
          rw [List.getLast?_cons, Option.some_or, ← List.getLast?_cons] at ends
          exact absurd ends tail
        · exact within

def pads : List Char := ['%', '!', '#', '&']

theorem pads_plain : ∀ pad ∈ pads, isPad pad = true ∧ isSpace pad = false ∧ pad ≠ '$' ∧ pad ≠ '}' := by
  simp only [pads, List.forall_mem_cons]
  exact ⟨by decide, by decide, by decide, by decide, List.forall_mem_nil _⟩

theorem exists_pad {seen : List Char} (few : seen.length < pads.length) : ∃ pad ∈ pads, pad ∉ seen := by
  by_contra none
  simp only [not_exists, not_and, not_not] at none
  have nodup : pads.Nodup := by decide
  exact absurd (nodup.length_le_of_subset fun pad member => none pad member) (Nat.not_le.mpr few)

theorem maskText_leaves {text : String} (holds : ¬HoldsPattern text.toList) {secrets : List String}
    (absent : ∀ secret ∈ secrets, secret ≠ "" → ¬Occurs secret text) {first last : Char}
    (firstPad : first ∈ pads) (lastPad : last ∈ pads)
    (heads : ∀ secret ∈ secrets, secret.toList.head? ≠ some first)
    (lasts : ∀ secret ∈ secrets, secret.toList.getLast? ≠ some last) :
    Occurs text (maskText secrets (String.ofList (first :: (text.toList ++ [last])))) := by
  obtain ⟨padding, -, dollar, -⟩ := pads_plain first firstPad
  obtain ⟨lastPadding, -, -, brace⟩ := pads_plain last lastPad
  have noReference : ∀ part, IsReference part → ¬part <:+: first :: (text.toList ++ [last]) := by
    rintro _ ⟨name, rfl, some, closed⟩ inside
    refine holds (Or.inl ⟨_, ⟨name, rfl, some, closed⟩, infix_between ?_ ?_ inside⟩)
    · simp [referenceOpening, dollar.symm]
    · simp [brace.symm]
  have noSecret : ∀ secret ∈ secrets, secret ≠ "" →
      ¬secret.toList <:+: first :: (text.toList ++ [last]) := fun secret member nonempty inside =>
    absent secret member nonempty (infix_between (heads secret member) (lasts secret member) inside)
  have starts : ¬AssignsSecret (first :: text.toList) := by
    rintro ⟨value, ⟨key, found, -⟩, -⟩
    simp only [isPad, Bool.and_eq_true, Bool.not_eq_true', decide_eq_true_eq] at padding
    rw [List.takeWhile_cons_of_pos (by simpa using padding.2), assignment, if_neg (by simp [padding.1.1.1.1]),
      if_neg (by simp [padding.1.1.1.2])] at found
    nomatch found
  have later : ¬HoldsAssignment (first :: text.toList) := by
    rintro ⟨before, rest, whole, assigns⟩
    cases before with
    | nil =>
        obtain rfl : first = '\n' := (List.cons.inj whole).1
        exact absurd padding (by decide)
    | cons c before => exact holds (Or.inr ⟨before, rest, (List.cons.inj whole).2, assigns⟩)
  rw [Occurs, toList_maskText, String.toList_ofList, maskReferences_none noReference,
    replaceSecrets_absent noSecret]
  exact (List.suffix_cons _ _).isInfix.trans (redactAssignments_keeps lastPadding starts later).isInfix

/-- The text contains one of the secrets, or `mask_text` takes it out of a line without any. -/
def Hidden (secrets : List String) (text : String) : Prop :=
  (∃ secret ∈ secrets, secret ≠ "" ∧ Occurs secret text) ∨
    ¬Occurs text (maskText [] (String.ofList ('%' :: (text.toList ++ ['%']))))

section

variable {secrets : List String} {text : String} (plain : '*' ∉ text.toList)

include plain

theorem Hidden.masked (hidden : Hidden secrets text) (other : String) : ¬Occurs text (maskText secrets other) := by
  rcases hidden with ⟨secret, member, nonempty, inside⟩ | unseen
  · have secretPlain : '*' ∉ secret.toList := fun member => plain (inside.subset member)
    exact fun left => maskText_secret secretPlain nonempty member other (List.IsInfix.trans inside left)
  · refine maskText_pattern plain (by_contra fun holds => unseen ?_) secrets other
    exact maskText_leaves holds (by simp) (by decide) (by decide) (by simp) (by simp)

theorem exists_unmasked (few : secrets.length < pads.length) (seen : ¬Hidden secrets text) :
    ∃ other, strip other = other ∧ Occurs text (maskText secrets other) := by
  rw [Hidden, not_or, not_not] at seen
  obtain ⟨absent, left⟩ := seen
  have holds : ¬HoldsPattern text.toList := fun holds => maskText_pattern plain holds [] _ left
  have limited (edge : List Char → Option Char) : (secrets.filterMap fun secret => edge secret.toList).length <
      pads.length := Nat.lt_of_le_of_lt (List.length_filterMap_le _ _) few
  obtain ⟨first, firstPad, fresh⟩ := exists_pad (limited List.head?)
  obtain ⟨last, lastPad, lastFresh⟩ := exists_pad (limited List.getLast?)
  refine ⟨String.ofList (first :: (text.toList ++ [last])), ?_, maskText_leaves holds ?_ firstPad lastPad ?_ ?_⟩
  · have visible := (pads_plain first firstPad).2.1
    have lastVisible := (pads_plain last lastPad).2.1
    simp [strip, stripChars, dropEndWhile, visible, lastVisible]
  · exact fun secret member nonempty inside => absent ⟨secret, member, nonempty, inside⟩
  · exact fun secret member same => fresh (List.mem_filterMap.mpr ⟨secret, member, same⟩)
  · exact fun secret member same => lastFresh (List.mem_filterMap.mpr ⟨secret, member, same⟩)

end

end Korserver
