import Korserver.SecretOrder

/-!
When `mask_text` treats every character of a text alone, whatever stands beside it.
-/

namespace Korserver

open PythonText Redaction

theorem maskReferences_char (c : Char) : maskReferencesFrom 0 [c] = [c] := by
  refine maskReferences_none ?_
  rintro _ ⟨name, rfl, -, -⟩ inside
  have short := inside.length_le
  simp only [List.length_append, List.length_cons, List.length_nil, referenceOpening] at short
  omega

theorem replaceSecret_stars {chars : List Char} (stars : ∀ c ∈ chars, c = '*') (secret : String) :
    ∀ c ∈ replaceSecret chars secret, c = '*' := by
  intro c member
  by_contra other
  have inside : [c] <:+: replaceSecret chars secret := (List.singleton_infix_iff ..).mpr member
  have before := (replaceSecret_marked chars secret).reveals (by simpa using Ne.symm other) inside
  exact other (stars c ((List.singleton_infix_iff ..).mp before))

theorem replaceSecret_char (c : Char) (secret : String) :
    replaceSecret [c] secret = [c] ∨ replaceSecret [c] secret = asterisks := by
  rw [replaceSecret]
  split
  · exact Or.inl rfl
  · cases found : secretLength secret.toList [c] with
    | none =>
        simp only [substitute, found]
        exact Or.inl trivial
    | some length =>
        simp only [substitute, found]
        refine Or.inr ?_
        cases length - 1 <;> rfl

theorem replaceSecret_ne_nil {chars : List Char} (some_ne : chars ≠ []) (secret : String) :
    replaceSecret chars secret ≠ [] := by
  rw [replaceSecret]
  split
  · exact some_ne
  · rename_i nonempty
    exact fun none => some_ne ((substitute_nil_iff (toList_ne_nil nonempty)).mp none)

theorem redactAssignments_stars {chars : List Char} (stars : ∀ c ∈ chars, c = '*') :
    redactAssignments chars = chars := by
  have single : '\n' ∉ chars := fun newline => absurd (stars _ newline) (by decide)
  rw [redactAssignments_last single]
  cases chars with
  | nil => rfl
  | cons c rest =>
      obtain rfl := stars c List.mem_cons_self
      rfl

theorem redactAssignments_char (c : Char) : redactAssignments [c] = [c] := by
  by_cases newline : c = '\n'
  · subst newline
    decide
  · rw [redactAssignments_last (by simpa using Ne.symm newline)]
    rcases redactAssignment_cases [c] with ⟨head, value, whole, ⟨key, found, some_ne, -⟩, -⟩ | ⟨-, same⟩
    · have shorter := length_assignment found
      have positive := List.length_pos_iff.mpr some_ne
      rw [List.length_singleton] at shorter
      omega
    · exact same

def Starred (shown : Char → List Char) : Prop := ∀ c, shown c = [c] ∨ shown c ≠ [] ∧ ∀ d ∈ shown c, d = '*'

def showChar (secrets : List String) (c : Char) : List Char := secrets.foldl replaceSecret [c]

theorem replaceSecret_starred {shown : Char → List Char} (starred : Starred shown) (secret : String) :
    Starred fun c => replaceSecret (shown c) secret := by
  intro c
  rcases starred c with same | ⟨some_ne, stars⟩
  · simp only [same]
    refine (replaceSecret_char c secret).imp id fun masked => ?_
    rw [masked]
    exact ⟨by decide, fun _ => eq_of_mem_asterisks⟩
  · exact Or.inr ⟨replaceSecret_ne_nil some_ne secret, replaceSecret_stars stars secret⟩

theorem replaceSecrets_starred {shown : Char → List Char} (starred : Starred shown) (secrets : List String) :
    Starred fun c => secrets.foldl replaceSecret (shown c) := by
  induction secrets generalizing shown with
  | nil => exact starred
  | cons secret rest ih => exact ih (replaceSecret_starred starred secret)

theorem showChar_starred (secrets : List String) : Starred (showChar secrets) :=
  replaceSecrets_starred (fun _ => Or.inl rfl) secrets

theorem maskText_char (secrets : List String) (c : Char) :
    (maskText secrets (String.ofList [c])).toList = showChar secrets c := by
  rw [toList_maskText, String.toList_ofList, maskReferences_char]
  change redactAssignments (showChar secrets c) = showChar secrets c
  rcases showChar_starred secrets c with same | stars
  · rw [same, redactAssignments_char]
  · exact redactAssignments_stars stars.2

section

variable {shown : Char → List Char} (starred : Starred shown)

include starred

theorem Starred.marked (chars : List Char) : Marked '*' chars (chars.flatMap shown) := by
  induction chars with
  | nil => exact .nil
  | cons c rest ih =>
      rw [List.flatMap_cons]
      rcases starred c with same | ⟨some_ne, stars⟩
      · rw [same]
        exact .keep c ih
      · have masked : shown c = '*' :: List.replicate ((shown c).length - 1) '*' := by
          rw [← List.replicate_succ, Nat.sub_add_cancel (List.length_pos_iff.mpr some_ne)]
          exact List.eq_replicate_of_mem stars
        rw [masked]
        exact (Marked.hidden [c] _).append ih

theorem Starred.cons (c : Char) (rest : List Char) :
    (c :: rest).flatMap shown = c :: rest.flatMap shown ∨ ∃ more, (c :: rest).flatMap shown = '*' :: more := by
  rw [List.flatMap_cons]
  rcases starred c with same | ⟨some_ne, stars⟩
  · exact Or.inl (by rw [same, List.singleton_append])
  · obtain ⟨star, more, masked⟩ := List.exists_cons_of_ne_nil some_ne
    obtain rfl := stars star (by rw [masked]; exact List.mem_cons_self)
    exact Or.inr ⟨more ++ rest.flatMap shown, by rw [masked, List.cons_append]⟩

theorem Starred.newline {chars : List Char} (single : '\n' ∈ chars → shown '\n' ≠ ['\n']) :
    '\n' ∉ chars.flatMap shown := by
  intro member
  obtain ⟨c, inChars, newline⟩ := List.mem_flatMap.mp member
  rcases starred c with same | ⟨-, stars⟩
  · rw [same, List.mem_singleton] at newline
    subst newline
    exact single inChars same
  · exact absurd (stars _ newline) (by decide)

end

theorem substitute_single (a : Char) (chars : List Char) : substitute (secretLength [a]) asterisks 0 chars =
    chars.flatMap fun c => substitute (secretLength [a]) asterisks 0 [c] := by
  induction chars with
  | nil => rfl
  | cons c rest ih =>
      have known : secretLength [a] (c :: rest) = secretLength [a] [c] := by
        simp [secretLength, List.cons_prefix_cons]
      rw [List.flatMap_cons, ← ih]
      cases found : secretLength [a] [c] with
      | none =>
          rw [found] at known
          simp only [substitute, known, found]
          rfl
      | some length =>
          rw [found] at known
          obtain ⟨-, rfl⟩ := secretLength_some.mp found
          simp only [substitute, known, found]
          simp

theorem replaceSecret_single {secret : String} (single : secret.length = 1) (chars : List Char) :
    replaceSecret chars secret = chars.flatMap fun c => replaceSecret [c] secret := by
  rw [← String.length_toList, List.length_eq_one_iff] at single
  obtain ⟨a, spelled⟩ := single
  have nonempty : secret ≠ "" := by
    rintro rfl
    cases spelled
  simp only [replaceSecret, if_neg nonempty, spelled]
  exact substitute_single a chars

theorem replaceSecrets_flatMap {secrets : List String} {chars : List Char} {shown : Char → List Char}
    (starred : Starred shown)
    (absent : ∀ secret ∈ secrets, 2 ≤ secret.length → '*' ∉ secret.toList ∧ ¬secret.toList <:+: chars) :
    secrets.foldl replaceSecret (chars.flatMap shown) =
      chars.flatMap fun c => secrets.foldl replaceSecret (shown c) := by
  induction secrets generalizing shown with
  | nil => rfl
  | cons secret rest ih =>
      have first : replaceSecret (chars.flatMap shown) secret =
          chars.flatMap fun c => replaceSecret (shown c) secret := by
        by_cases long : 2 ≤ secret.length
        · obtain ⟨plain, outside⟩ := absent secret List.mem_cons_self long
          have unseen : ¬secret.toList <:+: chars.flatMap shown :=
            fun inside => outside ((starred.marked chars).reveals plain inside)
          rw [replaceSecret_absent fun _ => unseen]
          refine List.flatMap_congr fun c member => (replaceSecret_absent fun _ inside => ?_).symm
          exact unseen (inside.trans (List.infix_flatMap_of_mem member _))
        · by_cases single : secret.length = 1
          · rw [replaceSecret_single single, List.flatMap_assoc]
            exact List.flatMap_congr fun c _ => (replaceSecret_single single _).symm
          · obtain rfl : secret = "" := by
              rw [← String.length_eq_zero_iff]
              omega
            rfl
      rw [List.foldl_cons, first, ih (replaceSecret_starred starred secret)
        fun other member => absent other (List.mem_cons_of_mem _ member)]
      rfl

/-- No secret of several characters is there, and either no other one, or none is made of asterisks. -/
theorem replaceSecrets_pieces {secrets : List String} {chars : List Char}
    (absent : ∀ secret ∈ secrets, 2 ≤ secret.length → ¬secret.toList <:+: chars)
    (single : ∀ secret ∈ secrets, secret.length = 1 → secret.toList <:+: chars →
      ∀ other ∈ secrets, 2 ≤ other.length → '*' ∉ other.toList) :
    secrets.foldl replaceSecret chars = chars.flatMap (showChar secrets) := by
  by_cases found : ∃ secret ∈ secrets, secret.length = 1 ∧ secret.toList <:+: chars
  · obtain ⟨secret, member, size, inside⟩ := found
    have pieces := @replaceSecrets_flatMap secrets chars (fun c => [c]) (fun _ => Or.inl rfl) fun other known long =>
      ⟨single secret member size inside other known long, absent other known long⟩
    rwa [List.flatMap_singleton'] at pieces
  · have none : ∀ secret ∈ secrets, secret ≠ "" → ¬secret.toList <:+: chars := by
      intro secret member nonempty inside
      have positive := List.length_pos_iff.mpr (toList_ne_nil nonempty)
      rw [String.length_toList] at positive
      by_cases long : 2 ≤ secret.length
      · exact absent secret member long inside
      · exact found ⟨secret, member, by omega, inside⟩
    rw [replaceSecrets_absent none]
    have alone : chars.flatMap (showChar secrets) = chars.flatMap fun c => [c] :=
      List.flatMap_congr fun c member => replaceSecrets_absent fun secret known nonempty inside =>
        none secret known nonempty (inside.trans ((List.singleton_infix_iff ..).mpr member))
    rw [alone, List.flatMap_singleton']

theorem maskReferences_same {chars : List Char}
    (masked : ∀ part, IsReference part → part <:+: chars → part = maskedReference.toList) :
    maskReferencesFrom 0 chars = chars := by
  rw [maskReferences_substitute]
  refine substitute_same fun rest length suffix found => ⟨(hides_references _ _ found).1, ?_⟩
  obtain ⟨part, reference, start, rfl⟩ := referenceLength_some.mp found
  rw [← masked part reference (start.isInfix.trans suffix.isInfix)]
  exact List.prefix_iff_eq_take.mp start |>.symm

theorem maskReferences_reference {part : List Char} (reference : IsReference part) :
    maskReferencesFrom 0 part = maskedReference.toList := by
  have found : referenceLength part = some part.length :=
    referenceLength_some.mpr ⟨part, reference, List.prefix_rfl, rfl⟩
  obtain ⟨c, rest, rfl⟩ : ∃ c rest, part = c :: rest := by
    obtain ⟨name, rfl, -, -⟩ := reference
    exact ⟨_, _, rfl⟩
  rw [maskReferences_substitute, substitute_some found (Nat.succ_pos _), List.drop_length]
  exact List.append_nil _

theorem redactAssignment_short {head : List Char} {c : Char} (redacts : Redacts (head ++ [c]) [c]) :
    redactAssignment (head ++ [c]) ≠ head ++ [c] := by
  intro same
  rcases redactAssignment_cases (head ++ [c]) with ⟨front, value, whole, assigned, cut⟩ | ⟨unredacted, -⟩
  · obtain ⟨key, found, -, -⟩ := redacts
    obtain ⟨other, otherFound, -, -⟩ := assigned
    obtain ⟨-, rfl⟩ := Prod.mk.inj (Option.some.inj (found.symm.trans otherFound))
    have longer := congrArg List.length (cut.symm.trans same)
    rw [whole] at longer
    simp only [List.length_append, List.length_singleton, asterisks, String.length_toList] at longer
    have three : "***".length = 3 := by decide
    omega
  · exact unredacted [c] redacts

section

variable {shown : Char → List Char} (starred : Starred shown)

include starred

theorem separatorValue_shown {line value : List Char} (found : separatorValue (line.flatMap shown) = some value) :
    ∃ before, separatorValue line = some before ∧ before.flatMap shown = value := by
  induction line with
  | nil => cases found
  | cons c line ih =>
      rcases starred.cons c line with same | ⟨more, masked⟩
      · rw [same, separatorValue] at found
        rw [separatorValue]
        split
        · rename_i blank
          rw [if_pos blank] at found
          exact ih found
        · rename_i visible
          rw [if_neg visible] at found
          split
          · rename_i separator
            rw [if_pos separator] at found
            exact ⟨line, rfl, Option.some.inj found⟩
          · rename_i other
            rw [if_neg other] at found
            cases found
      · rw [masked] at found
        cases found

theorem keyValue_shown {start key line value : List Char}
    (found : keyValue start (line.flatMap shown) = some (key, value)) :
    ∃ before, keyValue start line = some (key, before) ∧ before.flatMap shown = value := by
  induction line generalizing start with
  | nil => cases found
  | cons c line ih =>
      rcases starred.cons c line with same | ⟨more, masked⟩
      · rw [same, keyValue] at found
        rw [keyValue]
        split
        · rename_i letter
          rw [if_pos letter] at found
          exact ih found
        · rename_i other
          rw [if_neg other] at found
          obtain ⟨rest, separated, pair⟩ := Option.map_eq_some_iff.mp found
          obtain ⟨rfl, rfl⟩ := Prod.mk.inj pair
          rw [← same] at separated
          obtain ⟨before, within, rfl⟩ := separatorValue_shown starred separated
          exact ⟨before, by rw [within]; rfl, rfl⟩
      · rw [masked] at found
        cases found

theorem assignment_shown {key line value : List Char}
    (found : assignment (line.flatMap shown) = some (key, value)) :
    ∃ before, assignment line = some (key, before) ∧ before.flatMap shown = value := by
  induction line with
  | nil => cases found
  | cons c line ih =>
      rcases starred.cons c line with same | ⟨more, masked⟩
      · rw [same, assignment] at found
        rw [assignment]
        split
        · rename_i blank
          rw [if_pos blank] at found
          exact ih found
        · rename_i visible
          rw [if_neg visible] at found
          split
          · rename_i letter
            rw [if_pos letter] at found
            exact keyValue_shown starred found
          · rename_i other
            rw [if_neg other] at found
            cases found
      · rw [masked] at found
        cases found

theorem redacts_shown {line value : List Char} (redacts : Redacts (line.flatMap shown) value) :
    ∃ before, Redacts line before := by
  obtain ⟨key, found, some_ne, secret⟩ := redacts
  obtain ⟨before, within, rfl⟩ := assignment_shown starred found
  refine ⟨before, key, within, ?_, secret⟩
  rintro rfl
  exact some_ne rfl

theorem redactAssignments_shown {chars : List Char}
    (unassigned : ∀ part value, part <:+: chars → ('\n' ∈ part → shown '\n' ≠ ['\n']) → ¬Redacts part value) :
    redactAssignments (chars.flatMap shown) = chars.flatMap shown := by
  have whole {line : List Char} (inside : line <:+: chars) (single : '\n' ∈ line → shown '\n' ≠ ['\n']) :
      redactAssignment (line.flatMap shown) = line.flatMap shown := by
    rcases redactAssignment_cases (line.flatMap shown) with ⟨-, value, -, redacts, -⟩ | ⟨-, same⟩
    · obtain ⟨before, assigned⟩ := redacts_shown starred redacts
      exact absurd assigned (unassigned line before inside single)
    · exact same
  by_cases kept : shown '\n' = ['\n']
  · induction size : chars.length using Nat.strongRecOn generalizing chars with
    | ind size ih =>
        rcases line_cases chars with single | ⟨line, rest, rfl, single⟩
        · rw [redactAssignments_last (starred.newline fun member => absurd member single)]
          exact whole List.infix_rfl fun member => absurd member single
        · have first := whole (List.prefix_append line _).isInfix fun member => absurd member single
          have within : rest <:+: line ++ '\n' :: rest := ⟨line ++ ['\n'], [], by simp⟩
          have later := ih rest.length (by rw [← size]; simp; omega)
            (fun part value inside => unassigned part value (inside.trans within))
            (fun inside => whole (inside.trans within)) rfl
          rw [List.flatMap_append, List.flatMap_cons, kept, List.singleton_append,
            redactAssignments_line (starred.newline fun member => absurd member single), first, later]
  · rw [redactAssignments_last (starred.newline fun _ => kept)]
    exact whole List.infix_rfl fun _ => kept

end

end Korserver
