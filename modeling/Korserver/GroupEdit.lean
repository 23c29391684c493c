import Korserver.HexText
import Korserver.TextParts
import Korserver.UsersCore
import Mathlib.Data.List.Forall2

/-!
The groups of a user that are written to the ocpasswd file and read back.
-/

namespace Korserver

open PythonText PythonValue

def legacyLock (field : String) : Bool := isLocked field && !looksLikePasswordHash field

def passwordField : List String → String
  | first :: second :: _ => if legacyLock second || looksLikePasswordHash first then first else second
  | [only] => only
  | [] => ""

def recordTail (line : String) : List String := (parsePasswdRecord line).fields.tail

def isRecordOf (username line : String) : Bool :=
  decide ((parsePasswdRecord line).username = username) && decide (2 ≤ (parsePasswdRecord line).fields.length)

structure SameRecord (line after : String) : Prop where
  username : (parsePasswdRecord after).username = (parsePasswdRecord line).username
  password : passwordField (recordTail after) = passwordField (recordTail line)
  disabled : (parsePasswdRecord after).disabled = (parsePasswdRecord line).disabled

def KeptLine (username line after : String) : Prop :=
  if isRecordOf username line = true then SameRecord line after else after = line

def GroupsSet (username : String) (groups : List String) (file after : TextFile) : Prop :=
  readUserGroups username after = .ok groups ∧ ∃ lines others, passwdLines file = .ok lines ∧
    passwdLines after = .ok others ∧ List.Forall₂ (KeptLine username) lines others

/-- The groups are no placeholders, and together too short for a hash. -/
def GroupsReadable (groups : List String) : Prop :=
  (∀ group ∈ groups, 1 < group.length) ∧ (join "," groups).length ≤ 32

/-- The fields behind the name of the first record, between which the groups are put, show them. -/
def GroupsShown (groups : List String) : List String → Prop
  | _ :: second :: rest =>
      if groups = [] then parseGroupsField (groupField (second :: rest)) = [] else legacyLock second = false
  | [only] => groups ≠ [] → legacyLock only = false
  | [] => True

def PasswordKept (groups : List String) : List String → Prop
  | first :: second :: rest =>
      if groups = [] then passwordField (second :: rest) = passwordField (first :: second :: rest)
      else if legacyLock second = true then first = join "," groups
      else looksLikePasswordHash first = false ∨ first = second
  | [only] => groups ≠ [] → legacyLock only = false
  | [] => True

def LockKept (name : String) : List String → Prop
  | first :: second :: rest =>
      isLocked first = true → (isLocked name || (second :: rest).any isLocked) = true
  | _ => True

structure RecordsEditable (username : String) (groups lines : List String) : Prop where
  readable : GroupsReadable groups
  shown : ∀ line, lines.find? (isRecordOf username) = some line → GroupsShown groups (recordTail line)
  kept : ∀ line ∈ lines, isRecordOf username line = true →
    PasswordKept groups (recordTail line) ∧ LockKept ((parsePasswdRecord line).fields.headD "") (recordTail line)

theorem isAlphanum_isAlnum {c : Char} (letter : c.isAlphanum = true) : isAlnum c = true := by
  simp only [isAlnum, Bool.or_eq_true, Bool.and_eq_true, decide_eq_true_eq]
  rcases (Bool.or_eq_true_iff.mp letter).imp_left Bool.or_eq_true_iff.mp with (upper | lower) | digit
  · exact .inl (.inl (of_decide_eq_true upper))
  · have bounds := Bool.and_eq_true_iff.mp lower
    exact .inl (.inr ⟨of_decide_eq_true bounds.1, of_decide_eq_true bounds.2⟩)
  · have bounds := Bool.and_eq_true_iff.mp digit
    exact .inr ⟨of_decide_eq_true bounds.1, of_decide_eq_true bounds.2⟩

theorem usernameChar_range {c : Char} (letter : usernameChar c = true) :
    45 ≤ c.toNat ∧ c.toNat ≤ 122 ∧ c ≠ ':' ∧ c ≠ ';' := by
  rw [usernameChar, Bool.or_eq_true, Bool.or_eq_true, Bool.or_eq_true, Bool.or_eq_true, beq_iff_eq,
    beq_iff_eq, beq_iff_eq, beq_iff_eq] at letter
  rcases letter with (((alnum | rfl) | rfl) | rfl) | rfl
  · have range := isAlnum_range (isAlphanum_isAlnum alnum)
    refine ⟨by omega, by omega, ?_, ?_⟩ <;> rintro rfl <;> exact absurd range (by decide)
  all_goals decide

theorem usernameChar_visible {c : Char} (letter : usernameChar c = true) :
    isSpace c = false ∧ isLineBreak c = false := by
  obtain ⟨low, high, -⟩ := usernameChar_range letter
  exact visible_of_range (by omega) (by omega)

/-- What a name may not hold: `!`, `#`, `$`, commas, colons and semicolons. -/
theorem usernameChar_plain {c : Char} (letter : usernameChar c = true) :
    c ≠ '!' ∧ c ≠ '#' ∧ c ≠ '$' ∧ c ≠ ',' ∧ c ≠ ':' ∧ c ≠ ';' := by
  obtain ⟨low, -, colon, semicolon⟩ := usernameChar_range letter
  refine ⟨?_, ?_, ?_, ?_, colon, semicolon⟩ <;> rintro rfl <;> exact absurd low (by decide)

/-- A group as `set_user_groups` writes it. -/
structure GroupName (group : String) : Prop where
  some_ne : group ≠ ""
  chars : ∀ c ∈ group.toList, usernameChar c = true

theorem matchesUsername_chars {text : String} (matched : matchesUsername text = true) :
    beforeDollar text.toList ≠ [] ∧ ∀ c ∈ beforeDollar text.toList, usernameChar c = true := by
  simp only [matchesUsername, Bool.and_eq_true, List.all_eq_true, decide_eq_true_eq] at matched
  obtain ⟨⟨chars, length, -⟩, -⟩ := matched
  exact ⟨List.ne_nil_of_length_pos length, chars⟩

theorem cleanGroups_names {groups clean : List String} (accepted : cleanGroups groups = .ok clean) :
    ∀ group ∈ clean, GroupName group := by
  induction groups generalizing clean with
  | nil =>
      obtain rfl := Except.ok.inj accepted
      exact nofun
  | cons group rest ih =>
      rw [cleanGroups] at accepted
      split at accepted
      · exact ih accepted
      · rename_i some_ne
        obtain ⟨name, valid, accepted⟩ := bind_ok.mp accepted
        obtain ⟨others, later, accepted⟩ := bind_ok.mp accepted
        obtain rfl := pure_ok.mp accepted
        rw [validateGroupName] at valid
        split at valid
        · rename_i matched
          obtain rfl := Except.ok.inj valid
          refine List.forall_mem_cons.mpr ⟨⟨some_ne, ?_⟩, ih later⟩
          have ends : beforeDollar (strip group).toList = (strip group).toList := by
            rw [beforeDollar, if_neg]
            intro newline
            rw [strip, String.toList_ofList] at newline
            have visible := stripChars_getLast newline
            exact absurd visible (by decide)
          exact ends ▸ (matchesUsername_chars matched).2
        · cases valid

def editedTail (groups : List String) : List String → List String
  | _ :: second :: rest => if groups = [] then second :: rest else join "," groups :: second :: rest
  | [only] => if groups = [] then [only] else [join "," groups, only]
  | [] => []

theorem editedTail_parts {groups tail : List String} {part : String} (member : part ∈ editedTail groups tail) :
    part ∈ tail ∨ part = join "," groups := by
  rcases tail with _ | ⟨first, _ | ⟨second, rest⟩⟩
  · cases member
  · simp only [editedTail] at member
    split at member
    · exact Or.inl member
    · simp only [List.mem_cons, List.not_mem_nil, or_false] at member ⊢
      exact member.symm
  · simp only [editedTail] at member
    split at member
    · exact Or.inl (List.mem_cons_of_mem _ member)
    · rcases List.mem_cons.mp member with rfl | later
      · exact Or.inr rfl
      · exact Or.inl (List.mem_cons_of_mem _ later)

theorem parse_fields {line name : String} {tail : List String}
    (fields : (parsePasswdRecord line).fields = name :: tail) :
    parsePasswdRecord line =
      { username := unlocked name
        fields := name :: tail
        disabled := isLocked name || tail.any isLocked
        groups := parseGroupsField (groupField tail) } := by
  have cut : splitText ':' line = name :: tail := fields
  rw [parsePasswdRecord, cut]
  rfl

theorem fields_cases (line : String) : ∃ name tail, (parsePasswdRecord line).fields = name :: tail := by
  change ∃ name tail, splitText ':' line = name :: tail
  rcases cut : splitChar ':' line.toList with _ | ⟨name, tail⟩
  · exact absurd cut (splitChar_ne_nil _ _)
  · exact ⟨_, _, by rw [splitText, cut, List.map_cons]⟩

theorem isRecordOf_iff {username line name : String} {tail : List String}
    (fields : (parsePasswdRecord line).fields = name :: tail) :
    isRecordOf username line = true ↔ unlocked name = username ∧ tail ≠ [] := by
  rw [isRecordOf, parse_fields fields]
  cases tail <;> simp

theorem tail_nil_iff {line name : String} {tail : List String}
    (fields : (parsePasswdRecord line).fields = name :: tail) :
    (tail = [] → name = line) ∧ (tail ≠ [] ↔ ':' ∈ line.toList) := by
  have cut : splitText ':' line = name :: tail := fields
  by_cases colon : ':' ∈ line.toList
  · obtain ⟨before, rest, spelled⟩ := List.append_of_mem colon
    have lengths := congrArg List.length cut
    rw [splitText, spelled, splitChar_append, List.length_map, List.length_append] at lengths
    have first := List.length_pos_iff.mpr (splitChar_ne_nil ':' before)
    have second := List.length_pos_iff.mpr (splitChar_ne_nil ':' rest)
    have more : tail ≠ [] := by
      rintro rfl
      simp only [List.length_singleton] at lengths
      omega
    exact ⟨fun none => absurd none more, ⟨fun _ => colon, fun _ => more⟩⟩
  · rw [splitText, splitChar_last colon, List.map_singleton, String.ofList_toList] at cut
    obtain ⟨rfl, rfl⟩ := List.cons.inj cut
    exact ⟨fun _ => rfl, ⟨fun more => absurd rfl more, fun found => absurd found colon⟩⟩

/-! What is printed and read. -/

section

variable {groups : List String} (names : ∀ group ∈ groups, GroupName group)

include names

theorem groupValue_chars {c : Char} (member : c ∈ (join "," groups).toList) :
    c ≠ '!' ∧ c ≠ '#' ∧ c ≠ '$' ∧ c ≠ ':' ∧ c ≠ ';' ∧ isLineBreak c = false := by
  rcases mem_join member with comma | ⟨group, inGroups, inGroup⟩
  · obtain rfl := List.mem_singleton.mp comma
    decide
  · have letter := (names group inGroups).chars c inGroup
    obtain ⟨mark, hash, dollar, -, colon, semicolon⟩ := usernameChar_plain letter
    exact ⟨mark, hash, dollar, colon, semicolon, (usernameChar_visible letter).2⟩

theorem isLocked_groupValue : isLocked (join "," groups) = false := by
  rw [isLocked, beq_eq_false_iff_ne]
  intro marked
  exact (groupValue_chars names (List.mem_of_head? marked)).1 rfl

theorem unlocked_groupValue : unlocked (join "," groups) = join "," groups := by
  rw [unlocked]
  have kept : (join "," groups).toList.dropWhile (· == '!') = (join "," groups).toList := by
    cases spelled : (join "," groups).toList with
    | nil => rfl
    | cons c rest =>
        have plain := (groupValue_chars names (spelled ▸ List.mem_cons_self)).1
        exact List.dropWhile_cons_of_neg (by simpa using plain)
  rw [kept, String.ofList_toList]

theorem looksLikePasswordHash_groupValue :
    looksLikePasswordHash (join "," groups) = decide (32 < (join "," groups).length) := by
  rw [looksLikePasswordHash, unlocked_groupValue names]
  have noDollar : (join "," groups).toList.head? ≠ some '$' := fun dollar =>
    (groupValue_chars names (List.mem_of_head? dollar)).2.2.1 rfl
  by_cases none : (join "," groups).toList = []
  · have short : (join "," groups).length = 0 := by rw [← String.length_toList, none]; rfl
    simp [none, short]
  · simp only [none, if_false]
    rw [String.length_toList]
    simp [noDollar]

theorem groupValue_empty : join "," groups = "" ↔ groups = [] := by
  constructor
  · intro empty
    cases groups with
    | nil => rfl
    | cons group rest =>
        have some_ne := (names group List.mem_cons_self).some_ne
        cases rest with
        | nil => exact absurd empty some_ne
        | cons next rest =>
            rw [join_cons (List.cons_ne_nil _ _)] at empty
            have lengths := congrArg String.length empty
            simp at lengths
  · rintro rfl
    rfl

theorem parseGroupsField_groupValue :
    parseGroupsField (join "," groups) = groups.filter fun group => decide (1 < group.length) := by
  have whole {group : String} (member : group ∈ groups) :
      splitText ';' group = [group] ∧ strip group = group := by
    have chars := (names group member).chars
    constructor
    · rw [splitText, splitChar_last fun inGroup => (usernameChar_plain (chars _ inGroup)).2.2.2.2.2 rfl]
      simp
    · rw [strip, stripChars_none fun c inGroup => (usernameChar_visible (chars c inGroup)).1, String.ofList_toList]
  rw [parseGroupsField, unlocked_groupValue names]
  by_cases none : groups = []
  · subst none
    decide
  · have cut : splitText ',' (join "," groups) = groups := by
      have commas : ∀ group ∈ groups, ',' ∉ group.toList := fun group member inGroup =>
        (usernameChar_plain ((names group member).chars _ inGroup)).2.2.2.1 rfl
      rw [splitText, show (",":String) = String.singleton ',' from rfl, splitChar_join none commas, List.map_map]
      simp [Function.comp_def]
    have items : groups.flatMap (splitText ';') = groups := by
      rw [List.flatMap_congr fun group member => (whole member).1]
      simp
    rw [cut, items, ← List.filterMap_eq_filter]
    refine List.filterMap_congr fun group member => ?_
    simp only [(whole member).2, Option.guard, decide_eq_true_eq]

theorem parseGroups_iff (tail : List String) :
    parseGroupsField (groupField (editedTail groups tail)) = groups ↔
      (tail = [] → groups = []) ∧ (tail ≠ [] → GroupsReadable groups ∧ GroupsShown groups tail) := by
  have value := parseGroupsField_groupValue names
  have hash := looksLikePasswordHash_groupValue names
  have emptyField : parseGroupsField "" = [] := by decide
  have readable : GroupsReadable groups ↔
      (groups.filter fun group => decide (1 < group.length)) = groups ∧ (join "," groups).length ≤ 32 := by
    rw [GroupsReadable, List.filter_eq_self]
    simp
  have noGroups : GroupsReadable [] := ⟨nofun, by decide⟩
  -- groups that are written in front of a field
  have shown (next : String) (more : List String) (given : groups ≠ []) :
      parseGroupsField (groupField (join "," groups :: next :: more)) = groups ↔
        GroupsReadable groups ∧ legacyLock next = false := by
    rw [groupField, hash, readable]
    rw [show (isLocked next && !looksLikePasswordHash next) = legacyLock next from rfl]
    cases legacy : legacyLock next with
    | true => simp [emptyField, given.symm]
    | false =>
        by_cases short : (join "," groups).length ≤ 32
        · simp [short, value, Nat.not_lt.mpr short]
        · simp [short, Nat.lt_of_not_le short, emptyField, given.symm]
  rcases tail with _ | ⟨first, _ | ⟨second, rest⟩⟩
  · simp [editedTail, groupField, emptyField, eq_comm]
  · by_cases none : groups = []
    · subst none
      simp [editedTail, groupField, emptyField, GroupsShown, noGroups]
    · simp only [editedTail, if_neg none]
      rw [shown _ _ none]
      simp [GroupsShown, none]
  · by_cases none : groups = []
    · subst none
      simp [editedTail, GroupsShown, noGroups]
    · simp only [editedTail, if_neg none]
      rw [shown _ _ none]
      simp [GroupsShown, none]

theorem passwordField_iff (short : (join "," groups).length ≤ 32) (tail : List String) :
    passwordField (editedTail groups tail) = passwordField tail ↔ PasswordKept groups tail := by
  have hash : looksLikePasswordHash (join "," groups) = false := by
    rw [looksLikePasswordHash_groupValue names, decide_eq_false_iff_not]
    omega
  rcases tail with _ | ⟨first, _ | ⟨second, rest⟩⟩
  · simp [editedTail, PasswordKept]
  · by_cases none : groups = []
    · simp [editedTail, PasswordKept, none]
    · simp only [editedTail, if_neg none, passwordField, hash, Bool.or_false, PasswordKept]
      cases legacy : legacyLock first with
      | false => simp
      | true =>
          have locked : isLocked first = true := (Bool.and_eq_true_iff.mp legacy).1
          have other : join "," groups ≠ first := by
            intro same
            rw [← same, isLocked_groupValue names] at locked
            cases locked
          simp [none, other]
  · by_cases none : groups = []
    · simp [editedTail, PasswordKept, none]
    · simp only [editedTail, if_neg none, passwordField, hash, Bool.or_false, PasswordKept]
      cases legacy : legacyLock second with
      | true => simp [eq_comm]
      | false =>
          cases looksLikePasswordHash first with
          | true => simp [eq_comm]
          | false => simp

theorem locked_iff (name : String) (tail : List String) :
    (isLocked name || (editedTail groups tail).any isLocked) = (isLocked name || tail.any isLocked) ↔
      LockKept name tail := by
  have value := isLocked_groupValue names
  rcases tail with _ | ⟨first, _ | ⟨second, rest⟩⟩
  · simp [editedTail, LockKept]
  · by_cases none : groups = [] <;> simp [editedTail, LockKept, none, value]
  · have left : (editedTail groups (first :: second :: rest)).any isLocked = (second :: rest).any isLocked := by
      by_cases none : groups = [] <;> simp [editedTail, none, value]
    rw [left, LockKept, List.any_cons (l := second :: rest)]
    cases isLocked first <;> simp

theorem render_eq {line name : String} {tail : List String}
    (fields : (parsePasswdRecord line).fields = name :: tail) :
    renderPasswdRecord (parsePasswdRecord line) groups = join ":" (name :: editedTail groups tail) := by
  rcases tail with _ | ⟨first, _ | ⟨second, rest⟩⟩ <;>
    simp only [renderPasswdRecord, fields, editedTail, ne_eq, groupValue_empty names]
  · split <;> simp_all
  · split <;> simp_all

theorem recordFields_render {line name : String} {tail : List String}
    (fields : (parsePasswdRecord line).fields = name :: tail) :
    (parsePasswdRecord (renderPasswdRecord (parsePasswdRecord line) groups)).fields =
      name :: editedTail groups tail := by
  have plain : ∀ field ∈ name :: tail, ':' ∉ field.toList := by
    intro field member inField
    rw [← fields] at member
    obtain ⟨part, cut, rfl⟩ := List.mem_map.mp (show field ∈ splitText ':' line from member)
    rw [String.toList_ofList] at inField
    exact splitChar_single cut inField
  have written : ∀ field ∈ name :: editedTail groups tail, ':' ∉ field.toList := by
    intro field member
    rcases List.mem_cons.mp member with rfl | inTail
    · exact plain _ List.mem_cons_self
    · rcases editedTail_parts inTail with old | rfl
      · exact plain _ (List.mem_cons_of_mem _ old)
      · exact fun inValue => (groupValue_chars names inValue).2.2.2.1 rfl
  rw [render_eq names fields]
  change splitText ':' _ = _
  rw [splitText, show (":" : String) = String.singleton ':' from rfl, splitChar_join (List.cons_ne_nil _ _) written,
    List.map_map]
  simp [Function.comp_def]

theorem parse_render {line name : String} {tail : List String}
    (fields : (parsePasswdRecord line).fields = name :: tail) :
    parsePasswdRecord (renderPasswdRecord (parsePasswdRecord line) groups) =
      { username := unlocked name
        fields := name :: editedTail groups tail
        disabled := isLocked name || (editedTail groups tail).any isLocked
        groups := parseGroupsField (groupField (editedTail groups tail)) } := by
  have cut : splitText ':' (renderPasswdRecord (parsePasswdRecord line) groups) =
      name :: editedTail groups tail := recordFields_render names fields
  rw [parsePasswdRecord, cut]
  rfl

theorem sameRecord_iff (short : (join "," groups).length ≤ 32) (line : String) :
    SameRecord line (renderPasswdRecord (parsePasswdRecord line) groups) ↔
      PasswordKept groups (recordTail line) ∧
        LockKept ((parsePasswdRecord line).fields.headD "") (recordTail line) := by
  obtain ⟨name, tail, fields⟩ := fields_cases line
  have parsed := parse_render names fields
  have before := parse_fields fields
  generalize renderPasswdRecord (parsePasswdRecord line) groups = after at parsed ⊢
  rw [recordTail, before]
  simp only [List.tail_cons, List.headD_cons]
  rw [← passwordField_iff names short, ← locked_iff names]
  constructor
  · intro same
    have password := same.password
    have disabled := same.disabled
    rw [recordTail, recordTail, parsed, before] at password
    rw [parsed, before] at disabled
    exact ⟨password, disabled⟩
  · rintro ⟨password, disabled⟩
    refine ⟨?_, ?_, ?_⟩
    · rw [parsed, before]
    · rw [recordTail, recordTail, parsed, before]
      exact password
    · rw [parsed, before]
      exact disabled

end

/-! The whole file. -/

/-- What `set_user_groups` makes of a line. -/
def editLine (username : String) (groups : List String) (line : String) : String :=
  if (parsePasswdRecord line).username = username then renderPasswdRecord (parsePasswdRecord line) groups
  else line

section

variable {username : String} {groups : List String} (names : ∀ group ∈ groups, GroupName group)

theorem editLine_other {line : String} (other : isRecordOf username line ≠ true) :
    editLine username groups line = line := by
  rw [editLine]
  split
  · rename_i same
    obtain ⟨name, tail, fields⟩ := fields_cases line
    rw [ne_eq, isRecordOf_iff fields, not_and_not_right] at other
    rw [parse_fields fields] at same
    obtain rfl := other same
    rw [renderPasswdRecord, fields]
    exact (tail_nil_iff fields).1 rfl
  · rfl

theorem editLine_record {line : String} (record : isRecordOf username line = true) :
    editLine username groups line = renderPasswdRecord (parsePasswdRecord line) groups := by
  rw [isRecordOf, Bool.and_eq_true, decide_eq_true_eq] at record
  rw [editLine, if_pos record.1]

theorem keptLine_iff (names : ∀ group ∈ groups, GroupName group) (short : (join "," groups).length ≤ 32)
    (line : String) :
    KeptLine username line (editLine username groups line) ↔
      (isRecordOf username line = true → PasswordKept groups (recordTail line) ∧
        LockKept ((parsePasswdRecord line).fields.headD "") (recordTail line)) := by
  rw [KeptLine]
  split
  · rename_i record
    rw [editLine_record record, sameRecord_iff names short]
    exact ⟨fun same _ => same, fun same => same record⟩
  · rename_i other
    exact ⟨fun _ record => absurd record other, fun _ => editLine_other other⟩

theorem record_head (valid : matchesUsername username = true) {line name : String} {tail : List String}
    (fields : (parsePasswdRecord line).fields = name :: tail) (same : unlocked name = username)
    (colon : ':' ∈ line.toList) : line.toList.head? ≠ some '#' := by
  intro hash
  obtain ⟨before, rest, spelled, single⟩ := List.eq_append_cons_of_mem colon
  have cut : splitText ':' line = name :: tail := fields
  rw [splitText, spelled, splitChar_line single, List.map_cons] at cut
  obtain ⟨rfl, -⟩ := List.cons.inj cut
  obtain ⟨some_ne, chars⟩ := matchesUsername_chars valid
  rw [← same, unlocked, String.toList_ofList, String.toList_ofList] at some_ne chars
  rw [spelled] at hash
  cases before with
  | nil => exact some_ne rfl
  | cons c before =>
      obtain rfl : c = '#' := by simpa using hash
      rw [List.dropWhile_cons_of_neg (by decide)] at some_ne chars
      have first : '#' ∈ beforeDollar ('#' :: before) := by
        rw [beforeDollar] at some_ne ⊢
        split
        · rename_i ends
          rw [if_pos ends] at some_ne
          cases before with
          | nil => exact absurd rfl some_ne
          | cons d more => simp
        · exact List.mem_cons_self
      exact absurd (chars _ first) (by decide)

theorem userLine_iff (valid : matchesUsername username = true) (line : String) :
    (isUserLine line && decide ((parsePasswdRecord line).username = username)) = isRecordOf username line := by
  rw [Bool.eq_iff_iff, Bool.and_eq_true, decide_eq_true_eq]
  obtain ⟨name, tail, fields⟩ := fields_cases line
  rw [isRecordOf_iff fields, (tail_nil_iff fields).2, parse_fields fields]
  constructor
  · rintro ⟨user, same⟩
    simp only [isUserLine, Bool.and_eq_true, List.contains_iff_mem] at user
    exact ⟨same, user.2⟩
  · rintro ⟨same, colon⟩
    refine ⟨?_, same⟩
    simp only [isUserLine, Bool.and_eq_true, List.contains_iff_mem, decide_eq_true_eq]
    refine ⟨⟨?_, fun hash => ?_⟩, colon⟩
    · rintro rfl
      cases colon
    · exact record_head valid fields same colon hash

theorem editLine_whole (names : ∀ group ∈ groups, GroupName group) {line : String}
    (whole : ∀ c ∈ line.toList, isLineBreak c = false) :
    ∀ c ∈ (editLine username groups line).toList, isLineBreak c = false := by
  obtain ⟨name, tail, fields⟩ := fields_cases line
  rw [editLine]
  split
  · rw [render_eq names fields]
    intro c member
    have inField {field : String} (old : field ∈ name :: tail) (inside : c ∈ field.toList) :
        isLineBreak c = false := by
      rw [← fields] at old
      obtain ⟨part, cut, rfl⟩ := List.mem_map.mp (show field ∈ splitText ':' line from old)
      rw [String.toList_ofList] at inside
      exact whole c (splitChar_mem cut inside)
    rcases mem_join member with colon | ⟨field, known, inside⟩
    · obtain rfl := List.mem_singleton.mp colon
      decide
    · rcases List.mem_cons.mp known with rfl | inTail
      · exact inField List.mem_cons_self inside
      · rcases editedTail_parts inTail with old | rfl
        · exact inField (List.mem_cons_of_mem _ old) inside
        · exact (groupValue_chars names inside).2.2.2.2.2
  · exact whole

theorem isRecordOf_editLine (names : ∀ group ∈ groups, GroupName group) (line : String) :
    isRecordOf username (editLine username groups line) = isRecordOf username line := by
  by_cases record : isRecordOf username line = true
  · rw [editLine_record record, record]
    obtain ⟨name, tail, fields⟩ := fields_cases line
    have same := (isRecordOf_iff fields).mp record
    rw [isRecordOf_iff (recordFields_render names fields)]
    refine ⟨same.1, fun none => same.2 ?_⟩
    rcases tail with _ | ⟨first, _ | ⟨second, rest⟩⟩
    · rfl
    all_goals
      rw [editedTail] at none
      split at none <;> cases none
  · rw [editLine_other record]

theorem readUserGroups_text (valid : matchesUsername username = true) (content : String) :
    readUserGroups username (.text content) =
      .ok ((((splitLines content).find? (isRecordOf username)).map
        fun line => (parsePasswdRecord line).groups).getD []) := by
  have first (lines : List String) : ((lines.filter isUserLine).map fun line =>
        let record := parsePasswdRecord line
        ({ username := record.username, disabled := record.disabled, groups := record.groups } : UserRecord)).find?
          (fun user => decide (user.username = username)) =
      (lines.find? (isRecordOf username)).map fun line =>
        { username := (parsePasswdRecord line).username
          disabled := (parsePasswdRecord line).disabled
          groups := (parsePasswdRecord line).groups } := by
    rw [List.find?_map, List.find?_filter, ← funext (userLine_iff valid)]
    congr 2
    funext line
    simp
  have listed : listUsers (.text content) = .ok (((splitLines content).filter isUserLine).map fun line =>
      let record := parsePasswdRecord line
      { username := record.username, disabled := record.disabled, groups := record.groups }) := rfl
  rw [readUserGroups, validateUsername, if_pos valid, listed]
  simp only [bind, Except.bind, pure, Except.pure, first, Option.map_map, Function.comp_def]

theorem find_edited (names : ∀ group ∈ groups, GroupName group) (lines : List String) :
    (lines.map (editLine username groups)).find? (isRecordOf username) =
      (lines.find? (isRecordOf username)).map (editLine username groups) := by
  have same : isRecordOf username ∘ editLine username groups = isRecordOf username := by
    funext line
    rw [Function.comp_apply, isRecordOf_editLine names]
  rw [List.find?_map, same]

theorem groups_shown_iff (names : ∀ group ∈ groups, GroupName group) {line : String}
    (record : isRecordOf username line = true) :
    (parsePasswdRecord (editLine username groups line)).groups = groups ↔
      GroupsReadable groups ∧ GroupsShown groups (recordTail line) := by
  obtain ⟨name, tail, fields⟩ := fields_cases line
  have some_ne := ((isRecordOf_iff fields).mp record).2
  rw [editLine_record record, parse_render names fields, parseGroups_iff names, recordTail, fields]
  simp [some_ne]

theorem setUserGroups_written {content : String} {given : List String} {after : TextFile}
    (accepted : cleanGroups given = .ok groups)
    (set : setUserGroups username given (.text content) = .ok after)
    (known : (splitLines content).any (fun line => decide ((parsePasswdRecord line).username = username)) = true) :
    matchesUsername username = true ∧
      after = .text (fileText ((splitLines content).map (editLine username groups))) := by
  obtain ⟨name, checked, set⟩ := bind_ok.mp set
  obtain ⟨clean, cleaned, set⟩ := bind_ok.mp set
  obtain rfl : clean = groups := Except.ok.inj (cleaned.symm.trans accepted)
  obtain ⟨lines, read, set⟩ := bind_ok.mp set
  obtain rfl : splitLines content = lines := Except.ok.inj read
  constructor
  · rw [validateUsername] at checked
    split at checked
    · assumption
    · cases checked
  · have same := pure_ok.mp set
    rw [regroupedText, if_pos known] at same
    exact same.symm

theorem lines_written (names : ∀ group ∈ groups, GroupName group) {content : String}
    (some_ne : splitLines content ≠ []) :
    splitLines (fileText ((splitLines content).map (editLine username groups))) =
      (splitLines content).map (editLine username groups) := by
  have nonempty : (splitLines content).map (editLine username groups) ≠ [] := by simpa using some_ne
  rw [fileText, List.isEmpty_eq_false_iff.mpr nonempty]
  refine splitLines_join ?_ nonempty
  intro line member
  obtain ⟨old, inFile, rfl⟩ := List.mem_map.mp member
  exact editLine_whole names (splitLines_whole inFile)

/-- `set_user_groups` and reading the groups back, for a user with a record of at least two fields. -/
theorem groupEdit_iff {content : String} {given : List String} {after : TextFile}
    (accepted : cleanGroups given = .ok groups)
    (set : setUserGroups username given (.text content) = .ok after)
    (record : ∃ line ∈ splitLines content, isRecordOf username line = true) :
    GroupsSet username groups (.text content) after ↔ RecordsEditable username groups (splitLines content) := by
  have names := cleanGroups_names accepted
  obtain ⟨known, member, isRecord⟩ := record
  obtain ⟨valid, rfl⟩ := setUserGroups_written accepted set
    (List.any_eq_true.mpr ⟨known, member, (Bool.and_eq_true_iff.mp isRecord).1⟩)
  obtain ⟨first, found⟩ := Option.isSome_iff_exists.mp (List.find?_isSome.mpr ⟨known, member, isRecord⟩)
  have firstRecord : isRecordOf username first = true := List.find?_some found
  have lines := @lines_written username groups names content (List.ne_nil_of_mem member)
  have readBack : readUserGroups username
        (.text (fileText ((splitLines content).map (editLine username groups)))) = .ok groups ↔
      GroupsReadable groups ∧ GroupsShown groups (recordTail first) := by
    rw [readUserGroups_text valid, lines, find_edited names, found, ← groups_shown_iff names firstRecord]
    simp
  have kept (short : (join "," groups).length ≤ 32) :
      List.Forall₂ (KeptLine username) (splitLines content) ((splitLines content).map (editLine username groups)) ↔
        ∀ line ∈ splitLines content, isRecordOf username line = true →
          PasswordKept groups (recordTail line) ∧
            LockKept ((parsePasswdRecord line).fields.headD "") (recordTail line) := by
    rw [List.forall₂_map_right_iff, List.forall₂_same]
    exact forall₂_congr fun line _ => keptLine_iff names short line
  constructor
  · rintro ⟨read, before, others, same, written, pairs⟩
    obtain ⟨readable, shown⟩ := readBack.mp read
    obtain rfl : splitLines content = before := Except.ok.inj same
    obtain rfl := lines.symm.trans (Except.ok.inj written)
    refine ⟨readable, ?_, (kept readable.2).mp pairs⟩
    intro line isFirst
    obtain rfl := Option.some.inj (found.symm.trans isFirst)
    exact shown
  · intro editable
    refine ⟨readBack.mpr ⟨editable.readable, editable.shown first found⟩, _, _, rfl, congrArg _ lines, ?_⟩
    exact (kept editable.readable.2).mpr editable.kept

end

/-- A user without a group gets two. -/
theorem groupEdit_iff_sample :
    GroupsSet "wh1te" ["infra", "sre"] (.text "wh1te:*:$5$hash\nbob:devops:$5$hash\n")
        (.text "wh1te:infra,sre:$5$hash\nbob:devops:$5$hash\n") ↔
      RecordsEditable "wh1te" ["infra", "sre"] (splitLines "wh1te:*:$5$hash\nbob:devops:$5$hash\n") :=
  @groupEdit_iff "wh1te" ["infra", "sre"] _ [" infra ", "", "sre"] _ (by decide +kernel) (by decide +kernel)
    ⟨"wh1te:*:$5$hash", by decide +kernel, by decide +kernel⟩

/-- The mark of an old lock is kept, the hash in front of it is overwritten. -/
theorem legacyLock_losesHash :
    setUserGroups "alice" ["ops"] (.text "alice:hash:!locked\nbob:hash:active\n") =
        .ok (.text "alice:ops:!locked\nbob:hash:active\n") ∧
      isRecordOf "alice" "alice:hash:!locked" = true ∧
      ¬ GroupsSet "alice" ["ops"] (.text "alice:hash:!locked\nbob:hash:active\n")
        (.text "alice:ops:!locked\nbob:hash:active\n") := by
  refine ⟨by decide +kernel, by decide +kernel, fun set => ?_⟩
  exact absurd set.1 (by decide +kernel)

end Korserver
