import Korserver.GroupDeletionCore
import Korserver.GroupEdit

/-!
When the removal of a group is all or nothing: every step has to go through once something is removed.
-/

namespace Korserver

open PythonText PythonValue Effects PosixPaths GroupService

/-! Records of members. -/

section Records

variable {name line : String}

def recordGroups (line : String) : List String := (parsePasswdRecord line).groups

def remainingGroups (name line : String) : List String := (recordGroups line).filter (· ≠ name)

def isMember (name line : String) : Bool := isUserLine line && decide (name ∈ recordGroups line)

/-- `set_user_groups` accepts the member's name, and its other groups. -/
def clearable (name line : String) : Bool :=
  matchesUsername (parsePasswdRecord line).username && (remainingGroups name line).all matchesUsername

/-- A member without another group has no field behind the one of its groups that reads as groups. -/
def LeavesNone (name line : String) : Prop :=
  remainingGroups name line = [] → parseGroupsField (groupField (recordTail line).tail) = []

def clearLine (name line : String) : String :=
  if isMember name line then editLine (parsePasswdRecord line).username (remainingGroups name line) line
  else line

def spelledLength (items : List String) : Nat := (items.map fun item => item.length + 1).sum

theorem length_join (items : List String) : (join "," items).length ≤ spelledLength items - 1 := by
  induction items with
  | nil => decide
  | cons item rest ih =>
      cases rest with
      | nil => simp [join, spelledLength]
      | cons next rest =>
          rw [join_cons (List.cons_ne_nil _ _), String.length_append, String.length_append]
          have one : (",":String).length = 1 := by decide
          have positive : 1 ≤ spelledLength (next :: rest) := by simp [spelledLength]; omega
          have whole : spelledLength (item :: next :: rest) = item.length + 1 + spelledLength (next :: rest) := by
            simp [spelledLength]
          omega

theorem spelledLength_splitText (separator : Char) (text : String) :
    spelledLength (splitText separator text) = text.length + 1 := by
  have chars (cs : List Char) : ((splitChar separator cs).map fun part => part.length + 1).sum = cs.length + 1 := by
    induction cs with
    | nil => rfl
    | cons c rest ih =>
        rw [splitChar]
        split
        · simp [ih]
          omega
        · cases cut : splitChar separator rest with
          | nil => exact absurd cut (splitChar_ne_nil _ _)
          | cons part parts =>
              rw [cut] at ih
              simp only [List.map_cons, List.sum_cons, List.length_cons] at ih ⊢
              omega
  have parts := chars text.toList
  rw [String.length_toList] at parts
  rw [spelledLength, splitText, List.map_map]
  simpa [Function.comp_def] using parts

theorem spelledLength_flatMap (separator : Char) (items : List String) :
    spelledLength (items.flatMap (splitText separator)) = spelledLength items := by
  induction items with
  | nil => rfl
  | cons item rest ih =>
      have first := spelledLength_splitText separator item
      simp only [spelledLength, List.flatMap_cons, List.map_append, List.sum_append, List.map_cons,
        List.sum_cons] at ih first ⊢
      omega

theorem spelledLength_filterMap {f : String → Option String}
    (shorter : ∀ item, ∀ other ∈ f item, other.length ≤ item.length) (items : List String) :
    spelledLength (items.filterMap f) ≤ spelledLength items := by
  induction items with
  | nil => exact Nat.le_refl _
  | cons item rest ih =>
      cases found : f item with
      | none =>
          rw [List.filterMap_cons_none found]
          simp only [spelledLength, List.map_cons, List.sum_cons] at ih ⊢
          omega
      | some other =>
          rw [List.filterMap_cons_some found]
          have bound := shorter item other found
          simp only [spelledLength, List.map_cons, List.sum_cons] at ih ⊢
          omega

theorem length_join_groups (p : String → Bool) (field : String) :
    (join "," ((parseGroupsField field).filter p)).length ≤ (unlocked field).length := by
  have joined := length_join ((parseGroupsField field).filter p)
  have filtered : spelledLength ((parseGroupsField field).filter p) ≤ spelledLength (parseGroupsField field) := by
    rw [← List.filterMap_eq_filter]
    refine spelledLength_filterMap (fun item other found => ?_) _
    obtain ⟨rfl, -⟩ := Option.guard_eq_some_iff.mp found
    exact Nat.le_refl _
  have parsed : spelledLength (parseGroupsField field) ≤
      spelledLength ((splitText ',' (unlocked field)).flatMap (splitText ';')) := by
    refine spelledLength_filterMap (fun item other found => ?_) _
    simp only [Option.mem_def, Option.ite_none_right_eq_some, Option.some.injEq] at found
    obtain ⟨-, rfl⟩ := found
    rw [← String.length_toList, ← String.length_toList, strip, String.toList_ofList]
    exact length_stripChars_le _ _
  rw [spelledLength_flatMap, spelledLength_splitText] at parsed
  omega

theorem mem_parseGroupsField {group field : String} (member : group ∈ parseGroupsField field) :
    strip group = group ∧ 1 < group.length := by
  obtain ⟨item, -, found⟩ := List.mem_filterMap.mp member
  simp only [Option.ite_none_right_eq_some, Option.some.injEq] at found
  obtain ⟨long, rfl⟩ := found
  exact ⟨strip_strip item, long⟩

theorem member_iff : isMember name line = true ↔ isUserLine line = true ∧ name ∈ recordGroups line := by
  rw [isMember, Bool.and_eq_true, decide_eq_true_eq]

theorem member_tail (member : name ∈ recordGroups line) :
    ∃ first second rest, recordTail line = first :: second :: rest ∧ legacyLock second = false ∧
      looksLikePasswordHash first = false ∧ recordGroups line = parseGroupsField first := by
  obtain ⟨username, tail, fields⟩ := fields_cases line
  have parsed := parse_fields fields
  have emptyField : parseGroupsField "" = [] := by decide
  rw [recordGroups, parsed] at member
  simp only at member
  rw [recordTail, recordGroups, parsed]
  simp only [List.tail_cons]
  unfold groupField at member ⊢
  split at member
  · simp only at member ⊢
    split at member
    · rename_i first second rest shown
      simp only [Bool.and_eq_true, Bool.not_eq_true'] at shown
      rw [if_pos (by simp [shown])]
      exact ⟨first, second, rest, rfl, shown.1, shown.2, rfl⟩
    · rw [emptyField] at member
      cases member
  · rw [emptyField] at member
    cases member

theorem recordGroups_eq (line : String) : recordGroups line = parseGroupsField (groupField (recordTail line)) := by
  obtain ⟨username, tail, fields⟩ := fields_cases line
  rw [recordGroups, recordTail, parse_fields fields, List.tail_cons]

theorem mem_remainingGroups {group : String} (other : group ∈ remainingGroups name line) :
    strip group = group ∧ 1 < group.length ∧ group ≠ name := by
  obtain ⟨member, different⟩ := List.mem_filter.mp other
  rw [recordGroups_eq] at member
  have parsed := mem_parseGroupsField member
  exact ⟨parsed.1, parsed.2, by simpa using different⟩

/-- What `set_user_groups` makes of groups that are read from a record. -/
theorem cleanGroups_eq {groups : List String} (parsed : ∀ group ∈ groups, strip group = group ∧ 1 < group.length) :
    (groups.all matchesUsername = true → cleanGroups groups = .ok groups) ∧
      (groups.all matchesUsername = false → ∃ problem, cleanGroups groups = .error problem) := by
  induction groups with
  | nil => exact ⟨fun _ => rfl, by simp⟩
  | cons group rest ih =>
      obtain ⟨⟨stripped, long⟩, others⟩ := List.forall_mem_cons.mp parsed
      obtain ⟨accepts, refuses⟩ := ih others
      have some_ne : group ≠ "" := by
        rintro rfl
        exact absurd long (by decide)
      simp only [cleanGroups, stripped, if_neg some_ne, validateGroupName, List.all_cons]
      cases matched : matchesUsername group with
      | false => exact ⟨by simp, fun _ => ⟨_, rfl⟩⟩
      | true =>
          refine ⟨fun all => ?_, fun some_ => ?_⟩
          · rw [accepts all]
            rfl
          · obtain ⟨problem, refused⟩ := refuses some_
            exact ⟨problem, by rw [refused]; rfl⟩

theorem clearable_iff : clearable name line = true ↔ matchesUsername (parsePasswdRecord line).username = true ∧
    (remainingGroups name line).all matchesUsername = true := by
  rw [clearable, Bool.and_eq_true]

theorem cleanGroups_remaining (cleared : clearable name line = true) :
    cleanGroups (remainingGroups name line) = .ok (remainingGroups name line) :=
  (cleanGroups_eq fun _ other => ⟨(mem_remainingGroups other).1, (mem_remainingGroups other).2.1⟩).1
    (clearable_iff.mp cleared).2

theorem remaining_names (cleared : clearable name line = true) :
    ∀ group ∈ remainingGroups name line, GroupName group :=
  cleanGroups_names (cleanGroups_remaining cleared)

theorem isRecordOf_member (cleared : clearable name line = true) (member : isMember name line = true) :
    isRecordOf (parsePasswdRecord line).username line = true := by
  rw [← userLine_iff (clearable_iff.mp cleared).1, (member_iff.mp member).1]
  simp

/-- A member's record shows the other groups afterwards, unless a further field takes the place of the last. -/
theorem recordGroups_clearLine (member : isMember name line = true) (cleared : clearable name line = true) :
    recordGroups (clearLine name line) = remainingGroups name line ↔ LeavesNone name line := by
  obtain ⟨first, second, rest, tail, unlocked_, short, groups⟩ := member_tail (member_iff.mp member).2
  have length : (join "," (remainingGroups name line)).length ≤ 32 := by
    have room := length_join_groups (fun group => decide (group ≠ name)) first
    rw [remainingGroups, groups]
    refine room.trans ?_
    rw [looksLikePasswordHash] at short
    split at short
    · rename_i none
      rw [← String.length_toList, none]
      decide
    · simp only [Bool.or_eq_false_iff, decide_eq_false_iff_not, Nat.not_lt, String.length_toList] at short
      exact short.2
  have readable : GroupsReadable (remainingGroups name line) :=
    ⟨fun group other => (mem_remainingGroups other).2.1, length⟩
  rw [clearLine, if_pos member, recordGroups,
    groups_shown_iff (remaining_names cleared) (isRecordOf_member cleared member), and_iff_right readable, tail,
    GroupsShown, LeavesNone, tail]
  split
  · rename_i none
    simp [none]
  · rename_i some_
    simp [some_, unlocked_]

theorem clearLine_ne (member : isMember name line = true) (cleared : clearable name line = true) :
    clearLine name line ≠ line := by
  intro same
  have inGroups := (member_iff.mp member).2
  obtain ⟨first, second, rest, tail, -⟩ := member_tail inGroups
  by_cases none : remainingGroups name line = []
  · obtain ⟨username, fields, cut⟩ := fields_cases line
    have parsed := recordFields_render (remaining_names cleared) cut
    rw [clearLine, if_pos member, editLine_record (isRecordOf_member cleared member)] at same
    rw [same, cut, none] at parsed
    rw [recordTail, cut, List.tail_cons] at tail
    rw [tail] at parsed
    have lengths := congrArg List.length parsed
    simp [editedTail] at lengths
  · have leaves : LeavesNone name line := fun given => absurd given none
    have shown := (recordGroups_clearLine member cleared).mpr leaves
    rw [same] at shown
    rw [shown] at inGroups
    exact (mem_remainingGroups inGroups).2.2 rfl

theorem length_remaining : (remainingGroups name line).length ≠ (recordGroups line).length ↔
    name ∈ recordGroups line := by
  rw [remainingGroups, ne_eq, List.length_filter_eq_length_iff]
  simp

end Records

/-! The records of a file. -/

section Lines

variable {Config : Type} {name : String}

def userRecord (line : String) : UserRecord :=
  { username := (parsePasswdRecord line).username
    disabled := (parsePasswdRecord line).disabled
    groups := (parsePasswdRecord line).groups }

theorem listUsers_lines {file : TextFile} {lines : List String} (read : passwdLines file = .ok lines) :
    listUsers file = .ok ((lines.filter isUserLine).map userRecord) := by
  rw [listUsers, read]
  rfl

def OneRecordEach (name : String) (lines : List String) : Prop :=
  (lines.filter isUserLine).Pairwise fun line other =>
    name ∈ recordGroups line ∨ name ∈ recordGroups other →
      (parsePasswdRecord line).username ≠ (parsePasswdRecord other).username

def AllClearable (name : String) (lines : List String) : Prop :=
  ∀ line ∈ lines, isMember name line = true → clearable name line = true

theorem isRecordOf_clearLine {username line : String}
    (cleared : isMember name line = true → clearable name line = true) :
    isRecordOf username (clearLine name line) = isRecordOf username line := by
  rw [clearLine]
  split
  · rename_i member
    have names := remaining_names (cleared member)
    by_cases same : username = (parsePasswdRecord line).username
    · rw [same, isRecordOf_editLine names]
    · have record := isRecordOf_member (cleared member) member
      obtain ⟨user, tail, fields⟩ := fields_cases line
      rw [editLine_record record, Bool.eq_iff_iff, isRecordOf_iff fields, isRecordOf_iff (recordFields_render names fields)]
      rw [parse_fields fields] at same
      simp [Ne.symm same]
  · rfl

theorem others_untouched {front back : List String} {line : String}
    (each : OneRecordEach name (front ++ line :: back)) (member : isMember name line = true)
    (valid : matchesUsername (parsePasswdRecord line).username = true) {other : String}
    (elsewhere : other ∈ front ++ back) : isRecordOf (parsePasswdRecord line).username other = false := by
  obtain ⟨user, inGroups⟩ := member_iff.mp member
  rw [OneRecordEach, List.filter_append, List.filter_cons_of_pos user, List.pairwise_append,
    List.pairwise_cons] at each
  obtain ⟨-, ⟨after, -⟩, before⟩ := each
  rw [← userLine_iff valid, Bool.and_eq_false_imp, decide_eq_false_iff_not]
  intro otherUser
  rcases List.mem_append.mp elsewhere with inFront | inBack
  · exact before other (List.mem_filter.mpr ⟨inFront, otherUser⟩) line List.mem_cons_self (.inr inGroups)
  · exact fun same => after other (List.mem_filter.mpr ⟨inBack, otherUser⟩) (.inl inGroups) same.symm

theorem passwdLines_text {file : TextFile} {lines : List String} (read : passwdLines file = .ok lines)
    (some_ne : lines ≠ []) : ∃ content, file = .text content ∧ splitLines content = lines := by
  cases file with
  | missing => exact absurd (Except.ok.inj read).symm some_ne
  | unreadable => nomatch read
  | text content => exact ⟨content, rfl, Except.ok.inj read⟩

theorem setUserGroups_member {file : TextFile} {front back : List String} {line : String}
    (read : passwdLines file = .ok (front.map (clearLine name) ++ line :: back))
    (cleared : AllClearable name (front ++ [line])) (each : OneRecordEach name (front ++ line :: back))
    (member : isMember name line = true) :
    ∃ after, setUserGroups (parsePasswdRecord line).username (remainingGroups name line) file = .ok after ∧
      passwdLines after = .ok ((front ++ [line]).map (clearLine name) ++ back) := by
  have own : clearable name line = true := cleared line (by simp) member
  have valid := (clearable_iff.mp own).1
  have names := remaining_names own
  obtain ⟨content, rfl, content_lines⟩ := passwdLines_text read (by simp)
  have known : (splitLines content).any (fun other =>
      decide ((parsePasswdRecord other).username = (parsePasswdRecord line).username)) = true := by
    rw [content_lines, List.any_eq_true]
    exact ⟨line, by simp, by simp⟩
  have accepted : ∃ after, setUserGroups (parsePasswdRecord line).username (remainingGroups name line)
      (.text content) = .ok after := by
    have named : validateUsername (parsePasswdRecord line).username = .ok (parsePasswdRecord line).username :=
      if_pos valid
    exact ⟨_, bind_ok.mpr ⟨_, named, bind_ok.mpr ⟨_, cleanGroups_remaining own, bind_ok.mpr ⟨_, rfl, rfl⟩⟩⟩⟩
  obtain ⟨after, set⟩ := accepted
  obtain ⟨-, rfl⟩ := setUserGroups_written (cleanGroups_remaining own) set known
  refine ⟨_, set, ?_⟩
  have written := @lines_written (parsePasswdRecord line).username _ names content
    (by rw [content_lines]; simp)
  have untouched : ∀ other ∈ front ++ back, isRecordOf (parsePasswdRecord line).username other ≠ true :=
    fun other elsewhere => by rw [others_untouched each member valid elsewhere]; decide
  have before : (front.map (clearLine name)).map
      (editLine (parsePasswdRecord line).username (remainingGroups name line)) = front.map (clearLine name) := by
    rw [List.map_map]
    refine List.map_congr_left fun other inFront => ?_
    have kept : isRecordOf (parsePasswdRecord line).username (clearLine name other) ≠ true := by
      rw [isRecordOf_clearLine (cleared other (List.mem_append_left _ inFront))]
      exact untouched other (List.mem_append_left _ inFront)
    rw [Function.comp_apply, editLine_other kept]
  have behind : back.map (editLine (parsePasswdRecord line).username (remainingGroups name line)) = back := by
    have same (other : String) (inBack : other ∈ back) :
        editLine (parsePasswdRecord line).username (remainingGroups name line) other = other :=
      editLine_other (untouched other (List.mem_append_right _ inBack))
    rw [List.map_congr_left same, List.map_id']
  have here : clearLine name line =
      editLine (parsePasswdRecord line).username (remainingGroups name line) line := by
    rw [clearLine, if_pos member]
  rw [passwdLines, written, content_lines, List.map_append, before, List.map_cons, behind, ← here, List.map_append,
    List.map_singleton, List.append_assoc, List.singleton_append]

theorem onPasswd_ok {change : TextFile → Except PyError TextFile} {world : GroupWorld Config} {after : TextFile}
    (changed : change world.passwd = .ok after) :
    onPasswd change world = ⟨.ok (), { world with passwd := after }, []⟩ := by
  simp [onPasswd, Program.tryModify, changed, Except.map, Except.mapError]

theorem onPasswd_error {change : TextFile → Except PyError TextFile} {world : GroupWorld Config}
    {problem : PyError} (refused : change world.passwd = .error problem) :
    onPasswd change world = ⟨.error (.uncaught problem), world, []⟩ := by
  simp [onPasswd, Program.tryModify, refused, Except.map, Except.mapError]

theorem setUserGroups_refused {line : String} (file : TextFile) (refused : clearable name line = false) :
    ∃ problem, setUserGroups (parsePasswdRecord line).username (remainingGroups name line) file =
      .error problem := by
  rw [clearable, Bool.and_eq_false_iff] at refused
  cases valid : matchesUsername (parsePasswdRecord line).username with
  | false =>
      rw [setUserGroups, validateUsername, valid]
      exact ⟨_, rfl⟩
  | true =>
      obtain invalid | others := refused
      · rw [valid] at invalid
        cases invalid
      · obtain ⟨problem, cleaned⟩ := (cleanGroups_eq fun _ other =>
          ⟨(mem_remainingGroups other).1, (mem_remainingGroups other).2.1⟩).2 others
        rw [setUserGroups, validateUsername, valid, cleaned]
        exact ⟨_, rfl⟩

theorem userRecord_groups (line : String) : (userRecord line).groups = recordGroups line := by
  rw [userRecord, recordGroups]

theorem userRecord_username (line : String) : (userRecord line).username = (parsePasswdRecord line).username := by
  rw [userRecord]

theorem userRecord_remaining (line : String) :
    (userRecord line).groups.filter (· ≠ name) = remainingGroups name line := by
  rw [userRecord_groups, remainingGroups]

theorem userRecord_shorter {line : String} :
    ((userRecord line).groups.filter (· ≠ name)).length ≠ (userRecord line).groups.length ↔
      name ∈ recordGroups line := by
  rw [userRecord_remaining, userRecord_groups, length_remaining]

theorem clearMembers_skip {line : String} (other : name ∉ recordGroups line) (records : List UserRecord) :
    (clearMembers name (userRecord line :: records) : GroupRequest Config _) = clearMembers name records := by
  rw [clearMembers, if_neg (mt userRecord_shorter.mp other)]

theorem clearMembers_member {line : String} (inGroups : name ∈ recordGroups line) (records : List UserRecord) :
    (clearMembers name (userRecord line :: records) : GroupRequest Config _) =
      (do
        onPasswd (setUserGroups (parsePasswdRecord line).username (remainingGroups name line))
        let cleared ← clearMembers name records
        return (parsePasswdRecord line).username :: cleared) := by
  rw [clearMembers, if_pos (userRecord_shorter.mpr inGroups), userRecord_remaining, userRecord_username]

theorem clear_first {change : TextFile → Except PyError TextFile} {world : GroupWorld Config} {after : TextFile}
    (changed : change world.passwd = .ok after) (username : String) (rest : GroupRequest Config (List String)) :
    let outcome := (do onPasswd change; let cleared ← rest; return username :: cleared :
      GroupRequest Config (List String)) world
    outcome.state = (rest { world with passwd := after }).state ∧
      outcome.result = (rest { world with passwd := after }).result.map (username :: ·) := by
  simp only [Program.bind_run, onPasswd_ok changed]
  cases (rest { world with passwd := after }).result with
  | ok cleared => exact ⟨rfl, rfl⟩
  | error problem => exact ⟨rfl, rfl⟩

/-- How the loop ends: through all lines, or at a member that is not accepted. -/
inductive LoopEnds (name : String) (back : List String) (result : Except RequestError (List String)) : Prop
  | through (nothing : back = []) (returned : ∃ cleared, result = .ok cleared)
  | stopped (refused : ∃ line rest, back = line :: rest ∧ isMember name line = true ∧ clearable name line = false)
      (raised : ∃ problem, result = .error problem)

theorem LoopEnds.mapped {back : List String} {result : Except RequestError (List String)}
    (ends : LoopEnds name back result) (username : String) :
    LoopEnds name back (result.map (username :: ·)) := by
  cases ends with
  | through nothing returned =>
      obtain ⟨cleared, rfl⟩ := returned
      exact .through nothing ⟨_, rfl⟩
  | stopped refused raised =>
      obtain ⟨problem, rfl⟩ := raised
      exact .stopped refused ⟨_, rfl⟩

structure Cleared (name : String) (before : GroupWorld Config) (done front back : List String)
    (outcome : Outcome (GroupWorld Config) Empty RequestError (List String)) : Prop where
  cleared : AllClearable name front
  lines : passwdLines outcome.state.passwd = .ok ((done ++ front).map (clearLine name) ++ back)
  frame : outcome.state = { before with passwd := outcome.state.passwd }
  unchanged : (∀ line ∈ front, isMember name line = false) → outcome.state.passwd = before.passwd
  ends : LoopEnds name back outcome.result

theorem clearMembers_run (rest : List String) : ∀ (done : List String) (world : GroupWorld Config),
    passwdLines world.passwd = .ok (done.map (clearLine name) ++ rest) → AllClearable name done →
    OneRecordEach name (done ++ rest) →
    ∃ front back, rest = front ++ back ∧ Cleared name world done front back
      (clearMembers name ((rest.filter isUserLine).map userRecord) world) := by
  induction rest with
  | nil =>
      intro done world read _ _
      refine ⟨[], [], rfl, nofun, ?_, rfl, fun _ => rfl, .through rfl ⟨[], rfl⟩⟩
      change passwdLines world.passwd = _
      simpa using read
  | cons line rest ih =>
      intro done world read cleared each
      -- a line that stays as it is
      have skips (other : isMember name line = false)
          (same : clearMembers name (((line :: rest).filter isUserLine).map userRecord) =
            (clearMembers name ((rest.filter isUserLine).map userRecord) : GroupRequest Config _)) :
          ∃ front back, line :: rest = front ++ back ∧ Cleared name world done front back
            (clearMembers name (((line :: rest).filter isUserLine).map userRecord) world) := by
        have kept : clearLine name line = line := by rw [clearLine, other]; rfl
        have through : AllClearable name (done ++ [line]) := by
          rintro earlier member
          rcases List.mem_append.mp member with inDone | here
          · exact cleared earlier inDone
          · obtain rfl := List.mem_singleton.mp here
            simp [other]
        obtain ⟨front, back, rfl, run⟩ := ih (done ++ [line]) world (by simpa [kept] using read) through
          (by simpa using each)
        rw [same]
        refine ⟨line :: front, back, rfl, ?_, ?_, run.frame, fun none => ?_, run.ends⟩
        · exact List.forall_mem_cons.mpr ⟨by simp [other], run.cleared⟩
        · simpa using run.lines
        · exact run.unchanged fun later inFront => none later (List.mem_cons_of_mem _ inFront)
      by_cases user : isUserLine line = true
      · by_cases inGroups : name ∈ recordGroups line
        · have member : isMember name line = true := member_iff.mpr ⟨user, inGroups⟩
          rw [List.filter_cons_of_pos user, List.map_cons, clearMembers_member inGroups]
          by_cases own : clearable name line = true
          · have through : AllClearable name (done ++ [line]) := by
              rintro earlier there isMember
              rcases List.mem_append.mp there with inDone | here
              · exact cleared earlier inDone isMember
              · obtain rfl := List.mem_singleton.mp here
                exact own
            obtain ⟨after, set, written⟩ := setUserGroups_member read through each member
            obtain ⟨front, back, rfl, run⟩ := ih (done ++ [line]) { world with passwd := after }
              written through (by simpa using each)
            obtain ⟨state, result⟩ := clear_first set (parsePasswdRecord line).username
              (clearMembers name (((front ++ back).filter isUserLine).map userRecord))
            refine ⟨line :: front, back, rfl, ?_, ?_, ?_, fun none => ?_, ?_⟩
            · exact List.forall_mem_cons.mpr ⟨fun _ => own, run.cleared⟩
            · rw [state]
              simpa using run.lines
            · rw [state]
              exact run.frame
            · rw [none line List.mem_cons_self] at member
              cases member
            · rw [result]
              exact run.ends.mapped _
          · have refused : clearable name line = false := by simpa using own
            obtain ⟨problem, raised⟩ := setUserGroups_refused world.passwd refused
            rw [Program.bind_run, onPasswd_error raised]
            exact ⟨[], line :: rest, rfl, nofun, by simpa using read, rfl, fun _ => rfl,
              .stopped ⟨line, rest, rfl, member, refused⟩ ⟨_, rfl⟩⟩
        · refine skips (by rw [isMember, user]; simpa using inGroups) ?_
          rw [List.filter_cons_of_pos user, List.map_cons, clearMembers_skip inGroups]
      · refine skips (by simp [isMember, user]) ?_
        rw [List.filter_cons_of_neg user]

theorem clearLine_user {line : String} (cleared : isMember name line = true → clearable name line = true) :
    isUserLine (clearLine name line) = isUserLine line ∧
      (userRecord (clearLine name line)).username = (userRecord line).username := by
  by_cases member : isMember name line = true
  · have own := cleared member
    have valid := (clearable_iff.mp own).1
    have record := isRecordOf_member own member
    rw [← isRecordOf_clearLine cleared, ← userLine_iff valid, Bool.and_eq_true, decide_eq_true_eq] at record
    rw [record.1, (member_iff.mp member).1, userRecord_username, userRecord_username, record.2]
    exact ⟨rfl, rfl⟩
  · rw [clearLine, if_neg member]
    exact ⟨rfl, rfl⟩

/-- Every user's other memberships are kept exactly if no record of a member shows new groups. -/
theorem memberships_iff {lines : List String} (cleared : AllClearable name lines) :
    (((lines.map (clearLine name)).filter isUserLine).map userRecord).map (fun user => (user.username, user.groups)) =
        ((lines.filter isUserLine).map userRecord).map
          (fun user => (user.username, user.groups.filter (· ≠ name))) ↔
      ∀ line ∈ lines, isMember name line = true → LeavesNone name line := by
  have users : (lines.map (clearLine name)).filter isUserLine = (lines.filter isUserLine).map (clearLine name) := by
    rw [List.filter_map]
    congr 1
    refine List.filter_congr fun line inLines => ?_
    exact (clearLine_user (cleared line inLines)).1
  rw [users, List.map_map, List.map_map, List.map_map, List.map_inj_left]
  have each (line : String) (inLines : line ∈ lines) (user : isUserLine line = true) :
      (userRecord (clearLine name line)).groups = (userRecord line).groups.filter (· ≠ name) ↔
        (isMember name line = true → LeavesNone name line) := by
    rw [userRecord_groups, userRecord_remaining]
    by_cases member : isMember name line = true
    · rw [recordGroups_clearLine member (cleared line inLines member)]
      exact ⟨fun leaves _ => leaves, fun leaves => leaves member⟩
    · have other : name ∉ recordGroups line := fun inGroups => member (member_iff.mpr ⟨user, inGroups⟩)
      have same : remainingGroups name line = recordGroups line := by
        rw [remainingGroups, List.filter_eq_self]
        intro group inGroups
        simpa using fun isName : group = name => other (isName ▸ inGroups)
      rw [clearLine, if_neg member, same]
      exact iff_of_true (Eq.refl _) fun isMember => absurd isMember member
  constructor
  · intro kept line inLines member
    have user := (member_iff.mp member).1
    have pair := kept line (List.mem_filter.mpr ⟨inLines, user⟩)
    exact (each line inLines user).mp (Prod.mk.inj pair).2 member
  · intro leaves line found
    obtain ⟨inLines, user⟩ := List.mem_filter.mp found
    have name_kept := (clearLine_user (cleared line inLines)).2
    have groups_kept := (each line inLines user).mpr (leaves line inLines)
    rw [Function.comp_apply, Function.comp_apply, Function.comp_apply, name_kept, groups_kept]

end Lines

section

variable {Config : Type} (service : GroupService Config) (world : GroupWorld Config) (name : String)

/-- No record shows the group any more, and all other memberships are as they were. -/
def WithoutGroup (before after : TextFile) : Prop :=
  ∃ users others, listUsers before = .ok users ∧ listUsers after = .ok others ∧
    others.map (fun user => (user.username, user.groups)) =
      users.map fun user => (user.username, user.groups.filter (· ≠ name))

/-- A removal that ends well is whole, and one that fails has changed nothing. -/
structure EndsWhole (outcome : Outcome (GroupWorld Config) Empty RequestError String) : Prop where
  success : ∀ text, outcome.result = .ok text →
    service.listsGroup outcome.state name = false ∧ WithoutGroup name world.passwd outcome.state.passwd
  failure : ∀ problem, outcome.result = .error problem →
    outcome.state.passwd = world.passwd ∧
      outcome.state.tree (service.groupPlace world.settings.config name) =
        world.tree (service.groupPlace world.settings.config name) ∧
      outcome.state.settings.file = world.settings.file

def AllOrNothing : Prop := EndsWhole service world name (service.deleteGroup name world)

def patchedMapping : Except PyError (List (String × Json)) := do
  let old ← service.context.loadExistingMapping world.settings.file
  let data := deepMerge old (service.policyPatch world.settings.config name)
  let _ ← service.context.validateYamlConfig data
  return data

/-- The configuration that is loaded from the saved mapping, and what is rendered for it. -/
def reloaded (data : List (String × Json)) : Except PyError (Config × List (PosixPath × String)) := do
  let config ← service.context.loadConfig (.text (service.context.yamlDump data))
  let rendered ← (service.groupSettings config).renderFiles
  return (config, rendered)

/-- The configuration has no policy of the name, and its directory of groups no file that is listed. -/
def Spared (config : Config) (rendered : List (PosixPath × String)) : Prop :=
  let settings := service.groupSettings config
  let there := name.toList :: settings.groupConfigDir.place service.workingDir
  (∀ policy ∈ settings.groupPolicies, policy.name ≠ name) ∧
    (name.toList.head? = some '.' ∨
      (∀ file ∈ rendered, file.1.place service.workingDir ≠ there) ∧
        (there = service.groupPlace world.settings.config name ∨ isFile (world.tree there) = false))

def membersOf (lines : List String) : List String := lines.filter (isMember name)

def clearedMembers (lines : List String) : List String := (membersOf name lines).takeWhile (clearable name)

/-- What is asked when the ocpasswd file can be read: nothing has been removed when a step fails, and
nothing is left when none does. -/
def LinesWhole (lines : List String) : Prop :=
  let entry := world.tree (service.groupPlace world.settings.config name)
  if clearedMembers name lines ≠ membersOf name lines then entry = none ∧ clearedMembers name lines = []
  else match patchedMapping service world name with
    | .error _ => entry = none ∧ membersOf name lines = []
    | .ok data =>
        match reloaded service data with
        | .error _ => entry = none ∧ membersOf name lines = [] ∧
            world.settings.file = .text (service.context.yamlDump data)
        | .ok (config, rendered) =>
            (∀ line ∈ membersOf name lines, LeavesNone name line) ∧
              Spared service world name config rendered

/-- A directory in the place of the group's file fails the request at once. -/
def RemovalWhole : Prop :=
  let entry := world.tree (service.groupPlace world.settings.config name)
  entry ≠ some .directory →
    match passwdLines world.passwd with
    | .error _ => entry = none
    | .ok lines => LinesWhole service world name lines

/-! The steps of the request. -/

variable {service world name}

theorem applyConfigPatch_outcome (state : ConfigState Config) (changes : List (String × Json)) :
    applyConfigPatch service.context changes false state =
      match (do
        let old ← service.context.loadExistingMapping state.file
        let _ ← service.context.validateYamlConfig (deepMerge old changes)
        return deepMerge old changes : Except PyError (List (String × Json))) with
      | .error problem => ⟨.error problem, state, []⟩
      | .ok data =>
          match service.context.loadConfig (.text (service.context.yamlDump data)) with
          | .error problem => ⟨.error problem, { state with file := .text (service.context.yamlDump data) }, []⟩
          | .ok config => ⟨.ok (config, []), { file := .text (service.context.yamlDump data), config }, []⟩ := by
  cases found : service.context.loadExistingMapping state.file with
  | error problem =>
      simp [applyConfigPatch, saveValidated, SettingsRequest.data, bind, Program.andThen, Program.fromExcept,
        Except.bind, found]
  | ok old =>
      cases checked : service.context.validateYamlConfig (deepMerge old changes) with
      | error problem =>
          simp [applyConfigPatch, saveValidated, SettingsRequest.data, bind, Program.andThen, Program.fromExcept,
            Except.bind, found, checked, pure, Except.pure]
      | ok config =>
          cases loaded : service.context.loadConfig (.text (service.context.yamlDump (deepMerge old changes))) with
          | error problem =>
              simp [applyConfigPatch, saveValidated, SettingsRequest.data, bind, Program.andThen,
                Program.fromExcept, Except.bind, found, checked, pure, Except.pure, commit, Program.modify,
                Program.tryModify, loaded]
          | ok config =>
              simp [applyConfigPatch, saveValidated, SettingsRequest.data, bind, Program.andThen,
                Program.fromExcept, Except.bind, found, checked, pure, Except.pure, commit, Program.modify,
                Program.tryModify, loaded, writeRenderedFiles]

/-- How the last step ends: refused, saved without being rendered, or done. -/
theorem savePolicies_outcome {later : GroupWorld Config} (same : later.settings = world.settings) :
    match patchedMapping service world name with
    | .error problem =>
        service.savePolicies world.settings.config name later = ⟨.error (.uncaught problem), later, []⟩
    | .ok data =>
        match reloaded service data with
        | .error problem =>
            (service.savePolicies world.settings.config name later).result = .error (.uncaught problem) ∧
              (service.savePolicies world.settings.config name later).state.passwd = later.passwd ∧
              (service.savePolicies world.settings.config name later).state.tree = later.tree ∧
              (service.savePolicies world.settings.config name later).state.settings.file =
                .text (service.context.yamlDump data)
        | .ok (config, rendered) =>
            service.savePolicies world.settings.config name later =
              ⟨.ok (), { later with
                tree := service.writeEntries later.tree rendered
                settings := { file := .text (service.context.yamlDump data), config } }, []⟩ := by
  have applied := @applyConfigPatch_outcome Config service later.settings
    (service.policyPatch world.settings.config name)
  rw [same] at applied
  change applyConfigPatch _ _ _ _ = match patchedMapping service world name with | .error _ => _ | .ok _ => _ at applied
  cases patched : patchedMapping service world name with
  | error problem =>
      rw [patched] at applied
      simp only [savePolicies, Program.bind_run, onConfig, same, applied, Except.mapError]
      rw [← same]
  | ok data =>
      rw [patched] at applied
      cases loaded : service.context.loadConfig (.text (service.context.yamlDump data)) with
      | error problem =>
          have failed : reloaded service data = .error problem := by rw [reloaded, loaded]; rfl
          simp only [loaded] at applied
          simp only [failed, savePolicies, Program.bind_run, onConfig, same, applied, Except.mapError, and_self]
      | ok config =>
          simp only [loaded] at applied
          cases rendered : (service.groupSettings config).renderFiles with
          | error problem =>
              have failed : reloaded service data = .error problem := by
                rw [reloaded, loaded]
                simp only [bind, Except.bind, rendered]
              simp only [failed, savePolicies, Program.bind_run, onConfig, same, applied, Except.mapError,
                writeRendered, Program.fromExcept_run, rendered, and_self]
          | ok files =>
              have done : reloaded service data = .ok (config, files) := by
                rw [reloaded, loaded]
                simp only [bind, Except.bind, rendered, pure, Except.pure]
              simp only [done, savePolicies, Program.bind_run, onConfig, same, applied, Except.mapError,
                writeRendered, Program.fromExcept_run, rendered, Program.modify, Program.tryModify, List.append_nil]

def removeElsewhere (service : GroupService Config) (config : Config) (name : String) (configDeleted : Bool) :
    GroupRequest Config String := do
  let users ← Program.fromExcept fun world => (listUsers world.passwd).mapError .uncaught
  let cleared ← clearMembers name users
  service.savePolicies config name
  let policyRemoved := (service.groupSettings config).groupPolicies.any (·.name = name)
  return summary configDeleted policyRemoved cleared

theorem deleteGroup_run (valid : validateGroupConfigName name = .ok name) :
    service.deleteGroup name world = (do
      let configDeleted ← service.deleteGroupConfig world.settings.config name
      removeElsewhere service world.settings.config name configDeleted : GroupRequest Config String) world := by
  rw [deleteGroup, Program.bind_run, Program.read_run]
  simp only [Program.bind_run, Program.fromExcept_run, valid, Except.mapError]
  rfl

def withoutFile (service : GroupService Config) (world : GroupWorld Config) (name : String) : GroupWorld Config :=
  { world with tree := Function.update world.tree (service.groupPlace world.settings.config name) none }

theorem deleteGroupConfig_run (valid : validateGroupConfigName name = .ok name) :
    service.deleteGroupConfig world.settings.config name world =
      match world.tree (service.groupPlace world.settings.config name) with
      | none => ⟨.ok false, world, []⟩
      | some .directory => ⟨.error (.uncaught .osError), world, []⟩
      | some (.file _) => ⟨.ok true, withoutFile service world name, []⟩ := by
  have path : ((service.groupSettings world.settings.config).groupConfigPath name).mapError RequestError.uncaught =
      .ok ((service.groupSettings world.settings.config).groupConfigDir.join name) := by
    rw [GroupSettings.groupConfigPath, valid]
    rfl
  rw [deleteGroupConfig]
  simp only [Program.bind_run, Program.fromExcept_run, path, Program.read_run]
  cases entry : world.tree (service.groupPlace world.settings.config name) with
  | none => rfl
  | some found =>
      cases found with
      | directory => rfl
      | file content => rfl

theorem deleteGroup_file (valid : validateGroupConfigName name = .ok name) {content : String}
    (entry : world.tree (service.groupPlace world.settings.config name) = some (.file content)) :
    service.deleteGroup name world =
      removeElsewhere service world.settings.config name true (withoutFile service world name) := by
  rw [deleteGroup_run valid, Program.bind_run, deleteGroupConfig_run valid, entry]
  rfl

theorem writeEntries_isFile (files : List (PosixPath × String)) (tree : List (List Char) → Option TreeEntry)
    (there : List (List Char)) : isFile (service.writeEntries tree files there) = true ↔
      (∃ file ∈ files, file.1.place service.workingDir = there) ∨ isFile (tree there) = true := by
  induction files generalizing tree with
  | nil => simp [writeEntries]
  | cons file rest ih =>
      have step : service.writeEntries tree (file :: rest) = service.writeEntries
          (Function.update tree (file.1.place service.workingDir) (some (.file file.2))) rest := rfl
      rw [step, ih]
      by_cases here : file.1.place service.workingDir = there
      · simp [← here, isFile]
      · simp [here, Function.update_of_ne (Ne.symm here)]

theorem endsWhole_ok {text : String} {state : GroupWorld Config} {events : List Empty} :
    EndsWhole service world name ⟨.ok text, state, events⟩ ↔
      service.listsGroup state name = false ∧ WithoutGroup name world.passwd state.passwd :=
  ⟨fun whole => whole.success text rfl, fun whole => ⟨fun _ _ => whole, nofun⟩⟩

theorem endsWhole_error {problem : RequestError} {state : GroupWorld Config} {events : List Empty} :
    EndsWhole service world name ⟨.error problem, state, events⟩ ↔
      state.passwd = world.passwd ∧
        state.tree (service.groupPlace world.settings.config name) =
          world.tree (service.groupPlace world.settings.config name) ∧
        state.settings.file = world.settings.file :=
  ⟨fun whole => whole.failure problem rfl, fun whole => ⟨nofun, fun _ _ => whole⟩⟩

/-- The state after the removal of the group's file, whether or not there was one. -/
structure FileGone (service : GroupService Config) (world later : GroupWorld Config) (name : String) : Prop where
  passwd : later.passwd = world.passwd
  settings : later.settings = world.settings
  gone : later.tree (service.groupPlace world.settings.config name) = none
  others : ∀ place ≠ service.groupPlace world.settings.config name, later.tree place = world.tree place

theorem removeElsewhere_unreadable {later : GroupWorld Config} (gone : FileGone service world later name)
    (configDeleted : Bool) {problem : PyError} (unreadable : passwdLines world.passwd = .error problem) :
    EndsWhole service world name (removeElsewhere service world.settings.config name configDeleted later) ↔
      world.tree (service.groupPlace world.settings.config name) = none := by
  have users : listUsers later.passwd = .error problem := by rw [listUsers, gone.passwd, unreadable]; rfl
  have ended : removeElsewhere service world.settings.config name configDeleted later =
      ⟨.error (.uncaught problem), later, []⟩ := by
    rw [removeElsewhere, Program.bind_run, Program.fromExcept_run, users]
    rfl
  rw [ended, endsWhole_error]
  simp only [gone.passwd, gone.settings, gone.gone, true_and, and_true]
  exact eq_comm

theorem Cleared.passwd_iff {front back : List String} {before : GroupWorld Config}
    {outcome : Outcome (GroupWorld Config) Empty RequestError (List String)}
    (cleared : Cleared name before [] front back outcome) (read : passwdLines before.passwd = .ok (front ++ back)) :
    outcome.state.passwd = before.passwd ↔ membersOf name front = [] := by
  rw [membersOf, List.filter_eq_nil_iff]
  constructor
  · intro same line inFront member
    have lines := cleared.lines
    rw [same, read, List.nil_append] at lines
    have kept : front.map (clearLine name) = front :=
      (List.append_cancel_right (Except.ok.inj lines)).symm
    have fixed : clearLine name line = line :=
      List.map_inj_left.mp (kept.trans (List.map_id front).symm) line inFront
    exact clearLine_ne member (cleared.cleared line inFront member) fixed
  · intro none
    exact cleared.unchanged fun line inFront => by simpa using none line inFront

theorem clearedMembers_split {front back : List String} (cleared : AllClearable name front) :
    clearedMembers name (front ++ back) = membersOf name front ++ clearedMembers name back := by
  rw [clearedMembers, membersOf, List.filter_append, List.takeWhile_append_of_pos]
  · rfl
  · intro line found
    obtain ⟨inFront, member⟩ := List.mem_filter.mp found
    exact cleared line inFront member

theorem removeElsewhere_raised {later : GroupWorld Config} {config : Config} {users : List UserRecord}
    (listed : listUsers later.passwd = .ok users) {problem : RequestError}
    (raised : (clearMembers name users later).result = .error problem) (configDeleted : Bool) :
    removeElsewhere service config name configDeleted later =
      ⟨.error problem, (clearMembers name users later).state, (clearMembers name users later).events⟩ := by
  rw [removeElsewhere, Program.bind_run, Program.fromExcept_run, listed]
  simp only [Except.mapError, Program.bind_run, raised]
  rfl

theorem stopped_iff {later : GroupWorld Config} (gone : FileGone service world later name) (configDeleted : Bool)
    {front rest : List String} {line : String}
    (read : passwdLines world.passwd = .ok (front ++ line :: rest))
    (member : isMember name line = true) (refused : clearable name line = false)
    (run : Cleared name later [] front (line :: rest)
      (clearMembers name (((front ++ line :: rest).filter isUserLine).map userRecord) later))
    {problem : RequestError}
    (raised : (clearMembers name (((front ++ line :: rest).filter isUserLine).map userRecord) later).result =
      .error problem) :
    EndsWhole service world name (removeElsewhere service world.settings.config name configDeleted later) ↔
      LinesWhole service world name (front ++ line :: rest) := by
  have users := listUsers_lines (gone.passwd ▸ read)
  have counted : clearedMembers name (front ++ line :: rest) = membersOf name front := by
    rw [clearedMembers_split run.cleared]
    simp only [clearedMembers, membersOf, List.filter_cons_of_pos member]
    rw [List.takeWhile_cons_of_neg (by simp [refused]), List.append_nil]
  have fewer : clearedMembers name (front ++ line :: rest) ≠ membersOf name (front ++ line :: rest) := by
    rw [counted, membersOf, membersOf, List.filter_append, List.filter_cons_of_pos member]
    simp
  have changed := run.passwd_iff (gone.passwd ▸ read)
  have frame := run.frame
  rw [LinesWhole, if_pos fewer, counted, ← changed]
  rw [removeElsewhere_raised users raised, endsWhole_error]
  generalize clearMembers name (((front ++ line :: rest).filter isUserLine).map userRecord) later = outcome at frame
  rw [frame, gone.settings, gone.gone, gone.passwd]
  simp only [and_true]
  rw [and_comm, eq_comm]

theorem spared_iff {later : GroupWorld Config} (gone : FileGone service world later name) (config : Config)
    (rendered : List (PosixPath × String)) (passwd file : TextFile) :
    service.listsGroup
        { passwd, tree := service.writeEntries later.tree rendered, settings := { file, config } } name = false ↔
      Spared service world name config rendered := by
  have policies : (service.groupSettings config).groupPolicies.any (·.name = name) = false ↔
      ∀ policy ∈ (service.groupSettings config).groupPolicies, policy.name ≠ name := by
    simp [List.any_eq_false]
  have files (there : List (List Char)) : isFile (service.writeEntries later.tree rendered there) = false ↔
      (∀ file ∈ rendered, file.1.place service.workingDir ≠ there) ∧
        (there = service.groupPlace world.settings.config name ∨ isFile (world.tree there) = false) := by
    rw [← Bool.not_eq_true, writeEntries_isFile, not_or, not_exists]
    refine and_congr (by simp) ?_
    by_cases same : there = service.groupPlace world.settings.config name
    · simp [same, gone.gone, isFile]
    · simp [same, gone.others there same]
  rw [listsGroup, Bool.or_eq_false_iff, policies, Bool.and_eq_false_iff, files, Spared]
  simp

theorem withoutGroup_iff {lines : List String} (cleared : AllClearable name lines) {before after : TextFile}
    (read : passwdLines before = .ok lines) (written : passwdLines after = .ok (lines.map (clearLine name))) :
    WithoutGroup name before after ↔ ∀ line ∈ lines, isMember name line = true → LeavesNone name line := by
  rw [WithoutGroup, listUsers_lines read, listUsers_lines written, ← memberships_iff cleared]
  constructor
  · rintro ⟨users, others, same, otherSame, kept⟩
    obtain rfl := Except.ok.inj same
    obtain rfl := Except.ok.inj otherSame
    exact kept
  · exact fun kept => ⟨_, _, rfl, rfl, kept⟩

theorem endsWhole_congr {first second : Outcome (GroupWorld Config) Empty RequestError String}
    (result : first.result = second.result) (state : first.state = second.state) :
    EndsWhole service world name first ↔ EndsWhole service world name second := by
  obtain ⟨firstResult, firstState, firstEvents⟩ := first
  obtain ⟨secondResult, secondState, secondEvents⟩ := second
  obtain rfl : firstResult = secondResult := result
  obtain rfl : firstState = secondState := state
  cases firstResult with
  | ok text => rw [endsWhole_ok, endsWhole_ok]
  | error problem => rw [endsWhole_error, endsWhole_error]

theorem through_iff {later : GroupWorld Config} (gone : FileGone service world later name) (configDeleted : Bool)
    {lines : List String} (read : passwdLines world.passwd = .ok lines)
    (run : Cleared name later [] lines []
      (clearMembers name ((lines.filter isUserLine).map userRecord) later))
    {members : List String}
    (returned : (clearMembers name ((lines.filter isUserLine).map userRecord) later).result = .ok members) :
    EndsWhole service world name (removeElsewhere service world.settings.config name configDeleted later) ↔
      LinesWhole service world name lines := by
  have users := listUsers_lines (gone.passwd ▸ read)
  have all : clearedMembers name lines = membersOf name lines := by
    have split := @clearedMembers_split name lines [] run.cleared
    simpa [clearedMembers, membersOf] using split
  have changed := run.passwd_iff (by rw [gone.passwd, List.append_nil, read])
  have frame := run.frame
  have after := run.lines
  rw [List.nil_append, List.append_nil] at after
  rw [LinesWhole, if_neg (by simp [all]), ← changed]
  generalize ended : clearMembers name ((lines.filter isUserLine).map userRecord) later = outcome
    at returned frame after
  have kept : outcome.state.settings = world.settings := by rw [frame, gone.settings]
  have tree : outcome.state.tree = later.tree := by rw [frame]
  have saved := @savePolicies_outcome Config service world name _ kept
  have last : EndsWhole service world name
        (removeElsewhere service world.settings.config name configDeleted later) ↔
      EndsWhole service world name ((service.savePolicies world.settings.config name >>= fun _ =>
        (pure (summary configDeleted
          ((service.groupSettings world.settings.config).groupPolicies.any (·.name = name)) members) :
            GroupRequest Config String)) outcome.state) := by
    rw [removeElsewhere]
    simp only [Program.bind_run, Program.fromExcept_run, users, Except.mapError, ended, returned]
    exact endsWhole_congr rfl rfl
  rw [last]
  cases patched : patchedMapping service world name with
  | error problem =>
      rw [patched] at saved
      simp only at saved ⊢
      rw [Program.bind_run, saved, endsWhole_error]
      simp only [kept, tree, gone.gone, gone.passwd, and_true]
      rw [and_comm, eq_comm (a := none)]
  | ok data =>
      rw [patched] at saved
      simp only at saved ⊢
      cases loaded : reloaded service data with
      | error problem =>
          rw [loaded] at saved
          obtain ⟨raised, passwd, sameTree, file⟩ := saved
          rw [Program.bind_run, raised, endsWhole_error]
          simp only [passwd, sameTree, file, tree, gone.gone, gone.passwd]
          exact ⟨fun ⟨passwd, entry, file⟩ => ⟨entry.symm, passwd, file.symm⟩,
            fun ⟨entry, passwd, file⟩ => ⟨passwd, entry.symm, file.symm⟩⟩
      | ok result =>
          obtain ⟨config, rendered⟩ := result
          rw [loaded] at saved
          simp only at saved ⊢
          rw [Program.bind_run, saved]
          simp only [Program.pure_run]
          rw [endsWhole_ok, tree, spared_iff gone, withoutGroup_iff run.cleared read after, and_comm]
          simp only [membersOf, List.mem_filter, and_imp]

theorem linesWhole_iff {later : GroupWorld Config} (gone : FileGone service world later name)
    (configDeleted : Bool) {lines : List String} (read : passwdLines world.passwd = .ok lines)
    (each : OneRecordEach name lines) :
    EndsWhole service world name (removeElsewhere service world.settings.config name configDeleted later) ↔
      LinesWhole service world name lines := by
  obtain ⟨front, back, rfl, run⟩ := clearMembers_run lines [] later (by simpa [gone.passwd] using read) nofun each
  cases run.ends with
  | through nothing returned =>
      subst nothing
      obtain ⟨members, returned⟩ := returned
      rw [List.append_nil] at run read returned ⊢
      exact through_iff gone configDeleted read run returned
  | stopped refused raised =>
      obtain ⟨line, rest, rfl, member, refused⟩ := refused
      obtain ⟨problem, raised⟩ := raised
      exact stopped_iff gone configDeleted read member refused run raised

end

/-- No two records of the ocpasswd file belong to one member of the group. -/
def OneRecordPerMember {Config : Type} (world : GroupWorld Config) (name : String) : Prop :=
  ∀ lines, passwdLines world.passwd = .ok lines → OneRecordEach name lines

/-- While each member of the group has one record, its removal is all or nothing exactly if no step fails
after something was removed, and nothing is left when none fails. -/
theorem deleteGroup_allOrNothing {Config : Type} (service : GroupService Config) (world : GroupWorld Config)
    (name : String) (valid : validateGroupConfigName name = .ok name) :
    (OneRecordPerMember world name ∧ RemovalWhole service world name → AllOrNothing service world name) ∧
      (OneRecordPerMember world name → AllOrNothing service world name → RemovalWhole service world name) := by
  have whole (each : OneRecordPerMember world name) :
      AllOrNothing service world name ↔ RemovalWhole service world name := by
    -- what follows once the file is gone
    have rest {later : GroupWorld Config} (gone : FileGone service world later name) (configDeleted : Bool) :
        EndsWhole service world name (removeElsewhere service world.settings.config name configDeleted later) ↔
          match passwdLines world.passwd with
          | .error _ => world.tree (service.groupPlace world.settings.config name) = none
          | .ok lines => LinesWhole service world name lines := by
      cases read : passwdLines world.passwd with
      | error problem => exact removeElsewhere_unreadable gone configDeleted read
      | ok lines => exact linesWhole_iff gone configDeleted read (each lines read)
    rw [AllOrNothing, RemovalWhole]
    cases entry : world.tree (service.groupPlace world.settings.config name) with
    | none =>
        have gone : FileGone service world world name := ⟨rfl, rfl, entry, fun _ _ => rfl⟩
        have later := rest gone false
        rw [entry] at later
        rw [deleteGroup_run valid, Program.bind_run, deleteGroupConfig_run valid, entry]
        simpa using later
    | some found =>
        cases found with
        | directory =>
            rw [deleteGroup_run valid, Program.bind_run, deleteGroupConfig_run valid, entry]
            simp [endsWhole_error]
        | file content =>
            have gone : FileGone service world (withoutFile service world name) name :=
              ⟨rfl, rfl, Function.update_self .., fun _ other => Function.update_of_ne other ..⟩
            have later := rest gone true
            rw [entry] at later
            rw [deleteGroup_file valid entry]
            simpa using later
  exact ⟨fun ⟨each, removal⟩ => (whole each).mpr removal, fun each => (whole each).mp⟩

/-! The group `ops`. -/

def opsDir : PosixPath := .ofText "/var/lib/korserver/generated"

def opsPatched : List (String × Json) := [("identity", .dict [("group_policies", .list [])])]

def opsService : GroupService GroupSettings where
  context := {
    path := "/etc/korserver/config.yaml"
    yamlLoad _ := .ok (.dict opsPatched)
    yamlDump _ := "identity: \x7bgroup_policies: []\x7d\n"
    jsonLoads _ := .undecodable
    environment := []
    modelValidate _ := .ok { generatedDir := opsDir }
    writeRendered _ := .ok [] }
  workingDir := []
  groupSettings := id
  dumpPolicy _ := .null

def opsPlace : List (List Char) := (PosixPath.ofText "/var/lib/korserver/generated/config-per-group/ops").place []

def opsWorld (passwd : String) : GroupWorld GroupSettings where
  passwd := .text passwd
  tree := Function.update (fun _ => none) opsPlace (some (.file ""))
  settings := { file := .missing, config := { generatedDir := opsDir, groupPolicies := [{ name := "ops" }] } }

theorem ops_valid : validateGroupConfigName "ops" = .ok "ops" := if_pos (by decide +kernel)

theorem ops_place (passwd : String) :
    opsService.groupPlace (opsWorld passwd).settings.config "ops" = opsPlace := by
  change ((opsDir.join "config-per-group").join "ops").place [] = opsPlace
  decide +kernel

theorem ops_file (passwd : String) : (opsWorld passwd).tree opsPlace = some (.file "") := by
  simp only [opsWorld, Function.update_self]

theorem ops_patched (passwd : String) : patchedMapping opsService (opsWorld passwd) "ops" = .ok opsPatched := rfl

theorem ops_reloaded : reloaded opsService opsPatched = .ok ({ generatedDir := opsDir }, []) := rfl

def opsLines : List String := ["alice:ops,dev:$5$hash", "bob:ops:$5$hash"]

theorem ops_linesWhole (passwd : String) : LinesWhole opsService (opsWorld passwd) "ops" opsLines := by
  have members : membersOf "ops" opsLines = opsLines := by decide +kernel
  have cleared : clearedMembers "ops" opsLines = opsLines := by decide +kernel
  have leaves : ∀ line ∈ opsLines, LeavesNone "ops" line := by
    unfold LeavesNone
    decide +kernel
  have there : "ops".toList :: (opsDir.join "config-per-group").place [] = opsPlace := by decide +kernel
  rw [LinesWhole, members, cleared, if_neg (fun differs => differs rfl), ops_patched]
  simp only [ops_reloaded]
  refine ⟨leaves, nofun, .inr ⟨nofun, .inl ?_⟩⟩
  rw [ops_place]
  exact there

/-- Both members lose the group, and one of them keeps the other group. -/
theorem deleteGroup_allOrNothing_ops :
    AllOrNothing opsService (opsWorld "alice:ops,dev:$5$hash\nbob:ops:$5$hash\n") "ops" := by
  have lines : splitLines "alice:ops,dev:$5$hash\nbob:ops:$5$hash\n" = opsLines := by decide +kernel
  have read : passwdLines (opsWorld "alice:ops,dev:$5$hash\nbob:ops:$5$hash\n").passwd = .ok opsLines := by
    rw [opsWorld, passwdLines, lines]
  have each : OneRecordEach "ops" opsLines := by
    unfold OneRecordEach
    decide +kernel
  have ones : OneRecordPerMember (opsWorld "alice:ops,dev:$5$hash\nbob:ops:$5$hash\n") "ops" := by
    intro other found
    rw [read] at found
    obtain rfl := Except.ok.inj found
    exact each
  have removal : RemovalWhole opsService (opsWorld "alice:ops,dev:$5$hash\nbob:ops:$5$hash\n") "ops" := by
    rw [RemovalWhole, read]
    exact fun _ => ops_linesWhole _
  exact (deleteGroup_allOrNothing opsService _ "ops" ops_valid).1 ⟨ones, removal⟩

/-- The file of the group is gone when the other group of a member is refused. -/
theorem deleteGroup_halfway :
    (opsService.deleteGroup "ops" (opsWorld "alice:ops,dev team:$5$hash\n")).result = .error (.uncaught
        (.valueError "group 'dev team' may contain letters, numbers, _, ., @ and - only")) ∧
      (opsWorld "alice:ops,dev team:$5$hash\n").tree opsPlace = some (.file "") ∧
      (opsService.deleteGroup "ops" (opsWorld "alice:ops,dev team:$5$hash\n")).state.tree opsPlace = none ∧
      ¬AllOrNothing opsService (opsWorld "alice:ops,dev team:$5$hash\n") "ops" := by
  have listed : listUsers (withoutFile opsService (opsWorld "alice:ops,dev team:$5$hash\n") "ops").passwd =
      .ok [{ username := "alice", disabled := false, groups := ["ops", "dev team"] }] := by decide +kernel
  have refused : setUserGroups "alice" ["dev team"] (.text "alice:ops,dev team:$5$hash\n") =
      .error (.valueError "group 'dev team' may contain letters, numbers, _, ., @ and - only") := by decide +kernel
  have stops : clearMembers "ops" [{ username := "alice", disabled := false, groups := ["ops", "dev team"] }]
        (withoutFile opsService (opsWorld "alice:ops,dev team:$5$hash\n") "ops") =
      ⟨.error (.uncaught (.valueError "group 'dev team' may contain letters, numbers, _, ., @ and - only")),
        withoutFile opsService (opsWorld "alice:ops,dev team:$5$hash\n") "ops", []⟩ := by
    rw [clearMembers, if_pos (by decide), Program.bind_run, onPasswd_error refused]
  have run : opsService.deleteGroup "ops" (opsWorld "alice:ops,dev team:$5$hash\n") =
      ⟨.error (.uncaught (.valueError "group 'dev team' may contain letters, numbers, _, ., @ and - only")),
        withoutFile opsService (opsWorld "alice:ops,dev team:$5$hash\n") "ops", []⟩ := by
    rw [deleteGroup_file ops_valid (by rw [ops_place]; exact ops_file _),
      removeElsewhere_raised listed (by rw [stops]), stops]
  have gone : (opsService.deleteGroup "ops" (opsWorld "alice:ops,dev team:$5$hash\n")).state.tree opsPlace = none := by
    rw [run]
    simp only [withoutFile, ops_place, Function.update_self]
  have failed := congrArg Outcome.result run
  refine ⟨failed, ops_file _, gone, fun whole => ?_⟩
  have kept := (whole.failure _ failed).2.1
  rw [ops_place, gone] at kept
  rw [ops_file] at kept
  nomatch kept

end Korserver
