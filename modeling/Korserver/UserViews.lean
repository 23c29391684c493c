import Korserver.GroupEdit

/-!
Whose line is a line of the ocpasswd file: listing, deleting and regrouping a user agree about it exactly
when no line of the user has two lock marks in front.
-/

namespace Korserver

open PythonText PythonValue

/-- `list_users` lists the user from the line. -/
def listsUser (username line : String) : Bool :=
  isUserLine line && decide ((parsePasswdRecord line).username = username)

structure ViewsAgree (username : String) (file : TextFile) (lines : List String) : Prop where
  deletes : ∃ answer after before left, deleteUser username file = .ok (answer, after) ∧
    listUsers file = .ok before ∧ listUsers after = .ok left ∧
      (answer = true ↔ ∃ user ∈ before, user.username = username) ∧ ¬∃ user ∈ left, user.username = username
  keepsOthers : ∃ answer after kept, deleteUser username file = .ok (answer, after) ∧ passwdLines after = .ok kept ∧
    kept.filter (fun line => !listsUser username line) = lines.filter fun line => !listsUser username line
  regroups : ∀ given groups, cleanGroups given = .ok groups → ∃ after,
    setUserGroups username given file = .ok after ∧ passwdLines after = .ok (lines.map fun line =>
      if listsUser username line = true then renderPasswdRecord (parsePasswdRecord line) groups else line)

section User

variable {username : String} (valid : matchesUsername username = true)

include valid

theorem username_chars : (∃ first rest, username.toList = first :: rest ∧ first ≠ '!') ∧ ':' ∉ username.toList := by
  obtain ⟨some_ne, chars⟩ := matchesUsername_chars valid
  have all : ∀ c ∈ username.toList, usernameChar c = true ∨ c = '\n' := by
    intro c member
    rw [beforeDollar] at chars
    split at chars
    · rename_i ends
      rw [← List.dropLast_append_getLast? '\n' ends, List.mem_append] at member
      exact member.imp (chars c) List.mem_singleton.mp
    · exact Or.inl (chars c member)
  constructor
  · cases spelled : username.toList with
    | nil => simp [beforeDollar, spelled] at some_ne
    | cons first rest =>
        refine ⟨first, rest, rfl, ?_⟩
        rintro rfl
        have mark := all '!' (by rw [spelled]; exact List.mem_cons_self)
        exact absurd mark (by decide)
  · intro colon
    exact absurd (all ':' colon) (by decide)

theorem record_iff {line : String} {before rest : List Char} (spelled : line.toList = before ++ ':' :: rest)
    (single : ':' ∉ before) :
    isRecordOf username line = true ↔ before.dropWhile (· == '!') = username.toList := by
  have fields : (parsePasswdRecord line).fields = String.ofList before :: (splitChar ':' rest).map String.ofList := by
    change splitText ':' line = _
    rw [splitText, spelled, splitChar_line single, List.map_cons]
  rw [isRecordOf_iff fields, unlocked, String.toList_ofList]
  constructor
  · rintro ⟨rfl, -⟩
    rw [String.toList_ofList]
  · intro same
    refine ⟨by rw [same, String.ofList_toList], fun none => ?_⟩
    exact splitChar_ne_nil ':' rest (List.map_eq_nil_iff.mp none)

/-- `delete_user` knows a line of the user by at most one lock mark. -/
theorem isLineOf_iff (line : String) :
    isLineOf username line = true ↔ isRecordOf username line = true ∧ ¬['!', '!'] <+: line.toList := by
  obtain ⟨⟨first, rest, name, visible⟩, single⟩ := username_chars valid
  have notMark : ∀ more, ¬['!', '!'] <+: first :: more := by
    intro more start
    exact visible (List.cons_prefix_cons.mp start).1.symm
  simp only [isLineOf, Bool.or_eq_true, List.isPrefixOf_iff_prefix, String.toList_append]
  constructor
  · rintro (⟨later, spelled⟩ | ⟨later, spelled⟩)
    · have cut : line.toList = username.toList ++ ':' :: later := by rw [← spelled]; simp
      refine ⟨(record_iff valid cut single).mpr ?_, ?_⟩
      · rw [name, List.dropWhile_cons_of_neg (by simpa using visible)]
      · rw [cut, name]
        exact notMark _
    · have cut : line.toList = '!' :: username.toList ++ ':' :: later := by rw [← spelled]; simp
      refine ⟨(record_iff valid cut ?_).mpr ?_, ?_⟩
      · rw [List.mem_cons, not_or]
        exact ⟨by decide, single⟩
      · rw [List.dropWhile_cons_of_pos (by decide), name, List.dropWhile_cons_of_neg (by simpa using visible)]
      · rw [cut, name]
        intro marks
        exact visible (List.cons_prefix_cons.mp (List.cons_prefix_cons.mp marks).2).1.symm
  · rintro ⟨record, noMarks⟩
    obtain ⟨name', tail, fields⟩ := fields_cases line
    have colon := (tail_nil_iff fields).2.mp ((isRecordOf_iff fields).mp record).2
    obtain ⟨before, later, spelled, alone⟩ := List.eq_append_cons_of_mem colon
    have same := (record_iff valid spelled alone).mp record
    cases before with
    | nil =>
        rw [name] at same
        nomatch same
    | cons c before =>
        by_cases mark : c = '!'
        · subst mark
          rw [List.dropWhile_cons_of_pos (by decide)] at same
          have kept : before.dropWhile (· == '!') = before := by
            cases before with
            | nil => rfl
            | cons d before =>
                refine List.dropWhile_cons_of_neg fun second => noMarks ?_
                obtain rfl := beq_iff_eq.mp second
                rw [spelled]
                exact ⟨before ++ ':' :: later, rfl⟩
          rw [kept] at same
          refine Or.inr ⟨later, ?_⟩
          rw [spelled, same]
          simp
        · rw [List.dropWhile_cons_of_neg (by simpa using mark)] at same
          refine Or.inl ⟨later, ?_⟩
          rw [spelled, ← same]
          simp

theorem listsUser_eq (line : String) : listsUser username line = isRecordOf username line := userLine_iff valid line

theorem listsUser_iff (line : String) :
    isLineOf username line = true ↔ listsUser username line = true ∧ ¬['!', '!'] <+: line.toList := by
  rw [listsUser_eq valid, isLineOf_iff valid]

end User

theorem passwdLines_fileText {lines : List String} (whole : ∀ line ∈ lines, ∀ c ∈ line.toList, isLineBreak c = false) :
    passwdLines (.text (fileText lines)) = .ok lines := by
  cases lines with
  | nil => rfl
  | cons line rest =>
      refine congrArg Except.ok ?_
      exact splitLines_join whole (List.cons_ne_nil _ _)

theorem passwdLines_whole {file : TextFile} {lines : List String} (read : passwdLines file = .ok lines) :
    ∀ line ∈ lines, ∀ c ∈ line.toList, isLineBreak c = false := by
  cases file with
  | missing =>
      obtain rfl := Except.ok.inj read
      exact nofun
  | unreadable => nomatch read
  | text content =>
      obtain rfl := Except.ok.inj read
      exact fun line member => splitLines_whole member

theorem listUsers_ok {file : TextFile} {lines : List String} (read : passwdLines file = .ok lines) (username : String) :
    ∃ users, listUsers file = .ok users ∧
      ((∃ user ∈ users, user.username = username) ↔ ∃ line ∈ lines, listsUser username line = true) := by
  refine ⟨_, by simp only [listUsers, read, bind, Except.bind, pure, Except.pure]; rfl, ?_⟩
  simp only [List.mem_map, List.mem_filter, listsUser, Bool.and_eq_true, decide_eq_true_eq]
  constructor
  · rintro ⟨user, ⟨line, ⟨inFile, isUser⟩, rfl⟩, same⟩
    exact ⟨line, inFile, isUser, same⟩
  · rintro ⟨line, inFile, isUser, same⟩
    exact ⟨_, ⟨line, ⟨inFile, isUser⟩, rfl⟩, same⟩

section File

variable {username : String} (valid : matchesUsername username = true) {file : TextFile} {lines : List String}
  (read : passwdLines file = .ok lines)

include valid read

theorem deleteUser_ok : ∃ answer after, deleteUser username file = .ok (answer, after) ∧
    passwdLines after = .ok (lines.filter fun line => !isLineOf username line) ∧
      (answer = true ↔ ∃ line ∈ lines, isLineOf username line = true) := by
  have whole := passwdLines_whole read
  have kept_iff : (lines.filter fun line => !isLineOf username line).length = lines.length ↔
      ∀ line ∈ lines, isLineOf username line = false := by
    rw [List.length_filter_eq_length_iff]
    simp only [Bool.not_eq_true']
  by_cases none : (lines.filter fun line => !isLineOf username line).length = lines.length
  · refine ⟨false, file, ?_, ?_, ?_⟩
    · simp only [deleteUser, validateUsername, valid, if_true, read, remainingText, none, ne_eq, not_true_eq_false,
        if_false, bind, Except.bind]
      rfl
    · rw [read, List.filter_eq_self.mpr fun line member => by rw [kept_iff.mp none line member]; rfl]
    · refine ⟨(fun never => by cases never), ?_⟩
      rintro ⟨line, member, isLine⟩
      rw [kept_iff.mp none line member] at isLine
      cases isLine
  · refine ⟨true, .text (fileText (lines.filter fun line => !isLineOf username line)), ?_, ?_, ?_⟩
    · simp only [deleteUser, validateUsername, valid, if_true, read, remainingText, none, ne_eq, not_false_eq_true,
        bind, Except.bind]
      rfl
    · exact passwdLines_fileText fun line member => whole line (List.mem_of_mem_filter member)
    · refine ⟨fun _ => ?_, fun _ => rfl⟩
      by_contra noLine
      exact none (kept_iff.mpr fun line member => Bool.eq_false_iff.mpr fun isLine => noLine ⟨line, member, isLine⟩)

theorem setUserGroups_ok {given groups : List String} (accepted : cleanGroups given = .ok groups) :
    ∃ after, setUserGroups username given file = .ok after ∧
      passwdLines after = .ok (lines.map (editLine username groups)) := by
  have names := cleanGroups_names accepted
  have run : setUserGroups username given file = .ok ((regroupedText username groups lines).elim file .text) := by
    simp only [setUserGroups, validateUsername, valid, if_true, accepted, read, bind, Except.bind, pure, Except.pure]
  refine ⟨_, run, ?_⟩
  rw [regroupedText]
  by_cases known : (lines.any fun line => decide ((parsePasswdRecord line).username = username)) = true
  · rw [if_pos known]
    refine passwdLines_fileText ?_
    intro line member
    obtain ⟨old, inFile, rfl⟩ := List.mem_map.mp member
    exact editLine_whole names (passwdLines_whole read old inFile)
  · have same : lines.map (editLine username groups) = lines := by
      refine (List.map_congr_left fun line member => ?_).trans (List.map_id lines)
      refine if_neg fun isName => known ?_
      exact List.any_eq_true.mpr ⟨line, member, decide_eq_true isName⟩
    rw [if_neg known, same]
    exact read

theorem regroups_ok {given groups : List String} (accepted : cleanGroups given = .ok groups) :
    ∃ after, setUserGroups username given file = .ok after ∧ passwdLines after = .ok (lines.map fun line =>
      if listsUser username line = true then renderPasswdRecord (parsePasswdRecord line) groups else line) := by
  obtain ⟨after, set, written⟩ := setUserGroups_ok valid read accepted
  refine ⟨after, set, written.trans (congrArg _ (List.map_congr_left fun line _ => ?_))⟩
  rw [listsUser_eq valid]
  split
  · exact editLine_record ‹_›
  · exact editLine_other ‹_›

/-- The views of a user agree as long as none of the user's lines is locked twice. -/
theorem viewsAgree_iff :
    ViewsAgree username file lines ↔ ∀ line ∈ lines, listsUser username line = true → ¬['!', '!'] <+: line.toList := by
  obtain ⟨answer, after, deleted, written, told⟩ := deleteUser_ok valid read
  obtain ⟨before, listed, isListed⟩ := listUsers_ok read username
  obtain ⟨left, listedAfter, isLeft⟩ := listUsers_ok written username
  constructor
  · intro agree line member lists marks
    obtain ⟨answer', after', before', left', deleted', -, listedAfter', -, gone⟩ := agree.deletes
    obtain ⟨-, rfl⟩ := Prod.mk.inj (Except.ok.inj (deleted.symm.trans deleted'))
    obtain rfl := Except.ok.inj (listedAfter.symm.trans listedAfter')
    refine gone (isLeft.mpr ⟨line, List.mem_filter.mpr ⟨member, ?_⟩, lists⟩)
    rw [Bool.not_eq_true', Bool.eq_false_iff]
    exact fun isLine => ((listsUser_iff valid line).mp isLine).2 marks
  · intro single
    have same : ∀ line ∈ lines, isLineOf username line = listsUser username line := by
      intro line member
      rw [Bool.eq_iff_iff, listsUser_iff valid]
      exact and_iff_left_of_imp (single line member)
    have others : (lines.filter fun line => !isLineOf username line) =
        lines.filter fun line => !listsUser username line :=
      List.filter_congr fun line member => by rw [same line member]
    refine ⟨⟨answer, after, before, left, deleted, listed, listedAfter, ?_, ?_⟩, ?_, fun given groups accepted =>
      regroups_ok valid read accepted⟩
    · rw [told, isListed]
      exact exists_congr fun line => and_congr_right fun member => by rw [same line member]
    · rw [isLeft, others]
      rintro ⟨line, kept, lists⟩
      rw [List.mem_filter, lists] at kept
      nomatch kept.2
    · refine ⟨answer, after, _, deleted, written, ?_⟩
      rw [others, List.filter_filter]
      exact List.filter_congr fun line _ => Bool.and_self _

end File

theorem viewsAgree_iff_sample : ViewsAgree "alice" (.text "!alice:dev:$5$hash\n# alice:\n!!bob:$5$hash\nalice\n")
    ["!alice:dev:$5$hash", "# alice:", "!!bob:$5$hash", "alice"] :=
  (viewsAgree_iff (by decide +kernel) (by decide +kernel)).mpr (by decide +kernel)

/-- A line that was locked twice is listed and cannot be deleted. -/
theorem doubleLock_stays : deleteUser "bob" (.text "!!bob:$5$hash\n") = .ok (false, .text "!!bob:$5$hash\n") ∧
    listUsers (.text "!!bob:$5$hash\n") = .ok [{ username := "bob", disabled := true, groups := [] }] ∧
      ¬ViewsAgree "bob" (.text "!!bob:$5$hash\n") ["!!bob:$5$hash"] := by
  have listed : listUsers (.text "!!bob:$5$hash\n") = .ok [{ username := "bob", disabled := true, groups := [] }] := by
    decide +kernel
  have deleted : deleteUser "bob" (.text "!!bob:$5$hash\n") = .ok (false, .text "!!bob:$5$hash\n") := by decide +kernel
  refine ⟨deleted, listed, fun agree => ?_⟩
  obtain ⟨answer, after, before, left, deleted', listed', -, told, -⟩ := agree.deletes
  obtain ⟨rfl, -⟩ := Prod.mk.inj (Except.ok.inj (deleted.symm.trans deleted'))
  obtain rfl := Except.ok.inj (listed.symm.trans listed')
  exact absurd (told.mpr ⟨_, List.mem_singleton.mpr rfl, rfl⟩) (by decide)

end Korserver
