import Korserver.OtpCore
import Korserver.UserViews
import Mathlib.Data.List.Nodup

/-!
The users.oath file is a map from usernames to secrets, through every sequence of enabling and disabling,
exactly when no comment is read as the record of a username and no username is enabled that ends in a
line break.
-/

namespace Korserver

open PythonText PythonValue

def oathRecords (lines : List String) : List String := lines.filter fun line => !isOathComment line

def recordUsers (lines : List String) : List String := (oathRecords lines).filterMap fun line => (words line)[1]?

structure WellFormedOath (lines : List String) : Prop where
  entries : ∀ line ∈ lines, isOathComment line = true ∨ 4 ≤ (words line).length
  distinct : (recordUsers lines).Nodup

def OtpOperation.apply (secrets : String → Option String) : OtpOperation → String → Option String
  | enable username token => Function.update secrets username (some (generateSecret token))
  | disable username => Function.update secrets username none

def otpSecrets (lines : List String) (operations : List OtpOperation) : String → Option String :=
  operations.foldl OtpOperation.apply fun username => firstSecret username (oathRecords lines)

def unmentioned (operations : List OtpOperation) (line : String) : Bool :=
  operations.all fun operation => (words line)[1]? ≠ some operation.username

structure IsFiniteMap (lines : List String) (operations : List OtpOperation) (after : TextFile) : Prop where
  single : ∃ records, listOtpRecords after = .ok records ∧ (records.map (·.username)).Nodup
  lookup : ∀ username, matchesUsername username = true →
    secretForUser username after = .ok (otpSecrets lines operations username)
  listed : ∀ username, matchesUsername username = true → ∃ records, listOtpRecords after = .ok records ∧
    ((∃ record ∈ records, record.username = username) ↔ otpSecrets lines operations username ≠ none)
  kept : ∃ left, oathLines after = .ok left ∧
    left.filter (unmentioned operations) = lines.filter (unmentioned operations)

/-- `secret_for_user` stops at the line. -/
def readsUser (username line : String) : Bool := decide ((words line)[1]? = some username ∧ 4 ≤ (words line).length)

/-- The first line that is read for a username is no comment, or says what the record says. -/
def CommentsHarmless (lines : List String) : Prop :=
  ∀ username, matchesUsername username = true → ∀ line,
    lines.find? (readsUser username) = some line →
      isOathComment line = true →
        ∃ record ∈ oathRecords lines, (words record)[1]? = some username ∧ (words record)[3]? = (words line)[3]?

theorem splitSpace_first {word : List Char} (some_ne : word ≠ []) (visible : ∀ c ∈ word, isSpace c = false) {blank : Char}
    (space : isSpace blank = true) (rest : List Char) : splitSpace (word ++ blank :: rest) = word :: splitSpace rest := by
  have behind : splitSpace (blank :: rest) = splitSpace rest := by
    rw [splitSpace.eq_def]
    simp only [space, if_true]
  induction word with
  | nil => exact absurd rfl some_ne
  | cons c word ih =>
      obtain ⟨first, others⟩ := List.forall_mem_cons.mp visible
      cases word with
      | nil =>
          rw [List.singleton_append, splitSpace.eq_def]
          simp only [first, Bool.false_eq_true, if_false, behind]
          cases splitSpace rest with
          | nil => rfl
          | cons part parts => exact if_pos space
      | cons next word =>
          have later := ih (List.cons_ne_nil _ _) others
          have second := others next List.mem_cons_self
          rw [List.cons_append] at later
          rw [List.cons_append, List.cons_append, splitSpace.eq_def]
          simp only [first, later, second, Bool.false_eq_true, if_false]

example : words "a  b\tc" = ["a", "b", "c"] := by decide +kernel

theorem words_visible {line word : String} (member : word ∈ words line) : ∀ c ∈ word.toList, isSpace c = false := by
  obtain ⟨part, cut, rfl⟩ := List.mem_map.mp member
  rw [String.toList_ofList]
  exact splitSpace_visible cut

theorem forall_false_of_all {p : Char → Bool} {chars : List Char} (none : chars.all (fun c => !p c) = true) :
    ∀ c ∈ chars, p c = false := by
  intro c member
  simpa using List.all_eq_true.mp none c member

theorem oathLine_words {username secret : String} (user : username.toList ≠ [])
    (userVisible : ∀ c ∈ username.toList, isSpace c = false) (some_secret : secret.toList ≠ [])
    (secretVisible : ∀ c ∈ secret.toList, isSpace c = false) :
    words (oathLine username secret) = ["HOTP/T30/6", username, "-", secret] := by
  have chars : (oathLine username secret).toList =
      "HOTP/T30/6".toList ++ ' ' :: (username.toList ++ ' ' :: ("-".toList ++ ' ' :: secret.toList)) := by
    simp [oathLine, String.toList_append]
  rw [words, chars, splitSpace_first (by decide) (forall_false_of_all (by decide)) (by decide),
    splitSpace_first user userVisible (by decide),
    splitSpace_first (by decide) (forall_false_of_all (by decide)) (by decide), splitSpace_word some_secret secretVisible]
  simp

theorem base32Digit_visible : ∀ value < 32, isSpace (base32Digit value) = false ∧ base32Digit value ≠ '=' := by
  decide

theorem base32Group_visible {value : Nat} {c : Char} (member : c ∈ base32Group value) :
    isSpace c = false ∧ c ≠ '=' := by
  obtain ⟨i, -, rfl⟩ := List.mem_map.mp member
  have small := base32Digit_visible (value / 32 ^ (7 - i) % 32) (Nat.mod_lt _ (by decide))
  rwa [base32Digit, Nat.mod_mod, ← base32Digit] at small

theorem b32encode_visible (bytes : List UInt8) : ∀ c ∈ b32encode bytes, isSpace c = false := by
  fun_induction b32encode bytes with
  | case1 a b c d e rest ih =>
      intro digit member
      exact (List.mem_append.mp member).elim (fun first => (base32Group_visible first).1) (ih digit)
  | case2 => exact nofun
  | case3 short =>
      intro digit member
      rcases List.mem_append.mp member with first | padding
      · exact (base32Group_visible (List.mem_of_mem_take first)).1
      · rw [List.eq_of_mem_replicate padding]
        decide

theorem generateSecret_word (token : OtpToken) : (generateSecret token).toList ≠ [] ∧
    ∀ c ∈ (generateSecret token).toList, isSpace c = false := by
  constructor
  · have length : token.toList.length = 20 := by simp
    rw [generateSecret, stripEnd, String.toList_ofList, String.toList_ofList]
    generalize token.toList = bytes at length
    obtain ⟨a, b, c, d, e, rest, rfl⟩ : ∃ a b c d e rest, bytes = a :: b :: c :: d :: e :: rest := by
      rcases bytes with _ | ⟨a, _ | ⟨b, _ | ⟨c, _ | ⟨d, _ | ⟨e, rest⟩⟩⟩⟩⟩
      case cons.cons.cons.cons.cons => exact ⟨a, b, c, d, e, rest, rfl⟩
      all_goals cases length
    obtain ⟨digit, digits, group⟩ : ∃ digit digits, base32Group (base32Value [a, b, c, d, e]) = digit :: digits :=
      ⟨_, _, rfl⟩
    have first := (base32Group_visible (group ▸ List.mem_cons_self : digit ∈ base32Group _)).2
    rw [b32encode, group, List.cons_append, dropEndWhile_cons (by simpa using first)]
    exact List.cons_ne_nil _ _
  · intro c member
    have digit := mem_stripEnd member
    rw [String.toList_ofList] at digit
    exact b32encode_visible _ c digit

def OtpOperation.lines (lines : List String) : OtpOperation → List String
  | enable username token => otherLines username lines ++ [oathLine username (generateSecret token)]
  | disable username => otherLines username lines

def OtpOperation.Plain : OtpOperation → Prop
  | enable username _ => username.toList.getLast? ≠ some '\n'
  | disable _ => True

theorem plainUsername {username : String} (valid : matchesUsername username = true)
    (closed : username.toList.getLast? ≠ some '\n') :
    username.toList ≠ [] ∧ ∀ c ∈ username.toList, isSpace c = false ∧ isLineBreak c = false := by
  obtain ⟨some_ne, chars⟩ := matchesUsername_chars valid
  rw [beforeDollar, if_neg closed] at some_ne chars
  exact ⟨some_ne, fun c member => usernameChar_visible (chars c member)⟩

theorem newLine_words {username : String} (valid : matchesUsername username = true)
    (closed : username.toList.getLast? ≠ some '\n') (token : OtpToken) :
    words (oathLine username (generateSecret token)) = ["HOTP/T30/6", username, "-", generateSecret token] := by
  obtain ⟨some_ne, visible⟩ := plainUsername valid closed
  obtain ⟨some_secret, secretVisible⟩ := generateSecret_word token
  exact oathLine_words some_ne (fun c member => (visible c member).1) some_secret secretVisible

theorem newLine_noComment (username secret : String) : isOathComment (oathLine username secret) = false := by
  simp [isOathComment, oathLine, String.toList_append]

theorem newLine_whole {username : String} (valid : matchesUsername username = true)
    (closed : username.toList.getLast? ≠ some '\n') (token : OtpToken) :
    ∀ c ∈ (oathLine username (generateSecret token)).toList, isLineBreak c = false := by
  obtain ⟨-, visible⟩ := plainUsername valid closed
  obtain ⟨-, secretVisible⟩ := generateSecret_word token
  intro c member
  simp only [oathLine, String.toList_append, List.mem_append] at member
  rcases member with ((kind | user) | pin) | secret
  · exact forall_false_of_all (by decide) c kind
  · exact (visible c user).2
  · exact forall_false_of_all (by decide) c pin
  · exact not_isLineBreak (secretVisible c secret)

theorem firstSecret_append (username : String) (first second : List String) :
    firstSecret username (first ++ second) = (firstSecret username first).or (firstSecret username second) :=
  List.findSome?_append

theorem firstSecret_cons (username line : String) (rest : List String) : firstSecret username (line :: rest) =
    (if (words line)[1]? = some username then (words line)[3]? else none).or (firstSecret username rest) := by
  rw [firstSecret, List.findSome?_cons, ← firstSecret]
  cases (if (words line)[1]? = some username then (words line)[3]? else none) <;> rfl

theorem firstSecret_otherLines (name username : String) (lines : List String) :
    firstSecret username (otherLines name lines) = if username = name then none else firstSecret username lines := by
  induction lines with
  | nil =>
      change none = _
      split <;> rfl
  | cons line rest ih =>
      by_cases own : (words line)[1]? = some name
      · rw [otherLines, List.filter_cons_of_neg (by simp [own]), ← otherLines, ih]
        split
        · rfl
        · rename_i other
          have foreign : (words line)[1]? ≠ some username := fun same => other (Option.some.inj (same.symm.trans own))
          rw [firstSecret_cons, if_neg foreign, Option.none_or]
      · rw [otherLines, List.filter_cons_of_pos (by simpa using own), ← otherLines, firstSecret_cons, ih,
          firstSecret_cons]
        by_cases same : username = name
        · subst same
          rw [if_neg own, if_pos rfl, if_pos rfl, Option.none_or]
        · rw [if_neg same, if_neg same]

section Lines

variable {operation : OtpOperation} (valid : matchesUsername operation.username = true) (plain : operation.Plain)

include valid plain

theorem lines_whole {lines : List String} (whole : ∀ line ∈ lines, ∀ c ∈ line.toList, isLineBreak c = false) :
    ∀ line ∈ operation.lines lines, ∀ c ∈ line.toList, isLineBreak c = false := by
  intro line member
  cases operation with
  | enable username token =>
      rcases List.mem_append.mp member with old | new
      · exact whole line (List.mem_of_mem_filter old)
      · obtain rfl := List.mem_singleton.mp new
        exact newLine_whole valid plain token
  | disable username => exact whole line (List.mem_of_mem_filter member)

theorem run_lines {file : TextFile} {lines : List String} (read : oathLines file = .ok lines) :
    ∃ after, operation.run file = .ok after ∧ oathLines after = .ok (operation.lines lines) := by
  have whole := lines_whole valid plain (passwdLines_whole read)
  cases operation with
  | enable username token =>
      refine ⟨.text (join "\n" (otherLines username lines ++ [oathLine username (generateSecret token)]) ++ "\n"), ?_, ?_⟩
      · have checked : validateUsername username = .ok username := if_pos valid
        simp only [OtpOperation.run, enableOtp, checked, read, bind, Except.bind, pure, Except.pure]
      · exact congrArg Except.ok (splitLines_join whole (List.append_ne_nil_of_right_ne_nil _ (List.cons_ne_nil _ _)))
  | disable username =>
      have checked : validateUsername username = .ok username := if_pos valid
      by_cases changed : (otherLines username lines).length ≠ lines.length
      · refine ⟨.text (fileText (otherLines username lines)), ?_, passwdLines_fileText whole⟩
        simp only [OtpOperation.run, disableOtp, checked, read, bind, Except.bind, pure, Except.pure, if_pos changed]
      · refine ⟨file, ?_, ?_⟩
        · simp only [OtpOperation.run, disableOtp, checked, read, bind, Except.bind, pure, Except.pure, if_neg changed]
        · have same : otherLines username lines = lines :=
            List.filter_sublist.eq_of_length (not_not.mp changed)
          rw [OtpOperation.lines, same]
          exact read

theorem firstSecret_lines (lines : List String) (username : String) :
    firstSecret username (operation.lines lines) =
      operation.apply (fun username => firstSecret username lines) username := by
  cases operation with
  | disable name =>
      rw [OtpOperation.lines, firstSecret_otherLines, OtpOperation.apply, Function.update_apply]
  | enable name token =>
      have new : firstSecret username [oathLine name (generateSecret token)] =
          if username = name then some (generateSecret token) else none := by
        have cut : words (oathLine name (generateSecret token)) = ["HOTP/T30/6", name, "-", generateSecret token] :=
          newLine_words valid plain token
        rw [firstSecret_cons, cut]
        change (if some name = some username then some (generateSecret token) else none).or none = _
        by_cases same : username = name
        · subst same
          rw [if_pos rfl, if_pos rfl]
          rfl
        · rw [if_neg same, if_neg fun user => same (Option.some.inj user).symm]
          rfl
      rw [OtpOperation.lines, firstSecret_append, firstSecret_otherLines, new, OtpOperation.apply,
        Function.update_apply]
      split
      · rfl
      · exact Option.or_none

theorem oathRecords_lines (lines : List String) :
    oathRecords (operation.lines lines) = operation.lines (oathRecords lines) := by
  have others (name : String) : oathRecords (otherLines name lines) = otherLines name (oathRecords lines) :=
    List.filter_comm ..
  cases operation with
  | disable name => exact others name
  | enable name token =>
      have new : oathRecords [oathLine name (generateSecret token)] = [oathLine name (generateSecret token)] :=
        List.filter_cons_of_pos (by rw [newLine_noComment]; rfl)
      rw [OtpOperation.lines, oathRecords, List.filter_append, ← oathRecords, ← oathRecords, others, new,
        OtpOperation.lines]

theorem lines_filter {keep : String → Bool}
    (other : ∀ line, keep line = true → (words line)[1]? ≠ some operation.username) (lines : List String) :
    (operation.lines lines).filter keep = lines.filter keep := by
  have others : (otherLines operation.username lines).filter keep = lines.filter keep := by
    rw [otherLines, List.filter_filter]
    refine List.filter_congr fun line _ => ?_
    rw [Bool.and_eq_left_iff_imp]
    exact fun kept => decide_eq_true (other line kept)
  cases operation with
  | disable name => exact others
  | enable name token =>
      have new : keep (oathLine name (generateSecret token)) = false := by
        rw [Bool.eq_false_iff]
        intro kept
        refine other _ kept ?_
        have cut : words (oathLine name (generateSecret token)) = ["HOTP/T30/6", name, "-", generateSecret token] :=
          newLine_words valid plain token
        rw [cut]
        rfl
      rw [OtpOperation.lines, List.filter_append, List.filter_cons_of_neg (by simp [new]), List.filter_nil,
        List.append_nil]
      exact others

theorem WellFormedOath.lines {lines : List String} (wellFormed : WellFormedOath lines) :
    WellFormedOath (operation.lines lines) := by
  have others (name : String) : ∀ line ∈ otherLines name lines,
      isOathComment line = true ∨ 4 ≤ (words line).length :=
    fun line member => wellFormed.entries line (List.mem_of_mem_filter member)
  have distinct (name : String) : ((otherLines name (oathRecords lines)).filterMap fun line => (words line)[1]?).Nodup :=
    wellFormed.distinct.sublist (List.filter_sublist.filterMap _)
  have records := oathRecords_lines valid plain lines
  cases operation with
  | disable name =>
      refine ⟨others name, ?_⟩
      rw [recordUsers, records]
      exact distinct name
  | enable name token =>
      have cut : words (oathLine name (generateSecret token)) = ["HOTP/T30/6", name, "-", generateSecret token] :=
        newLine_words valid plain token
      refine ⟨fun line member => ?_, ?_⟩
      · rcases List.mem_append.mp member with old | new
        · exact others name line old
        · obtain rfl := List.mem_singleton.mp new
          exact Or.inr (by rw [cut]; exact Nat.le_refl 4)
      · have user : ([oathLine name (generateSecret token)].filterMap fun line => (words line)[1]?) = [name] := by
          rw [List.filterMap_cons_some (by rw [cut]; rfl), List.filterMap_nil]
        rw [recordUsers, records, OtpOperation.lines, List.filterMap_append, user]
        refine List.nodup_append.mpr ⟨distinct name, List.nodup_singleton _, ?_⟩
        rintro known member other single rfl
        obtain rfl := List.mem_singleton.mp single
        obtain ⟨line, kept, isUser⟩ := List.mem_filterMap.mp member
        exact of_decide_eq_true (List.mem_filter.mp kept).2 isUser

end Lines

def linesAfter (lines : List String) (operations : List OtpOperation) : List String :=
  operations.foldl OtpOperation.lines lines

section Run

variable {operations : List OtpOperation} (valid : ∀ operation ∈ operations, matchesUsername operation.username = true)
  (plain : ∀ operation ∈ operations, operation.Plain)

include valid plain

theorem runOtp_lines {file : TextFile} {lines : List String} (read : oathLines file = .ok lines) :
    ∃ after, runOtp operations file = .ok after ∧ oathLines after = .ok (linesAfter lines operations) := by
  induction operations generalizing file lines with
  | nil => exact ⟨file, rfl, read⟩
  | cons operation rest ih =>
      obtain ⟨validFirst, validRest⟩ := List.forall_mem_cons.mp valid
      obtain ⟨plainFirst, plainRest⟩ := List.forall_mem_cons.mp plain
      obtain ⟨next, first, written⟩ := run_lines validFirst plainFirst read
      obtain ⟨after, later, writtenLater⟩ := ih validRest plainRest written
      exact ⟨after, bind_ok.mpr ⟨next, first, later⟩, writtenLater⟩

theorem firstSecret_run (lines : List String) (username : String) :
    firstSecret username (linesAfter lines operations) =
      operations.foldl OtpOperation.apply (fun username => firstSecret username lines) username := by
  induction operations generalizing lines with
  | nil => rfl
  | cons operation rest ih =>
      obtain ⟨validFirst, validRest⟩ := List.forall_mem_cons.mp valid
      obtain ⟨plainFirst, plainRest⟩ := List.forall_mem_cons.mp plain
      rw [List.foldl_cons, ← funext (firstSecret_lines validFirst plainFirst lines)]
      exact ih validRest plainRest (operation.lines lines)

theorem oathRecords_run (lines : List String) :
    oathRecords (linesAfter lines operations) = linesAfter (oathRecords lines) operations := by
  induction operations generalizing lines with
  | nil => rfl
  | cons operation rest ih =>
      obtain ⟨validFirst, validRest⟩ := List.forall_mem_cons.mp valid
      obtain ⟨plainFirst, plainRest⟩ := List.forall_mem_cons.mp plain
      rw [linesAfter, linesAfter, List.foldl_cons, List.foldl_cons, ← oathRecords_lines validFirst plainFirst]
      exact ih validRest plainRest (operation.lines lines)

theorem linesAfter_filter {keep : String → Bool}
    (other : ∀ operation ∈ operations, ∀ line, keep line = true → (words line)[1]? ≠ some operation.username)
    (lines : List String) : (linesAfter lines operations).filter keep = lines.filter keep := by
  induction operations generalizing lines with
  | nil => rfl
  | cons operation rest ih =>
      obtain ⟨validFirst, validRest⟩ := List.forall_mem_cons.mp valid
      obtain ⟨plainFirst, plainRest⟩ := List.forall_mem_cons.mp plain
      obtain ⟨otherFirst, otherRest⟩ := List.forall_mem_cons.mp other
      rw [← lines_filter validFirst plainFirst otherFirst lines]
      exact ih validRest plainRest otherRest (operation.lines lines)

theorem WellFormedOath.run {lines : List String} (wellFormed : WellFormedOath lines) :
    WellFormedOath (linesAfter lines operations) := by
  induction operations generalizing lines with
  | nil => exact wellFormed
  | cons operation rest ih =>
      obtain ⟨validFirst, validRest⟩ := List.forall_mem_cons.mp valid
      obtain ⟨plainFirst, plainRest⟩ := List.forall_mem_cons.mp plain
      exact ih validRest plainRest (wellFormed.lines validFirst plainFirst)

end Run

theorem apply_congr {first second : String → Option String} {username : String}
    (same : first username = second username) (operations : List OtpOperation) :
    operations.foldl OtpOperation.apply first username = operations.foldl OtpOperation.apply second username := by
  induction operations generalizing first second with
  | nil => exact same
  | cons operation rest ih =>
      refine ih ?_
      cases operation with
      | enable name token => rw [OtpOperation.apply, OtpOperation.apply, Function.update_apply, Function.update_apply, same]
      | disable name => rw [OtpOperation.apply, OtpOperation.apply, Function.update_apply, Function.update_apply, same]

theorem readsUser_iff {username line : String} :
    readsUser username line = true ↔ (words line)[1]? = some username ∧ 4 ≤ (words line).length := decide_eq_true_iff

theorem firstSecret_find (username : String) (lines : List String) : firstSecret username lines =
    (lines.find? (readsUser username)).bind fun line => (words line)[3]? := by
  induction lines with
  | nil => rfl
  | cons line rest ih =>
      rw [firstSecret_cons, ih]
      by_cases read : (words line)[1]? = some username ∧ 4 ≤ (words line).length
      · rw [if_pos read.1, List.find?_cons_of_pos (readsUser_iff.mpr read), Option.bind_some,
          List.getElem?_eq_getElem read.2, Option.some_or]
      · rw [List.find?_cons_of_neg fun found => read (readsUser_iff.mp found)]
        by_cases own : (words line)[1]? = some username
        · rw [if_pos own, List.getElem?_eq_none (Nat.le_of_lt_succ (Nat.lt_of_not_le fun long => read ⟨own, long⟩)),
            Option.none_or]
        · rw [if_neg own, Option.none_or]

theorem record_unique {items : List String} (distinct : (items.filterMap fun line => (words line)[1]?).Nodup)
    {first second username : String} (inItems : first ∈ items) (alsoItems : second ∈ items)
    (own : (words first)[1]? = some username) (same : (words second)[1]? = some username) : first = second := by
  induction items with
  | nil => nomatch inItems
  | cons item rest ih =>
      have later (user : String) (given : (words item)[1]? = some user) :
          user ∉ rest.filterMap fun line => (words line)[1]? := by
        have head : ((item :: rest).filterMap fun line => (words line)[1]?) =
            user :: rest.filterMap fun line => (words line)[1]? := List.filterMap_cons_some given
        rw [head] at distinct
        exact (List.nodup_cons.mp distinct).1
      have tail : (rest.filterMap fun line => (words line)[1]?).Nodup :=
        distinct.sublist ((List.sublist_cons_self item rest).filterMap _)
      rcases List.mem_cons.mp inItems with rfl | inRest
      · rcases List.mem_cons.mp alsoItems with rfl | alsoRest
        · rfl
        · exact absurd (List.mem_filterMap.mpr ⟨second, alsoRest, same⟩) (later username own)
      · rcases List.mem_cons.mp alsoItems with rfl | alsoRest
        · exact absurd (List.mem_filterMap.mpr ⟨first, inRest, own⟩) (later username same)
        · exact ih tail inRest alsoRest

section Records

variable {lines : List String} (wellFormed : WellFormedOath lines)

include wellFormed

theorem record_words {record : String} (member : record ∈ oathRecords lines) : 4 ≤ (words record).length := by
  obtain ⟨inLines, noComment⟩ := List.mem_filter.mp member
  refine (wellFormed.entries record inLines).resolve_left ?_
  simpa using noComment

theorem firstSecret_record {record username : String} (member : record ∈ oathRecords lines)
    (own : (words record)[1]? = some username) : firstSecret username (oathRecords lines) = (words record)[3]? := by
  rw [firstSecret_find]
  cases found : (oathRecords lines).find? (readsUser username) with
  | none =>
      have unread := List.find?_eq_none.mp found record member
      exact absurd (readsUser_iff.mpr ⟨own, record_words wellFormed member⟩) unread
  | some other =>
      have read := readsUser_iff.mp (List.find?_some found)
      obtain rfl := record_unique wellFormed.distinct member (List.mem_of_find?_eq_some found) own read.1
      rfl

theorem mem_recordUsers (username : String) :
    username ∈ recordUsers lines ↔ firstSecret username (oathRecords lines) ≠ none := by
  constructor
  · intro member
    obtain ⟨record, inRecords, own⟩ := List.mem_filterMap.mp member
    rw [firstSecret_record wellFormed inRecords own, List.getElem?_eq_getElem (record_words wellFormed inRecords)]
    exact Option.some_ne_none _
  · intro some_secret
    obtain ⟨secret, found⟩ := Option.ne_none_iff_exists'.mp some_secret
    obtain ⟨record, inRecords, read⟩ := List.exists_of_findSome?_eq_some found
    split at read
    · exact List.mem_filterMap.mpr ⟨record, inRecords, ‹_›⟩
    · nomatch read

theorem listOtpRecords_ok {file : TextFile} (read : oathLines file = .ok lines) :
    ∃ records, listOtpRecords file = .ok records ∧ records.map (·.username) = recordUsers lines := by
  refine ⟨_, by simp only [listOtpRecords, read, bind, Except.bind, pure, Except.pure]; rfl, ?_⟩
  have same : (lines.filter fun line => line ≠ "" && !isOathComment line) = oathRecords lines := by
    refine List.filter_congr fun line member => ?_
    cases comment : isOathComment line with
    | true => simp
    | false =>
        have long := record_words wellFormed (List.mem_filter.mpr ⟨member, by rw [comment]; rfl⟩)
        have some_line : line ≠ "" := by
          rintro rfl
          exact absurd long (by decide)
        simp [some_line]
  rw [same, List.map_filterMap, recordUsers]
  refine List.filterMap_congr fun line _ => ?_
  rw [Option.map_map]
  exact Option.map_id'

theorem commentsHarmless_iff : CommentsHarmless lines ↔ ∀ username, matchesUsername username = true →
    firstSecret username lines = firstSecret username (oathRecords lines) := by
  constructor
  · intro harmless username valid
    rw [firstSecret_find]
    cases found : lines.find? (readsUser username) with
    | none =>
        have none : (oathRecords lines).find? (readsUser username) = none :=
          List.find?_eq_none.mpr fun line member => List.find?_eq_none.mp found line (List.mem_of_mem_filter member)
        rw [firstSecret_find, none]
    | some line =>
        rw [Option.bind_some]
        cases comment : isOathComment line with
        | true =>
            obtain ⟨record, inRecords, own, same⟩ := harmless username valid line found comment
            rw [firstSecret_record wellFormed inRecords own, same]
        | false =>
            have read := readsUser_iff.mp (List.find?_some found)
            have member : line ∈ oathRecords lines :=
              List.mem_filter.mpr ⟨List.mem_of_find?_eq_some found, by rw [comment]; rfl⟩
            rw [firstSecret_record wellFormed member read.1]
  · intro same username valid line found _
    have read := readsUser_iff.mp (List.find?_some found)
    have secret := same username valid
    rw [firstSecret_find, found, Option.bind_some, List.getElem?_eq_getElem read.2] at secret
    obtain ⟨record, inRecords, given⟩ := List.exists_of_findSome?_eq_some secret.symm
    split at given
    · exact ⟨record, inRecords, ‹_›, given.trans (List.getElem?_eq_getElem read.2).symm⟩
    · nomatch given

end Records

section Map

variable {file : TextFile} {lines : List String} (read : oathLines file = .ok lines) (wellFormed : WellFormedOath lines)

include read

theorem secretForUser_ok {username : String} (valid : matchesUsername username = true) :
    secretForUser username file = .ok (firstSecret username lines) := by
  simp only [secretForUser, validateUsername, valid, if_true, read, bind, Except.bind, pure, Except.pure]

theorem secretForUser_word {username secret : String} (valid : matchesUsername username = true)
    (found : secretForUser username file = .ok (some secret)) : username.toList.getLast? ≠ some '\n' := by
  rw [secretForUser_ok read valid] at found
  obtain ⟨line, -, given⟩ := List.exists_of_findSome?_eq_some (Except.ok.inj found)
  split at given
  · rename_i own
    intro newline
    have blank := words_visible (List.mem_of_getElem? own) '\n' (List.mem_of_getLast? newline)
    exact absurd blank (by decide)
  · nomatch given

include wellFormed

theorem isFiniteMap_run (harmless : CommentsHarmless lines) {operations : List OtpOperation}
    (valid : ∀ operation ∈ operations, matchesUsername operation.username = true)
    (plain : ∀ operation ∈ operations, operation.Plain) :
    ∃ after, runOtp operations file = .ok after ∧ IsFiniteMap lines operations after := by
  obtain ⟨after, run, written⟩ := runOtp_lines valid plain read
  have formed := wellFormed.run valid plain
  have records : ∀ username, firstSecret username (oathRecords (linesAfter lines operations)) =
      otpSecrets lines operations username := by
    intro username
    rw [oathRecords_run valid plain, firstSecret_run valid plain, otpSecrets]
  obtain ⟨listed, isListed, users⟩ := listOtpRecords_ok formed written
  refine ⟨after, run, ?_, ?_, ?_, ?_⟩
  · exact ⟨listed, isListed, users ▸ formed.distinct⟩
  · intro username validName
    rw [secretForUser_ok written validName, firstSecret_run valid plain, otpSecrets]
    exact congrArg Except.ok
      (apply_congr ((commentsHarmless_iff wellFormed).mp harmless username validName) operations)
  · intro username _
    refine ⟨listed, isListed, ?_⟩
    rw [← records, ← mem_recordUsers formed, ← users, List.mem_map]
  · refine ⟨_, written, linesAfter_filter valid plain (fun operation member line kept => ?_) lines⟩
    exact of_decide_eq_true (List.all_eq_true.mp kept operation member)

/-- The file is a map after every part of the operations when no comment is misread and no name is broken. -/
theorem otpRecords_iff {operations : List OtpOperation}
    (valid : ∀ operation ∈ operations, matchesUsername operation.username = true) :
    (∀ done, done <+: operations → ∃ after, runOtp done file = .ok after ∧ IsFiniteMap lines done after) ↔
      CommentsHarmless lines ∧
        ∀ username token, .enable username token ∈ operations → username.toList.getLast? ≠ some '\n' := by
  constructor
  · intro maps
    constructor
    · obtain ⟨after, run, isMap⟩ := maps [] List.nil_prefix
      obtain rfl := Except.ok.inj run
      refine (commentsHarmless_iff wellFormed).mpr fun username validName => ?_
      have found := isMap.lookup username validName
      rw [secretForUser_ok read validName] at found
      exact Except.ok.inj found
    · intro username token member
      obtain ⟨before, rest, rfl⟩ := List.append_of_mem member
      obtain ⟨after, run, isMap⟩ := maps (before ++ [.enable username token]) ⟨rest, by simp⟩
      have validName := valid (.enable username token) member
      rw [OtpOperation.username] at validName
      have found := isMap.lookup username validName
      rw [otpSecrets, List.foldl_append, List.foldl_cons, List.foldl_nil, OtpOperation.apply, Function.update_self] at found
      obtain ⟨left, leftRead, -⟩ := isMap.kept
      exact secretForUser_word leftRead validName found
  · rintro ⟨harmless, words⟩ done isPrefix
    refine isFiniteMap_run read wellFormed harmless (fun operation member => valid operation (isPrefix.subset member)) ?_
    intro operation member
    cases operation with
    | enable username token => exact words username token (isPrefix.subset member)
    | disable username => trivial

end Map

def oathFile : TextFile := .text "# secrets\nHOTP/T30/6 alice - GEZDGNBV\nHOTP/T30/6 bob - MZXW6YTB 0\n"

theorem otpRecords_iff_sample :
    ∃ after, runOtp [.enable "carol" (Vector.replicate 20 7), .disable "alice"] oathFile = .ok after ∧
      IsFiniteMap ["# secrets", "HOTP/T30/6 alice - GEZDGNBV", "HOTP/T30/6 bob - MZXW6YTB 0"]
        [.enable "carol" (Vector.replicate 20 7), .disable "alice"] after := by
  have read : oathLines oathFile =
      .ok ["# secrets", "HOTP/T30/6 alice - GEZDGNBV", "HOTP/T30/6 bob - MZXW6YTB 0"] := by decide +kernel
  have wellFormed : WellFormedOath ["# secrets", "HOTP/T30/6 alice - GEZDGNBV", "HOTP/T30/6 bob - MZXW6YTB 0"] :=
    ⟨by decide +kernel, by decide +kernel⟩
  have valid : ∀ operation ∈ [OtpOperation.enable "carol" (Vector.replicate 20 7), .disable "alice"],
      matchesUsername operation.username = true := by
    simp only [List.mem_cons, List.not_mem_nil, or_false, forall_eq_or_imp, forall_eq, OtpOperation.username]
    decide +kernel
  refine (otpRecords_iff read wellFormed valid).mpr ⟨?_, ?_⟩ _ List.prefix_rfl
  · intro username _ line found comment
    have noComment : ∀ line ∈ ["# secrets", "HOTP/T30/6 alice - GEZDGNBV", "HOTP/T30/6 bob - MZXW6YTB 0"],
        isOathComment line = true → (words line).length < 4 := by decide +kernel
    have short := noComment line (List.mem_of_find?_eq_some found) comment
    exact absurd (readsUser_iff.mp (List.find?_some found)).2 (Nat.not_le_of_lt short)
  · intro username given member
    simp only [List.mem_cons, List.not_mem_nil, or_false, OtpOperation.enable.injEq, reduceCtorEq] at member
    obtain ⟨rfl, -⟩ := member
    decide +kernel

/-- A record that was commented out is listed by nothing and still read. -/
theorem commentedRecord_read :
    WellFormedOath ["#HOTP/T30/6 alice - GEZDGNBV"] ∧
      listOtpRecords (.text "#HOTP/T30/6 alice - GEZDGNBV\n") = .ok [] ∧
        secretForUser "alice" (.text "#HOTP/T30/6 alice - GEZDGNBV\n") = .ok (some "GEZDGNBV") ∧
          ¬IsFiniteMap ["#HOTP/T30/6 alice - GEZDGNBV"] [] (.text "#HOTP/T30/6 alice - GEZDGNBV\n") := by
  have found : secretForUser "alice" (.text "#HOTP/T30/6 alice - GEZDGNBV\n") = .ok (some "GEZDGNBV") := by
    decide +kernel
  refine ⟨⟨by decide +kernel, by decide +kernel⟩, by decide +kernel, found, fun isMap => ?_⟩
  have none : otpSecrets ["#HOTP/T30/6 alice - GEZDGNBV"] [] "alice" = none := by decide +kernel
  have same := isMap.lookup "alice" (by decide +kernel)
  rw [found, none] at same
  exact absurd (Except.ok.inj same) nofun

end Korserver
