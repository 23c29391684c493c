import Korserver.DeepMerge
import Korserver.HexText
import Korserver.LogRotationCore
import Korserver.Runs

/-!
What forced rotations leave of a log file: the newest generations, each under its number.
-/

namespace Korserver

open PythonText PythonValue Runs

structure LogName where
  text : String
  live : isRotatedName text = false

inductive LogEvent
  | append (name : LogName) (data : List UInt8)
  | rotate (now : ℚ)

def LogRotation.step (settings : LogRotationConfig) (rotation : LogRotation) : LogEvent → LogRotation
  | .append name data =>
      { rotation with files := dictSet name.text ((dictGet name.text rotation.files).getD [] ++ data) rotation.files }
  | .rotate now =>
      let after := rotate settings true now rotation.state rotation.files
      { after with rotated := rotation.rotated ++ after.rotated }

/-- What was appended since the last rotation, once the file is there, and the contents at the
rotations, the newest first. -/
structure LogHistory where
  live : Option (List UInt8)
  rotations : List (List UInt8) := []

/-- What a rotation copies. A file that is empty or not there is left alone. -/
def LogHistory.written (history : LogHistory) : List UInt8 := history.live.getD []

def LogHistory.rotate (history : LogHistory) : LogHistory :=
  if history.written = [] then history
  else { live := some [], rotations := history.written :: history.rotations }

def LogHistory.step (name : LogName) (history : LogHistory) : LogEvent → LogHistory
  | .append other data =>
      if other.text = name.text then { history with live := some (history.written ++ data) } else history
  | .rotate _ => history.rotate

/-- The log holds what was written since, its copies the newest generations, and there is no other copy. -/
def KeepsNewest (settings : LogRotationConfig) (name : LogName) (history : LogHistory) (files : LogFiles) :
    Prop :=
  dictGet name.text files = history.live ∧
    dictGet (copyName name.text 0) files = none ∧
      ∀ index, dictGet (copyName name.text (index + 1)) files =
        (history.rotations.take settings.keepFiles)[index]?

section Names

variable {name other : String} {index : Nat}

theorem copyName_chars (name : String) (index : Nat) :
    (copyName name index).toList = name.toList ++ '.' :: (toString index).toList := by
  simp [copyName, String.toList_append]

theorem digitChar_decimal_only : ∀ digit < 10, isDecimal (Nat.digitChar digit) = true ∧
    Nat.digitChar digit ≠ '.' ∧ Nat.digitChar digit ≠ '/' ∧ Nat.digitChar digit ≠ '\n' := by decide +kernel

theorem index_chars {c : Char} (member : c ∈ (toString index).toList) :
    isDecimal c = true ∧ c ≠ '.' ∧ c ≠ '/' ∧ c ≠ '\n' := by
  obtain ⟨digit, below, rfl⟩ := digit_toString member
  exact digitChar_decimal_only digit below

theorem index_nonempty (index : Nat) : (toString index).toList ≠ [] := by
  rw [show toString index = Nat.repr index from rfl, Nat.toList_repr]
  exact Nat.toDigits_ne_nil

theorem isRotatedName_copy (name : String) (index : Nat) : isRotatedName (copyName name index) = true := by
  have file : (copyName name index).toList.rtakeWhile (· != '/') =
      name.toList.rtakeWhile (· != '/') ++ '.' :: (toString index).toList := by
    rw [copyName_chars, List.rtakeWhile, List.rtakeWhile, List.reverse_append,
      List.takeWhile_append_of_pos, List.reverse_append, List.reverse_reverse]
    intro c member
    rcases List.mem_cons.mp (List.mem_reverse.mp member) with rfl | digit
    · rfl
    · simpa using (index_chars digit).2.2.1
  obtain ⟨front, last, digits⟩ : ∃ front last, (toString index).toList = front ++ [last] := by
    rcases List.eq_nil_or_concat (toString index).toList with none | ⟨front, last, same⟩
    · exact absurd none (index_nonempty index)
    · exact ⟨front, last, by rw [same, List.concat_eq_append]⟩
  have lastChar : ∃ chars, name.toList.rtakeWhile (· != '/') ++ '.' :: (toString index).toList =
      chars ++ [last] := ⟨name.toList.rtakeWhile (· != '/') ++ '.' :: front, by rw [digits]; simp⟩
  have whole : beforeDollar (name.toList.rtakeWhile (· != '/') ++ '.' :: (toString index).toList) =
      name.toList.rtakeWhile (· != '/') ++ '.' :: (toString index).toList := by
    obtain ⟨chars, same⟩ := lastChar
    rw [beforeDollar, same, List.getLast?_concat, if_neg]
    intro newline
    exact (@index_chars index last (by rw [digits]; simp)).2.2.2 (Option.some.inj newline)
  have stem : dropEndWhile isDecimal (name.toList.rtakeWhile (· != '/') ++ '.' :: (toString index).toList) =
      name.toList.rtakeWhile (· != '/') ++ ['.'] := by
    rw [dropEndWhile_append_cons (by decide)]
    have all : dropEndWhile isDecimal (toString index).toList = [] := by
      rw [dropEndWhile, List.reverse_eq_nil_iff, List.dropWhile_eq_nil_iff]
      exact fun c member => (index_chars (List.mem_reverse.mp member)).1
    rw [all]
  have some_digit := List.length_pos_of_ne_nil (index_nonempty index)
  simp only [isRotatedName, file, whole, stem, List.length_append, List.length_cons, List.length_nil,
    List.getLast?_concat, beq_self_eq_true, Bool.and_true, decide_eq_true_eq]
  omega

theorem LogName.ne_copy (name : LogName) (other : String) (index : Nat) : name.text ≠ copyName other index := by
  intro same
  have live := name.live
  rw [same, isRotatedName_copy] at live
  nomatch live

theorem split_last {c : Char} {first second front back : List Char} (noFront : c ∉ front) (noBack : c ∉ back)
    (same : first ++ c :: front = second ++ c :: back) : first = second ∧ front = back := by
  rcases List.append_eq_append_iff.mp same with ⟨middle, longer, rest⟩ | ⟨middle, longer, rest⟩
  · cases middle with
    | nil => exact ⟨by rw [longer, List.append_nil], (List.cons.inj rest).2⟩
    | cons d middle =>
        have inside := (List.cons.inj rest).2
        exact absurd (by rw [inside]; simp) noFront
  · cases middle with
    | nil => exact ⟨by rw [longer, List.append_nil], (List.cons.inj rest).2.symm⟩
    | cons d middle =>
        have inside := (List.cons.inj rest).2
        exact absurd (by rw [inside]; simp) noBack

theorem copyName_inj {first second : String} {i j : Nat} (same : copyName first i = copyName second j) :
    first = second ∧ i = j := by
  have chars := congrArg String.toList same
  rw [copyName_chars, copyName_chars] at chars
  obtain ⟨names, numbers⟩ := split_last (fun member => (index_chars member).2.1 rfl)
    (fun member => (index_chars member).2.1 rfl) chars
  exact ⟨String.toList_inj.mp names, toString_injective (String.toList_inj.mp numbers)⟩

theorem copyName_ne {i j : Nat} (differ : i ≠ j) : copyName name i ≠ copyName name j :=
  fun same => differ (copyName_inj same).2

end Names

section

variable {name key : String} {files : LogFiles}

theorem dictGet_removeFile_same : dictGet name (removeFile name files) = none := by
  refine dictGet_absent ?_
  intro member
  obtain ⟨file, kept, rfl⟩ := List.mem_map.mp member
  simp [removeFile] at kept

theorem dictGet_removeFile_other (other : key ≠ name) :
    dictGet key (removeFile name files) = dictGet key files := by
  induction files with
  | nil => rfl
  | cons file rest ih =>
      rw [removeFile, List.filter_cons]
      by_cases same : file.1 = name
      · rw [if_neg (by simpa using same), dictGet, if_neg fun equal => other (equal.symm.trans same)]
        exact ih
      · rw [if_pos (by simpa using same), dictGet, dictGet]
        rw [show dictGet key (rest.filter fun file => file.1 ≠ name) = dictGet key rest from ih]

theorem moveCopy_source {index : Nat} : dictGet (copyName name index) (moveCopy name index files) = none := by
  unfold moveCopy
  cases found : dictGet (copyName name index) files with
  | none => exact found
  | some content => rw [dictGet_dictSet_other (copyName_ne (by omega)), dictGet_removeFile_same]

theorem moveCopy_target {index : Nat} (free : dictGet (copyName name (index + 1)) files = none) :
    dictGet (copyName name (index + 1)) (moveCopy name index files) = dictGet (copyName name index) files := by
  unfold moveCopy
  cases found : dictGet (copyName name index) files with
  | none => exact free
  | some content => exact dictGet_dictSet_same

theorem moveCopy_other {index : Nat} (notSource : key ≠ copyName name index)
    (notTarget : key ≠ copyName name (index + 1)) :
    dictGet key (moveCopy name index files) = dictGet key files := by
  unfold moveCopy
  cases dictGet (copyName name index) files with
  | none => rfl
  | some content => rw [dictGet_dictSet_other notTarget.symm, dictGet_removeFile_other notSource]

/-- Each copy moves up by one, and the first number is free. -/
structure Shifted (name : String) (count : Nat) (files after : LogFiles) : Prop where
  moved : ∀ index, 1 ≤ index → index ≤ count →
    dictGet (copyName name (index + 1)) after = dictGet (copyName name index) files
  first : dictGet (copyName name 1) after = none
  kept : ∀ key, (∀ index, 1 ≤ index → index ≤ count + 1 → key ≠ copyName name index) →
    dictGet key after = dictGet key files

theorem shiftCopies_shifted {count : Nat} (free : dictGet (copyName name (count + 1)) files = none) :
    Shifted name count files (shiftCopies name count files) := by
  induction count generalizing files with
  | zero => exact ⟨fun index low high => by omega, free, fun _ _ => rfl⟩
  | succ count ih =>
      have shifted := ih (@moveCopy_source name files (count + 1))
      rw [shiftCopies]
      refine ⟨fun index low high => ?_, shifted.first, fun key apart => ?_⟩
      · by_cases top : index = count + 1
        · subst top
          rw [shifted.kept _ fun index _ below => copyName_ne (by omega), moveCopy_target free]
        · rw [shifted.moved index low (by omega),
            moveCopy_other (copyName_ne (by omega)) (copyName_ne (by omega))]
      · rw [shifted.kept key fun index low high => apart index low (by omega),
          moveCopy_other (apart _ (by omega) (by omega)) (apart _ (by omega) (by omega))]

theorem rotateFile_apart {keep : Nat} (positive : 1 ≤ keep) (notLog : key ≠ name)
    (notCopy : ∀ index, key ≠ copyName name index) :
    dictGet key (rotateFile keep name files) = dictGet key files := by
  have shifted := @shiftCopies_shifted name (removeFile (copyName name keep) files) (keep - 1)
    (by rw [show keep - 1 + 1 = keep by omega]; exact dictGet_removeFile_same)
  simp only [rotateFile]
  rw [dictGet_dictSet_other notLog.symm, dictGet_dictSet_other (notCopy 1).symm,
    shifted.kept key fun index _ _ => notCopy index, dictGet_removeFile_other (notCopy keep)]

theorem rotateFile_keepsNewest {settings : LogRotationConfig} {log : LogName} {history : LogHistory}
    (keeps : KeepsNewest settings log history files) :
    KeepsNewest settings log { live := some [], rotations := history.written :: history.rotations }
      (rotateFile settings.keepFiles log.text files) := by
  obtain ⟨live, zeroth, copies⟩ := keeps
  have positive := settings.keepFiles_ge
  have free : dictGet (copyName log.text (settings.keepFiles - 1 + 1))
      (removeFile (copyName log.text settings.keepFiles) files) = none := by
    rw [show settings.keepFiles - 1 + 1 = settings.keepFiles by omega]
    exact dictGet_removeFile_same
  have shifted := shiftCopies_shifted free
  have content : dictGet log.text (shiftCopies log.text (settings.keepFiles - 1)
      (removeFile (copyName log.text settings.keepFiles) files)) = dictGet log.text files := by
    rw [shifted.kept _ fun index _ _ => log.ne_copy _ _, dictGet_removeFile_other (log.ne_copy _ _)]
  refine ⟨?_, ?_, fun index => ?_⟩
  · simp only [rotateFile]
    rw [dictGet_dictSet_same]
  · simp only [rotateFile]
    rw [dictGet_dictSet_other (log.ne_copy _ _), dictGet_dictSet_other (copyName_ne (by omega)),
      shifted.kept _ fun index low _ => copyName_ne (by omega),
      dictGet_removeFile_other (copyName_ne (by omega)), zeroth]
  · simp only [rotateFile]
    rw [dictGet_dictSet_other (log.ne_copy _ _)]
    cases index with
    | zero =>
        rw [dictGet_dictSet_same, content, live, List.getElem?_take_of_lt (by omega)]
        rfl
    | succ index =>
        rw [dictGet_dictSet_other (copyName_ne (by omega))]
        by_cases below : index + 1 < settings.keepFiles
        · rw [shifted.moved (index + 1) (by omega) (by omega),
            dictGet_removeFile_other (copyName_ne (by omega)), copies, List.getElem?_take_of_lt (by omega),
            List.getElem?_take_of_lt below, List.getElem?_cons_succ]
        · rw [shifted.kept _ fun other low high => copyName_ne (by omega),
            dictGet_removeFile_other (copyName_ne (by omega)), copies,
            List.getElem?_eq_none (by rw [List.length_take]; omega),
            List.getElem?_eq_none (by rw [List.length_take]; omega)]

end

/-! The loop, and runs. -/

section

variable {settings : LogRotationConfig} {log : LogName} {history : LogHistory}

theorem KeepsNewest.congr {files others : LogFiles} (keeps : KeepsNewest settings log history files)
    (same : dictGet log.text others = dictGet log.text files)
    (copies : ∀ index, dictGet (copyName log.text index) others = dictGet (copyName log.text index) files) :
    KeepsNewest settings log history others := by
  refine ⟨by rw [same, keeps.1], by rw [copies, keeps.2.1], fun index => by rw [copies, keeps.2.2]⟩

theorem LogHistory.rotate_rotate (history : LogHistory) : history.rotate.rotate = history.rotate := by
  unfold LogHistory.rotate
  by_cases empty : history.written = []
  · rw [if_pos empty, if_pos empty]
  · rw [if_neg empty]
    exact if_pos rfl

theorem rotatePath_files (now : ℚ) (rotation : LogRotation) (log : LogName) :
    (rotatePath settings true now rotation log.text).files =
      if (dictGet log.text rotation.files).getD [] = [] then rotation.files
      else rotateFile settings.keepFiles log.text rotation.files := by
  unfold rotatePath
  cases found : dictGet log.text rotation.files with
  | none => rfl
  | some content =>
      rw [Option.getD_some, log.live]
      cases content with
      | nil => rfl
      | cons byte rest => simp [isDue]

theorem rotatePath_copy (now : ℚ) (rotation : LogRotation) {name : String} (copy : isRotatedName name = true) :
    rotatePath settings true now rotation name = rotation := by
  unfold rotatePath
  cases dictGet name rotation.files with
  | none => rfl
  | some content => rw [copy]; rfl

theorem rotatePath_keepsNewest (now : ℚ) {rotation : LogRotation} (name : String)
    (keeps : KeepsNewest settings log history rotation.files) :
    KeepsNewest settings log (if name = log.text then history.rotate else history)
      (rotatePath settings true now rotation name).files := by
  cases copy : isRotatedName name with
  | true =>
      have other : name ≠ log.text := by
        rintro rfl
        rw [log.live] at copy
        nomatch copy
      rw [if_neg other, rotatePath_copy now rotation copy]
      exact keeps
  | false =>
      rw [rotatePath_files now rotation ⟨name, copy⟩]
      by_cases same : name = log.text
      · subst same
        rw [if_pos rfl, keeps.1, LogHistory.rotate]
        change KeepsNewest settings log _ (if history.written = [] then _ else _)
        by_cases empty : history.written = []
        · rw [if_pos empty, if_pos empty]
          exact keeps
        · rw [if_neg empty, if_neg empty]
          exact rotateFile_keepsNewest keeps
      · rw [if_neg same]
        split
        · exact keeps
        · refine keeps.congr ?_ fun index => ?_
          · exact rotateFile_apart settings.keepFiles_ge (fun equal => same equal.symm) fun index =>
              log.ne_copy _ _
          · refine rotateFile_apart settings.keepFiles_ge ?_ fun other equal => same (copyName_inj equal).1.symm
            exact fun equal => (⟨name, copy⟩ : LogName).ne_copy _ _ equal.symm

theorem rotatePaths_keepsNewest (now : ℚ) (names : List String) {rotation : LogRotation}
    (keeps : KeepsNewest settings log history rotation.files) :
    KeepsNewest settings log (if log.text ∈ names then history.rotate else history)
      (names.foldl (rotatePath settings true now) rotation).files := by
  induction names generalizing history rotation with
  | nil => simpa using keeps
  | cons name rest ih =>
      have step := ih (rotatePath_keepsNewest now name keeps)
      by_cases same : name = log.text
      · rw [if_pos same, LogHistory.rotate_rotate, ite_self] at step
        rw [if_pos (by simp [same])]
        exact step
      · rw [if_neg same] at step
        have member : log.text ∈ name :: rest ↔ log.text ∈ rest := by
          rw [List.mem_cons, or_iff_right fun equal => same equal.symm]
        simp only [member]
        exact step

theorem rotate_keepsNewest (now : ℚ) {rotation : LogRotation}
    (keeps : KeepsNewest settings log history rotation.files) :
    KeepsNewest settings log history.rotate (rotate settings true now rotation.state rotation.files).files := by
  have looped := @rotatePaths_keepsNewest settings log history now
    ((rotation.files.map Prod.fst).mergeSort pathLe)
    { files := rotation.files, state := rotation.state } keeps
  have forced : (!settings.enabled && !true) = false := by simp
  simp only [rotate, forced, Bool.false_eq_true, if_false]
  by_cases there : log.text ∈ rotation.files.map Prod.fst
  · rw [if_pos (List.mem_mergeSort.mpr there)] at looped
    exact looped
  · have absent : log.text ∉ (rotation.files.map Prod.fst).mergeSort pathLe :=
      fun member => there (List.mem_mergeSort.mp member)
    rw [if_neg absent] at looped
    have empty : history.written = [] := by rw [LogHistory.written, ← keeps.1, dictGet_absent there]; rfl
    rw [LogHistory.rotate, if_pos empty]
    exact looped

theorem rotatePath_rotated (force : Bool) (now : ℚ) {rotation : LogRotation} (name : String)
    (lives : ∀ other ∈ rotation.rotated, isRotatedName other = false) :
    ∀ other ∈ (rotatePath settings force now rotation name).rotated, isRotatedName other = false := by
  unfold rotatePath
  split
  · exact lives
  · split
    · exact lives
    · rename_i copy
      dsimp only
      split
      · intro other member
        rcases List.mem_append.mp member with earlier | last
        · exact lives other earlier
        · rw [List.mem_singleton.mp last]
          exact Bool.eq_false_iff.mpr copy
      · exact lives

theorem rotate_rotated (settings : LogRotationConfig) (force : Bool) (now : ℚ) (state : RotationState)
    (files : LogFiles) : ∀ name ∈ (rotate settings force now state files).rotated, isRotatedName name = false := by
  unfold rotate
  split
  · nofun
  · refine List.foldlRecOn (motive := fun rotation : LogRotation =>
      ∀ name ∈ rotation.rotated, isRotatedName name = false) _ _ (by nofun) ?_
    intro rotation lives name _
    exact rotatePath_rotated force now name lives

theorem step_keepsNewest (rotation : LogRotation) (event : LogEvent)
    (keeps : KeepsNewest settings log history rotation.files) :
    KeepsNewest settings log (history.step log event) (rotation.step settings event).files := by
  cases event with
  | rotate now => exact rotate_keepsNewest now keeps
  | append other data =>
      unfold LogRotation.step LogHistory.step
      dsimp only
      by_cases same : other.text = log.text
      · rw [if_pos same, same]
        refine ⟨?_, ?_, fun index => ?_⟩
        · rw [dictGet_dictSet_same, keeps.1, LogHistory.written]
        · rw [dictGet_dictSet_other (log.ne_copy _ _), keeps.2.1]
        · rw [dictGet_dictSet_other (log.ne_copy _ _), keeps.2.2]
      · rw [if_neg same]
        exact keeps.congr (dictGet_dictSet_other same) fun index => dictGet_dictSet_other (other.ne_copy _ _)

end

theorem run_keepsNewest {settings : LogRotationConfig} {log : LogName} {history : LogHistory}
    {rotation : LogRotation} (keeps : KeepsNewest settings log history rotation.files)
    (events : List LogEvent) :
    KeepsNewest settings log (run (LogHistory.step log) history events)
      (run (LogRotation.step settings) rotation events).files := by
  induction events generalizing history rotation with
  | nil => exact keeps
  | cons event rest ih => exact ih (step_keepsNewest rotation event keeps)

theorem run_rotated (settings : LogRotationConfig) (rotation : LogRotation)
    (lives : ∀ name ∈ rotation.rotated, isRotatedName name = false) (events : List LogEvent) :
    ∀ name ∈ (run (LogRotation.step settings) rotation events).rotated, isRotatedName name = false := by
  refine run_invariant _ (fun rotation : LogRotation =>
    ∀ name ∈ rotation.rotated, isRotatedName name = false) ?_ _ events lives
  intro rotation event lives
  cases event with
  | append name data => exact lives
  | rotate now =>
      intro name member
      rcases List.mem_append.mp member with earlier | last
      · exact lives name earlier
      · exact rotate_rotated settings true now _ _ name last

/-- Over any run the copies are the newest generations, in order. -/
theorem rotation_keepsNewest (settings : LogRotationConfig) (log : LogName) (files : LogFiles)
    (state : RotationState) (fresh : ∀ index, dictGet (copyName log.text index) files = none)
    (events : List LogEvent) :
    KeepsNewest settings log
        (run (LogHistory.step log) { live := dictGet log.text files } events)
        (run (LogRotation.step settings) { files, state } events).files ∧
      ∀ name ∈ (run (LogRotation.step settings) { files, state } events).rotated,
        isRotatedName name = false := by
  refine ⟨run_keepsNewest ⟨rfl, fresh 0, fun index => ?_⟩ events, run_rotated settings _ ?_ events⟩
  · rw [fresh, List.take_nil]
    rfl
  · intro name member
    exact absurd member List.not_mem_nil

def apiLog : LogName := ⟨"api.log", by decide +kernel⟩

/-- Three generations of which two are kept. -/
theorem rotation_keepsNewest_sample :
    KeepsNewest { keepFiles := 2 } apiLog { live := some [], rotations := [[3], [2], [1]] }
      (run (LogRotation.step { keepFiles := 2 }) { files := [] } [.append apiLog [1], .rotate 10,
        .append apiLog [2], .rotate 20, .append apiLog [3], .rotate 30]).files :=
  (rotation_keepsNewest { keepFiles := 2 } apiLog [] [] (fun _ => rfl) [.append apiLog [1], .rotate 10,
    .append apiLog [2], .rotate 20, .append apiLog [3], .rotate 30]).1

end Korserver
