import Korserver.RoutingCore
import Korserver.TextParts
import Mathlib.Data.List.Nodup

/-!
Files that list one entry a line: what `write_unique_lines` (`services/files.py`) writes and what is
read back from it.
-/

namespace Korserver

open PythonText PythonValue

/-- An entry that `_merge_unique` keeps. -/
def IsEntry (text : String) : Prop := text ≠ "" ∧ text.toList.head? ≠ some '#'

theorem mem_mergeUniqueFrom {items merged : List String} {entry : String} :
    entry ∈ mergeUniqueFrom items merged ↔
      entry ∈ merged ∨ (IsEntry entry ∧ ∃ item ∈ items, strip item = entry) := by
  induction items generalizing merged with
  | nil => simp [mergeUniqueFrom]
  | cons item rest ih =>
      rw [mergeUniqueFrom]
      split
      · rename_i dropped
        rw [ih]
        simp only [List.mem_cons, exists_eq_or_imp, and_or_left]
        constructor
        · rintro (known | later)
          · exact Or.inl known
          · exact Or.inr (Or.inr later)
        · rintro (known | ⟨⟨nonempty, noComment⟩, rfl⟩ | later)
          · exact Or.inl known
          · exact Or.inl ((dropped.resolve_left nonempty).resolve_left noComment)
          · exact Or.inr later
      · rename_i kept
        simp only [not_or] at kept
        rw [ih, List.mem_append, List.mem_singleton]
        simp only [List.mem_cons, exists_eq_or_imp, and_or_left]
        constructor
        · rintro ((known | rfl) | later)
          · exact Or.inl known
          · exact Or.inr (Or.inl ⟨⟨kept.1, kept.2.1⟩, rfl⟩)
          · exact Or.inr (Or.inr later)
        · rintro (known | ⟨-, rfl⟩ | later)
          · exact Or.inl (Or.inl known)
          · exact Or.inl (Or.inr rfl)
          · exact Or.inr later

theorem mem_mergeUnique {sources : List (List String)} {entry : String} :
    entry ∈ mergeUnique sources ↔
      IsEntry entry ∧ ∃ source ∈ sources, ∃ item ∈ source, strip item = entry := by
  rw [mergeUnique, mem_mergeUniqueFrom]
  simp only [List.not_mem_nil, false_or, List.mem_flatten]
  grind

theorem mergeUniqueFrom_nodup {items merged : List String} (distinct : merged.Nodup) :
    (mergeUniqueFrom items merged).Nodup := by
  induction items generalizing merged with
  | nil => exact distinct
  | cons item rest ih =>
      rw [mergeUniqueFrom]
      split
      · exact ih distinct
      · rename_i kept
        simp only [not_or] at kept
        refine ih (List.nodup_append.mpr ⟨distinct, List.nodup_singleton _, ?_⟩)
        rintro known member other single rfl
        obtain rfl := List.mem_singleton.mp single
        exact kept.2.2 member

theorem mergeUniqueFrom_append (first second merged : List String) :
    mergeUniqueFrom (first ++ second) merged = mergeUniqueFrom second (mergeUniqueFrom first merged) := by
  induction first generalizing merged with
  | nil => rfl
  | cons item rest ih =>
      rw [List.cons_append, mergeUniqueFrom, mergeUniqueFrom]
      split
      · exact ih merged
      · exact ih (merged ++ [strip item])

theorem mergeUniqueFrom_entries {items merged : List String}
    (entries : ∀ item ∈ items, strip item = item ∧ IsEntry item) (distinct : (merged ++ items).Nodup) :
    mergeUniqueFrom items merged = merged ++ items := by
  induction items generalizing merged with
  | nil => simp [mergeUniqueFrom]
  | cons item rest ih =>
      obtain ⟨⟨own, some_item, noComment⟩, others⟩ := List.forall_mem_cons.mp entries
      have unseen : item ∉ merged := fun seen =>
        (List.nodup_append.mp distinct).2.2 item seen item List.mem_cons_self rfl
      have next : merged ++ item :: rest = (merged ++ [item]) ++ rest := by simp
      rw [mergeUniqueFrom, own, if_neg (not_or.mpr ⟨some_item, not_or.mpr ⟨noComment, unseen⟩⟩), next]
      exact ih others (next ▸ distinct)

theorem mergeUniqueFrom_skip {item : String} {merged : List String} (skipped : ¬IsEntry (strip item) ∨ strip item ∈ merged)
    (rest : List String) : mergeUniqueFrom (item :: rest) merged = mergeUniqueFrom rest merged := by
  rw [mergeUniqueFrom, if_pos]
  rcases skipped with noEntry | known
  · by_cases empty : strip item = ""
    · exact Or.inl empty
    · exact Or.inr (Or.inl (not_not.mp fun noComment => noEntry ⟨empty, noComment⟩))
  · exact Or.inr (Or.inr known)

theorem mergeUniqueFrom_keep {item : String} {merged : List String} (entry : IsEntry (strip item))
    (unseen : strip item ∉ merged) (rest : List String) :
    mergeUniqueFrom (item :: rest) merged = mergeUniqueFrom rest (merged ++ [strip item]) := by
  rw [mergeUniqueFrom, if_neg (not_or.mpr ⟨entry.1, not_or.mpr ⟨entry.2, unseen⟩⟩)]

theorem mergeUniqueFrom_filter (entry : String) (items merged : List String) :
    mergeUniqueFrom (items.filter fun item => strip item ≠ entry) (merged.filter (· ≠ entry)) =
      (mergeUniqueFrom items merged).filter (· ≠ entry) := by
  induction items generalizing merged with
  | nil => rfl
  | cons item rest ih =>
      have left (other : strip item ≠ entry) : (item :: rest).filter (fun item => strip item ≠ entry) =
          item :: rest.filter fun item => strip item ≠ entry := List.filter_cons_of_pos (by simpa using other)
      have gone (same : ¬strip item ≠ entry) : (item :: rest).filter (fun item => strip item ≠ entry) =
          rest.filter fun item => strip item ≠ entry := List.filter_cons_of_neg (by simpa using same)
      by_cases skipped : ¬IsEntry (strip item) ∨ strip item ∈ merged
      · rw [mergeUniqueFrom_skip skipped, ← ih]
        by_cases other : strip item ≠ entry
        · rw [left other, mergeUniqueFrom_skip]
          exact skipped.imp id fun known => List.mem_filter.mpr ⟨known, by simpa using other⟩
        · rw [gone other]
      · rw [not_or, not_not] at skipped
        rw [mergeUniqueFrom_keep skipped.1 skipped.2, ← ih, List.filter_append]
        by_cases other : strip item ≠ entry
        · rw [left other, mergeUniqueFrom_keep skipped.1 fun known => skipped.2 (List.mem_of_mem_filter known),
            List.filter_cons_of_pos (by simpa using other), List.filter_nil]
        · rw [gone other, List.filter_cons_of_neg (by simpa using other), List.filter_nil, List.append_nil]

theorem mergeUniqueFrom_behind (items merged seen : List String) :
    mergeUniqueFrom items (merged ++ seen.filter (· ∉ merged)) =
      merged ++ (mergeUniqueFrom items seen).filter (· ∉ merged) := by
  induction items generalizing seen with
  | nil => rfl
  | cons item rest ih =>
      by_cases skipped : ¬IsEntry (strip item) ∨ strip item ∈ seen
      · rw [mergeUniqueFrom_skip skipped, ← ih, mergeUniqueFrom_skip]
        refine skipped.imp id fun known => List.mem_append.mpr ?_
        by_cases old : strip item ∈ merged
        · exact Or.inl old
        · exact Or.inr (List.mem_filter.mpr ⟨known, decide_eq_true old⟩)
      · rw [not_or, not_not] at skipped
        rw [mergeUniqueFrom_keep skipped.1 skipped.2, ← ih, List.filter_append]
        by_cases old : strip item ∈ merged
        · rw [mergeUniqueFrom_skip (Or.inr (List.mem_append_left _ old)), List.filter_cons_of_neg (by simpa using old),
            List.filter_nil, List.append_nil]
        · rw [mergeUniqueFrom_keep skipped.1, List.filter_cons_of_pos (by simpa using old), List.filter_nil,
            List.append_assoc]
          rw [List.mem_append, not_or]
          exact ⟨old, fun known => skipped.2 (List.mem_of_mem_filter known)⟩

/-- The loop of `write_unique_lines`, which keeps what `_merge_unique` keeps. -/
def uniqueLines (lines : List String) : List String := mergeUniqueFrom lines []

def uniqueLinesText (lines : List String) : String :=
  join "\n" (uniqueLines lines) ++ if uniqueLines lines = [] then "" else "\n"

def Files.writeUniqueLines (files : Files) (path : String) (lines : List String) : Files :=
  { files with text := Function.update files.text path (.text (uniqueLinesText lines)) }

theorem mem_uniqueLines {lines : List String} {entry : String} :
    entry ∈ uniqueLines lines ↔ IsEntry entry ∧ ∃ line ∈ lines, strip line = entry := by
  rw [uniqueLines, mem_mergeUniqueFrom]
  simp only [List.not_mem_nil, false_or]

theorem uniqueLines_nodup (lines : List String) : (uniqueLines lines).Nodup :=
  mergeUniqueFrom_nodup List.nodup_nil

theorem uniqueLines_own {lines : List String} {entry : String} (member : entry ∈ uniqueLines lines) :
    strip entry = entry ∧ IsEntry entry := by
  obtain ⟨isEntry, line, -, rfl⟩ := mem_uniqueLines.mp member
  exact ⟨strip_strip line, isEntry⟩

theorem uniqueLines_entries {lines : List String} (entries : ∀ line ∈ lines, strip line = line ∧ IsEntry line)
    (distinct : lines.Nodup) : uniqueLines lines = lines :=
  mergeUniqueFrom_entries entries distinct

theorem uniqueLines_filter (lines : List String) (entry : String) :
    uniqueLines (lines.filter fun line => strip line ≠ entry) = (uniqueLines lines).filter (· ≠ entry) :=
  mergeUniqueFrom_filter entry lines []

theorem uniqueLines_append (first second : List String) :
    uniqueLines (first ++ second) = uniqueLines first ++ (uniqueLines second).filter (· ∉ uniqueLines first) := by
  have behind := mergeUniqueFrom_behind second (uniqueLines first) []
  rw [List.filter_nil, List.append_nil] at behind
  rw [uniqueLines, mergeUniqueFrom_append, ← uniqueLines, behind]
  rfl

theorem uniqueLines_uniqueLines (lines : List String) : uniqueLines (uniqueLines lines) = uniqueLines lines :=
  uniqueLines_entries (fun _ member => uniqueLines_own member) (uniqueLines_nodup lines)

theorem uniqueLines_whole {lines : List String} (whole : ∀ line ∈ lines, ∀ c ∈ line.toList, isLineBreak c = false) :
    ∀ entry ∈ uniqueLines lines, ∀ c ∈ entry.toList, isLineBreak c = false := by
  intro entry member c inEntry
  obtain ⟨-, line, inLines, rfl⟩ := mem_uniqueLines.mp member
  exact whole line inLines c (mem_strip inEntry)

theorem splitLines_uniqueLinesText {lines : List String}
    (whole : ∀ line ∈ lines, ∀ c ∈ line.toList, isLineBreak c = false) :
    splitLines (uniqueLinesText lines) = uniqueLines lines := by
  rw [uniqueLinesText]
  by_cases none : uniqueLines lines = []
  · rw [if_pos none, none]
    rfl
  · rw [if_neg none, splitLines_join (uniqueLines_whole whole) none]

theorem Files.readLines_writeUniqueLines (files : Files) (path : String) {lines : List String}
    (whole : ∀ line ∈ lines, ∀ c ∈ line.toList, isLineBreak c = false) :
    (files.writeUniqueLines path lines).readLines path = .ok (uniqueLines lines) := by
  simp only [Files.readLines, Files.writeUniqueLines, Function.update_self, splitLines_uniqueLinesText whole]

theorem Files.readLines_whole {files : Files} {path : String} {lines : List String}
    (read : files.readLines path = .ok lines) : ∀ line ∈ lines, ∀ c ∈ line.toList, isLineBreak c = false := by
  unfold Files.readLines at read
  split at read
  · obtain rfl := Except.ok.inj read
    exact nofun
  · nomatch read
  · obtain rfl := Except.ok.inj read
    exact fun line member => splitLines_whole member

end Korserver
