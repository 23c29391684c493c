import Korserver.AddressRoundTrip
import Korserver.UniqueLines

/-!
Editing the runtime routes file (`add_route` and `delete_route` of `services/routing.py`). A route is
deleted by its text, so it goes away exactly when the file has no other spelling of its network.
-/

namespace Korserver

open PythonText IpAddress PythonValue

/-- `_normalize_route` with its error. -/
def requireRoute (value : String) : Except PyError String :=
  match normalizeRoute value with
  | some item => .ok item
  | none => .error (.valueError ("invalid route or IP: " ++ value))

/-- `_add_line`: a line that is there already leaves the file alone. -/
def Files.addLine (files : Files) (path item : String) : Except PyError Files := do
  let lines ← files.readLines path
  return if item ∈ lines.map strip then files else files.writeUniqueLines path (lines ++ [item])

def Files.deleteLine (files : Files) (path item : String) : Except PyError Files := do
  let lines ← files.readLines path
  return files.writeUniqueLines path (lines.filter fun line => strip line ≠ item)

def addRoute (files : Files) (config : AppConfig) (value : String) : Except PyError Files := do
  let item ← requireRoute value
  files.addLine config.routing.split.routesFile item

def deleteRoute (files : Files) (config : AppConfig) (value : String) : Except PyError Files := do
  let item ← requireRoute value
  files.deleteLine config.routing.split.routesFile item

def runtimeRoutes (files : Files) (config : AppConfig) : Except PyError (List String) := do
  let lines ← files.readLines config.routing.split.routesFile
  return uniqueLines lines

def otherRoutes (value : String) (entries : List String) : List String :=
  entries.filter fun entry => ipNetwork entry ≠ ipNetwork value

/-- Deleting removes the value's network and nothing else, and undoes an addition. -/
structure RespectsNetworks (files : Files) (config : AppConfig) (value : String) (entries : List String) : Prop where
  deletes : ∃ deleted, deleteRoute files config value = .ok deleted ∧
    runtimeRoutes deleted config = .ok (otherRoutes value entries)
  undoes : ∃ added deleted left, addRoute files config value = .ok added ∧
    deleteRoute added config value = .ok deleted ∧ runtimeRoutes deleted config = .ok left ∧
      otherRoutes value left = otherRoutes value entries

def writtenEntries (item : String) : List String := uniqueLines (splitLines (uniqueLinesText [item]))

theorem normalizeRoute_network {value item : String} (normal : normalizeRoute value = some item) :
    ∃ network, ipNetwork value = some network ∧ ipNetwork item = some network := by
  unfold normalizeRoute at normal
  split at normal
  · obtain ⟨network, read, rfl⟩ := Option.map_eq_some_iff.mp normal
    exact ⟨network, read, ipNetwork_text (ipNetwork_readable read)⟩
  · rename_i bare
    obtain ⟨address, read, rfl⟩ := Option.map_eq_some_iff.mp normal
    have again := ipAddress_text (ipAddress_readable read)
    refine ⟨address.host, ?_, ?_⟩
    · rw [ipNetwork_bare bare, read]
      rfl
    · rw [ipNetwork_bare (ipAddress_noSlash again), again]
      rfl

theorem splitLines_join_concat {lines : List String} (whole : ∀ line ∈ lines, ∀ c ∈ line.toList, isLineBreak c = false)
    (last : String) : splitLines (join "\n" (lines ++ [last]) ++ "\n") = lines ++ splitLines (last ++ "\n") := by
  induction lines with
  | nil => rfl
  | cons line rest ih =>
      obtain ⟨first, others⟩ := List.forall_mem_cons.mp whole
      have more : rest ++ [last] ≠ [] := List.append_ne_nil_of_right_ne_nil _ (List.cons_ne_nil _ _)
      rw [List.cons_append, join_cons more, String.append_assoc, splitLines_append, splitLines_single first, ih others,
        List.singleton_append, List.cons_append]

theorem uniqueLinesText_congr {first second : List String} (same : uniqueLines first = uniqueLines second) :
    uniqueLinesText first = uniqueLinesText second := by
  rw [uniqueLinesText, uniqueLinesText, same]

theorem uniqueLines_single {item : String} (entry : IsEntry (strip item)) : uniqueLines [item] = [strip item] :=
  mergeUniqueFrom_keep entry List.not_mem_nil []

section Added

variable {lines : List String} (whole : ∀ line ∈ lines, ∀ c ∈ line.toList, isLineBreak c = false) {item : String}

include whole

theorem writtenEntries_known (known : ¬IsEntry (strip item) ∨ strip item ∈ uniqueLines lines) :
    (writtenEntries item).filter (· ∉ uniqueLines lines) = [] := by
  rcases known with noEntry | known
  · have none : uniqueLines [item] = [] := mergeUniqueFrom_skip (Or.inl noEntry) []
    rw [writtenEntries, uniqueLinesText, none]
    rfl
  · have single := uniqueLines_single (uniqueLines_own known).2
    have own : uniqueLines [strip item] = [strip item] :=
      uniqueLines_entries (by simpa using uniqueLines_own known) (List.nodup_singleton _)
    have written : writtenEntries item = [strip item] := by
      rw [writtenEntries, uniqueLinesText_congr (single.trans own.symm), splitLines_uniqueLinesText, own, own]
      simpa using uniqueLines_whole whole (strip item) known
    rw [written, List.filter_cons_of_neg (by simpa using known), List.filter_nil]

theorem added_entries : uniqueLines (splitLines (uniqueLinesText (lines ++ [item]))) =
    uniqueLines lines ++ (writtenEntries item).filter (· ∉ uniqueLines lines) := by
  by_cases known : ¬IsEntry (strip item) ∨ strip item ∈ uniqueLines lines
  · have same : uniqueLines (lines ++ [item]) = uniqueLines lines := by
      rw [uniqueLines, mergeUniqueFrom_append, ← uniqueLines, mergeUniqueFrom_skip known]
      rfl
    rw [uniqueLinesText_congr same, splitLines_uniqueLinesText whole, uniqueLines_uniqueLines,
      writtenEntries_known whole known, List.append_nil]
  · rw [not_or, not_not] at known
    have appended : uniqueLines (lines ++ [item]) = uniqueLines lines ++ [strip item] := by
      rw [uniqueLines, mergeUniqueFrom_append, ← uniqueLines, mergeUniqueFrom_keep known.1 known.2]
      rfl
    have written : writtenEntries item = uniqueLines (splitLines (strip item ++ "\n")) := by
      rw [writtenEntries, uniqueLinesText, uniqueLines_single known.1, if_neg (List.cons_ne_nil _ _)]
      rfl
    rw [uniqueLinesText, appended, if_neg (List.append_ne_nil_of_right_ne_nil _ (List.cons_ne_nil _ _)),
      splitLines_join_concat (uniqueLines_whole whole), uniqueLines_append, uniqueLines_uniqueLines, written]

end Added

theorem otherRoutes_append (value : String) (first second : List String) :
    otherRoutes value (first ++ second) = otherRoutes value first ++ otherRoutes value second :=
  List.filter_append ..

section Edit

variable {files : Files} {config : AppConfig} {value item : String} {lines : List String}
  (accepted : normalizeRoute value = some item)

include accepted

theorem sameNetwork : ipNetwork item = ipNetwork value := by
  obtain ⟨network, ofValue, ofItem⟩ := normalizeRoute_network accepted
  rw [ofValue, ofItem]

theorem requireRoute_ok : requireRoute value = .ok item := by rw [requireRoute, accepted]

theorem otherRoutes_filter (entries : List String) :
    otherRoutes value (entries.filter (· ≠ item)) = otherRoutes value entries := by
  rw [otherRoutes, List.filter_filter, otherRoutes]
  refine List.filter_congr fun entry _ => ?_
  rw [Bool.and_eq_left_iff_imp]
  intro other
  refine decide_eq_true ?_
  rintro rfl
  exact of_decide_eq_true other (sameNetwork accepted)

theorem deleteRoute_ok (read : files.readLines config.routing.split.routesFile = .ok lines) :
    ∃ deleted, deleteRoute files config value = .ok deleted ∧
      runtimeRoutes deleted config = .ok ((uniqueLines lines).filter (· ≠ item)) := by
  have whole : ∀ line ∈ lines.filter (fun line => strip line ≠ item), ∀ c ∈ line.toList, isLineBreak c = false :=
    fun line member => Files.readLines_whole read line (List.mem_of_mem_filter member)
  refine ⟨files.writeUniqueLines config.routing.split.routesFile (lines.filter fun line => strip line ≠ item), ?_, ?_⟩
  · simp only [deleteRoute, requireRoute_ok accepted, Files.deleteLine, read, bind, Except.bind]
    rfl
  · simp only [runtimeRoutes, files.readLines_writeUniqueLines _ whole, bind, Except.bind, uniqueLines_filter]
    rw [← uniqueLines_filter, uniqueLines_uniqueLines, uniqueLines_filter]
    rfl

theorem filter_item_iff {entries : List String} :
    entries.filter (· ≠ item) = otherRoutes value entries ↔
      ∀ entry ∈ entries, ipNetwork entry = ipNetwork value → entry = item := by
  constructor
  · intro same entry member denotes
    by_contra other
    have kept : entry ∈ entries.filter (· ≠ item) := List.mem_filter.mpr ⟨member, decide_eq_true other⟩
    rw [same] at kept
    exact of_decide_eq_true (List.mem_filter.mp kept).2 denotes
  · intro own
    refine List.filter_congr fun entry member => ?_
    rw [decide_eq_decide, not_iff_not]
    constructor
    · rintro rfl
      exact sameNetwork accepted
    · exact own entry member

theorem addRoute_ok (read : files.readLines config.routing.split.routesFile = .ok lines) :
    ∃ added addedLines, addRoute files config value = .ok added ∧
      added.readLines config.routing.split.routesFile = .ok addedLines ∧
        uniqueLines addedLines = uniqueLines lines ++ (writtenEntries item).filter (· ∉ uniqueLines lines) := by
  have whole := Files.readLines_whole read
  by_cases known : item ∈ lines.map strip
  · refine ⟨files, lines, ?_, read, ?_⟩
    · simp only [addRoute, requireRoute_ok accepted, Files.addLine, read, bind, Except.bind, if_pos known]
      rfl
    · obtain ⟨line, inLines, rfl⟩ := List.mem_map.mp known
      have seen : ¬IsEntry (strip (strip line)) ∨ strip (strip line) ∈ uniqueLines lines := by
        rw [strip_strip]
        exact (em (IsEntry (strip line))).symm.imp id fun entry => mem_uniqueLines.mpr ⟨entry, line, inLines, rfl⟩
      rw [writtenEntries_known whole seen, List.append_nil]
  · refine ⟨files.writeUniqueLines config.routing.split.routesFile (lines ++ [item]),
      splitLines (uniqueLinesText (lines ++ [item])), ?_, ?_, added_entries whole⟩
    · simp only [addRoute, requireRoute_ok accepted, Files.addLine, read, bind, Except.bind, if_neg known]
      rfl
    · simp only [Files.readLines, Files.writeUniqueLines, Function.update_self]

/-- Deleting a route respects networks when its network is spelled in one way only. -/
theorem respectsNetworks_iff (read : files.readLines config.routing.split.routesFile = .ok lines) :
    RespectsNetworks files config value (uniqueLines lines) ↔
      (∀ entry ∈ uniqueLines lines, ipNetwork entry = ipNetwork value → entry = item) ∧
        ∀ entry ∈ writtenEntries item, ipNetwork entry = ipNetwork value ∨ entry ∈ uniqueLines lines := by
  obtain ⟨deleted, deletes, left⟩ := deleteRoute_ok accepted read
  obtain ⟨added, addedLines, adds, addedRead, addedEntries⟩ := addRoute_ok accepted read
  obtain ⟨undone, deletesAdded, leftAdded⟩ := deleteRoute_ok accepted addedRead
  rw [addedEntries] at leftAdded
  have first : (∃ deleted, deleteRoute files config value = .ok deleted ∧
      runtimeRoutes deleted config = .ok (otherRoutes value (uniqueLines lines))) ↔
        (uniqueLines lines).filter (· ≠ item) = otherRoutes value (uniqueLines lines) := by
    rw [deletes]
    constructor
    · rintro ⟨other, same, entries⟩
      obtain rfl := Except.ok.inj same
      exact Except.ok.inj (left.symm.trans entries)
    · intro same
      exact ⟨deleted, rfl, same ▸ left⟩
  have second : (∃ added deleted left, addRoute files config value = .ok added ∧
      deleteRoute added config value = .ok deleted ∧ runtimeRoutes deleted config = .ok left ∧
        otherRoutes value left = otherRoutes value (uniqueLines lines)) ↔
      otherRoutes value ((writtenEntries item).filter (· ∉ uniqueLines lines)) = [] := by
    have others := otherRoutes_filter accepted
      (uniqueLines lines ++ (writtenEntries item).filter (· ∉ uniqueLines lines))
    rw [otherRoutes_append] at others
    constructor
    · rintro ⟨other, undoneOther, entries, addsOther, deletesOther, leftOther, same⟩
      obtain rfl := Except.ok.inj (adds.symm.trans addsOther)
      obtain rfl := Except.ok.inj (deletesAdded.symm.trans deletesOther)
      obtain rfl := Except.ok.inj (leftAdded.symm.trans leftOther)
      rw [others] at same
      exact List.append_right_eq_self.mp same
    · intro nothing
      refine ⟨added, undone, _, adds, deletesAdded, leftAdded, ?_⟩
      rw [others]
      exact List.append_right_eq_self.mpr nothing
  have nothing : otherRoutes value ((writtenEntries item).filter (· ∉ uniqueLines lines)) = [] ↔
      ∀ entry ∈ writtenEntries item, ipNetwork entry = ipNetwork value ∨ entry ∈ uniqueLines lines := by
    rw [otherRoutes, List.filter_eq_nil_iff]
    simp only [List.mem_filter, decide_eq_true_eq]
    constructor
    · intro none entry member
      by_contra foreign
      rw [not_or] at foreign
      exact none entry ⟨member, foreign.2⟩ foreign.1
    · rintro plain entry ⟨member, unseen⟩ foreign
      exact (plain entry member).elim foreign unseen
  rw [← filter_item_iff accepted, ← first, ← nothing, ← second]
  exact ⟨fun respects => ⟨respects.deletes, respects.undoes⟩, fun both => ⟨both.1, both.2⟩⟩

end Edit

def routesFile (content : String) : Files where
  text := fun path => if path = ({} : AppConfig).routing.split.routesFile then .text content else .missing

theorem respectsNetworks_iff_sample : RespectsNetworks (routesFile "10.0.0.1\n10.20.0.0/16\n") {} "10.20.3.4/16"
    ["10.0.0.1", "10.20.0.0/16"] := by
  have accepted : normalizeRoute "10.20.3.4/16" = some "10.20.0.0/16" := by decide +kernel
  have read : (routesFile "10.0.0.1\n10.20.0.0/16\n").readLines ({} : AppConfig).routing.split.routesFile =
      .ok ["10.0.0.1", "10.20.0.0/16"] := by decide +kernel
  have entries : uniqueLines ["10.0.0.1", "10.20.0.0/16"] = ["10.0.0.1", "10.20.0.0/16"] := by decide +kernel
  have respects := respectsNetworks_iff accepted read
  rw [entries] at respects
  refine respects.mpr ⟨?_, ?_⟩
  · decide +kernel
  · decide +kernel

/-- The address of a host and its network are two texts. -/
theorem hostRoute_stays : ∃ deleted, deleteRoute (routesFile "10.0.0.1\n") {} "10.0.0.1/32" = .ok deleted ∧
    runtimeRoutes deleted {} = .ok ["10.0.0.1"] ∧ ipNetwork "10.0.0.1" = ipNetwork "10.0.0.1/32" ∧
      ¬RespectsNetworks (routesFile "10.0.0.1\n") {} "10.0.0.1/32" ["10.0.0.1"] := by
  have accepted : normalizeRoute "10.0.0.1/32" = some "10.0.0.1/32" := by decide +kernel
  have read : (routesFile "10.0.0.1\n").readLines ({} : AppConfig).routing.split.routesFile = .ok ["10.0.0.1"] := by
    decide +kernel
  have kept : (uniqueLines ["10.0.0.1"]).filter (· ≠ "10.0.0.1/32") = ["10.0.0.1"] := by decide +kernel
  have same : ipNetwork "10.0.0.1" = ipNetwork "10.0.0.1/32" := by decide +kernel
  obtain ⟨deleted, deletes, left⟩ := deleteRoute_ok accepted read
  rw [kept] at left
  refine ⟨deleted, deletes, left, same, fun respects => ?_⟩
  obtain ⟨other, deletesOther, leftOther⟩ := respects.deletes
  obtain rfl := Except.ok.inj (deletes.symm.trans deletesOther)
  have gone := Except.ok.inj (left.symm.trans leftOther)
  rw [otherRoutes, List.filter_cons_of_neg (by simpa using same), List.filter_nil] at gone
  nomatch gone

end Korserver
