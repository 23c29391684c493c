import Korserver.LogStampsCore
import Korserver.Runs

/-!
The stamps of a log that only grows: when a line keeps the time of the first poll that could see it.
-/

namespace Korserver

open PythonText Runs

def lineEnd (entries : List (List Char)) (index : Nat) : Nat :=
  ((entries.take (index + 1)).map utf8Length).sum

/-- Nothing that is appended changes the line. -/
def CompleteAt (content : List UInt8) (index : Nat) : Prop :=
  index < (logEntries content).length ∧
    ∀ more, (logEntries (content ++ more)).take (index + 1) = (logEntries content).take (index + 1)

def LogView.start (view : LogView) : Nat := (logEntries view.poll.content).length - view.poll.lines

def LogView.lineAt (view : LogView) (index : Nat) : Option StampedLine :=
  if view.start ≤ index then view.shown[index - view.start]? else none

/-- A poll finds the file of the polls before it, with more at its end, and at no earlier time. -/
def LogGrows (log : LogTail) (poll : LogPoll) : Prop :=
  ∀ view ∈ log.views, view.poll.content <+: poll.content ∧ view.poll.now ≤ poll.now

def StampsStable (log : LogTail) : Prop :=
  log.views.Pairwise fun earlier later => ∀ index, CompleteAt earlier.poll.content index →
    ∀ first ∈ earlier.lineAt index, ∀ second ∈ later.lineAt index, first.stamp = second.stamp

def StampsOrdered (log : LogTail) : Prop :=
  ∀ view ∈ log.views, ∀ i j, i ≤ j → ∀ first ∈ view.lineAt i, ∀ second ∈ view.lineAt j,
    ∀ a ∈ first.stamp, ∀ b ∈ second.stamp, a ≤ b

/-- A complete line that is shown with a stamp ends inside of the file, which is so where what comes
before is UTF-8, and of the polls that covered it no marker is gone, which is so below 200 sizes. -/
def StampsCovered (log : LogTail) (poll : LogPoll) : Prop :=
  let entries := logEntries poll.content
  ∀ index, entries.length - poll.lines ≤ index → CompleteAt poll.content index →
    (entries[index]?.any fun entry => needsStamp (bareLine entry)) = true →
      lineEnd entries index ≤ poll.content.length ∧
        ∀ view ∈ log.views, lineEnd entries index ≤ view.poll.content.length →
          view.poll.content.length ∈
            (recordMarker poll.content.length poll.now log.markers).map Prod.fst

section Lines

variable {content later : List UInt8} {entries : List (List Char)} {index : Nat}

theorem withOffsets_getElem (passed : Nat) (entries : List (List Char)) (index : Nat) :
    (withOffsets passed entries)[index]? =
      entries[index]?.map fun entry => (passed + lineEnd entries index, entry) := by
  induction entries generalizing passed index with
  | nil => rfl
  | cons entry rest ih =>
      cases index with
      | zero => simp [withOffsets, lineEnd]
      | succ index =>
          rw [withOffsets, List.getElem?_cons_succ, List.getElem?_cons_succ, ih]
          simp only [lineEnd, List.take_succ_cons, List.map_cons, List.sum_cons, Nat.add_assoc]

theorem lineEnd_mono {i j : Nat} (below : i ≤ j) : lineEnd entries i ≤ lineEnd entries j := by
  have front : entries.take (i + 1) <+: entries.take (j + 1) :=
    List.take_prefix_take_left (by omega)
  obtain ⟨middle, same⟩ := front
  rw [lineEnd, lineEnd, ← same, List.map_append, List.sum_append]
  exact Nat.le_add_right _ _

theorem lineAt_shown {poll : LogPoll} {markers : List LogMarker} {line : StampedLine}
    (shown : line ∈ LogView.lineAt
      { poll, shown := stampLines (logEntries poll.content) poll.lines markers } index) :
    (logEntries poll.content).length - poll.lines ≤ index ∧
      ∃ entry, (logEntries poll.content)[index]? = some entry ∧
        line = stampLine markers (lineEnd (logEntries poll.content) index, entry) := by
  rw [Option.mem_def, LogView.lineAt, Option.ite_none_right_eq_some] at shown
  obtain ⟨from_start, there⟩ := shown
  simp only [LogView.start] at from_start there
  rw [stampLines, List.getElem?_map, List.getElem?_drop, Nat.add_sub_cancel' from_start,
    withOffsets_getElem] at there
  refine ⟨from_start, ?_⟩
  cases found : (logEntries poll.content)[index]? with
  | none =>
      rw [found] at there
      nomatch there
  | some entry =>
      rw [found, Option.map_some, Option.map_some, Nat.zero_add] at there
      exact ⟨entry, rfl, (Option.some.inj there).symm⟩

theorem stampLine_stamp (markers : List LogMarker) (entry : Nat × List Char) :
    (stampLine markers entry).stamp =
      if needsStamp (bareLine entry.2) then some (stampAt markers entry.1) else none := by
  simp only [stampLine]
  split <;> rfl

theorem CompleteAt.grow (complete : CompleteAt content index) (more : content <+: later) :
    (logEntries later).take (index + 1) = (logEntries content).take (index + 1) ∧
      CompleteAt later index := by
  obtain ⟨added, rfl⟩ := more
  obtain ⟨inside, settled⟩ := complete
  have same := settled added
  refine ⟨same, ?_, fun more => ?_⟩
  · have lengths := congrArg List.length same
    rw [List.length_take, List.length_take] at lengths
    omega
  · rw [List.append_assoc, settled, settled]

theorem getElem_of_take {first second : List (List Char)}
    (same : first.take (index + 1) = second.take (index + 1)) : first[index]? = second[index]? := by
  have read := congrArg (fun entries : List (List Char) => entries[index]?) same
  simpa [List.getElem?_take_of_lt (Nat.lt_succ_self index)] using read

theorem firstByte_low {byte : Nat} {started : PartialChar} (begins : firstByte byte = some started) :
    0x80 ≤ started.low := by
  unfold firstByte at begins
  split at begins
  · cases Option.some.inj begins
    exact Nat.le_refl _
  · split at begins
    · cases Option.some.inj begins
      dsimp only
      split <;> omega
    · split at begins
      · cases Option.some.inj begins
        dsimp only
        split <;> omega
      · nomatch begins

theorem decodeFrom_newline (begun : Option PartialChar) (low : ∀ started ∈ begun, 0x80 ≤ started.low)
    (front : List UInt8) :
    ∃ chars, ∀ more, decodeFrom begun (front ++ 0x0a :: more) = chars ++ '\n' :: decodeFrom none more := by
  induction front generalizing begun with
  | nil =>
      cases begun with
      | none => exact ⟨[], fun more => rfl⟩
      | some begun =>
          refine ⟨[replacementChar], fun more => ?_⟩
          have above : ¬(begun.low ≤ (0x0a : UInt8).toNat ∧ (0x0a : UInt8).toNat ≤ begun.high) := by
            intro inside
            have := low begun rfl
            have := Nat.le_trans this inside.1
            exact absurd this (by decide)
          rw [List.nil_append, decodeFrom, if_neg above]
          rfl
  | cons byte rest ih =>
      have started (part : PartialChar) (part_low : 0x80 ≤ part.low) :=
        ih (some part) (by rintro _ ⟨⟩; exact part_low)
      have plain := ih none (by rintro _ ⟨⟩)
      obtain ⟨chars, after⟩ := plain
      cases begun with
      | none =>
          simp only [List.cons_append, decodeFrom]
          split
          · exact ⟨_ :: chars, fun more => by rw [after, List.cons_append]⟩
          · split
            · rename_i part begins
              exact started part (firstByte_low begins)
            · exact ⟨_ :: chars, fun more => by rw [after, List.cons_append]⟩
      | some begun =>
          simp only [List.cons_append, decodeFrom]
          split
          · split
            · exact ⟨_ :: chars, fun more => by rw [after, List.cons_append]⟩
            · exact started _ (Nat.le_refl _)
          · split
            · exact ⟨_ :: _ :: chars, fun more => by rw [after, List.cons_append, List.cons_append]⟩
            · split
              · rename_i part begins
                obtain ⟨chars, after⟩ := started part (firstByte_low begins)
                exact ⟨_ :: chars, fun more => by rw [after, List.cons_append]⟩
              · exact ⟨_ :: _ :: chars, fun more => by rw [after, List.cons_append, List.cons_append]⟩

theorem splitKeepEnds_newline (chars line : List Char) : ∃ entries, ∀ more,
    splitKeepEnds (chars ++ '\n' :: more) line = entries ++ splitKeepEnds more [] := by
  cases chars with
  | nil =>
      refine ⟨[('\n' :: line).reverse], fun more => ?_⟩
      rw [List.nil_append, splitKeepEnds, if_pos (by decide)]
      · rfl
      · rintro _ ⟨⟩
  | cons c rest =>
      by_cases crlf : c = '\r' ∧ rest.head?.getD '\n' = '\n'
      · obtain ⟨rfl, newline⟩ := crlf
        cases rest with
        | nil => exact ⟨[('\n' :: '\r' :: line).reverse], fun more => rfl⟩
        | cons d rest =>
            obtain rfl : d = '\n' := newline
            obtain ⟨entries, after⟩ := splitKeepEnds_newline rest []
            exact ⟨_ :: entries, fun more => by
              rw [List.cons_append, List.cons_append, splitKeepEnds, after, List.cons_append]⟩
      · have step (more : List Char) : splitKeepEnds (c :: rest ++ '\n' :: more) line =
            if isLineBreak c then (c :: line).reverse :: splitKeepEnds (rest ++ '\n' :: more) []
            else splitKeepEnds (rest ++ '\n' :: more) (c :: line) := by
          rw [List.cons_append, splitKeepEnds]
          rintro others rfl same
          refine crlf ⟨rfl, ?_⟩
          cases rest with
          | nil => rfl
          | cons d rest => exact (List.cons.inj same).1
        simp only [step]
        split
        · obtain ⟨entries, after⟩ := splitKeepEnds_newline rest []
          exact ⟨_ :: entries, fun more => by rw [after, List.cons_append]⟩
        · exact splitKeepEnds_newline rest (c :: line)

theorem complete_of_newline (front : List UInt8)
    (inside : index < (logEntries (front ++ [0x0a])).length) : CompleteAt (front ++ [0x0a]) index := by
  refine ⟨inside, fun more => ?_⟩
  obtain ⟨chars, decoded⟩ := decodeFrom_newline none (by rintro _ ⟨⟩) front
  obtain ⟨entries, split⟩ := splitKeepEnds_newline chars []
  have whole (more : List UInt8) : logEntries (front ++ 0x0a :: more) = entries ++ logEntries more := by
    rw [logEntries, decoded, split]
    rfl
  have first : logEntries (front ++ [0x0a]) = entries := by
    rw [whole, show logEntries [] = [] from rfl, List.append_nil]
  rw [first] at inside ⊢
  rw [List.append_assoc, List.singleton_append, whole,
    List.take_append_of_le_length (Nat.succ_le_of_lt inside)]

end Lines

section Markers

variable {log : LogTail} {poll : LogPoll} {markers : List LogMarker}

theorem recordMarker_cases {size : Nat} (now : Int) (grown : ∀ last ∈ markers.getLast?, last.1 ≤ size) :
    (recordMarker size now markers = markers ∧ ∃ last ∈ markers.getLast?, last.1 = size) ∨
      ((∀ last ∈ markers.getLast?, last.1 < size) ∧
        ∃ count, recordMarker size now markers = markers.drop count ++ [(size, now)]) := by
  have added : ∃ count, (if maxMarkersPerFile < (markers ++ [(size, now)]).length then
      (markers ++ [(size, now)]).drop ((markers ++ [(size, now)]).length - maxMarkersPerFile)
      else markers ++ [(size, now)]) = markers.drop count ++ [(size, now)] := by
    split
    · refine ⟨_, List.drop_append_of_le_length ?_⟩
      simp only [List.length_append, List.length_singleton, maxMarkersPerFile]
      omega
    · exact ⟨0, by rw [List.drop_zero]⟩
  unfold recordMarker
  cases ends : markers.getLast? with
  | none => exact Or.inr ⟨by rintro _ ⟨⟩, by simpa [ends] using added⟩
  | some last =>
      have below := grown last ends
      simp only [if_neg (Nat.not_lt.mpr below), ends, decide_eq_true_eq]
      by_cases same : last.1 = size
      · rw [if_neg (by omega)]
        exact Or.inl ⟨rfl, last, rfl, same⟩
      · rw [if_pos (by omega)]
        exact Or.inr ⟨by rintro _ ⟨⟩; omega, added⟩

/-- Sizes and times grow along the markers, each of them is the first poll that saw its size, and the
last one covers what was seen. -/
structure Marked (log : LogTail) : Prop where
  sorted : log.markers.Pairwise fun first second => first.1 < second.1 ∧ first.2 ≤ second.2
  first : ∀ marker ∈ log.markers, ∃ view,
    log.views.find? (fun view => marker.1 ≤ view.poll.content.length) = some view ∧
      view.poll.content.length = marker.1 ∧ view.poll.now = marker.2
  seen : ∀ view ∈ log.views, ∃ marker ∈ log.markers, view.poll.content.length ≤ marker.1

theorem Marked.below (marked : Marked log) (grows : LogGrows log poll) :
    ∀ marker ∈ log.markers, marker.1 ≤ poll.content.length ∧ marker.2 ≤ poll.now := by
  intro marker member
  obtain ⟨view, found, size, time⟩ := marked.first marker member
  obtain ⟨grown, later⟩ := grows view (List.mem_of_find?_eq_some found)
  exact ⟨size ▸ grown.length_le, time ▸ later⟩

theorem Marked.recorded (marked : Marked log) (grows : LogGrows log poll) :
    (recordMarker poll.content.length poll.now log.markers = log.markers ∧
        ∃ marker ∈ log.markers, marker.1 = poll.content.length) ∨
      ((∀ marker ∈ log.markers, marker.1 < poll.content.length) ∧
        ∃ count, recordMarker poll.content.length poll.now log.markers =
          log.markers.drop count ++ [(poll.content.length, poll.now)]) := by
  have last_mem : ∀ last ∈ log.markers.getLast?, last ∈ log.markers :=
    fun last ends => List.mem_of_getLast? ends
  rcases recordMarker_cases poll.now fun last ends => (marked.below grows last (last_mem last ends)).1
    with ⟨same, last, ends, size⟩ | ⟨above, added⟩
  · exact Or.inl ⟨same, last, last_mem last ends, size⟩
  · refine Or.inr ⟨fun marker member => ?_, added⟩
    obtain ⟨front, last, split⟩ := List.eq_nil_or_concat' log.markers |>.resolve_left
      (List.ne_nil_of_mem member)
    have last_above := above last (by rw [split, List.getLast?_concat]; rfl)
    have sorted := marked.sorted
    rw [split, List.pairwise_append] at sorted
    rw [split] at member
    rcases List.mem_append.mp member with earlier | same
    · exact Nat.lt_trans (sorted.2.2 marker earlier last (List.mem_singleton_self _)).1 last_above
    · rw [List.mem_singleton.mp same]
      exact last_above

theorem Marked.own (marked : Marked log) (grows : LogGrows log poll) :
    ∃ marker ∈ (log.step poll).markers, marker.1 = poll.content.length := by
  rcases marked.recorded grows with ⟨same, there⟩ | ⟨_, count, added⟩
  · simp only [LogTail.step, same]
    exact there
  · simp only [LogTail.step, added]
    exact ⟨_, List.mem_append_right _ (List.mem_singleton_self _), rfl⟩

theorem marked_step (marked : Marked log) (grows : LogGrows log poll) : Marked (log.step poll) := by
  have own := marked.own grows
  have kept (size : Nat) (view : LogView)
      (found : log.views.find? (fun view => size ≤ view.poll.content.length) = some view) :
      (log.step poll).views.find? (fun view => size ≤ view.poll.content.length) = some view := by
    rw [LogTail.step, List.find?_append, found, Option.some_or]
  have seen : ∀ view ∈ (log.step poll).views,
      ∃ marker ∈ (log.step poll).markers, view.poll.content.length ≤ marker.1 := by
    obtain ⟨marker, member, size⟩ := own
    intro view viewed
    refine ⟨marker, member, size ▸ ?_⟩
    rcases List.mem_append.mp viewed with earlier | last
    · exact (grows view earlier).1.length_le
    · rw [List.mem_singleton.mp last]
  rcases marked.recorded grows with ⟨same, -⟩ | ⟨above, count, added⟩
  · have markers : (log.step poll).markers = log.markers := same
    refine ⟨markers ▸ marked.sorted, fun marker member => ?_, seen⟩
    obtain ⟨view, found, facts⟩ := marked.first marker (markers ▸ member)
    exact ⟨view, kept _ view found, facts⟩
  · have markers : (log.step poll).markers = log.markers.drop count ++ [(poll.content.length, poll.now)] :=
      added
    refine ⟨?_, fun marker member => ?_, seen⟩
    · rw [markers, List.pairwise_append]
      refine ⟨marked.sorted.sublist (List.drop_sublist ..), List.pairwise_singleton .., ?_⟩
      intro marker member other last
      rw [List.mem_singleton.mp last]
      have old := List.mem_of_mem_drop member
      exact ⟨above marker old, (marked.below grows marker old).2⟩
    · rw [markers] at member
      rcases List.mem_append.mp member with old | new
      · obtain ⟨view, found, facts⟩ := marked.first marker (List.mem_of_mem_drop old)
        exact ⟨view, kept _ view found, facts⟩
      · rw [List.mem_singleton.mp new]
        refine ⟨{ poll, shown := stampLines (logEntries poll.content) poll.lines (log.step poll).markers },
          ?_, rfl, rfl⟩
        rw [LogTail.step, List.find?_append, List.find?_eq_none.mpr ?_, Option.none_or, List.find?_cons,
          decide_eq_true (Nat.le_refl _)]
        intro view viewed
        obtain ⟨marker, member, covers⟩ := marked.seen view viewed
        have := above marker member
        simp only [decide_eq_true_eq]
        omega

theorem stampAt_first (marked : Marked log) {offset : Nat} {view : LogView}
    (first : log.views.find? (fun view => offset ≤ view.poll.content.length) = some view)
    (kept : view.poll.content.length ∈ log.markers.map Prod.fst) :
    stampAt log.markers offset = view.poll.now := by
  obtain ⟨covering, views, later, split, earlier⟩ := List.find?_eq_some_iff_append.mp first
  simp only [decide_eq_true_eq, Bool.not_eq_true', decide_eq_false_iff_not] at covering earlier
  obtain ⟨marker, member, size⟩ := List.mem_map.mp kept
  have some_marker : (log.markers.find? fun marker => decide (offset ≤ marker.1)).isSome = true :=
    List.find?_isSome.mpr ⟨marker, member, by simpa [size] using covering⟩
  obtain ⟨found, finds⟩ := Option.isSome_iff_exists.mp some_marker
  have found_mem := List.mem_of_find?_eq_some finds
  obtain ⟨covers, front, back, markers, below⟩ := List.find?_eq_some_iff_append.mp finds
  simp only [decide_eq_true_eq, Bool.not_eq_true', decide_eq_false_iff_not] at covers below
  -- the markers are sorted, so the one that is found is not beyond the view's
  have least : found.1 ≤ view.poll.content.length := by
    rw [← size]
    rw [markers] at member
    rcases List.mem_append.mp member with before | rest
    · have := below marker before
      omega
    · rcases List.mem_cons.mp rest with same | after
      · rw [same]
      · have sorted := marked.sorted
        rw [markers, List.pairwise_append] at sorted
        exact Nat.le_of_lt ((List.pairwise_cons.mp sorted.2.1).1 marker after).1
  obtain ⟨witness, at_size, -, time⟩ := marked.first found found_mem
  have same_view : log.views.find? (fun view => found.1 ≤ view.poll.content.length) = some view := by
    refine List.find?_eq_some_iff_append.mpr ⟨by simpa using least, views, later, split, ?_⟩
    intro other before
    have := earlier other before
    simp only [Bool.not_eq_true', decide_eq_false_iff_not]
    omega
  rw [stampAt, finds]
  cases Option.some.inj (at_size.symm.trans same_view)
  exact time.symm

theorem stampAt_mem (some_marker : markers ≠ []) (offset : Nat) :
    ∃ marker ∈ markers, stampAt markers offset = marker.2 := by
  unfold stampAt
  split
  · rename_i marker found
    exact ⟨marker, List.mem_of_find?_eq_some found, rfl⟩
  · refine ⟨markers.getLast some_marker, List.getLast_mem some_marker, ?_⟩
    rw [List.getLast?_eq_getLast_of_ne_nil some_marker]
    rfl

theorem stampAt_mono (times : markers.Pairwise fun first second => first.2 ≤ second.2) {a b : Nat}
    (below : a ≤ b) : stampAt markers a ≤ stampAt markers b := by
  induction markers with
  | nil => exact Int.le_refl _
  | cons marker rest ih =>
      obtain ⟨first, others⟩ := List.pairwise_cons.mp times
      by_cases covers : a ≤ marker.1
      · have stamp : stampAt (marker :: rest) a = marker.2 := by
          rw [stampAt, List.find?_cons_of_pos (by simpa using covers)]
        obtain ⟨other, member, later⟩ := @stampAt_mem (marker :: rest) (by simp) b
        rw [stamp, later]
        rcases List.mem_cons.mp member with same | after
        · exact same ▸ Int.le_refl _
        · exact first other after
      · have skip (offset : Nat) (above : a ≤ offset) : stampAt (marker :: rest) offset =
            if rest = [] then marker.2 else stampAt rest offset := by
          rw [stampAt, List.find?_cons_of_neg (by simpa using by omega)]
          cases rest with
          | nil => rfl
          | cons next rest => rw [if_neg (by simp), stampAt, List.getLast?_cons_cons]
        rw [skip a (Nat.le_refl a), skip b below]
        split
        · exact Int.le_refl _
        · exact ih others

end Markers

section Runs

variable {log : LogTail} {poll : LogPoll}

def NeedsStamp (entries : List (List Char)) (index : Nat) : Prop :=
  (entries[index]?.any fun entry => needsStamp (bareLine entry)) = true

/-- A stamp that is the time of the first poll that covered the line, if the line needs one. -/
structure DueStamp (views : List LogView) (entries : List (List Char)) (index : Nat) (stamp : Option Int) :
    Prop where
  needed : NeedsStamp entries index → ∃ first,
    views.find? (fun view => lineEnd entries index ≤ view.poll.content.length) = some first ∧
      stamp = some first.poll.now
  own : ¬NeedsStamp entries index → stamp = none

theorem DueStamp.later {views : List LogView} {entries : List (List Char)} {index : Nat} {stamp : Option Int}
    (due : DueStamp views entries index stamp) (more : List LogView) :
    DueStamp (views ++ more) entries index stamp := by
  refine ⟨fun needs => ?_, due.own⟩
  obtain ⟨first, found, same⟩ := due.needed needs
  exact ⟨first, by rw [List.find?_append, found, Option.some_or], same⟩

theorem DueStamp.unique {views : List LogView} {entries later : List (List Char)} {index : Nat}
    {stamp other : Option Int} (same : later.take (index + 1) = entries.take (index + 1))
    (due : DueStamp views entries index stamp) (due' : DueStamp views later index other) : stamp = other := by
  have needs : NeedsStamp later index ↔ NeedsStamp entries index := by
    rw [NeedsStamp, NeedsStamp, getElem_of_take same]
  by_cases stamped : NeedsStamp entries index
  · obtain ⟨first, found, stamp_is⟩ := due.needed stamped
    obtain ⟨second, found', other_is⟩ := due'.needed (needs.mpr stamped)
    rw [lineEnd, same, ← lineEnd, found] at found'
    rw [stamp_is, other_is, Option.some.inj found']
  · rw [due.own stamped, due'.own fun later => stamped (needs.mp later)]

/-- The file has only grown, and every complete line has the stamp that is due. -/
structure Dated (log : LogTail) : Prop extends Marked log where
  grown : log.views.Pairwise fun earlier later => earlier.poll.content <+: later.poll.content
  due : ∀ view ∈ log.views, ∀ index, CompleteAt view.poll.content index → ∀ line ∈ view.lineAt index,
    DueStamp log.views (logEntries view.poll.content) index line.stamp

theorem due_step (marked : Marked log) (grows : LogGrows log poll) (covered : StampsCovered log poll)
    {index : Nat} (complete : CompleteAt poll.content index) {line : StampedLine}
    (shown : line ∈ LogView.lineAt
      { poll, shown := stampLines (logEntries poll.content) poll.lines (log.step poll).markers } index) :
    DueStamp (log.step poll).views (logEntries poll.content) index line.stamp := by
  obtain ⟨from_start, entry, there, rfl⟩ := lineAt_shown shown
  rw [stampLine_stamp]
  have needs : NeedsStamp (logEntries poll.content) index ↔ needsStamp (bareLine entry) = true := by
    rw [NeedsStamp, there, Option.any_some]
  refine ⟨fun stamped => ?_, fun own => if_neg fun stamped => own (needs.mpr stamped)⟩
  obtain ⟨inside, kept⟩ := covered index from_start complete stamped
  have covering : ((log.step poll).views.find? fun view =>
      decide (lineEnd (logEntries poll.content) index ≤ view.poll.content.length)).isSome = true :=
    List.find?_isSome.mpr ⟨{ poll, shown := _ }, List.mem_append_right _ (List.mem_singleton_self _),
      by simpa using inside⟩
  obtain ⟨first, found⟩ := Option.isSome_iff_exists.mp covering
  refine ⟨first, found, ?_⟩
  rw [if_pos (needs.mp stamped), stampAt_first (marked_step marked grows) found ?_]
  rcases List.mem_append.mp (List.mem_of_find?_eq_some found) with earlier | own
  · exact kept first earlier (by simpa using List.find?_some found)
  · rw [List.mem_singleton.mp own]
    obtain ⟨marker, member, size⟩ := marked.own grows
    exact List.mem_map.mpr ⟨marker, member, size⟩

theorem dated_step (dated : Dated log) (grows : LogGrows log poll) (covered : StampsCovered log poll) :
    Dated (log.step poll) := by
  refine ⟨marked_step dated.toMarked grows, ?_, fun view viewed index complete line shown => ?_⟩
  · refine List.pairwise_append.mpr ⟨dated.grown, List.pairwise_singleton .., fun view viewed other last => ?_⟩
    rw [List.mem_singleton.mp last]
    exact (grows view viewed).1
  · rcases List.mem_append.mp viewed with earlier | last
    · exact (dated.due view earlier index complete line shown).later _
    · obtain rfl := List.mem_singleton.mp last
      exact due_step dated.toMarked grows covered complete shown

theorem Dated.stable (dated : Dated log) : StampsStable log := by
  refine dated.grown.imp_of_mem ?_
  intro earlier later viewed viewed' more index complete first shown second shown'
  obtain ⟨same, complete'⟩ := complete.grow more
  exact DueStamp.unique same (dated.due earlier viewed index complete first shown)
    (dated.due later viewed' index complete' second shown')

theorem ordered_step (marked : Marked log) (grows : LogGrows log poll) (ordered : StampsOrdered log) :
    StampsOrdered (log.step poll) := by
  intro view viewed i j below first shown second shown' a stamped b stamped'
  rcases List.mem_append.mp viewed with earlier | last
  · exact ordered view earlier i j below first shown second shown' a stamped b stamped'
  · obtain rfl := List.mem_singleton.mp last
    obtain ⟨-, entry, -, rfl⟩ := lineAt_shown shown
    obtain ⟨-, entry', -, rfl⟩ := lineAt_shown shown'
    rw [stampLine_stamp, Option.mem_def, Option.ite_none_right_eq_some] at stamped stamped'
    rw [← Option.some.inj stamped.2, ← Option.some.inj stamped'.2]
    exact stampAt_mono ((marked_step marked grows).sorted.imp And.right) (lineEnd_mono below)

end Runs

/-- Stamps are always in order, and a line keeps its stamp while its marker is kept and the file up to
it is as long as its text. -/
theorem stamps_settled (polls : List LogPoll) (grows : Throughout LogTail.step LogGrows {} polls) :
    StampsOrdered (run LogTail.step {} polls) ∧
      (Throughout LogTail.step StampsCovered {} polls → StampsStable (run LogTail.step {} polls)) := by
  have fresh : Marked {} := ⟨List.Pairwise.nil, by rintro _ ⟨⟩, by rintro _ ⟨⟩⟩
  have marked_ordered := run_throughout (fun (log : LogTail) poll (known : Marked log ∧ StampsOrdered log)
    (grows : LogGrows log poll) => ⟨marked_step known.1 grows, ordered_step known.1 grows known.2⟩)
    ⟨fresh, by rintro _ ⟨⟩⟩ grows
  refine ⟨marked_ordered.2, fun covered => Dated.stable ?_⟩
  exact run_throughout (fun log poll (dated : Dated log) (each : LogGrows log poll ∧ StampsCovered log poll) =>
    dated_step dated each.1 each.2) ⟨fresh, List.Pairwise.nil, by rintro _ ⟨⟩⟩ (grows.and covered)

/-- The file before and after a line `x` is appended. -/
def growingPolls (content : List UInt8) : List LogPoll :=
  [{ content, lines := 100, now := 1 }, { content := content ++ [0x78, 0x0a], lines := 100, now := 2 }]

theorem growingPolls_grow (content : List UInt8) :
    Throughout LogTail.step LogGrows {} (growingPolls content) := by
  refine ⟨by rintro _ ⟨⟩, ?_, trivial⟩
  rintro view member
  obtain rfl := List.mem_singleton.mp member
  exact ⟨List.prefix_append .., show (1 : Int) ≤ 2 by decide⟩

theorem stamps_settled_sample : StampsStable (run LogTail.step {} (growingPolls [0x61, 0x0a])) := by
  refine (stamps_settled _ (growingPolls_grow _)).2 ⟨?_, ?_, trivial⟩
  · rintro (_ | index) - - needs
    · exact ⟨by decide, by rintro _ ⟨⟩⟩
    · nomatch needs
  · rintro (_ | _ | index) - - needs
    · exact ⟨by decide, by decide⟩
    · exact ⟨by decide, by decide⟩
    · nomatch needs

/-- A byte that is no UTF-8 counts as three of the file's, which the next poll can cover. -/
theorem invalidByte_restamped : ¬∀ polls, Throughout LogTail.step LogGrows {} polls →
    StampsOrdered (run LogTail.step {} polls) ∧ StampsStable (run LogTail.step {} polls) := by
  intro settled
  have stable := (settled _ (growingPolls_grow [0xff, 0x0a])).2
  have same := (List.pairwise_cons.mp stable).1 _ (List.mem_singleton_self _) 0
    (complete_of_newline [0xff] (by decide)) { stamp := some 1, line := [replacementChar] } (by decide)
    { stamp := some 2, line := [replacementChar] } (by decide)
  nomatch same

end Korserver
