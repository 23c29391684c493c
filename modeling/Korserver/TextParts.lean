import Korserver.IpAddressCore
import Mathlib.Data.List.DropRight
import Mathlib.Data.List.TakeWhile

/-!
Which characters the parts of a text have: stripping, lowering and cutting a text bring in no
character that was not there, and the words of a text hold no whitespace.
-/

namespace PythonText

/-- `\d` of a regular expression. -/
def isDecimal (c : Char) : Bool := IpAddress.isAsciiDigit (asciiDecimal c)

theorem visible_of_range {c : Char} (low : 33 ≤ c.toNat) (high : c.toNat ≤ 126) :
    isSpace c = false ∧ isLineBreak c = false := by
  constructor
  · simp only [isSpace, Bool.or_eq_false_iff, Bool.and_eq_false_iff, decide_eq_false_iff_not,
      beq_eq_false_iff_ne]
    omega
  · simp only [isLineBreak, Bool.or_eq_false_iff, Bool.and_eq_false_iff, decide_eq_false_iff_not,
      beq_eq_false_iff_ne]
    omega

theorem isSpace_of_isLineBreak {c : Char} (breaks : isLineBreak c = true) : isSpace c = true := by
  simp only [isLineBreak, Bool.or_eq_true, Bool.and_eq_true, decide_eq_true_eq, beq_iff_eq] at breaks
  simp only [isSpace, Bool.or_eq_true, Bool.and_eq_true, decide_eq_true_eq, beq_iff_eq]
  omega

theorem not_isLineBreak {c : Char} (visible : isSpace c = false) : isLineBreak c = false := by
  cases breaks : isLineBreak c with
  | false => rfl
  | true => rw [isSpace_of_isLineBreak breaks] at visible; nomatch visible

theorem mem_dropEndWhile {p : Char → Bool} {c : Char} {chars : List Char}
    (member : c ∈ dropEndWhile p chars) : c ∈ chars := by
  have kept := List.dropWhile_subset p (List.mem_reverse.mp member)
  exact List.mem_reverse.mp kept

theorem mem_stripChars {p : Char → Bool} {c : Char} {chars : List Char}
    (member : c ∈ stripChars p chars) : c ∈ chars :=
  List.dropWhile_subset p (mem_dropEndWhile member)

theorem stripChars_keeps {p : Char → Bool} {c : Char} {chars : List Char} (kept : p c = false)
    (member : c ∈ chars) : c ∈ stripChars p chars := by
  have front : ∀ chars : List Char, c ∈ chars → c ∈ chars.dropWhile p := by
    intro chars member
    rw [← @List.takeWhile_append_dropWhile _ p chars, List.mem_append] at member
    exact member.resolve_left fun dropped => absurd (List.mem_takeWhile_imp dropped) (by simp [kept])
  rw [stripChars, dropEndWhile, List.mem_reverse]
  exact front _ (List.mem_reverse.mpr (front _ member))

theorem mem_strip {c : Char} {text : String} (member : c ∈ (strip text).toList) :
    c ∈ text.toList := by
  rw [strip, String.toList_ofList] at member
  exact mem_stripChars member

theorem dropEndWhile_cons {p : Char → Bool} {c : Char} (kept : p c = false) (rest : List Char) :
    dropEndWhile p (c :: rest) = c :: dropEndWhile p rest := by
  rw [dropEndWhile, dropEndWhile, List.reverse_cons]
  by_cases blank : ∀ d ∈ rest.reverse, p d = true
  · rw [List.dropWhile_append_of_pos blank, List.dropWhile_eq_nil_iff.mpr blank]
    simp [kept]
  · have stops : rest.reverse.dropWhile p ≠ [] := fun none => blank (List.dropWhile_eq_nil_iff.mp none)
    rw [List.dropWhile_append, if_neg (by simpa using stops), List.reverse_append, List.reverse_singleton,
      List.singleton_append]

example : dropEndWhile isSpace ['a', ' ', 'b', ' '] = ['a', ' ', 'b'] := by decide +kernel

theorem dropEndWhile_concat {p : Char → Bool} {last : Char} (kept : p last = false) (front : List Char) :
    dropEndWhile p (front ++ [last]) = front ++ [last] := by
  rw [dropEndWhile, List.reverse_concat, List.dropWhile_cons_of_neg (by simp [kept])]
  simp

theorem stripChars_start {p : Char → Bool} {blank : List Char} (blanks : ∀ c ∈ blank, p c = true) {first : Char}
    (visible : p first = false) (rest : List Char) :
    stripChars p (blank ++ first :: rest) = first :: dropEndWhile p rest := by
  rw [stripChars, List.dropWhile_append_of_pos blanks, List.dropWhile_cons_of_neg (by simp [visible]),
    dropEndWhile_cons visible]

theorem stripChars_getLast {p : Char → Bool} {chars : List Char} {last : Char}
    (found : (stripChars p chars).getLast? = some last) : p last = false := by
  rw [stripChars, dropEndWhile, List.getLast?_reverse] at found
  have stops := List.head?_dropWhile_not p (chars.dropWhile p).reverse
  rwa [found] at stops

theorem stripChars_edges {p : Char → Bool} {chars : List Char} (first : ∀ c ∈ chars.head?, p c = false)
    (last : ∀ c ∈ chars.getLast?, p c = false) : stripChars p chars = chars := by
  have kept {items : List Char} (start : ∀ c ∈ items.head?, p c = false) : items.dropWhile p = items := by
    cases items with
    | nil => rfl
    | cons c rest => exact List.dropWhile_cons_of_neg (by simp [start c rfl])
  rw [stripChars, dropEndWhile, kept first, kept (by simpa using last), List.reverse_reverse]

theorem dropEndWhile_append_cons {p : Char → Bool} {c : Char} (kept : p c = false) (front rest : List Char) :
    dropEndWhile p (front ++ c :: rest) = front ++ c :: dropEndWhile p rest := by
  by_cases blank : ∀ d ∈ rest.reverse, p d = true
  · rw [dropEndWhile, dropEndWhile, List.reverse_append, List.reverse_cons, List.append_assoc,
      List.dropWhile_append_of_pos blank, List.dropWhile_eq_nil_iff.mpr blank]
    simp [kept]
  · have stops : rest.reverse.dropWhile p ≠ [] := fun none => blank (List.dropWhile_eq_nil_iff.mp none)
    rw [dropEndWhile, dropEndWhile, List.reverse_append, List.reverse_cons, List.append_assoc,
      List.dropWhile_append, if_neg (by simpa using stops)]
    simp

theorem stripChars_cases (p : Char → Bool) (chars : List Char) :
    ((∀ c ∈ chars, p c = true) ∧ stripChars p chars = []) ∨
      ∃ blank first rest, (∀ c ∈ blank, p c = true) ∧ p first = false ∧ chars = blank ++ first :: rest ∧
        stripChars p chars = first :: dropEndWhile p rest := by
  by_cases all : ∀ c ∈ chars, p c = true
  · exact Or.inl ⟨all, by rw [stripChars, List.dropWhile_eq_nil_iff.mpr all]; rfl⟩
  · right
    have stops : chars.dropWhile p ≠ [] := fun none => all (List.dropWhile_eq_nil_iff.mp none)
    obtain ⟨first, rest, left⟩ := List.exists_cons_of_ne_nil stops
    have visible : p first = false := by simpa [left] using List.head_dropWhile_not p stops
    have blanks : ∀ c ∈ chars.takeWhile p, p c = true := fun c member => List.mem_takeWhile_imp member
    have cut : chars = chars.takeWhile p ++ first :: rest := by rw [← left, List.takeWhile_append_dropWhile]
    refine ⟨chars.takeWhile p, first, rest, blanks, visible, cut, ?_⟩
    rw [stripChars, left, dropEndWhile_cons visible]

theorem stripChars_head {p : Char → Bool} {chars : List Char} {first : Char}
    (found : (stripChars p chars).head? = some first) : p first = false := by
  rcases stripChars_cases p chars with ⟨-, none⟩ | ⟨blank, start, rest, -, visible, -, cut⟩
  · rw [none] at found
    cases found
  · rw [cut] at found
    obtain rfl := Option.some.inj found
    exact visible

theorem stripChars_stripChars (p : Char → Bool) (chars : List Char) :
    stripChars p (stripChars p chars) = stripChars p chars :=
  stripChars_edges (fun _ first => stripChars_head first) fun _ last => stripChars_getLast last

theorem strip_strip (text : String) : strip (strip text) = strip text := by
  rw [strip, strip, String.toList_ofList, stripChars_stripChars]

theorem stripChars_cons {p : Char → Bool} {c : Char} (blank : p c = true) (rest : List Char) :
    stripChars p (c :: rest) = stripChars p rest := by
  rw [stripChars, List.dropWhile_cons_of_pos blank, stripChars]

theorem stripChars_dropEndWhile (p : Char → Bool) (chars : List Char) :
    stripChars p (dropEndWhile p chars) = stripChars p chars := by
  rcases stripChars_cases p chars with ⟨blank, none⟩ | ⟨blank, first, rest, blanks, visible, rfl, cut⟩
  · have nothing : dropEndWhile p chars = [] := by
      rw [dropEndWhile, List.dropWhile_eq_nil_iff.mpr fun c member => blank c (List.mem_reverse.mp member)]
      rfl
    rw [nothing, none]
    rfl
  · rw [cut, dropEndWhile_append_cons visible, stripChars_start blanks visible]
    congr 1
    rw [dropEndWhile, dropEndWhile, List.reverse_reverse, List.dropWhile_idempotent]

theorem length_stripChars_le (p : Char → Bool) (chars : List Char) : (stripChars p chars).length ≤ chars.length := by
  rw [stripChars, dropEndWhile, List.length_reverse]
  refine (List.dropWhile_suffix _).length_le.trans ?_
  rw [List.length_reverse]
  exact (List.dropWhile_suffix _).length_le

theorem stripChars_eq_of_length {p : Char → Bool} {chars : List Char}
    (whole : chars.length ≤ (stripChars p chars).length) : stripChars p chars = chars := by
  have inside : stripChars p chars <:+: chars := by
    rw [stripChars, dropEndWhile, ← List.reverse_infix, List.reverse_reverse]
    refine (List.dropWhile_suffix _).isInfix.trans ?_
    rw [List.reverse_infix]
    exact (List.dropWhile_suffix _).isInfix
  exact inside.eq_of_length_le whole

theorem mem_stripEnd {c last : Char} {text : String} (member : c ∈ (stripEnd last text).toList) :
    c ∈ text.toList := by
  rw [stripEnd, String.toList_ofList] at member
  exact mem_dropEndWhile member

theorem mem_splitChar {separator c : Char} {text : List Char} :
    c ∈ text ↔ (c = separator ∧ separator ∈ text) ∨ ∃ part ∈ splitChar separator text, c ∈ part := by
  induction text with
  | nil => simp [splitChar]
  | cons d rest ih =>
      rw [splitChar]
      split
      · rename_i same
        subst same
        simp only [List.mem_cons, ih, true_or, and_true, exists_eq_or_imp, List.not_mem_nil, false_or]
        grind
      · rename_i other
        cases cut : splitChar separator rest with
        | nil =>
            rw [cut] at ih
            simp only [List.mem_cons, ih]
            grind
        | cons part parts =>
            rw [cut] at ih
            simp only [List.mem_cons, ih, exists_eq_or_imp]
            grind

theorem splitChar_mem {separator c : Char} {text part : List Char}
    (cut : part ∈ splitChar separator text) (member : c ∈ part) : c ∈ text :=
  mem_splitChar.mpr (Or.inr ⟨part, cut, member⟩)

theorem splitChar_single {separator : Char} {text part : List Char} (cut : part ∈ splitChar separator text) :
    separator ∉ part := by
  induction text generalizing part with
  | nil =>
      obtain rfl := List.mem_singleton.mp cut
      exact List.not_mem_nil
  | cons c rest ih =>
      rw [splitChar] at cut
      split at cut
      · rcases List.mem_cons.mp cut with rfl | later
        · exact List.not_mem_nil
        · exact ih later
      · rename_i other
        split at cut
        · obtain rfl := List.mem_singleton.mp cut
          simpa [eq_comm] using other
        · rename_i first parts split
          rcases List.mem_cons.mp cut with rfl | later
          · rw [List.mem_cons, not_or]
            exact ⟨fun same => other same.symm, ih (split ▸ List.mem_cons_self)⟩
          · exact ih (split ▸ List.mem_cons_of_mem _ later)

theorem splitChar_ne_nil (separator : Char) (text : List Char) : splitChar separator text ≠ [] := by
  cases text with
  | nil => simp [splitChar]
  | cons c rest =>
      rw [splitChar]
      split
      · simp
      · split <;> simp

theorem splitChar_append (separator : Char) (before rest : List Char) :
    splitChar separator (before ++ separator :: rest) =
      splitChar separator before ++ splitChar separator rest := by
  induction before with
  | nil => simp [splitChar]
  | cons c before ih =>
      rw [List.cons_append, splitChar, splitChar]
      by_cases same : c = separator
      · rw [if_pos same, if_pos same, ih, List.cons_append]
      · rw [if_neg same, if_neg same, ih]
        cases cut : splitChar separator before with
        | nil => exact absurd cut (splitChar_ne_nil _ _)
        | cons part parts => rfl

theorem splitChar_last {separator : Char} {line : List Char} (single : separator ∉ line) :
    splitChar separator line = [line] := by
  induction line with
  | nil => rfl
  | cons c line ih =>
      have different : c ≠ separator := fun same => single (same ▸ List.mem_cons_self)
      rw [splitChar, if_neg different, ih (List.not_mem_of_not_mem_cons single)]

theorem splitChar_line {separator : Char} {line : List Char} (single : separator ∉ line) (rest : List Char) :
    splitChar separator (line ++ separator :: rest) = line :: splitChar separator rest := by
  rw [splitChar_append, splitChar_last single, List.singleton_append]

theorem splitLinesFrom_line {line : List Char} (whole : ∀ c ∈ line, isLineBreak c = false)
    (rest before : List Char) :
    splitLinesFrom (line ++ '\n' :: rest) before =
      (before.reverse ++ line) :: splitLinesFrom rest [] := by
  induction line generalizing before with
  | nil =>
      rw [List.nil_append, List.append_nil, splitLinesFrom]
      · rw [if_pos (by decide)]
      · intro tail other
        exact absurd other (by decide)
  | cons c line ih =>
      have first : isLineBreak c = false := whole c (by simp)
      rw [List.cons_append, splitLinesFrom]
      · rw [if_neg (by simp [first]), ih fun other member => whole other (List.mem_cons_of_mem _ member)]
        simp
      · rintro tail rfl
        exact absurd first (by decide)

example : splitLines "a\r\nb\nc" = ["a", "b", "c"] := by decide +kernel

theorem splitLinesFrom_append (before rest line : List Char) :
    splitLinesFrom (before ++ '\n' :: rest) line =
      splitLinesFrom (before ++ ['\n']) line ++ splitLinesFrom rest [] := by
  fun_induction splitLinesFrom before line with
  | case1 => rfl
  | case2 line => cases line <;> rfl
  | case3 later line ih => simpa only [List.cons_append, splitLinesFrom, List.cons.injEq, true_and] using ih
  | case4 c later line other breaks ih =>
      cases later with
      | nil =>
          by_cases returns : c = '\r'
          · subst returns
            rfl
          · have alone (more : List Char) : splitLinesFrom (c :: '\n' :: more) line =
                line.reverse :: splitLinesFrom ('\n' :: more) [] := by
              rw [splitLinesFrom, if_pos breaks]
              exact fun _ same => absurd same returns
            simp only [List.cons_append, List.nil_append, alone]
            rfl
      | cons d later =>
          have alone (more : List Char) : splitLinesFrom (c :: d :: (later ++ '\n' :: more)) line =
              line.reverse :: splitLinesFrom (d :: (later ++ '\n' :: more)) [] := by
            rw [splitLinesFrom, if_pos breaks]
            exact fun _ returns feed => other later returns (by rw [(List.cons.inj feed).1])
          simp only [List.cons_append, alone] at ih ⊢
          exact congrArg _ ih
  | case5 c later line other visible ih =>
      have plain : c ≠ '\r' := by
        rintro rfl
        exact absurd (by decide) visible
      have on (more : List Char) : splitLinesFrom (c :: more) line = splitLinesFrom more (c :: line) := by
        rw [splitLinesFrom, if_neg visible]
        exact fun _ returns => absurd returns plain
      simp only [List.cons_append, on]
      exact ih

theorem splitLines_append (text rest : String) :
    splitLines (text ++ "\n" ++ rest) = splitLines (text ++ "\n") ++ splitLines rest := by
  simp only [splitLines, String.toList_append, List.append_assoc]
  change (splitLinesFrom (text.toList ++ '\n' :: rest.toList) []).map _ =
    (splitLinesFrom (text.toList ++ ['\n']) []).map _ ++ _
  rw [splitLinesFrom_append, List.map_append]

theorem splitLinesFrom_whole {text line part : List Char} (member : part ∈ splitLinesFrom text line)
    (whole : ∀ c ∈ line, isLineBreak c = false) : ∀ c ∈ part, isLineBreak c = false := by
  fun_induction splitLinesFrom text line with
  | case1 => cases member
  | case2 line =>
      obtain rfl := List.mem_singleton.mp member
      exact fun c inLine => whole c (List.mem_reverse.mp inLine)
  | case3 rest line ih =>
      rcases List.mem_cons.mp member with rfl | later
      · exact fun c inLine => whole c (List.mem_reverse.mp inLine)
      · exact ih later nofun
  | case4 c rest line _ breaks ih =>
      rcases List.mem_cons.mp member with rfl | later
      · exact fun c inLine => whole c (List.mem_reverse.mp inLine)
      · exact ih later nofun
  | case5 c rest line _ visible ih =>
      exact ih member (List.forall_mem_cons.mpr ⟨by simpa using visible, whole⟩)

theorem splitLines_whole {text line : String} (member : line ∈ splitLines text) :
    ∀ c ∈ line.toList, isLineBreak c = false := by
  obtain ⟨part, cut, rfl⟩ := List.mem_map.mp member
  rw [String.toList_ofList]
  exact splitLinesFrom_whole cut nofun

theorem splitLines_single {line : String} (whole : ∀ c ∈ line.toList, isLineBreak c = false) :
    splitLines (line ++ "\n") = [line] := by
  have alone : (line ++ "\n").toList = line.toList ++ '\n' :: [] := by simp [String.toList_append]
  rw [splitLines, alone, splitLinesFrom_line whole]
  simp [splitLinesFrom]

theorem join_cons {separator item : String} {rest : List String} (more : rest ≠ []) :
    join separator (item :: rest) = item ++ separator ++ join separator rest := by
  cases rest with
  | nil => exact absurd rfl more
  | cons next rest => rfl

theorem mem_join {separator : String} {items : List String} {c : Char} (member : c ∈ (join separator items).toList) :
    c ∈ separator.toList ∨ ∃ item ∈ items, c ∈ item.toList := by
  induction items with
  | nil => cases member
  | cons item rest ih =>
      cases rest with
      | nil => exact Or.inr ⟨item, List.mem_cons_self, member⟩
      | cons next rest =>
          rw [join_cons (List.cons_ne_nil _ _)] at member
          simp only [String.toList_append, List.mem_append] at member
          rcases member with (inItem | inSeparator) | later
          · exact Or.inr ⟨item, List.mem_cons_self, inItem⟩
          · exact Or.inl inSeparator
          · rcases ih later with inSeparator | ⟨other, inRest, inOther⟩
            · exact Or.inl inSeparator
            · exact Or.inr ⟨other, List.mem_cons_of_mem _ inRest, inOther⟩

theorem splitChar_join {separator : Char} {items : List String} (some_ne : items ≠ [])
    (plain : ∀ item ∈ items, separator ∉ item.toList) :
    splitChar separator (join (String.singleton separator) items).toList = items.map String.toList := by
  induction items with
  | nil => exact absurd rfl some_ne
  | cons item rest ih =>
      obtain ⟨first, others⟩ := List.forall_mem_cons.mp plain
      cases rest with
      | nil => exact splitChar_last first
      | cons next rest =>
          have cut : (join (String.singleton separator) (item :: next :: rest)).toList =
              item.toList ++ separator :: (join (String.singleton separator) (next :: rest)).toList := by
            rw [join_cons (List.cons_ne_nil _ _)]
            simp [String.toList_append]
          rw [cut, splitChar_line first, ih (List.cons_ne_nil _ _) others]
          rfl

theorem splitLines_join {lines : List String} (whole : ∀ line ∈ lines, ∀ c ∈ line.toList, isLineBreak c = false)
    (some_ne : lines ≠ []) : splitLines (join "\n" lines ++ "\n") = lines := by
  induction lines with
  | nil => exact absurd rfl some_ne
  | cons line rest ih =>
      obtain ⟨first, others⟩ := List.forall_mem_cons.mp whole
      cases rest with
      | nil => exact splitLines_single first
      | cons next rest =>
          have cut : (join "\n" (line :: next :: rest) ++ "\n").toList =
              line.toList ++ '\n' :: (join "\n" (next :: rest) ++ "\n").toList := by
            rw [join_cons (List.cons_ne_nil _ _)]
            simp [String.toList_append]
          have later := ih others (List.cons_ne_nil _ _)
          rw [splitLines] at later ⊢
          rw [cut, splitLinesFrom_line first, List.map_cons, later]
          simp

theorem prefix_append_cons {α : Type} {separator : α} {part before rest : List α} (whole : separator ∉ part)
    (start : part <+: before ++ separator :: rest) : part <+: before := by
  induction before generalizing part with
  | nil =>
      cases part with
      | nil => exact List.nil_prefix
      | cons first more => exact absurd (List.cons_prefix_cons.mp start).1 fun same => whole (by simp [same])
  | cons c before ih =>
      cases part with
      | nil => exact List.nil_prefix
      | cons first more =>
          rw [List.cons_append, List.cons_prefix_cons] at start
          rw [List.cons_prefix_cons]
          exact ⟨start.1, ih (List.not_mem_of_not_mem_cons whole) start.2⟩

theorem infix_append_cons_iff {α : Type} {separator : α} {part before rest : List α} (whole : separator ∉ part) :
    part <:+: before ++ separator :: rest ↔ part <:+: before ∨ part <:+: rest := by
  constructor
  · intro inside
    induction before with
    | nil =>
        rcases List.infix_cons_iff.mp inside with start | later
        · exact Or.inl (@prefix_append_cons _ _ _ [] _ whole start).isInfix
        · exact Or.inr later
    | cons c before ih =>
        rcases List.infix_cons_iff.mp inside with start | later
        · exact Or.inl (@prefix_append_cons _ _ _ (c :: before) _ whole start).isInfix
        · exact (ih later).imp (fun found => found.trans (List.suffix_cons _ _).isInfix) id
  · rintro (first | last)
    · exact List.infix_append_of_infix_left first
    · exact List.infix_append_of_infix_right (last.trans (List.suffix_cons _ _).isInfix)

theorem splitSpace_mem {text word : List Char} (cut : word ∈ splitSpace text) {c : Char} (member : c ∈ word) :
    c ∈ text := by
  induction text using splitSpace.induct generalizing word with
  | case1 =>
      rw [splitSpace.eq_def] at cut
      nomatch cut
  | case2 d rest blank ih =>
      rw [splitSpace.eq_def] at cut
      simp only [blank, if_true] at cut
      exact List.mem_cons_of_mem _ (ih cut member)
  | case3 d visible next tail part parts blank read ih =>
      rw [splitSpace.eq_def] at cut
      simp only [visible, blank, read, if_true, Bool.false_eq_true, if_false] at cut
      rcases List.mem_cons.mp cut with rfl | later
      · obtain rfl := List.mem_singleton.mp member
        exact List.mem_cons_self
      · exact List.mem_cons_of_mem _ (ih (by rw [read]; exact later) member)
  | case4 d visible next tail part parts letter read ih =>
      rw [splitSpace.eq_def] at cut
      simp only [visible, letter, read, Bool.false_eq_true, if_false] at cut
      rcases List.mem_cons.mp cut with rfl | later
      · rcases List.mem_cons.mp member with rfl | inPart
        · exact List.mem_cons_self
        · exact List.mem_cons_of_mem _ (ih (by rw [read]; exact List.mem_cons_self) inPart)
      · exact List.mem_cons_of_mem _ (ih (by rw [read]; exact List.mem_cons_of_mem _ later) member)
  | case5 d rest visible last ih =>
      have word : splitSpace (d :: rest) = [d] :: splitSpace rest := by
        rw [splitSpace.eq_def]
        simp only [visible, Bool.false_eq_true, if_false]
      rw [word] at cut
      rcases List.mem_cons.mp cut with rfl | later
      · obtain rfl := List.mem_singleton.mp member
        exact List.mem_cons_self
      · exact List.mem_cons_of_mem _ (ih later member)

theorem splitSpace_visible {text word : List Char} (member : word ∈ splitSpace text) :
    ∀ c ∈ word, isSpace c = false := by
  induction text using splitSpace.induct generalizing word with
  | case1 =>
      rw [splitSpace.eq_def] at member
      exact absurd member (List.not_mem_nil)
  | case2 c rest blank ih =>
      rw [splitSpace.eq_def] at member
      simp only [blank, if_true] at member
      exact ih member
  | case3 c visible next tail part parts blank read ih =>
      rw [splitSpace.eq_def] at member
      simp only [visible, blank, read, if_true, Bool.false_eq_true, if_false] at member
      rcases List.mem_cons.mp member with rfl | later
      · simpa using visible
      · exact ih (by rw [read]; exact later)
  | case4 c visible next tail part parts letter read ih =>
      rw [splitSpace.eq_def] at member
      simp only [visible, letter, read, Bool.false_eq_true, if_false] at member
      rcases List.mem_cons.mp member with rfl | later
      · intro d inWord
        rcases List.mem_cons.mp inWord with rfl | inPart
        · simpa using visible
        · exact ih (by rw [read]; exact List.mem_cons_self ..) d inPart
      · exact ih (by rw [read]; exact List.mem_cons_of_mem _ later)
  | case5 c rest visible last ih =>
      have word : splitSpace (c :: rest) = [c] :: splitSpace rest := by
        rw [splitSpace.eq_def]
        simp only [visible, Bool.false_eq_true, if_false]
      rw [word] at member
      rcases List.mem_cons.mp member with rfl | later
      · simpa using visible
      · exact ih later

theorem splitSpace_word {word : List Char} (some_ne : word ≠ []) (visible : ∀ c ∈ word, isSpace c = false) :
    splitSpace word = [word] := by
  induction word with
  | nil => exact absurd rfl some_ne
  | cons c rest ih =>
      obtain ⟨first, others⟩ := List.forall_mem_cons.mp visible
      cases rest with
      | nil =>
          rw [splitSpace.eq_def]
          simp only [first, Bool.false_eq_true, if_false]
          rw [splitSpace.eq_def]
      | cons next rest =>
          have later := ih (List.cons_ne_nil _ _) others
          have second := others next List.mem_cons_self
          rw [splitSpace.eq_def]
          simp only [first, later, second, Bool.false_eq_true, if_false]

theorem splitLinesFrom_last {line : List Char} (whole : ∀ c ∈ line, isLineBreak c = false) (before : List Char)
    (some_ne : before ≠ [] ∨ line ≠ []) : splitLinesFrom line before = [before.reverse ++ line] := by
  induction line generalizing before with
  | nil =>
      cases before with
      | nil => simp at some_ne
      | cons c rest => rw [splitLinesFrom, List.append_nil]; exact nofun
  | cons c line ih =>
      obtain ⟨first, others⟩ := List.forall_mem_cons.mp whole
      rw [splitLinesFrom]
      · rw [if_neg (by simp [first]), ih others (c :: before) (Or.inl (List.cons_ne_nil _ _))]
        simp
      · rintro tail rfl
        exact absurd first (by decide)

theorem splitLines_joined {lines : List String} (whole : ∀ line ∈ lines, ∀ c ∈ line.toList, isLineBreak c = false)
    (filled : ∀ line ∈ lines, line ≠ "") : splitLines (join "\n" lines) = lines := by
  induction lines with
  | nil => rfl
  | cons line rest ih =>
      obtain ⟨first, others⟩ := List.forall_mem_cons.mp whole
      obtain ⟨some_line, some_others⟩ := List.forall_mem_cons.mp filled
      cases rest with
      | nil =>
          have some_chars : line.toList ≠ [] := fun empty => some_line (String.toList_eq_nil_iff.mp empty)
          rw [join, splitLines, splitLinesFrom_last first [] (Or.inr some_chars)]
          simp
      | cons next rest =>
          have cut : (join "\n" (line :: next :: rest)).toList =
              line.toList ++ '\n' :: (join "\n" (next :: rest)).toList := by
            rw [join_cons (List.cons_ne_nil _ _)]
            simp [String.toList_append]
          have later := ih others some_others
          rw [splitLines] at later ⊢
          rw [cut, splitLinesFrom_line first, List.map_cons, later]
          simp

end PythonText
