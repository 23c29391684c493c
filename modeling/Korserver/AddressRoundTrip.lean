import Korserver.AddressText
import Mathlib.Data.List.Nodup

/-!
Addresses and networks are read back from the text they are written as: the number of an address, its
family and its scope, and the prefix length of a network.
-/

namespace IpAddress

open PythonText

theorem parseOctet_toDigits : ∀ octet < 256, parseOctet (Nat.toDigits 10 octet) = some octet := by
  decide +kernel

theorem parseMask_v4 : ∀ length < 33, parseMask .v4 (Nat.toDigits 10 length) = some length := by decide +kernel

theorem parseMask_v6 : ∀ length < 129, parseMask .v6 (Nat.toDigits 10 length) = some length := by decide +kernel

theorem hexDigitValue_digitChar : ∀ digit < 16, hexDigitValue (Nat.digitChar digit) = some digit := by decide

theorem hexValue_toDigits (number : Nat) (rest : List Char) (value : Nat) :
    hexValue (Nat.toDigits 16 number ++ rest) value =
      hexValue rest (value * 16 ^ (Nat.toDigits 16 number).length + number) := by
  induction number using Nat.strongRecOn generalizing rest with
  | ind number ih =>
      by_cases small : number < 16
      · rw [Nat.toDigits_of_lt_base small, List.singleton_append, hexValue, hexDigitValue_digitChar number small]
        simp
      · have digits := Nat.toDigits_of_base_le (by decide : 1 < 16) (Nat.le_of_not_lt small)
        have last : number % 16 < 16 := Nat.mod_lt _ (by omega)
        have smaller : number / 16 < number := Nat.div_lt_self (by omega) (by omega)
        rw [digits, List.append_assoc, ih (number / 16) smaller, List.singleton_append, hexValue,
          hexDigitValue_digitChar _ last, List.length_append, List.length_singleton, Nat.pow_succ]
        simp only [Option.bind_eq_bind, Option.bind_some]
        congr 1
        have parts := Nat.div_add_mod number 16
        grind

theorem parseHextet_toDigits {hextet : Nat} (small : hextet < 65536) :
    parseHextet (Nat.toDigits 16 hextet) = some hextet := by
  have positive : 0 < (Nat.toDigits 16 hextet).length := Nat.length_toDigits_pos
  have short : (Nat.toDigits 16 hextet).length ≤ 4 := (Nat.length_toDigits_le_iff (by decide) (by decide)).mpr small
  have read := hexValue_toDigits hextet [] 0
  rw [List.append_nil, Nat.zero_mul, Nat.zero_add] at read
  rw [parseHextet, if_neg, read]
  · rfl
  · rintro (empty | long)
    · rw [empty] at positive
      nomatch positive
    · omega

theorem mapM_parseHextet {values : List Nat} (small : ∀ value ∈ values, value < 65536) :
    (values.map (Nat.toDigits 16)).mapM parseHextet = some values := by
  induction values with
  | nil => rfl
  | cons value rest ih =>
      rw [List.map_cons, List.mapM_cons, parseHextet_toDigits (small value List.mem_cons_self),
        ih fun other member => small other (List.mem_cons_of_mem _ member)]
      rfl

theorem toDigits_ne_nil (base number : Nat) : Nat.toDigits base number ≠ [] :=
  List.ne_nil_of_length_pos Nat.length_toDigits_pos

theorem octets_value {value : Nat} (fits : value < 2 ^ 32) :
    ((value / 256 ^ 3 * 256 + value / 256 ^ 2 % 256) * 256 + value / 256 % 256) * 256 + value % 256 = value := by
  omega

theorem hextetsValue_concat (front : List Nat) (last : Nat) :
    hextetsValue (front ++ [last]) = hextetsValue front * 65536 + last := by
  rw [hextetsValue, List.foldl_append]
  rfl

theorem hextetsValue_places (count value : Nat) :
    hextetsValue ((List.range count).map fun i => value / 65536 ^ (count - 1 - i) % 65536) = value % 65536 ^ count := by
  induction count generalizing value with
  | zero => simp [hextetsValue, Nat.mod_one]
  | succ count ih =>
      have front : ((List.range count).map fun i => value / 65536 ^ (count + 1 - 1 - i) % 65536) =
          (List.range count).map fun i => value / 65536 / 65536 ^ (count - 1 - i) % 65536 := by
        refine List.map_congr_left fun i member => ?_
        have place : count + 1 - 1 - i = (count - 1 - i) + 1 := by
          have below := List.mem_range.mp member
          omega
        rw [place, Nat.pow_succ, Nat.mul_comm, Nat.div_div_eq_div_mul]
      rw [List.range_succ, List.map_append, List.map_singleton, hextetsValue_concat, front, ih, Nat.pow_succ,
        Nat.mul_comm (65536 ^ count), Nat.mod_mul]
      simp only [Nat.add_sub_cancel, Nat.sub_self, Nat.pow_zero, Nat.div_one]
      omega

theorem hextetsValue_hextets {value : Nat} (fits : value < 2 ^ 128) : hextetsValue (hextets value) = value := by
  have places := hextetsValue_places 8 value
  rw [Nat.mod_eq_of_lt (Nat.lt_of_lt_of_eq fits (by decide))] at places
  exact places

theorem hextets_small (value : Nat) : ∀ hextet ∈ hextets value, hextet < 65536 := by
  intro hextet member
  obtain ⟨i, -, rfl⟩ := List.mem_map.mp member
  exact Nat.mod_lt _ (by decide)

theorem splitChar_joinChars {separator : Char} {parts : List (List Char)} (some_ne : parts ≠ [])
    (plain : ∀ part ∈ parts, separator ∉ part) : splitChar separator (joinChars separator parts) = parts := by
  induction parts with
  | nil => exact absurd rfl some_ne
  | cons part rest ih =>
      obtain ⟨first, others⟩ := List.forall_mem_cons.mp plain
      cases rest with
      | nil => exact splitChar_last first
      | cons next rest =>
          have later := ih (List.cons_ne_nil _ _) others
          change splitChar separator (part ++ separator :: joinChars separator (next :: rest)) = _
          rw [splitChar_line first, later]

theorem toDigits_absent {base : Nat} (large : 1 < base) (small : base ≤ 16) {c : Char} (other : isHexDigit c = false)
    (number : Nat) : c ∉ Nat.toDigits base number := by
  intro member
  rw [toDigits_hex large small member] at other
  nomatch other

theorem parseV4_octets {value : Nat} (fits : value < 2 ^ 32) :
    parseV4 (joinChars '.' ((octets value).map (Nat.toDigits 10))) = some value := by
  have cut : splitChar '.' (joinChars '.' ((octets value).map (Nat.toDigits 10))) =
      (octets value).map (Nat.toDigits 10) := by
    refine splitChar_joinChars (by simp [octets]) fun part member => ?_
    obtain ⟨octet, -, rfl⟩ := List.mem_map.mp member
    exact toDigits_absent (by decide) (by decide) (by decide) octet
  have first : value / 256 ^ 3 < 256 := by omega
  rw [parseV4, cut]
  simp only [octets, List.map_cons, List.map_nil, parseOctet_toDigits _ first,
    parseOctet_toDigits _ (Nat.mod_lt _ (by decide : 0 < 256)), Option.bind_eq_bind, Option.bind_some, Option.pure_def]
  exact congrArg some (octets_value fits)

def ZeroRun (values : List Nat) (run : Nat × Nat) : Prop :=
  run.1 + run.2 ≤ values.length ∧ ∀ i, run.1 ≤ i → i < run.1 + run.2 → values[i]? = some 0

theorem longestZeros_run (rest before : List Nat) (current best : Nat × Nat)
    (bestRun : ZeroRun (before ++ rest) best) (currentRun : ZeroRun (before ++ rest) current)
    (ends : current.2 = 0 ∨ current.1 + current.2 = before.length) :
    ZeroRun (before ++ rest) (longestZeros rest before.length current best) := by
  induction rest generalizing before current best with
  | nil => exact bestRun
  | cons hextet rest ih =>
      have whole : before ++ hextet :: rest = (before ++ [hextet]) ++ rest := by simp
      have next : before.length + 1 = (before ++ [hextet]).length := by simp
      rw [longestZeros]
      by_cases zero : hextet = 0
      · subst zero
        rw [if_pos rfl]
        simp only
        generalize started : (if current.2 = 0 then before.length else current.1) = start
        have reaches : start + current.2 = before.length := by
          rw [← started]
          split
          · omega
          · exact ends.resolve_left ‹_›
        have run : ZeroRun (before ++ 0 :: rest) (start, current.2 + 1) := by
          constructor
          · simp
            omega
          · intro i low high
            simp only at low high
            by_cases last : i = before.length
            · simp [last]
            · refine currentRun.2 i ?_ (by omega)
              rw [← started] at low
              split at low
              · omega
              · exact low
        rw [whole] at run bestRun ⊢
        rw [next]
        refine ih (before ++ [0]) (start, current.2 + 1) _ ?_ run (Or.inr ?_)
        · split
          · exact run
          · exact bestRun
        · simp only [List.length_append, List.length_singleton]
          omega
      · rw [if_neg zero, next]
        rw [whole] at bestRun ⊢
        exact ih (before ++ [hextet]) (0, 0) best bestRun ⟨by simp, by simp⟩ (Or.inl rfl)

theorem longestZeros_zero (values : List Nat) : ZeroRun values (longestZeros values 0 (0, 0) (0, 0)) :=
  longestZeros_run values [] (0, 0) (0, 0) ⟨by simp, by simp⟩ ⟨by simp, by simp⟩ (Or.inl rfl)

theorem ZeroRun.cut {values : List Nat} {run : Nat × Nat} (zeros : ZeroRun values run) :
    values.take run.1 ++ List.replicate run.2 0 ++ values.drop (run.1 + run.2) = values := by
  have inside : (values.drop run.1).take run.2 = List.replicate run.2 0 := by
    refine List.eq_replicate_iff.mpr ⟨?_, ?_⟩
    · have long := zeros.1
      simp
      omega
    · intro value member
      obtain ⟨i, below, rfl⟩ := List.mem_iff_getElem.mp member
      have found := zeros.2 (run.1 + i) (by omega) (by simp at below; omega)
      simp only [List.getElem_take, List.getElem_drop]
      simp only [List.length_take, List.length_drop] at below
      rw [List.getElem?_eq_getElem (by omega)] at found
      exact Option.some.inj found
  rw [← inside, List.append_assoc, ← List.drop_drop, List.take_append_drop, List.take_append_drop]

theorem filter_range_single {p : Nat → Bool} {count k : Nat} (below : k < count)
    (only : ∀ i < count, p i = true ↔ i = k) : (List.range count).filter p = [k] := by
  have same : (List.range count).filter p = (List.range count).filter (· == k) := by
    refine List.filter_congr fun i member => ?_
    rw [Bool.eq_iff_iff, only i (List.mem_range.mp member), beq_iff_eq]
  rw [same, List.filter_beq, List.count_eq_one_of_mem List.nodup_range (List.mem_range.mpr below)]
  rfl

theorem splitSkip_gap {front back : List (List Char)} (some_front : front ≠ []) (some_back : back ≠ [])
    (frontFull : ∀ part ∈ front.tail, part ≠ []) (backFull : ∀ part ∈ back.dropLast, part ≠ []) :
    splitSkip (front ++ [] :: back) = some (some (front, back)) := by
  have frontLength := List.length_pos_of_ne_nil some_front
  have backLength := List.length_pos_of_ne_nil some_back
  have gap : (List.range (front ++ [] :: back).length).filter (fun i =>
      decide (0 < i ∧ i + 1 < (front ++ [] :: back).length) && (front ++ [] :: back)[i]?.getD ['0'] == []) =
        [front.length] := by
    refine filter_range_single (by simp) fun i below => ?_
    simp only [List.length_append, List.length_cons] at below
    simp only [Bool.and_eq_true, decide_eq_true_eq, List.length_append, List.length_cons, beq_iff_eq]
    constructor
    · rintro ⟨⟨positive, inner⟩, empty⟩
      by_contra other
      rcases Nat.lt_or_gt_of_ne other with left | right
      · rw [List.getElem?_append_left left, List.getElem?_eq_getElem left, Option.getD_some] at empty
        refine frontFull front[i] ?_ empty
        obtain ⟨j, rfl⟩ := Nat.exists_eq_add_of_lt positive
        rw [List.mem_iff_getElem]
        exact ⟨j, by simp; omega, by simp⟩
      · obtain ⟨j, rfl⟩ := Nat.exists_eq_add_of_lt right
        have place : front.length + j + 1 - front.length = j + 1 := by omega
        have inBack : j < back.length := by omega
        rw [List.getElem?_append_right (by omega), place, List.getElem?_cons_succ, List.getElem?_eq_getElem inBack,
          Option.getD_some] at empty
        refine backFull back[j] ?_ empty
        rw [List.mem_iff_getElem]
        exact ⟨j, by simp; omega, by simp⟩
    · rintro rfl
      refine ⟨⟨frontLength, by omega⟩, ?_⟩
      rw [List.getElem?_append_right (Nat.le_refl _), Nat.sub_self]
      rfl
  rw [splitSkip, gap]
  simp

theorem splitSkip_full {parts : List (List Char)} (full : ∀ part ∈ parts, part ≠ []) :
    splitSkip parts = some none := by
  have none : (List.range parts.length).filter (fun i =>
      decide (0 < i ∧ i + 1 < parts.length) && parts[i]?.getD ['0'] == []) = [] := by
    rw [List.filter_eq_nil_iff]
    intro i member
    have below := List.mem_range.mp member
    have some_part := full parts[i] (List.getElem_mem below)
    simp [List.getElem?_eq_getElem below, some_part]
  rw [splitSkip, none]

theorem expandTail_plain {parts : List (List Char)} (plain : ∀ part ∈ parts, '.' ∉ part) :
    expandTail parts = some parts := by
  unfold expandTail
  split
  · rename_i last found
    rw [if_neg (plain last (List.mem_of_getLast? found))]
  · rfl

section Compressed

variable {texts : List (List Char)} (full : ∀ part ∈ texts, part ≠ [])

include full

theorem frontEdge (some_texts : texts ≠ []) (start : Nat) :
    (if start = 0 then [[]] else []) ++ texts.take start ≠ [] ∧
      (∀ part ∈ ((if start = 0 then [[]] else []) ++ texts.take start).tail, part ≠ []) ∧
      trimEdge ((if start = 0 then [[]] else []) ++ texts.take start)
        ((if start = 0 then [[]] else []) ++ texts.take start).head? = some (texts.take start) := by
  cases start with
  | zero => exact ⟨by simp, by simp, by simp [trimEdge]⟩
  | succ start =>
      obtain ⟨first, rest, rfl⟩ := List.exists_cons_of_ne_nil some_texts
      have visible := full first List.mem_cons_self
      refine ⟨by simp, ?_, by simp [trimEdge, visible]⟩
      intro part member
      simp only [Nat.add_one_ne_zero, if_false, List.nil_append, List.take_succ_cons, List.tail_cons] at member
      exact full part (List.mem_cons_of_mem _ (List.mem_of_mem_take member))

theorem backEdge {stop : Nat} (inside : stop ≤ texts.length) :
    texts.drop stop ++ (if stop = texts.length then [[]] else []) ≠ [] ∧
      (∀ part ∈ (texts.drop stop ++ (if stop = texts.length then [[]] else [])).dropLast, part ≠ []) ∧
      trimEdge (texts.drop stop ++ (if stop = texts.length then [[]] else []))
        (texts.drop stop ++ (if stop = texts.length then [[]] else [])).getLast? = some (texts.drop stop) := by
  by_cases last : stop = texts.length
  · subst last
    exact ⟨by simp, by simp, by simp [trimEdge]⟩
  · have some_left : texts.drop stop ≠ [] := by
      rw [Ne, List.drop_eq_nil_iff]
      omega
    rw [if_neg last, List.append_nil]
    refine ⟨some_left, fun part member => ?_, ?_⟩
    · exact full part (List.mem_of_mem_drop (List.dropLast_subset _ member))
    · have visible := full _ (List.mem_of_mem_drop (List.getLast_mem some_left))
      rw [trimEdge, List.getLast?_eq_some_getLast some_left, if_neg]
      exact fun empty => visible (Option.some.inj empty)

end Compressed

theorem mem_full {values : List Nat} {part : List Char} (member : part ∈ values.map (Nat.toDigits 16)) :
    part ≠ [] := by
  obtain ⟨value, -, rfl⟩ := List.mem_map.mp member
  exact toDigits_ne_nil 16 value

theorem compressHextets_gap {values : List Nat} (long : 1 < (longestZeros values 0 (0, 0) (0, 0)).2) :
    ∃ run, ZeroRun values run ∧ 1 < run.2 ∧ compressHextets values =
      ((if run.1 = 0 then [[]] else []) ++ (values.map (Nat.toDigits 16)).take run.1) ++
        [] :: ((values.map (Nat.toDigits 16)).drop (run.1 + run.2) ++
          (if run.1 + run.2 = values.length then [[]] else [])) := by
  refine ⟨_, longestZeros_zero values, long, ?_⟩
  simp only [compressHextets, if_pos long]
  simp only [List.append_assoc, List.cons_append, List.nil_append]

theorem parseV6_compressed {values : List Nat} (eight : values.length = 8)
    (small : ∀ value ∈ values, value < 65536) :
    parseV6 (joinChars ':' (compressHextets values)) = some (hextetsValue values) := by
  have hexOnly {c : Char} (other : isHexDigit c = false) : ∀ part ∈ compressHextets values, c ∉ part := by
    intro part member inPart
    rw [mem_compressHextets member c inPart] at other
    nomatch other
  have cut : splitChar ':' (joinChars ':' (compressHextets values)) = compressHextets values := by
    refine splitChar_joinChars ?_ (hexOnly (by decide))
    have two := compressHextets_length (by omega : 2 ≤ values.length)
    intro none
    simp [none] at two
  have expanded := expandTail_plain (hexOnly (by decide : isHexDigit '.' = false))
  rw [parseV6, cut, expanded]
  by_cases long : 1 < (longestZeros values 0 (0, 0) (0, 0)).2
  · obtain ⟨run, zeros, wide, parts⟩ := compressHextets_gap long
    have inside := zeros.1
    have texts : (values.map (Nat.toDigits 16)).length = values.length := List.length_map _
    obtain ⟨frontSome, frontFull, frontRead⟩ := frontEdge (fun part => mem_full)
      (List.ne_nil_of_length_pos (by omega : 0 < (values.map (Nat.toDigits 16)).length)) run.1
    obtain ⟨backSome, backFull, backRead⟩ := backEdge (fun part => mem_full) (texts ▸ inside)
    rw [texts] at backSome backFull backRead
    have skip := splitSkip_gap frontSome backSome frontFull backFull
    have high := mapM_parseHextet fun value member => small value (List.mem_of_mem_take (i := run.1) member)
    have low := mapM_parseHextet fun value member => small value (List.mem_of_mem_drop (i := run.1 + run.2) member)
    rw [List.map_take] at high
    rw [List.map_drop] at low
    have counts : ((values.map (Nat.toDigits 16)).take run.1).length +
        ((values.map (Nat.toDigits 16)).drop (run.1 + run.2)).length = 8 - run.2 := by
      rw [List.length_take, List.length_drop, texts, eight]
      omega
    have frontLength := List.length_pos_of_ne_nil frontSome
    have backLength := List.length_pos_of_ne_nil backSome
    have three : ¬(compressHextets values).length < 3 := by
      rw [parts, List.length_append, List.length_cons]
      omega
    have nine : ¬9 < (compressHextets values).length := by
      rw [parts, List.length_append, List.length_cons, List.length_append, List.length_append]
      split <;> split <;> simp only [List.length_singleton, List.length_nil] <;> omega
    have room : ¬8 ≤ 8 - run.2 := by omega
    have filled : 8 - (8 - run.2) = run.2 := by omega
    rw [parts] at three nine
    rw [parts]
    simp only [if_neg three, if_neg nine, skip, frontRead, backRead, counts, if_neg room, high, low, filled,
      Option.bind_eq_bind, Option.bind_some, Option.pure_def]
    exact congrArg (fun list => some (hextetsValue list)) zeros.cut
  · have parts : compressHextets values = values.map (Nat.toDigits 16) := by
      simp only [compressHextets, if_neg long]
    have length : (compressHextets values).length = 8 := by rw [parts, List.length_map, eight]
    have read := mapM_parseHextet small
    rw [parts] at length ⊢
    simp only [length, splitSkip_full fun part => mem_full, Option.bind_eq_bind, Option.bind_some, read]
    rfl

/-! Addresses. -/

def Address.Readable (address : Address) : Prop :=
  ∀ scope ∈ address.scope, address.family = .v6 ∧ scope.toList ≠ [] ∧ '%' ∉ scope.toList ∧ '/' ∉ scope.toList

theorem addressOf_address (address : Address) : addressOf address.family address.scope address.value = some address :=
  dif_pos address.fits

theorem splitScope_written {text : List Char} (plain : '%' ∉ text) :
    splitScope text = some (text, none) ∧ ∀ scope : String, scope.toList ≠ [] → '%' ∉ scope.toList →
      splitScope (text ++ '%' :: scope.toList) = some (text, some scope) := by
  have kept : ∀ c ∈ text, decide (c ≠ '%') = true := by
    intro c member
    refine decide_eq_true ?_
    rintro rfl
    exact plain member
  constructor
  · rw [splitScope, List.span_eq_takeWhile_dropWhile, List.takeWhile_eq_self_iff.mpr kept,
      List.dropWhile_eq_nil_iff.mpr kept]
  · intro scope some_scope single
    rw [splitScope, List.span_eq_takeWhile_dropWhile, List.takeWhile_append_of_pos kept,
      List.dropWhile_append_of_pos kept, List.takeWhile_cons_of_neg (by simp), List.dropWhile_cons_of_neg (by simp),
      List.append_nil]
    simp only [not_or.mpr ⟨some_scope, single⟩, if_false, String.ofList_toList]

theorem splitScope_readable {text address : List Char} {scope : Option String}
    (cut : splitScope text = some (address, scope)) : ∀ name ∈ scope, name.toList ≠ [] ∧ '%' ∉ name.toList ∧
      ∀ c ∈ name.toList, c ∈ text := by
  unfold splitScope at cut
  have parts := List.span_eq_takeWhile_dropWhile (fun c : Char => decide (c ≠ '%')) text
  split at cut
  · obtain ⟨-, rfl⟩ := Prod.mk.inj (Option.some.inj cut)
    exact fun _ none => nomatch none
  · rename_i before percent after span
    rw [parts, Prod.mk.injEq] at span
    split at cut
    · nomatch cut
    · rename_i accepted
      obtain ⟨-, rfl⟩ := Prod.mk.inj (Option.some.inj cut)
      rintro name named
      obtain rfl := Option.some.inj named
      rw [String.toList_ofList]
      refine ⟨fun empty => accepted (Or.inl empty), fun twice => accepted (Or.inr twice), fun c member => ?_⟩
      exact List.dropWhile_subset _ (by rw [span.2]; exact List.mem_cons_of_mem _ member)

theorem Address.text_split (address : Address) :
    ∃ rest, address.text.toList = ({ address with scope := none } : Address).text.toList ++ rest ∧
      ∀ c ∈ rest, c = '%' ∨ ∃ scope ∈ address.scope, c ∈ scope.toList := by
  obtain ⟨family, value, scope, fits⟩ := address
  cases family with
  | v4 => exact ⟨[], (List.append_nil _).symm, nofun⟩
  | v6 =>
      cases scope with
      | none => exact ⟨[], (List.append_nil _).symm, nofun⟩
      | some scope =>
          refine ⟨'%' :: scope.toList, by simp [Address.text, String.toList_append], fun c member => ?_⟩
          exact (List.mem_cons.mp member).imp id fun inScope => ⟨scope, rfl, inScope⟩

theorem ipv4Address_family {text : List Char} {address : Address} (read : ipv4Address text = some address) :
    address.family = .v4 := by
  unfold ipv4Address at read
  split at read
  · nomatch read
  · simp only [Option.bind_eq_bind, Option.bind_eq_some_iff] at read
    obtain ⟨value, -, made⟩ := read
    exact (addressOf_eq made).1

theorem ipv4Address_readable {text : List Char} {address : Address} (read : ipv4Address text = some address) :
    address.Readable := by
  intro scope given
  rw [(ipv4Address_plain read).1] at given
  nomatch given

theorem ipv6Address_readable {text : List Char} {address : Address} (read : ipv6Address text = some address) :
    address.Readable := by
  unfold ipv6Address at read
  split at read
  · nomatch read
  · rename_i noSlash
    simp only [Option.bind_eq_bind, Option.bind_eq_some_iff] at read
    obtain ⟨⟨before, scope⟩, cut, value, -, made⟩ := read
    obtain ⟨family, same⟩ := addressOf_eq made
    intro name named
    rw [same] at named
    obtain ⟨some_name, single, inside⟩ := splitScope_readable cut name named
    exact ⟨family, some_name, single, fun slash => noSlash (inside '/' slash)⟩

theorem ipAddress_readable {text : String} {address : Address} (read : ipAddress text = some address) :
    address.Readable := by
  rcases orElse_some read with v4 | ⟨-, v6⟩
  · exact ipv4Address_readable v4
  · exact ipv6Address_readable v6

theorem colon_mem_joinChars {parts : List (List Char)} (two : 2 ≤ parts.length) : ':' ∈ joinChars ':' parts := by
  match parts with
  | [] => nomatch two
  | [_] => exact absurd two (by simp)
  | first :: second :: rest => simp [joinChars]

theorem ipAddress_v4 {value : Nat} (fits : value < 2 ^ 32) :
    ipv4Address (joinChars '.' ((octets value).map (Nat.toDigits 10))) = addressOf .v4 none value := by
  have noSlash : '/' ∉ joinChars '.' ((octets value).map (Nat.toDigits 10)) := by
    intro slash
    rcases mem_joinChars slash with same | ⟨part, member, inPart⟩
    · exact absurd same (by decide)
    · obtain ⟨octet, -, rfl⟩ := List.mem_map.mp member
      exact toDigits_absent (by decide) (by decide) (by decide) octet inPart
  rw [ipv4Address, if_neg noSlash, parseV4_octets fits]
  rfl

theorem ipAddress_text {address : Address} (readable : address.Readable) : ipAddress address.text = some address := by
  have whole := addressOf_address address
  unfold Address.text
  cases family : address.family with
  | v4 =>
      have noScope : address.scope = none := by
        cases given : address.scope with
        | none => rfl
        | some scope =>
            have v6 := (readable scope given).1
            rw [family] at v6
            cases v6
      have fits := address.fits
      rw [family] at fits whole
      rw [noScope] at whole
      simp only [ipAddress, String.toList_ofList, ipAddress_v4 fits, whole]
      rfl
  | v6 =>
      have fits := address.fits
      rw [family] at fits whole
      have noHex {c : Char} (other : isHexDigit c = false) (notColon : c ≠ ':') :
          c ∉ joinChars ':' (compressHextets (hextets address.value)) := by
        intro member
        rcases mem_joinChars member with same | ⟨part, inParts, inPart⟩
        · exact notColon same
        · rw [mem_compressHextets inParts c inPart] at other
          cases other
      have value := parseV6_compressed (by simp [hextets]) (hextets_small address.value)
      rw [hextetsValue_hextets fits] at value
      have colon := colon_mem_joinChars (compressHextets_length (by simp [hextets] : 2 ≤ (hextets address.value).length))
      have noV4 : ∀ rest, ipv4Address (joinChars ':' (compressHextets (hextets address.value)) ++ rest) = none := by
        intro rest
        cases read : ipv4Address (joinChars ':' (compressHextets (hextets address.value)) ++ rest) with
        | none => rfl
        | some other =>
            unfold ipv4Address at read
            split at read
            · cases read
            · simp only [Option.bind_eq_bind, Option.bind_eq_some_iff] at read
              obtain ⟨number, readNumber, -⟩ := read
              exact absurd (List.mem_append_left rest colon) (parseV4_absent readNumber (by decide) (by decide))
      have scopes := splitScope_written (noHex (by decide) (by decide))
      cases given : address.scope with
      | none =>
          rw [given] at whole
          have none := noV4 []
          rw [List.append_nil] at none
          simp only [ipAddress, String.append_empty, String.toList_ofList, none, ipv6Address,
            noHex (by decide : isHexDigit '/' = false) (by decide), if_false, scopes.1, value, whole,
            Option.bind_eq_bind, Option.bind_some]
          rfl
      | some scope =>
          obtain ⟨-, some_scope, single, noSlash⟩ := readable scope given
          rw [given] at whole
          have chars : (String.ofList (joinChars ':' (compressHextets (hextets address.value))) ++ ("%" ++ scope)).toList =
              joinChars ':' (compressHextets (hextets address.value)) ++ '%' :: scope.toList := by
            simp [String.toList_append]
          have slashless : '/' ∉ joinChars ':' (compressHextets (hextets address.value)) ++ '%' :: scope.toList := by
            rw [List.mem_append, List.mem_cons, not_or, not_or]
            exact ⟨noHex (by decide) (by decide), by decide, noSlash⟩
          simp only [ipAddress, chars, noV4, ipv6Address, slashless, if_false, scopes.2 scope some_scope single,
            value, whole, Option.bind_eq_bind, Option.bind_some]
          rfl

theorem ipAddress_scopeChars {text : List Char} {address : Address}
    (read : ipv4Address text = some address ∨ ipv6Address text = some address) :
    ∀ scope ∈ address.scope, ∀ c ∈ scope.toList, c ∈ text := by
  intro scope given
  rcases read with v4 | v6
  · rw [(ipv4Address_plain v4).1] at given
    nomatch given
  · unfold ipv6Address at v6
    split at v6
    · nomatch v6
    · simp only [Option.bind_eq_bind, Option.bind_eq_some_iff] at v6
      obtain ⟨⟨before, found⟩, cut, value, -, made⟩ := v6
      rw [(addressOf_eq made).2] at given
      exact (splitScope_readable cut scope given).2.2

theorem ipAddress_cases {text : String} {address : Address} (read : ipAddress text = some address) :
    (address.family = .v4 ∧ ipv4Address text.toList = some address) ∨
      (address.family = .v6 ∧ ipv4Address text.toList = none ∧ ipv6Address text.toList = some address) := by
  rcases orElse_some read with v4 | ⟨noV4, v6⟩
  · exact Or.inl ⟨ipv4Address_family v4, v4⟩
  · exact Or.inr ⟨(ipv6Address_scope v6).1, noV4, v6⟩

theorem ipAddress_noSlash {text : String} {address : Address} (read : ipAddress text = some address) :
    '/' ∉ text.toList := by
  intro slash
  rcases ipAddress_cases read with ⟨-, v4⟩ | ⟨-, -, v6⟩
  · rw [ipv4Address, if_pos slash] at v4
    nomatch v4
  · rw [ipv6Address, if_pos slash] at v6
    nomatch v6

/-! Networks. -/

theorem networkOf_network (network : Network) :
    networkOf network.base network.prefixLength network.short = network := by
  rw [networkOf, dif_pos network.masked]

theorem Address.bits_le (address : Address) : address.family.bits ≤ address.family.bits := Nat.le_refl _

def Address.host (address : Address) : Network := networkOf address address.family.bits address.bits_le

theorem readNetwork_cut {family : Family} {address : List Char → Option Address} {text part : List Char} {length : Nat}
    (cut : cutNetwork family text = some (part, length)) :
    readNetwork false family address text = (address part).bind fun base =>
      if short : length ≤ base.family.bits then some (networkOf base length short) else none := by
  ext network
  rw [readNetwork_iff, Option.bind_eq_some_iff]
  constructor
  · rintro ⟨part', length', base, cut', found, -, short, rfl⟩
    obtain ⟨rfl, rfl⟩ := Prod.mk.inj (Option.some.inj (cut.symm.trans cut'))
    exact ⟨base, found, dif_pos short⟩
  · rintro ⟨base, found, made⟩
    split at made
    · rename_i short
      exact ⟨part, length, base, cut, found, (fun never => by cases never), short, (Option.some.inj made).symm⟩
    · cases made

theorem readNetwork_none {family : Family} {address : List Char → Option Address} {text part : List Char}
    (cut : ∀ other length, cutNetwork family text = some (other, length) → other = part) (none : address part = none) :
    readNetwork false family address text = Option.none := by
  rw [Option.eq_none_iff_forall_ne_some]
  intro network read
  obtain ⟨other, length, base, found, given, -⟩ := readNetwork_iff.mp read
  rw [cut other length found, none] at given
  nomatch given

theorem ipNetwork_bare {text : String} (noSlash : '/' ∉ text.toList) :
    ipNetwork text = (ipAddress text).map Address.host := by
  have cut : ∀ family, cutNetwork family text.toList = some (text.toList, family.bits) := by
    intro family
    rw [cutNetwork, splitChar_last noSlash]
  have host : ∀ {family address}, address.family = family →
      (if short : family.bits ≤ address.family.bits then some (networkOf address family.bits short) else none) =
        some address.host := by
    rintro family address rfl
    exact dif_pos (Nat.le_refl _)
  rw [ipNetwork, readNetwork_cut (cut .v4), readNetwork_cut (cut .v6), ipAddress]
  cases v4 : ipv4Address text.toList with
  | some address =>
      rw [Option.bind_some, host (ipv4Address_family v4)]
      rfl
  | none =>
      cases v6 : ipv6Address text.toList with
      | some address =>
          rw [Option.bind_none, Option.bind_some, host (ipv6Address_scope v6).1]
          rfl
      | none => rfl

theorem ipNetwork_base {text : String} {network : Network} (read : ipNetwork text = some network) :
    ∃ part address length short, (∀ c ∈ part, c ∈ text.toList) ∧
      (ipv4Address part = some address ∨ ipv6Address part = some address) ∧ network = networkOf address length short := by
  have inside {family : Family} {part : List Char} {length : Nat}
      (cut : cutNetwork family text.toList = some (part, length)) : ∀ c ∈ part, c ∈ text.toList := by
    intro c member
    unfold cutNetwork at cut
    split at cut
    · rename_i parts
      obtain ⟨rfl, -⟩ := Prod.mk.inj (Option.some.inj cut)
      exact splitChar_mem (parts ▸ List.mem_cons_self) member
    · rename_i parts
      obtain ⟨given, -, made⟩ := Option.map_eq_some_iff.mp cut
      obtain ⟨rfl, -⟩ := Prod.mk.inj made
      exact splitChar_mem (parts ▸ List.mem_cons_self) member
    · nomatch cut
  rcases orElse_some read with v4 | ⟨-, v6⟩
  · obtain ⟨part, length, base, cut, found, -, short, made⟩ := readNetwork_iff.mp v4
    exact ⟨part, base, length, short, inside cut, Or.inl found, made⟩
  · obtain ⟨part, length, base, cut, found, -, short, made⟩ := readNetwork_iff.mp v6
    exact ⟨part, base, length, short, inside cut, Or.inr found, made⟩

theorem networkOf_scope_mem {address : Address} {length : Nat} {short : length ≤ address.family.bits} :
    ∀ scope ∈ (networkOf address length short).base.scope, scope ∈ address.scope := by
  intro scope given
  rw [networkOf] at given
  split at given
  · exact given
  · cases given

theorem ipNetwork_scopeChars {text : String} {network : Network} (read : ipNetwork text = some network) :
    ∀ scope ∈ network.base.scope, ∀ c ∈ scope.toList, c ∈ text.toList := by
  obtain ⟨part, address, length, short, inside, found, rfl⟩ := ipNetwork_base read
  intro scope given c member
  exact inside c (ipAddress_scopeChars found scope (networkOf_scope_mem scope given) c member)

theorem ipNetwork_readable {text : String} {network : Network} (read : ipNetwork text = some network) :
    network.base.Readable := by
  have ofBase : ∀ {address length short}, address.Readable → (networkOf address length short).base.Readable := by
    intro address length short readable
    rw [networkOf]
    split
    · exact readable
    · rintro scope ⟨⟩
  obtain ⟨part, address, length, short, -, v4 | v6, rfl⟩ := ipNetwork_base read
  · exact ofBase (ipv4Address_readable v4)
  · exact ofBase (ipv6Address_readable v6)

theorem ipNetwork_text {network : Network} (readable : network.base.Readable) : ipNetwork network.text = some network := by
  have read := ipAddress_text readable
  have chars : network.text.toList = network.base.text.toList ++ '/' :: Nat.toDigits 10 network.prefixLength := by
    rw [Network.text, show toString network.prefixLength = Nat.repr network.prefixLength from rfl]
    simp [String.toList_append, Nat.toList_repr]
  have parts : splitChar '/' network.text.toList =
      [network.base.text.toList, Nat.toDigits 10 network.prefixLength] := by
    rw [chars, splitChar_line (ipAddress_noSlash read), splitChar_last]
    exact toDigits_absent (by decide) (by decide) (by decide) _
  have cut : ∀ family, cutNetwork family network.text.toList =
      (parseMask family (Nat.toDigits 10 network.prefixLength)).map fun length => (network.base.text.toList, length) := by
    intro family
    rw [cutNetwork, parts]
  have base : ∀ family other length, cutNetwork family network.text.toList = some (other, length) →
      other = network.base.text.toList := by
    intro family other length found
    rw [cut] at found
    obtain ⟨length, -, same⟩ := Option.map_eq_some_iff.mp found
    exact (Prod.mk.inj same).1.symm
  have made := networkOf_network network
  have short := network.short
  rw [ipNetwork]
  rcases ipAddress_cases read with ⟨family, v4⟩ | ⟨family, noV4, v6⟩
  · have mask : cutNetwork .v4 network.text.toList = some (network.base.text.toList, network.prefixLength) := by
      rw [family] at short
      rw [cut, parseMask_v4 _ (Nat.lt_succ_of_le short)]
      rfl
    rw [readNetwork_cut mask, v4, Option.bind_some, dif_pos network.short, made]
    rfl
  · have mask : cutNetwork .v6 network.text.toList = some (network.base.text.toList, network.prefixLength) := by
      rw [family] at short
      rw [cut, parseMask_v6 _ (Nat.lt_succ_of_le short)]
      rfl
    rw [readNetwork_none (base .v4) noV4, readNetwork_cut mask, v6, Option.bind_some, dif_pos network.short, made]
    rfl

theorem Network.text_injective {first second : Network} (readable : first.base.Readable)
    (otherReadable : second.base.Readable) (same : first.text = second.text) : first = second := by
  have read := ipNetwork_text readable
  rw [same, ipNetwork_text otherReadable] at read
  exact (Option.some.inj read).symm

end IpAddress
