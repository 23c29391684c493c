import Korserver.PythonText
import Mathlib.Tactic.Ring

/-!
Reading back what `formatHex` writes: behind a `0x` prefix it is the literal of the same
number, unless a sign stands between the prefix and the digits.
-/

namespace PythonText

def isPlain (c : Char) : Bool := decide (c.toNat < 127) && !isIntSpace c

theorem dropEndWhile_none {p : Char → Bool} {chars : List Char} (none : ∀ c ∈ chars, p c = false) :
    dropEndWhile p chars = chars := by
  have kept : chars.reverse.dropWhile p = chars.reverse := by
    cases reversed : chars.reverse with
    | nil => rfl
    | cons c rest =>
        have member : c ∈ chars := List.mem_reverse.mp (by simp [reversed])
        exact List.dropWhile_cons_of_neg (by simp [none c member])
  rw [dropEndWhile, kept, List.reverse_reverse]

theorem stripChars_none {p : Char → Bool} {chars : List Char} (none : ∀ c ∈ chars, p c = false) :
    stripChars p chars = chars := by
  have kept : chars.dropWhile p = chars := by
    cases chars with
    | nil => rfl
    | cons c rest => exact List.dropWhile_cons_of_neg (by simp [none c (by simp)])
  rw [stripChars, kept, dropEndWhile_none none]

theorem intLiteral_plain {chars : List Char} (plain : ∀ c ∈ chars, isPlain c = true) :
    intLiteral (String.ofList chars) = readSigned readMagnitude chars := by
  have ascii : chars.map asciiDecimal = chars := by
    refine (List.map_congr_left ?_).trans (List.map_id chars)
    intro c member
    have small := plain c member
    simp only [isPlain, Bool.and_eq_true, decide_eq_true_eq] at small
    simp [asciiDecimal, small.1]
  have visible : ∀ c ∈ chars, isIntSpace c = false := by
    intro c member
    have small := plain c member
    simp only [isPlain, Bool.and_eq_true, Bool.not_eq_true'] at small
    exact small.2
  rw [intLiteral, String.toList_ofList, ascii, stripChars_none visible]

theorem digitValue_digitChar : ∀ digit < 16, digitValue (Nat.digitChar digit) = some digit := by
  decide

theorem digitChar_ne_underscore : ∀ digit < 16, Nat.digitChar digit ≠ '_' := by decide

theorem digitChar_plain : ∀ digit < 16, isPlain (Nat.digitChar digit) = true := by decide

theorem mem_toDigits {base : Nat} (large : 1 < base) {value : Nat} {c : Char}
    (member : c ∈ Nat.toDigits base value) : ∃ digit < base, c = Nat.digitChar digit := by
  induction value using Nat.strongRecOn with
  | ind value ih =>
      rw [Nat.toDigits_eq_if large] at member
      split at member
      · rename_i small
        exact ⟨value, small, List.mem_singleton.mp member⟩
      · rename_i above
        rcases List.mem_append.mp member with front | last
        · exact ih (value / base) (Nat.div_lt_self (by omega) large) front
        · exact ⟨value % base, Nat.mod_lt _ (by omega), List.mem_singleton.mp last⟩

theorem readDigits_digit {base digit : Nat} (small : digit < base) (base_le : base ≤ 16) (rest : List Char)
    (value : Nat) (afterDigit : Bool) :
    readDigits base (Nat.digitChar digit :: rest) value afterDigit =
      readDigits base rest (value * base + digit) true := by
  have hex : digit < 16 := by omega
  rw [readDigits, if_neg (digitChar_ne_underscore digit hex), digitValue_digitChar digit hex]
  simp [small]

theorem readDigits_toDigits {base : Nat} (large : 1 < base) (base_le : base ≤ 16) (number : Nat)
    (rest : List Char) (value : Nat) (afterDigit : Bool) :
    readDigits base (Nat.toDigits base number ++ rest) value afterDigit =
      readDigits base rest (value * base ^ (Nat.toDigits base number).length + number) true := by
  induction number using Nat.strongRecOn generalizing rest with
  | ind number ih =>
      by_cases small : number < base
      · rw [Nat.toDigits_of_lt_base small, List.singleton_append, readDigits_digit small base_le]
        simp
      · have digits := Nat.toDigits_of_base_le large (Nat.le_of_not_lt small)
        have last : number % base < base := Nat.mod_lt _ (by omega)
        have smaller : number / base < number := Nat.div_lt_self (by omega) large
        rw [digits, List.append_assoc, ih (number / base) smaller, List.singleton_append,
          readDigits_digit last base_le, List.length_append, List.length_singleton, pow_succ]
        have whole : number / base * base + number % base = number := Nat.div_add_mod' number base
        congr 1
        calc (value * base ^ (Nat.toDigits base (number / base)).length + number / base) * base + number % base
            = value * (base ^ (Nat.toDigits base (number / base)).length * base) +
                (number / base * base + number % base) := by ring
          _ = value * (base ^ (Nat.toDigits base (number / base)).length * base) + number := by rw [whole]

theorem readDigits_zeros (count : Nat) (rest : List Char) (afterDigit : Bool) :
    readDigits 16 (List.replicate count '0' ++ rest) 0 afterDigit =
      readDigits 16 rest 0 (afterDigit || decide (0 < count)) := by
  induction count generalizing afterDigit with
  | zero => simp
  | succ count ih =>
      rw [List.replicate_succ, List.cons_append, show '0' = Nat.digitChar 0 from rfl,
        readDigits_digit (by omega) (Nat.le_refl 16)]
      exact (ih true).trans (by simp)

theorem readDigits_zeroPad (width number : Nat) :
    readDigits 16 (zeroPad width (Nat.toDigits 16 number)) 0 false = some number := by
  have read := readDigits_toDigits (by omega) (Nat.le_refl 16) number [] 0
    (false || decide (0 < width - (Nat.toDigits 16 number).length))
  rw [List.append_nil, Nat.zero_mul, Nat.zero_add] at read
  rw [zeroPad, readDigits_zeros, read]
  rfl

theorem zeroPad_digits {width number : Nat} {c : Char}
    (member : c ∈ zeroPad width (Nat.toDigits 16 number)) : ∃ digit < 16, c = Nat.digitChar digit := by
  rcases List.mem_append.mp member with zero | digit
  · exact ⟨0, by omega, List.eq_of_mem_replicate zero⟩
  · exact mem_toDigits (by omega) digit

theorem readPrefixed_formatHex (width : Nat) (value : Int) :
    readPrefixed 16 (formatHex width value) = if value < 0 then none else some value.natAbs := by
  unfold formatHex
  split
  · simp [readPrefixed, readDigits, digitValue]
  · have read := readDigits_zeroPad width value.natAbs
    cases digits : zeroPad width (Nat.toDigits 16 value.natAbs) with
    | nil =>
        rw [digits] at read
        simp [readDigits] at read
    | cons c rest =>
        obtain ⟨digit, small, first⟩ := zeroPad_digits (c := c) (by rw [digits]; simp)
        have other := digitChar_ne_underscore digit small
        rw [← first] at other
        rw [← digits, readPrefixed.eq_2, read]
        rw [digits]
        intro tail same
        exact other (List.cons.inj same).1

theorem formatHex_plain (width : Nat) (value : Int) :
    ∀ c ∈ formatHex width value, isPlain c = true := by
  have digits : ∀ width, ∀ c ∈ zeroPad width (Nat.toDigits 16 value.natAbs), isPlain c = true := by
    intro width c member
    obtain ⟨digit, small, rfl⟩ := zeroPad_digits member
    exact digitChar_plain digit small
  unfold formatHex
  split
  · intro c member
    rcases List.mem_cons.mp member with rfl | digit
    · decide
    · exact digits (width - 1) c digit
  · exact digits width

theorem intLiteral_formatHex (width : Nat) (value : Int) :
    intLiteral ("0x" ++ String.ofList (formatHex width value)) =
      if value < 0 then none else some value := by
  have text : "0x" ++ String.ofList (formatHex width value) =
      String.ofList ('0' :: 'x' :: formatHex width value) := by
    rw [← String.toList_inj]
    simp
  have plain : ∀ c ∈ '0' :: 'x' :: formatHex width value, isPlain c = true := by
    intro c member
    rcases List.mem_cons.mp member with rfl | member
    · decide
    · rcases List.mem_cons.mp member with rfl | member
      · decide
      · exact formatHex_plain width value c member
  have literal : readSigned readMagnitude ('0' :: 'x' :: formatHex width value) =
      (readPrefixed 16 (formatHex width value)).map fun (number : Nat) => (number : Int) := rfl
  rw [text, intLiteral_plain plain, literal, readPrefixed_formatHex]
  split
  · rfl
  · simp only [Option.map_some, Option.some.injEq]
    omega

theorem toDigits_head {number : Nat} (positive : 0 < number) :
    ∃ digit rest, Nat.toDigits 10 number = Nat.digitChar digit :: rest ∧ 0 < digit ∧ digit < 10 := by
  induction number using Nat.strongRecOn with
  | ind number ih =>
      by_cases small : number < 10
      · exact ⟨number, [], Nat.toDigits_of_lt_base small, positive, small⟩
      · obtain ⟨digit, rest, digits, nonzero, below⟩ := ih (number / 10) (by omega) (by omega)
        refine ⟨digit, rest ++ [Nat.digitChar (number % 10)], ?_, nonzero, below⟩
        rw [Nat.toDigits_of_base_le (by decide) (by omega), digits, List.cons_append]

theorem readMagnitude_digit {digit : Nat} (positive : 0 < digit) (small : digit < 10) (rest : List Char) :
    readSigned readMagnitude (Nat.digitChar digit :: rest) =
      (readDigits 10 (Nat.digitChar digit :: rest) 0 false).map fun (number : Nat) => (number : Int) := by
  have cases : digit = 1 ∨ digit = 2 ∨ digit = 3 ∨ digit = 4 ∨ digit = 5 ∨ digit = 6 ∨ digit = 7 ∨
      digit = 8 ∨ digit = 9 := by omega
  rcases cases with rfl | rfl | rfl | rfl | rfl | rfl | rfl | rfl | rfl <;> rfl

theorem intLiteral_repr (number : Nat) : intLiteral (Nat.repr number) = some (number : Int) := by
  rcases Nat.eq_zero_or_pos number with rfl | positive
  · decide
  · have plain : ∀ c ∈ Nat.toDigits 10 number, isPlain c = true := by
      intro c member
      obtain ⟨digit, small, rfl⟩ := mem_toDigits (by decide) member
      exact digitChar_plain digit (by omega)
    obtain ⟨digit, rest, digits, nonzero, below⟩ := toDigits_head positive
    have read := @readDigits_toDigits 10 (by decide) (by decide) number [] 0 false
    rw [List.append_nil, Nat.zero_mul, Nat.zero_add] at read
    have literal := readMagnitude_digit nonzero below rest
    rw [← digits, read] at literal
    rw [Nat.repr, intLiteral_plain plain, literal]
    rfl

theorem intLiteral_hex (number : Nat) :
    intLiteral ("0x" ++ String.ofList (Nat.toDigits 16 number)) = some (number : Int) := by
  have digits : formatHex 0 (number : Int) = Nat.toDigits 16 number := by
    rw [formatHex, if_neg (by omega), zeroPad, Nat.zero_sub, List.replicate_zero, List.nil_append,
      Int.natAbs_natCast]
  have read := intLiteral_formatHex 0 number
  rwa [if_neg (by omega), digits] at read

theorem digit_toString {number : Nat} {c : Char} (member : c ∈ (toString number).toList) :
    ∃ digit < 10, c = Nat.digitChar digit := by
  rw [show toString number = Nat.repr number from rfl, Nat.toList_repr] at member
  exact mem_toDigits (by decide) member

theorem toString_injective {first second : Nat} (same : toString first = toString second) : first = second := by
  have digits : Nat.toDigits 10 first = Nat.toDigits 10 second := by
    rw [← Nat.toList_repr, ← Nat.toList_repr]
    exact congrArg String.toList same
  have read := congrArg (fun digits => Nat.ofDigitChars 10 digits 0) digits
  simpa using read

end PythonText
