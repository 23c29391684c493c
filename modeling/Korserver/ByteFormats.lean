import Mathlib.Data.List.Basic

/-!
Byte strings with a structure: big-endian numbers, DER elements behind their headers, and
the base64 text of a byte string.
-/

namespace ByteFormats

def bytesValue (digits : List UInt8) : Nat :=
  digits.foldl (fun value digit => value * 256 + digit.toNat) 0

/-- `header` opens a DER element with this single-byte tag and this length of its contents,
in the short form or in the long form with at most four digits. -/
inductive Header : UInt8 → Nat → List UInt8 → Prop
  | short (tag first : UInt8) (length : Nat) : length < 128 → first.toNat = length →
      Header tag length [tag, first]
  | long (tag first : UInt8) (digits : List UInt8) (length : Nat) : digits ≠ [] →
      digits.length ≤ 4 → first.toNat = 128 + digits.length → bytesValue digits = length →
        Header tag length (tag :: first :: digits)

/-- `bytes` is one DER element: a header, and contents of the announced length. -/
def Element (tag : UInt8) (content bytes : List UInt8) : Prop :=
  ∃ header, Header tag content.length header ∧ bytes = header ++ content

theorem Header.cons {tag : UInt8} {length : Nat} {header : List UInt8}
    (opens : Header tag length header) : ∃ first digits, header = tag :: first :: digits := by
  cases opens with
  | short first small value => exact ⟨_, _, rfl⟩
  | long first digits nonempty few count value => exact ⟨_, _, rfl⟩

theorem Element.cons {tag : UInt8} {content bytes : List UInt8}
    (element : Element tag content bytes) : ∃ rest, bytes = tag :: rest := by
  obtain ⟨header, opens, rfl⟩ := element
  obtain ⟨first, digits, rfl⟩ := opens.cons
  exact ⟨_, rfl⟩

def base64Alphabet : List Char :=
  "ABCDEFGHIJKLMNOPQRSTUVWXYZabcdefghijklmnopqrstuvwxyz0123456789+/".toList

def base64Digit (sextet : Nat) : Char := base64Alphabet.getD sextet '='

/-- Three bytes are four digits; a last group of one or two bytes is filled up with `=`. -/
def base64Chars : List UInt8 → List Char
  | [] => []
  | [a] => [base64Digit (a.toNat / 4), base64Digit (a.toNat % 4 * 16), '=', '=']
  | [a, b] =>
      [base64Digit (a.toNat / 4), base64Digit (a.toNat % 4 * 16 + b.toNat / 16),
        base64Digit (b.toNat % 16 * 4), '=']
  | a :: b :: c :: rest =>
      base64Digit (a.toNat / 4) :: base64Digit (a.toNat % 4 * 16 + b.toNat / 16) ::
        base64Digit (b.toNat % 16 * 4 + c.toNat / 64) :: base64Digit (c.toNat % 64) ::
          base64Chars rest

theorem base64Digit_eq {m n : Nat} (left : m < 64) (right : n < 64) :
    base64Digit m = base64Digit n ↔ m = n := by
  have distinct : ∀ m < 64, ∀ n < 64, base64Digit m = base64Digit n → m = n := by decide +kernel
  exact ⟨distinct m left n right, fun same => by rw [same]⟩

theorem base64Digit_ne_pad {n : Nat} (small : n < 64) : base64Digit n ≠ '=' := by
  have visible : ∀ n < 64, base64Digit n ≠ '=' := by decide +kernel
  exact visible n small

theorem byte_eq {a b : UInt8} (high : a.toNat / 4 = b.toNat / 4)
    (low : a.toNat % 4 = b.toNat % 4) : a = b :=
  UInt8.toNat_inj.mp (by omega)

theorem byte_div (a : UInt8) : a.toNat / 4 < 64 ∧ a.toNat / 16 < 16 ∧ a.toNat / 64 < 4 := by
  have bound := a.toNat_lt
  omega

theorem base64Chars_injective : Function.Injective base64Chars := by
  intro left
  induction left using base64Chars.induct with
  | case1 =>
      intro right same
      rcases right with _ | ⟨x, _ | ⟨y, _ | ⟨z, rest⟩⟩⟩ <;> simp [base64Chars] at same ⊢
  | case2 a =>
      intro right same
      have first := byte_div a
      rcases right with _ | ⟨x, _ | ⟨y, _ | ⟨z, rest⟩⟩⟩
      · simp [base64Chars] at same
      · have last := byte_div x
        simp only [base64Chars, List.cons.injEq, and_true] at same
        rw [base64Digit_eq first.1 last.1, base64Digit_eq (by omega) (by omega)] at same
        rw [byte_eq same.1 (by omega)]
      · simp only [base64Chars, List.cons.injEq] at same
        exact absurd same.2.2.1.symm (base64Digit_ne_pad (by omega))
      · have second := byte_div z
        simp only [base64Chars, List.cons.injEq] at same
        exact absurd same.2.2.1.symm (base64Digit_ne_pad (by omega))
  | case3 a b =>
      intro right same
      have first := byte_div a
      have second := byte_div b
      rcases right with _ | ⟨x, _ | ⟨y, _ | ⟨z, rest⟩⟩⟩
      · simp [base64Chars] at same
      · simp only [base64Chars, List.cons.injEq] at same
        exact absurd same.2.2.1 (base64Digit_ne_pad (by omega))
      · have third := byte_div x
        have fourth := byte_div y
        simp only [base64Chars, List.cons.injEq, and_true] at same
        rw [base64Digit_eq first.1 third.1, base64Digit_eq (by omega) (by omega),
          base64Digit_eq (by omega) (by omega)] at same
        rw [byte_eq same.1 (by omega), byte_eq (a := b) (b := y) (by omega) (by omega)]
      · simp only [base64Chars, List.cons.injEq] at same
        exact absurd same.2.2.2.1.symm (base64Digit_ne_pad (by omega))
  | case4 a b c rest ih =>
      intro right same
      have first := byte_div a
      have second := byte_div b
      have third := byte_div c
      rcases right with _ | ⟨x, _ | ⟨y, _ | ⟨z, rest'⟩⟩⟩
      · simp [base64Chars] at same
      · simp only [base64Chars, List.cons.injEq] at same
        exact absurd same.2.2.1 (base64Digit_ne_pad (by omega))
      · simp only [base64Chars, List.cons.injEq] at same
        exact absurd same.2.2.2.1 (base64Digit_ne_pad (by omega))
      · have fourth := byte_div x
        have fifth := byte_div y
        have sixth := byte_div z
        simp only [base64Chars, List.cons.injEq] at same
        rw [base64Digit_eq first.1 fourth.1, base64Digit_eq (by omega) (by omega),
          base64Digit_eq (by omega) (by omega), base64Digit_eq (by omega) (by omega)] at same
        rw [byte_eq same.1 (by omega), byte_eq (a := b) (b := y) (by omega) (by omega),
          byte_eq (a := c) (b := z) (by omega) (by omega), ih same.2.2.2.2]

end ByteFormats
