import Mathlib.Data.Int.Log
import Mathlib.Data.Rat.Floor
import Mathlib.Tactic.Linarith
import Mathlib.Tactic.Ring

/-!
Numbers with 53 binary digits: what the sum of two of them is rounded to. The exponent has no upper end.
-/

namespace Doubles

/-- The nearest integer, and of two the even one. -/
def nearestInt (x : ℚ) : ℤ :=
  if x - ⌊x⌋ < 1 / 2 then ⌊x⌋
  else if 1 / 2 < x - ⌊x⌋ then ⌊x⌋ + 1
  else if ⌊x⌋ % 2 = 0 then ⌊x⌋ else ⌊x⌋ + 1

def lastExponent (x : ℚ) : ℤ := max (Int.log 2 |x| - 52) (-1074)

/-- The double that is nearest to a number, and of two the even one. -/
def toDouble (x : ℚ) : ℚ := nearestInt (x / 2 ^ lastExponent x) * 2 ^ lastExponent x

/-- A double and an integer, which is made a double first. -/
def plus (x : ℚ) (n : ℤ) : ℚ := toDouble (x + toDouble n)

def minus (x y : ℚ) : ℚ := toDouble (x - y)

/-- Integers of this size and more are past the largest double. -/
@[irreducible] def integerLimit : Nat := 2 ^ 970 * (2 ^ 54 - 1)

theorem integerLimit_pos : 0 < integerLimit := by
  unfold integerLimit
  exact mul_pos (pow_pos (by decide) 970) (by decide)

structure Arithmetic where
  plus : ℚ → ℤ → ℚ
  minus : ℚ → ℚ → ℚ

def exactly : Arithmetic := { plus := fun x n => x + n, minus := fun x y => x - y }

def rounded : Arithmetic := { plus, minus }

example : toDouble (1 / 10) = 3602879701896397 / 2 ^ 55 := by decide +kernel

structure Nearest (x : ℚ) (n : ℤ) : Prop where
  close : |x - n| ≤ 1 / 2
  even : |x - n| = 1 / 2 → n % 2 = 0

theorem nearest_nearestInt (x : ℚ) : Nearest x (nearestInt x) := by
  have low := Int.floor_le x
  have high := Int.lt_floor_add_one x
  have above : 0 ≤ x - ⌊x⌋ := by linarith
  have below : x - (⌊x⌋ + 1) ≤ 0 := by linarith
  unfold nearestInt
  split
  · rename_i near
    refine ⟨?_, fun tie => ?_⟩
    · rw [abs_of_nonneg above]
      exact near.le
    · rw [abs_of_nonneg above] at tie
      exact absurd tie near.ne
  · rename_i notNear
    split
    · rename_i far
      constructor
      · push_cast
        rw [abs_of_nonpos below]
        linarith
      · intro tie
        push_cast at tie
        rw [abs_of_nonpos below] at tie
        linarith
    · rename_i notFar
      have half : x - ⌊x⌋ = 1 / 2 := le_antisymm (not_lt.mp notFar) (not_lt.mp notNear)
      split
      · rename_i even
        exact ⟨by rw [abs_of_nonneg above, half], fun _ => even⟩
      · rename_i odd
        constructor
        · push_cast
          rw [abs_of_nonpos below]
          linarith
        · intro _
          omega

theorem Nearest.mono {x y : ℚ} {m n : ℤ} (first : Nearest x m) (second : Nearest y n) (le : x ≤ y) : m ≤ n := by
  by_contra above
  have apart : (n : ℚ) + 1 ≤ m := by exact_mod_cast Int.not_le.mp above
  have lower := (abs_le.mp first.close).1
  have upper := (abs_le.mp second.close).2
  have tie : x - m = -(1 / 2) := by linarith
  have tie' : y - n = 1 / 2 := by linarith
  have adjacent : (m : ℚ) = n + 1 := by linarith
  have evenM := first.even (by rw [tie, abs_neg, abs_of_nonneg (by norm_num)])
  have evenN := second.even (by rw [tie', abs_of_nonneg (by norm_num)])
  have successor : m = n + 1 := by exact_mod_cast adjacent
  omega

theorem Nearest.unique {x : ℚ} {m n : ℤ} (first : Nearest x m) (second : Nearest x n) : m = n :=
  le_antisymm (first.mono second le_rfl) (second.mono first le_rfl)

theorem Nearest.neg {x : ℚ} {n : ℤ} (nearest : Nearest x n) : Nearest (-x) (-n) := by
  have same : |-x - ((-n : ℤ) : ℚ)| = |x - n| := by
    rw [← abs_neg]
    congr 1
    push_cast
    ring
  refine ⟨by rw [same]; exact nearest.close, fun tie => ?_⟩
  have even := nearest.even (by rw [← same]; exact tie)
  omega

theorem nearestInt_mono {x y : ℚ} (le : x ≤ y) : nearestInt x ≤ nearestInt y :=
  (nearest_nearestInt x).mono (nearest_nearestInt y) le

theorem nearestInt_neg (x : ℚ) : nearestInt (-x) = -nearestInt x :=
  (nearest_nearestInt (-x)).unique (nearest_nearestInt x).neg

theorem nearestInt_intCast (n : ℤ) : nearestInt n = n :=
  (nearest_nearestInt n).unique ⟨by simp, fun tie => by norm_num at tie⟩

theorem base_pos (x : ℚ) : (0 : ℚ) < 2 ^ lastExponent x := zpow_pos (by norm_num) _

theorem lastExponent_neg (x : ℚ) : lastExponent (-x) = lastExponent x := by
  rw [lastExponent, lastExponent, abs_neg]

theorem toDouble_neg (x : ℚ) : toDouble (-x) = -toDouble x := by
  rw [toDouble, toDouble, lastExponent_neg, neg_div, nearestInt_neg]
  push_cast
  ring

theorem toDouble_nonneg {x : ℚ} (nonneg : 0 ≤ x) : 0 ≤ toDouble x := by
  have zero := nearestInt_mono (div_nonneg nonneg (base_pos x).le)
  rw [show (0 : ℚ) = ((0 : ℤ) : ℚ) by simp, nearestInt_intCast] at zero
  exact mul_nonneg (by exact_mod_cast zero) (base_pos x).le

theorem toDouble_zero : toDouble 0 = 0 := by decide +kernel

theorem lt_digits {x : ℚ} (positive : 0 < x) : x < 2 ^ (lastExponent x + 53) := by
  have bound := Int.lt_zpow_succ_log_self (b := 2) (by norm_num) x
  rw [Nat.cast_ofNat] at bound
  refine bound.trans_le (zpow_le_zpow_right₀ (by norm_num) ?_)
  rw [lastExponent, abs_of_pos positive]
  omega

theorem toDouble_le_digits {x : ℚ} (positive : 0 < x) : toDouble x ≤ 2 ^ (lastExponent x + 53) := by
  have base := base_pos x
  have quotient : x / 2 ^ lastExponent x ≤ ((2 ^ 53 : ℤ) : ℚ) := by
    rw [div_le_iff₀ base]
    refine (lt_digits positive).le.trans (le_of_eq ?_)
    rw [zpow_add₀ (by norm_num)]
    push_cast
    ring
  have rounded := nearestInt_mono quotient
  rw [nearestInt_intCast] at rounded
  have cast : (nearestInt (x / 2 ^ lastExponent x) : ℚ) ≤ 2 ^ 53 := by exact_mod_cast rounded
  rw [toDouble, zpow_add₀ (by norm_num), mul_comm (2 ^ lastExponent x : ℚ)]
  exact mul_le_mul_of_nonneg_right (by simpa using cast) base.le

theorem digits_le_toDouble {x : ℚ} (positive : 0 < x) (normal : -1074 < lastExponent x) :
    2 ^ (lastExponent x + 52) ≤ toDouble x := by
  have base := base_pos x
  have exponent : lastExponent x + 52 = Int.log 2 x := by
    rw [lastExponent, abs_of_pos positive] at normal ⊢
    omega
  have bound := Int.zpow_log_le_self (b := 2) (by norm_num) positive
  rw [Nat.cast_ofNat, ← exponent, zpow_add₀ (by norm_num)] at bound
  have quotient : ((2 ^ 52 : ℤ) : ℚ) ≤ x / 2 ^ lastExponent x := by
    rw [le_div_iff₀ base]
    refine (le_of_eq ?_).trans bound
    push_cast
    ring
  have rounded := nearestInt_mono quotient
  rw [nearestInt_intCast] at rounded
  have cast : (2 ^ 52 : ℚ) ≤ nearestInt (x / 2 ^ lastExponent x) := by exact_mod_cast rounded
  rw [toDouble, zpow_add₀ (by norm_num), mul_comm (2 ^ lastExponent x : ℚ)]
  exact mul_le_mul_of_nonneg_right (by simpa using cast) base.le

theorem lastExponent_mono {x y : ℚ} (positive : 0 < x) (le : x ≤ y) : lastExponent x ≤ lastExponent y := by
  rw [lastExponent, lastExponent, abs_of_pos positive, abs_of_pos (positive.trans_le le)]
  exact max_le_max_right _ (sub_le_sub_right (Int.log_mono_right positive le) _)

theorem toDouble_mono_of_pos {x y : ℚ} (positive : 0 < x) (le : x ≤ y) : toDouble x ≤ toDouble y := by
  rcases (lastExponent_mono positive le).eq_or_lt with same | smaller
  · rw [toDouble, toDouble, same]
    have base := base_pos y
    have rounded := nearestInt_mono (div_le_div_of_nonneg_right le base.le)
    exact mul_le_mul_of_nonneg_right (by exact_mod_cast rounded) base.le
  · -- a power of two lies between the two
    have normal : -1074 < lastExponent y := lt_of_le_of_lt (le_max_right _ _) smaller
    calc toDouble x ≤ 2 ^ (lastExponent x + 53) := toDouble_le_digits positive
      _ ≤ 2 ^ (lastExponent y + 52) := zpow_le_zpow_right₀ (by norm_num) (by omega)
      _ ≤ toDouble y := digits_le_toDouble (positive.trans_le le) normal

theorem toDouble_mono {x y : ℚ} (le : x ≤ y) : toDouble x ≤ toDouble y := by
  rcases lt_trichotomy x 0 with negative | rfl | positive
  · rcases lt_or_ge y 0 with below | nonneg
    · have flipped := toDouble_mono_of_pos (neg_pos.mpr below) (neg_le_neg le)
      rw [toDouble_neg, toDouble_neg] at flipped
      exact neg_le_neg_iff.mp flipped
    · have above := toDouble_nonneg (neg_nonneg.mpr negative.le)
      rw [toDouble_neg] at above
      exact (neg_nonneg.mp above).trans (toDouble_nonneg nonneg)
  · rw [toDouble_zero]
    exact toDouble_nonneg le
  · exact toDouble_mono_of_pos positive le

/-- A multiple of a power of two is kept if its last exponent is no higher than that power. -/
theorem toDouble_multiple {x : ℚ} {n e : ℤ} (multiple : x = n * 2 ^ e) (fine : lastExponent x ≤ e) :
    toDouble x = x := by
  have whole : x / 2 ^ lastExponent x = ((n * 2 ^ (e - lastExponent x).toNat : ℤ) : ℚ) := by
    push_cast
    rw [div_eq_iff (base_pos x).ne', mul_assoc, ← zpow_natCast, ← zpow_add₀ (by norm_num),
      Int.toNat_of_nonneg (by omega), sub_add_cancel]
    exact multiple
  rw [toDouble, whole, nearestInt_intCast, ← whole, div_mul_cancel₀ _ (base_pos x).ne']

theorem lastExponent_le {x : ℚ} {e : ℤ} (positive : 0 < x) (normal : -1074 ≤ e) (digits : x < 2 ^ (e + 53)) :
    lastExponent x ≤ e := by
  have log := (Int.lt_zpow_iff_log_lt (b := 2) (by norm_num) positive).mp (by exact_mod_cast digits)
  rw [lastExponent, abs_of_pos positive]
  omega

theorem toDouble_pow (k : ℕ) : toDouble (2 ^ k) = 2 ^ k := by
  have positive : (0 : ℚ) < 2 ^ k := by positivity
  refine toDouble_multiple (n := 1) (e := k) (by simp) (lastExponent_le positive (by omega) ?_)
  rw [← zpow_natCast]
  exact zpow_lt_zpow_right₀ (by norm_num) (by omega)

theorem toDouble_toDouble_of_pos {x : ℚ} (positive : 0 < x) : toDouble (toDouble x) = toDouble x := by
  have normal : -1074 ≤ lastExponent x := le_max_right _ _
  rcases (toDouble_nonneg positive.le).eq_or_lt with zero | above
  · rw [← zero, toDouble_zero]
  · rcases (toDouble_le_digits positive).eq_or_lt with power | digits
    · -- rounded up to the next power of two, which has one digit only
      refine toDouble_multiple (n := 1) (e := lastExponent x + 53) (by rw [power]; simp) ?_
      refine (lastExponent_le (e := lastExponent x + 1) above (by omega) ?_).trans (by omega)
      rw [power]
      exact zpow_lt_zpow_right₀ (by norm_num) (by omega)
    · exact toDouble_multiple rfl (lastExponent_le above normal digits)

theorem toDouble_toDouble (x : ℚ) : toDouble (toDouble x) = toDouble x := by
  rcases lt_trichotomy x 0 with negative | rfl | positive
  · have flipped := toDouble_toDouble_of_pos (neg_pos.mpr negative)
    rw [toDouble_neg, toDouble_neg] at flipped
    exact neg_inj.mp flipped
  · rw [toDouble_zero, toDouble_zero]
  · exact toDouble_toDouble_of_pos positive

theorem toDouble_plus (x : ℚ) (n : ℤ) : toDouble (plus x n) = plus x n := toDouble_toDouble _

theorem minus_mono {x y : ℚ} (le : x ≤ y) (z : ℚ) : minus x z ≤ minus y z :=
  toDouble_mono (sub_le_sub_right le z)

theorem exists_late (x : ℚ) (n : ℕ) : ∃ now, toDouble now = now ∧ (n : ℚ) ≤ minus now x := by
  obtain ⟨k, above⟩ : ∃ k : ℕ, max x n < 2 ^ k := by
    refine ⟨⌈max x n⌉₊, (Nat.le_ceil _).trans_lt ?_⟩
    exact_mod_cast Nat.lt_two_pow_self
  refine ⟨2 ^ (k + 1), toDouble_pow (k + 1), ?_⟩
  have apart : (2 : ℚ) ^ k ≤ 2 ^ (k + 1) - x := by
    have below := (le_max_left x (n : ℚ)).trans above.le
    rw [pow_succ]
    linarith
  calc (n : ℚ) ≤ 2 ^ k := (le_max_right x (n : ℚ)).trans above.le
    _ = toDouble (2 ^ k) := (toDouble_pow k).symm
    _ ≤ minus (2 ^ (k + 1)) x := toDouble_mono apart

theorem le_plus {x y : ℚ} {n : ℤ} (double : toDouble x = x) (le : x ≤ y) (nonneg : 0 ≤ n) : x ≤ plus y n := by
  have more : 0 ≤ toDouble (n : ℚ) := toDouble_nonneg (by exact_mod_cast nonneg)
  rw [← double]
  exact toDouble_mono (le_add_of_le_of_nonneg le more)

end Doubles
