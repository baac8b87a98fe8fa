import Mathlib.Algebra.Order.Field.Power
import Mathlib.Tactic.FieldSimp
import Mathlib.Tactic.Linarith
import Mathlib.Tactic.Positivity
import Mathlib.Tactic.Ring
import RegistryStorage.Decimal.Double

/-!
What rounding to a double does.

The size of a double is a rational number. A quotient is rounded on the grid of the exponent that
`exponentFor` finds for it, and the quotient lies where that grid is as fine as 53 bits can be
(`exponentFor_spec`); so what comes out is half a step of the grid away at most (`ofRatio_spec`).
All else follows from this one fact: there is a double for every quotient that does not reach
`overflow`, half a step above the greatest double (`ofRatio_isSome`), and what is not tiny is
rounded by a factor close to one.
-/

set_option autoImplicit false

namespace RegistryStorage.Double

/-! ## Sizes -/

/-- The size of a double as a rational number. -/
def size (d : Double) : ℚ := d.mantissa * 2 ^ d.exponent

/-- A double that can be held: the mantissa has 53 bits at most, and the exponent is in its
range. -/
structure Finite (d : Double) : Prop where
  mantissa : d.mantissa < 2 ^ 53
  least : -1074 ≤ d.exponent
  greatest : d.exponent ≤ 971

theorem finite_zero (negative : Bool) : (zero negative).Finite :=
  ⟨Nat.two_pow_pos 53, le_refl _, by simp [zero]⟩

theorem size_zero (negative : Bool) : (zero negative).size = 0 := by
  simp [size, zero]

theorem size_nonneg (d : Double) : 0 ≤ d.size := by
  unfold size
  positivity

theorem powerOf_pos {base : ℕ} (hbase : 0 < base) (e : ℤ) :
    0 < (powerOf base e).1 ∧ 0 < (powerOf base e).2 := by
  unfold powerOf
  split
  · exact ⟨Nat.pow_pos hbase, Nat.one_pos⟩
  · exact ⟨Nat.one_pos, Nat.pow_pos hbase⟩

/-- The quotient that stands for a power is that power. -/
theorem powerOf_div (base : ℕ) (e : ℤ) :
    ((powerOf base e).1 : ℚ) / (powerOf base e).2 = (base : ℚ) ^ e := by
  unfold powerOf
  split
  · rename_i he
    lift e to ℕ using he
    simp
  · rename_i he
    obtain ⟨k, rfl⟩ : ∃ k : ℕ, e = -k := ⟨(-e).toNat, by omega⟩
    simp

theorem powerOfTwo_pos (e : ℤ) : 0 < (powerOfTwo e).1 ∧ 0 < (powerOfTwo e).2 :=
  powerOf_pos two_pos e

theorem powerOfTwo_div (e : ℤ) : ((powerOfTwo e).1 : ℚ) / (powerOfTwo e).2 = 2 ^ e :=
  powerOf_div 2 e

theorem ratio_div (d : Double) : (d.ratio.1 : ℚ) / d.ratio.2 = d.size := by
  have h := powerOfTwo_div d.exponent
  unfold ratio size
  dsimp only
  rw [Nat.cast_mul, mul_div_assoc, h]

theorem ratio_pos (d : Double) : 0 < d.ratio.2 := (powerOfTwo_pos d.exponent).2

/-! ## Rounding -/

/-- A quotient and the whole number it is rounded to are half apart at most. -/
theorem abs_roundHalfEven_sub_le (num : ℕ) {den : ℕ} (hden : 0 < den) :
    |(roundHalfEven num den : ℚ) - num / den| ≤ 1 / 2 := by
  have hround : 2 * (den * roundHalfEven num den) ≤ 2 * num + den ∧
      2 * num ≤ 2 * (den * roundHalfEven num den) + den := by
    have hsplit : den * (num / den) + num % den = num := Nat.div_add_mod num den
    have hlt : num % den < den := Nat.mod_lt num hden
    unfold roundHalfEven
    dsimp only
    split
    · omega
    split
    · rw [Nat.mul_add]
      omega
    · rcases Nat.mod_two_eq_zero_or_one (num / den) with heven | hodd
      · rw [heven, Nat.mul_add]
        omega
      · rw [hodd, Nat.mul_add]
        omega
  obtain ⟨habove, hbelow⟩ := hround
  have hpos : (0 : ℚ) < den := by exact_mod_cast hden
  have habove' : 2 * (den * (roundHalfEven num den : ℚ)) ≤ 2 * num + den := by exact_mod_cast habove
  have hbelow' : 2 * (num : ℚ) ≤ 2 * (den * roundHalfEven num den) + den := by
    exact_mod_cast hbelow
  rw [abs_le, neg_le_sub_iff_le_add, sub_le_iff_le_add, div_le_iff₀ hpos]
  constructor
  · linarith
  · rw [div_add_div _ _ two_ne_zero hpos.ne', le_div_iff₀ (by positivity)]
    linarith

/-- A positive number lies between two powers of two in a row. -/
theorem log2_bounds {n : ℕ} (hn : 0 < n) :
    (2 : ℚ) ^ (n.log2 : ℤ) ≤ n ∧ (n : ℚ) < 2 ^ ((n.log2 : ℤ) + 1) := by
  have hlow : 2 ^ n.log2 ≤ n := Nat.log2_self_le hn.ne'
  have hhigh : n < 2 ^ (n.log2 + 1) := Nat.lt_log2_self
  rw [← Nat.cast_succ, zpow_natCast, zpow_natCast]
  exact ⟨by exact_mod_cast hlow, by exact_mod_cast hhigh⟩

/-- A quotient is compared with a power of two without a division. -/
theorem lt_powerOfTwo_mul_iff (num : ℕ) {den : ℕ} (hden : 0 < den) (e : ℤ) (k : ℕ) :
    num * (powerOfTwo e).2 < den * (powerOfTwo e).1 * Nat.pow 2 k ↔
      (num : ℚ) / den < 2 ^ (e + k) := by
  have hpower := powerOfTwo_div e
  obtain ⟨-, hq⟩ := powerOfTwo_pos e
  have hden' : (0 : ℚ) < den := by exact_mod_cast hden
  have hq' : (0 : ℚ) < (powerOfTwo e).2 := by exact_mod_cast hq
  rw [zpow_add₀ two_ne_zero, zpow_natCast, ← hpower, div_mul_eq_mul_div, div_lt_div_iff₀ hden' hq']
  have hcast : (num * (powerOfTwo e).2 < den * (powerOfTwo e).1 * Nat.pow 2 k) ↔
      ((num * (powerOfTwo e).2 : ℕ) : ℚ) < (den * (powerOfTwo e).1 * 2 ^ k : ℕ) :=
    Nat.cast_lt.symm
  rw [hcast]
  push_cast
  rw [mul_comm (den : ℚ), mul_right_comm]

/-- **The exponent for a quotient leaves it 53 bits**, or it is the least one. -/
theorem exponentFor_spec {num den : ℕ} (hnum : 0 < num) (hden : 0 < den) :
    (num : ℚ) / den < 2 ^ (exponentFor num den + 53) ∧ -1074 ≤ exponentFor num den ∧
      (exponentFor num den = -1074 ∨ (2 : ℚ) ^ (exponentFor num den + 52) ≤ num / den) := by
  let first : ℤ := (num.log2 : ℤ) - den.log2 - 52
  obtain ⟨hnumLow, hnumHigh⟩ := log2_bounds hnum
  obtain ⟨hdenLow, hdenHigh⟩ := log2_bounds hden
  have hden' : (0 : ℚ) < den := by exact_mod_cast hden
  -- by the lengths alone the quotient is known up to a factor of four
  have hhigh : (num : ℚ) / den < 2 ^ (first + 53) := by
    have hsum : first + 53 = (num.log2 + 1 : ℤ) - den.log2 := by omega
    rw [hsum, zpow_sub₀ two_ne_zero, div_lt_div_iff₀ hden' (by positivity)]
    exact mul_lt_mul hnumHigh hdenLow (by positivity) (by positivity)
  have hlow : (2 : ℚ) ^ (first + 51) ≤ num / den := by
    have hsum : first + 51 = (num.log2 : ℤ) - (den.log2 + 1) := by omega
    rw [hsum, zpow_sub₀ two_ne_zero, div_le_div_iff₀ (by positivity) hden']
    exact mul_le_mul hnumLow hdenHigh.le (by positivity) (by positivity)
  let second : ℤ := if num * (powerOfTwo first).2 < den * (powerOfTwo first).1 * Nat.pow 2 52 then
    first - 1 else first
  have hsecond : exponentFor num den = max second (-1074) := rfl
  have hcompare := lt_powerOfTwo_mul_iff num hden first 52
  have hbounds : (num : ℚ) / den < 2 ^ (second + 53) ∧ (2 : ℚ) ^ (second + 52) ≤ num / den := by
    by_cases hless : num * (powerOfTwo first).2 < den * (powerOfTwo first).1 * Nat.pow 2 52
    · have hvalue : second = first - 1 := if_pos hless
      have hless' : first - 1 + 53 = first + 52 := by omega
      have hlow' : first - 1 + 52 = first + 51 := by omega
      rw [hvalue, hless', hlow']
      exact ⟨hcompare.1 hless, hlow⟩
    · have hvalue : second = first := if_neg hless
      rw [hvalue]
      exact ⟨hhigh, not_lt.1 fun h => hless (hcompare.2 h)⟩
  obtain ⟨hbelow, habove⟩ := hbounds
  rw [hsecond]
  refine ⟨hbelow.trans_le ?_, le_max_right _ _, ?_⟩
  · exact zpow_le_zpow_right₀ one_le_two (by omega)
  · rcases le_total (-1074) second with hle | hle
    · rw [max_eq_left hle]
      exact Or.inr habove
    · exact Or.inl (max_eq_right hle)

/-- A quotient is half a step of the grid away from what it is rounded to at most. -/
theorem abs_mantissaFor_sub_le (num : ℕ) {den : ℕ} (hden : 0 < den) (e : ℤ) :
    |(mantissaFor num den e : ℚ) * 2 ^ e - num / den| ≤ 2 ^ e / 2 := by
  obtain ⟨hp, -⟩ := powerOfTwo_pos e
  have hround := abs_roundHalfEven_sub_le (num * (powerOfTwo e).2) (Nat.mul_pos hden hp)
  have hstep : (0 : ℚ) < 2 ^ e := by positivity
  have hscaled : ((num * (powerOfTwo e).2 : ℕ) : ℚ) / (den * (powerOfTwo e).1 : ℕ) =
      num / den / 2 ^ e := by
    rw [← powerOfTwo_div e, div_div_div_eq]
    push_cast
    rfl
  rw [hscaled] at hround
  have hfactor : (mantissaFor num den e : ℚ) * 2 ^ e - num / den =
      (mantissaFor num den e - num / den / 2 ^ e) * 2 ^ e := by
    rw [sub_mul, div_mul_cancel₀ _ hstep.ne']
  rw [hfactor, abs_mul, abs_of_pos hstep]
  calc _ ≤ 1 / 2 * (2 : ℚ) ^ e := mul_le_mul_of_nonneg_right hround hstep.le
    _ = 2 ^ e / 2 := by ring

section OfRatio

variable {negative : Bool} {num den : ℕ} {d : Double}

/-- The mantissa of a quotient does not exceed 53 bits by more than a carry. -/
theorem mantissaFor_le (hnum : 0 < num) (hden : 0 < den) :
    mantissaFor num den (exponentFor num den) ≤ 2 ^ 53 := by
  obtain ⟨hbelow, -⟩ := exponentFor_spec hnum hden
  generalize exponentFor num den = e at hbelow ⊢
  obtain ⟨-, hnear⟩ := abs_le.1 (abs_mantissaFor_sub_le num hden e)
  have hstep : (0 : ℚ) < 2 ^ e := by positivity
  have hsplit : (2 : ℚ) ^ (e + 53) = 2 ^ 53 * 2 ^ e := by
    rw [zpow_add₀ two_ne_zero, mul_comm]
    norm_num
  have hlt : (mantissaFor num den e : ℚ) * 2 ^ e < (2 ^ 53 + 1) * 2 ^ e := by
    rw [hsplit] at hbelow
    linarith
  have hmantissa : (mantissaFor num den e : ℚ) < 2 ^ 53 + 1 := lt_of_mul_lt_mul_right hlt hstep.le
  exact Nat.lt_succ_iff.1 (by exact_mod_cast hmantissa)

/-- A mantissa with a carry stands for the same number, and is one that can be held. -/
theorem carry_spec {m : ℕ} {e : ℤ} (hm : m ≤ 2 ^ 53) (he : -1074 ≤ e)
    (h : carry negative m e = some d) : d.Finite ∧ d.size = m * 2 ^ e := by
  unfold carry at h
  split at h
  · rename_i hcarry
    split at h
    · cases h
    · rename_i hle
      cases h
      have hlt : Nat.pow 2 52 < 2 ^ 53 := Nat.pow_lt_pow_right one_lt_two (Nat.lt_succ_self 52)
      refine ⟨⟨hlt, he.trans (lt_add_one e).le, not_lt.1 hle⟩, ?_⟩
      show ((Nat.pow 2 52 : ℕ) : ℚ) * 2 ^ (e + 1) = m * 2 ^ e
      rw [hcarry, Nat.pow_eq, Nat.pow_eq, zpow_add_one₀ two_ne_zero]
      push_cast
      ring
  · rename_i hcarry
    split at h
    · cases h
    · rename_i hle
      cases h
      exact ⟨⟨lt_of_le_of_ne hm hcarry, he, not_lt.1 hle⟩, rfl⟩

/-- **What rounding gives**: a double that can be held, and half a step away at most. -/
theorem ofRatio_spec (hnum : 0 < num) (hden : 0 < den) (h : ofRatio negative num den = some d) :
    d.Finite ∧ |d.size - num / den| ≤ 2 ^ exponentFor num den / 2 := by
  obtain ⟨-, hleast, -⟩ := exponentFor_spec hnum hden
  unfold ofRatio at h
  rw [if_neg hnum.ne'] at h
  obtain ⟨hfinite, hsize⟩ := carry_spec (mantissaFor_le hnum hden) hleast h
  rw [hsize]
  exact ⟨hfinite, abs_mantissaFor_sub_le num hden _⟩

/-- The first number that is too great for a double. -/
def overflow : ℚ := (2 ^ 53 - 1 / 2) * 2 ^ (971 : ℤ)

/-- **There is a double for every quotient that is not too great.** -/
theorem ofRatio_isSome (negative : Bool) (num : ℕ) (hden : 0 < den)
    (h : (num : ℚ) / den < overflow) : (ofRatio negative num den).isSome = true := by
  rcases Nat.eq_zero_or_pos num with rfl | hnum
  · rfl
  obtain ⟨-, -, hexponent⟩ := exponentFor_spec hnum hden
  have hnear := abs_mantissaFor_sub_le num hden (exponentFor num den)
  have hstep : (0 : ℚ) < 2 ^ (971 : ℤ) := by positivity
  unfold overflow at h
  unfold ofRatio
  rw [if_neg hnum.ne']
  dsimp only
  generalize exponentFor num den = e at *
  -- a greater exponent would mean a greater quotient
  have hle : e ≤ 971 := by
    by_contra hgt
    have hfar : (2 : ℚ) ^ (e + 52) ≤ num / den := hexponent.resolve_left (by omega)
    have hmore : (2 : ℚ) ^ (53 + 971 : ℤ) ≤ 2 ^ (e + 52) :=
      zpow_le_zpow_right₀ one_le_two (by omega)
    rw [zpow_add₀ two_ne_zero, zpow_ofNat] at hmore
    generalize (2 : ℚ) ^ (971 : ℤ) = step at *
    linarith
  unfold carry
  split
  · rename_i hcarry
    have hne : e ≠ 971 := by
      rintro rfl
      generalize (2 : ℚ) ^ (971 : ℤ) = step at *
      rw [hcarry, Nat.pow_eq] at hnear
      push_cast at hnear
      linarith [(abs_le.1 hnear).2]
    rw [if_neg (by omega)]
    rfl
  · rw [if_neg (by omega)]
    rfl

/-- **What is not tiny is rounded by a factor close to one.** -/
theorem size_of_ofRatio (hden : 0 < den) (h : ofRatio negative num den = some d)
    (hone : (1 : ℚ) ≤ num / den) :
    (num : ℚ) / den / 2 ≤ d.size ∧ d.size ≤ num / den * (1 + 1 / 2 ^ 53) := by
  have hnum : 0 < num := by
    rcases Nat.eq_zero_or_pos num with rfl | hnum
    · norm_num at hone
    · exact hnum
  obtain ⟨hbelow, -, hexponent⟩ := exponentFor_spec hnum hden
  obtain ⟨-, hnear⟩ := ofRatio_spec hnum hden h
  obtain ⟨hlow, hhigh⟩ := abs_le.1 hnear
  generalize exponentFor num den = e at *
  have hfar : (2 : ℚ) ^ (e + 52) ≤ num / den := by
    refine hexponent.resolve_left ?_
    rintro rfl
    have htiny : (2 : ℚ) ^ (-1074 + 53 : ℤ) ≤ 2 ^ (0 : ℤ) :=
      zpow_le_zpow_right₀ one_le_two (by norm_num)
    rw [zpow_zero] at htiny
    exact absurd (hone.trans_lt (hbelow.trans_le htiny)) (lt_irrefl 1)
  rw [zpow_add₀ two_ne_zero, zpow_ofNat] at hfar
  constructor
  · linarith
  · linarith

/-- What is tiny may be rounded by more, but then stays small. -/
theorem size_le_of_ofRatio (hden : 0 < den) (h : ofRatio negative num den = some d) :
    d.size ≤ 2 * (num / den) + 1 := by
  rcases Nat.eq_zero_or_pos num with rfl | hnum
  · cases h
    rw [size_zero]
    norm_num
  obtain ⟨-, -, hexponent⟩ := exponentFor_spec hnum hden
  obtain ⟨-, hhigh⟩ := abs_le.1 (ofRatio_spec hnum hden h).2
  generalize exponentFor num den = e at *
  have hquotient : (0 : ℚ) ≤ num / den := by positivity
  have hstep : (2 : ℚ) ^ e ≤ num / den + 1 := by
    rcases hexponent with rfl | hfar
    · have htiny : (2 : ℚ) ^ (-1074 : ℤ) ≤ 2 ^ (0 : ℤ) :=
        zpow_le_zpow_right₀ one_le_two (by norm_num)
      rw [zpow_zero] at htiny
      linarith
    · rw [zpow_add₀ two_ne_zero, zpow_ofNat] at hfar
      have hpos : (0 : ℚ) < 2 ^ e := by positivity
      linarith
  linarith

theorem finite_of_ofRatio (hden : 0 < den) (h : ofRatio negative num den = some d) : d.Finite := by
  rcases Nat.eq_zero_or_pos num with rfl | hnum
  · cases h
    exact finite_zero negative
  · exact (ofRatio_spec hnum hden h).1

end OfRatio

/-! ## Products and quotients -/

section Arithmetic

variable {a b d : Double}

theorem mul_eq (a b : Double) :
    a.mul b = ofRatio (a.negative != b.negative) (a.ratio.1 * b.ratio.1) (a.ratio.2 * b.ratio.2) :=
  rfl

theorem div_eq (a b : Double) :
    a.div b = ofRatio (a.negative != b.negative) (a.ratio.1 * b.ratio.2) (a.ratio.2 * b.ratio.1) :=
  rfl

theorem mul_isSome (h : a.size * b.size < overflow) : (a.mul b).isSome = true := by
  rw [mul_eq]
  refine ofRatio_isSome _ _ (Nat.mul_pos a.ratio_pos b.ratio_pos) ?_
  rwa [Nat.cast_mul, Nat.cast_mul, mul_div_mul_comm, ratio_div, ratio_div]

theorem finite_of_mul (h : a.mul b = some d) : d.Finite :=
  finite_of_ofRatio (Nat.mul_pos a.ratio_pos b.ratio_pos) h

/-- The numbers that are divided for a quotient of doubles. -/
theorem div_ratio (hb : 0 < b.size) : 0 < a.ratio.2 * b.ratio.1 ∧
    ((a.ratio.1 * b.ratio.2 : ℕ) : ℚ) / (a.ratio.2 * b.ratio.1 : ℕ) = a.size / b.size := by
  have hquotient := b.ratio_div
  have hpos : 0 < b.ratio.1 := by
    rcases Nat.eq_zero_or_pos b.ratio.1 with hzero | hpos
    · rw [← hquotient, hzero, Nat.cast_zero, zero_div] at hb
      exact absurd hb (lt_irrefl 0)
    · exact hpos
  refine ⟨Nat.mul_pos a.ratio_pos hpos, ?_⟩
  rw [Nat.cast_mul, Nat.cast_mul, mul_comm (a.ratio.2 : ℚ), ← a.ratio_div, ← hquotient,
    div_div_div_eq, mul_comm (b.ratio.1 : ℚ)]

theorem div_isSome (hb : 0 < b.size) (h : a.size / b.size < overflow) :
    (a.div b).isSome = true := by
  obtain ⟨hpos, hquotient⟩ := div_ratio (a := a) hb
  rw [div_eq]
  exact ofRatio_isSome _ _ hpos (hquotient ▸ h)

theorem finite_of_div (hb : 0 < b.size) (h : a.div b = some d) : d.Finite :=
  finite_of_ofRatio (div_ratio hb).1 h

theorem size_le_of_div (hb : 0 < b.size) (h : a.div b = some d) :
    d.size ≤ 2 * (a.size / b.size) + 1 := by
  obtain ⟨hpos, hquotient⟩ := div_ratio (a := a) hb
  rw [div_eq] at h
  rw [← hquotient]
  exact size_le_of_ofRatio hpos h

end Arithmetic

end RegistryStorage.Double
