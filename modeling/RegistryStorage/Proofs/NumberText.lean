import RegistryStorage.Proofs.JsonText
import RegistryStorage.Proofs.Rounding

/-!
Numbers, written and read.

Every number that can be held is written so that it is read as a number again (`Number.Held.read`),
and whatever was read can be held (`Number.held_of_ofNumeral?`). That is plain for whole numbers. A
double is written as its shortest decimal number, which lies half a step above the double at most
(`Double.value_shortest_le`); the reader then rounds three times: the word that the digits make, the
power of ten, and their product. `Number.safe` leaves room for the last two roundings, and what is
not safe among the decimal numbers that are written belongs to one of the three greatest doubles,
for which the reader is run (`Number.ofNumeral?_greatest`).

Nothing here says that a double is read back as itself. The reader may miss it by a step.
-/

set_option autoImplicit false

namespace RegistryStorage

/-! ## The shortest decimal number -/

/-- The rational number that a decimal number is. -/
def Decimal.value (n : Decimal) : ℚ := n.digits * 10 ^ n.power

namespace Double

variable {d : Double} {n : Decimal}

theorem powerOfTen_pos (e : ℤ) : 0 < (powerOfTen e).1 ∧ 0 < (powerOfTen e).2 :=
  powerOf_pos (by decide) e

theorem powerOfTen_div (e : ℤ) : ((powerOfTen e).1 : ℚ) / (powerOfTen e).2 = 10 ^ e :=
  powerOf_div 10 e

/-- A decimal number that rounds to a double is half a step above it at most. -/
theorem value_le_of_reads (h : d.reads n = true) :
    n.value ≤ (d.mantissa + 1 / 2) * 2 ^ d.exponent := by
  have habove : n.digits * (powerOfTen n.power).1 * (powerOfTwo (d.exponent - 2)).2 ≤
      (4 * d.mantissa + 2) * ((powerOfTen n.power).2 * (powerOfTwo (d.exponent - 2)).1) := by
    unfold reads at h
    dsimp only at h
    split at h
    · rw [Bool.and_eq_true, decide_eq_true_eq, decide_eq_true_eq] at h
      exact h.2
    · rw [Bool.and_eq_true, decide_eq_true_eq, decide_eq_true_eq] at h
      exact h.2.le
  obtain ⟨-, hb⟩ := powerOfTen_pos n.power
  obtain ⟨-, hq⟩ := powerOfTwo_pos (d.exponent - 2)
  have hb' : (0 : ℚ) < (powerOfTen n.power).2 := by exact_mod_cast hb
  have hq' : (0 : ℚ) < (powerOfTwo (d.exponent - 2)).2 := by exact_mod_cast hq
  have hstep : (2 : ℚ) ^ d.exponent = 4 * 2 ^ (d.exponent - 2) := by
    rw [zpow_sub₀ two_ne_zero]
    norm_num
    ring
  have hmiddle : ((d.mantissa : ℚ) + 1 / 2) * 2 ^ d.exponent =
      (4 * d.mantissa + 2) * (powerOfTwo (d.exponent - 2)).1 / (powerOfTwo (d.exponent - 2)).2 := by
    rw [hstep, ← powerOfTwo_div (d.exponent - 2)]
    ring
  rw [Decimal.value, ← powerOfTen_div n.power, hmiddle, mul_div_assoc', div_le_div_iff₀ hb' hq',
    mul_assoc (4 * (d.mantissa : ℚ) + 2), mul_comm ((powerOfTwo (d.exponent - 2)).1 : ℚ)]
  exact_mod_cast habove

/-- A decimal number of a grid rounds to the double, and has digits. -/
theorem reads_of_onGrid {power : ℤ} (h : d.onGrid power = some n) :
    d.reads n = true ∧ 0 < n.digits := by
  unfold onGrid at h
  dsimp only at h
  generalize d.ratio.1 * (powerOfTen power).2 / (d.ratio.2 * (powerOfTen power).1) = low at h
  have hlower : (decide (0 < low) && d.reads ⟨low, power⟩) = true →
      d.reads ⟨low, power⟩ = true ∧ 0 < low := by
    intro hread
    rw [Bool.and_eq_true, decide_eq_true_eq] at hread
    exact hread.symm
  split at h
  · rename_i hlow hupper
    obtain ⟨hread, hpos⟩ := hlower hlow
    cases h
    split
    · exact ⟨hread, hpos⟩
    · exact ⟨hupper, low.succ_pos⟩
  · rename_i hlow _
    cases h
    exact hlower hlow
  · rename_i _ hupper
    cases h
    exact ⟨hupper, low.succ_pos⟩
  · cases h

/-- What comes out of the search rounds to the double, or is its mantissa below all grids. -/
theorem shortestFrom_cases (d : Double) (count : ℕ) (power : ℤ) :
    (d.reads (d.shortestFrom count power) = true ∧ 0 < (d.shortestFrom count power).digits) ∨
      d.shortestFrom count power = ⟨d.mantissa, power - count⟩ := by
  induction count generalizing power with
  | zero =>
    right
    rw [shortestFrom, Nat.cast_zero, sub_zero]
  | succ count ih =>
    rw [shortestFrom]
    split
    · rename_i n hgrid
      exact Or.inl (reads_of_onGrid hgrid)
    · rw [Nat.cast_succ, add_comm, ← sub_sub]
      exact ih (power - 1)

/-- Zeros at the end of a decimal number are not lost. -/
theorem value_stripZeros (digits : ℕ) (power : ℤ) :
    (stripZeros digits power).value = digits * 10 ^ power := by
  fun_induction stripZeros digits power with
  | case1 digits power h ih =>
    have hdigits : digits = digits / 10 * 10 := by omega
    rw [ih, zpow_add_one₀ (by norm_num)]
    conv_rhs => rw [hdigits]
    push_cast
    ring
  | case2 digits power h => rfl

theorem stripZeros_pos {digits : ℕ} (power : ℤ) (h : 0 < digits) :
    0 < (stripZeros digits power).digits := by
  fun_induction stripZeros digits power with
  | case1 digits power hzero ih => exact ih (by omega)
  | case2 digits power hzero => exact h

/-- The numerator of a double has no more bits than mantissa and exponent give it. -/
theorem log2_ratio_lt (hd : d.Finite) {k : ℕ} (hk : d.exponent ≤ k) :
    d.ratio.1.log2 < 53 + k := by
  have hpower : (powerOfTwo d.exponent).1 ≤ 2 ^ k := by
    unfold powerOfTwo powerOf
    split
    · exact Nat.pow_le_pow_right two_pos (by omega)
    · exact Nat.one_le_two_pow
  have hsize : d.ratio.1 < 2 ^ (53 + k) := by
    rw [pow_add]
    exact Nat.mul_lt_mul_of_lt_of_le hd.mantissa hpower (Nat.two_pow_pos k)
  rcases Nat.eq_zero_or_pos d.ratio.1 with hzero | hpos
  · rw [hzero, Nat.log2_zero]
    omega
  · exact (Nat.log2_lt hpos.ne').2 hsize

/-- The first digit of a double stands for no more than the 308th power of ten. -/
theorem leadingPower_le (hd : d.Finite) : d.leadingPower ≤ 308 := by
  have hlength : d.ratio.1.log2 < 53 + 971 := log2_ratio_lt hd hd.greatest
  unfold leadingPower
  dsimp only
  have hguess : ((d.ratio.1.log2 : ℤ) - d.ratio.2.log2) * 30103 / 100000 - 1 ≤ 306 := by omega
  generalize ((d.ratio.1.log2 : ℤ) - d.ratio.2.log2) * 30103 / 100000 - 1 = guess at *
  repeat' split
  all_goals omega

/-- **The shortest decimal number of a double is not far above it**, unless the double is very
small. -/
theorem value_shortest_le (hd : d.Finite) (hpos : 0 < d.mantissa) :
    0 < d.shortest.digits ∧ (d.shortest.value ≤ (d.mantissa + 1 / 2) * 2 ^ d.exponent ∨
      d.shortest.value ≤ 2 ^ 53 * 10 ^ (290 : ℤ)) := by
  unfold shortest
  rw [if_neg hpos.ne']
  dsimp only
  rw [value_stripZeros]
  rcases shortestFrom_cases d 18 d.leadingPower with ⟨hreads, hdigits⟩ | hfallback
  · exact ⟨stripZeros_pos _ hdigits, Or.inl (value_le_of_reads hreads)⟩
  · rw [hfallback]
    refine ⟨stripZeros_pos _ hpos, Or.inr ?_⟩
    have hmantissa : (d.mantissa : ℚ) ≤ 2 ^ 53 := by exact_mod_cast hd.mantissa.le
    have hpower : (10 : ℚ) ^ (d.leadingPower - (18 : ℕ)) ≤ 10 ^ (290 : ℤ) :=
      zpow_le_zpow_right₀ (by norm_num) (by have := leadingPower_le hd; omega)
    exact mul_le_mul hmantissa hpower (by positivity) (by positivity)

end Double

/-! ## Digits -/

namespace Json

namespace Numeral

/-- What comes of reading digits after a number. -/
theorem foldl_digits (ds : List Digit) (word : ℕ) :
    ds.foldl (fun n d => 10 * n + d.val) word = word * 10 ^ ds.length + ofDigits ds := by
  induction ds generalizing word with
  | nil => simp [ofDigits]
  | cons d ds ih =>
    have hdigits : ofDigits (d :: ds) = d.val * 10 ^ ds.length + ofDigits ds := by
      rw [ofDigits, List.foldl_cons, Nat.mul_zero, Nat.zero_add, ih]
    rw [List.foldl_cons, ih, hdigits, List.length_cons, pow_succ]
    ring

theorem ofDigits_append (ds es : List Digit) :
    ofDigits (ds ++ es) = ofDigits ds * 10 ^ es.length + ofDigits es := by
  rw [ofDigits, List.foldl_append, foldl_digits]
  rfl

theorem ofDigits_cons (d : Digit) (ds : List Digit) :
    ofDigits (d :: ds) = d.val * 10 ^ ds.length + ofDigits ds := by
  rw [← List.singleton_append, ofDigits_append, ofDigits, List.foldl_cons, List.foldl_nil,
    Nat.mul_zero, Nat.zero_add]

theorem ofDigits_lt (ds : List Digit) : ofDigits ds < 10 ^ ds.length := by
  induction ds with
  | nil => exact Nat.one_pos
  | cons d ds ih =>
    have hd : d.val ≤ 9 := by omega
    have hle : d.val * 10 ^ ds.length ≤ 9 * 10 ^ ds.length := Nat.mul_le_mul_right _ hd
    rw [ofDigits_cons, List.length_cons, pow_succ]
    omega

/-- **The digits of a number write it.** -/
theorem ofDigits_digitsOf (n : ℕ) : ofDigits (digitsOf n) = n := by
  fun_induction digitsOf n with
  | case1 n h => simp [ofDigits, Nat.mod_eq_of_lt h]
  | case2 n h ih =>
    rw [ofDigits_append, ih]
    simp [ofDigits]
    omega

/-- No zero comes in front, unless it comes alone. -/
theorem digitsOf_cons (n : ℕ) : ∃ d ds, digitsOf n = d :: ds ∧ (d = 0 → n = 0 ∧ ds = []) := by
  fun_induction digitsOf n with
  | case1 n h =>
    refine ⟨Fin.ofNat 10 n, [], rfl, fun hzero => ⟨?_, rfl⟩⟩
    have hvalue : n % 10 = 0 := congrArg Fin.val hzero
    omega
  | case2 n h ih =>
    obtain ⟨d, ds, hdigits, hd⟩ := ih
    refine ⟨d, ds ++ [Fin.ofNat 10 n], by rw [hdigits, List.cons_append], fun hzero => ?_⟩
    obtain ⟨hnothing, -⟩ := hd hzero
    omega

/-- The first digit stands for its power of ten at least. -/
theorem pow_le_of_cons {n : ℕ} {d : Digit} {ds : List Digit} (h : digitsOf n = d :: ds)
    (hd : d ≠ 0) : 10 ^ ds.length ≤ n := by
  have hpos : 1 ≤ d.val := by
    rcases Nat.eq_zero_or_pos d.val with hzero | hpos
    · exact absurd (Fin.ext hzero) hd
    · exact hpos
  rw [← ofDigits_digitsOf n, h, ofDigits_cons]
  have hle : 1 * 10 ^ ds.length ≤ d.val * 10 ^ ds.length := Nat.mul_le_mul_right _ hpos
  omega

/-- The power of ten that an exponent names. -/
def power (n : Numeral) : ℤ :=
  match n.exponent with
  | none => 0
  | some (below, ds) => if below then -(ofDigits ds : ℤ) else ofDigits ds

/-- The rational number that a numeral writes, without its sign. -/
def value (n : Numeral) : ℚ := ofDigits (n.whole ++ n.fraction) * 10 ^ (n.power - n.fraction.length)

/-- A number is not as long as its digits before the point and its exponent make it. -/
theorem value_lt (n : Numeral) : n.value < 10 ^ (n.whole.length + n.power) := by
  have hdigits : (ofDigits (n.whole ++ n.fraction) : ℚ) <
      10 ^ (n.whole.length + n.fraction.length : ℤ) := by
    have hlt := ofDigits_lt (n.whole ++ n.fraction)
    rw [List.length_append] at hlt
    rw [← Nat.cast_add, zpow_natCast]
    exact_mod_cast hlt
  have hsum : (n.whole.length + n.power : ℤ) =
      n.whole.length + n.fraction.length + (n.power - n.fraction.length) := by ring
  rw [hsum, zpow_add₀ (by norm_num)]
  exact mul_lt_mul_of_pos_right hdigits (by positivity)

end Numeral

/-! ## Digits that fit into a word -/

namespace Number

/-- Digits that fit are read to the end. -/
theorem fill_eq {ds : List Digit} {word : ℕ}
    (h : ds.foldl (fun n d => 10 * n + d.val) word ≤ wordMax) :
    fill ds word = (ds.foldl (fun n d => 10 * n + d.val) word, 0) := by
  induction ds generalizing word with
  | nil => rfl
  | cons d ds ih =>
    have hword : 10 * word + d.val ≤ wordMax := by
      rw [List.foldl_cons, Numeral.foldl_digits] at h
      have hpower : 0 < 10 ^ ds.length := Nat.pow_pos (by decide)
      have hle := Nat.le_mul_of_pos_right (10 * word + d.val) hpower
      omega
    rw [fill, if_pos hword]
    exact ih h

/-- **Digits that do not fit are left out**, and only make the number smaller. -/
theorem fill_le (ds : List Digit) {word : ℕ} (hword : word ≤ wordMax) :
    (fill ds word).1 ≤ wordMax ∧ (fill ds word).2 ≤ ds.length ∧
      (fill ds word).1 * 10 ^ (fill ds word).2 ≤ ds.foldl (fun n d => 10 * n + d.val) word := by
  induction ds generalizing word with
  | nil => exact ⟨hword, le_rfl, by simp [fill]⟩
  | cons d ds ih =>
    rw [fill]
    split
    · rename_i hfits
      obtain ⟨hmax, hleft, hle⟩ := ih hfits
      exact ⟨hmax, hleft.trans (Nat.le_succ _), hle⟩
    · refine ⟨hword, le_rfl, ?_⟩
      rw [Numeral.foldl_digits]
      exact Nat.le_add_right _ _

/-! ## Words that are scaled -/

/-- What stays a double when it is rounded two times more. -/
def safe : ℚ := (2 ^ 53 - 7 / 2) * 2 ^ (971 : ℤ)

/-- A power of ten is compared with a safe number in whole numbers: both are taken twice, and then
the mantissa is 2^54 - 7. -/
theorem cast_compare (j k : ℕ) :
    (2 * Nat.pow 10 j : ℕ) = 2 * (10 : ℚ) ^ j ∧
      (18014398509481977 * Nat.pow 2 k : ℕ) = 2 * ((2 ^ 53 - 7 / 2) * (2 : ℚ) ^ (k : ℤ)) := by
  rw [zpow_natCast, Nat.pow_eq, Nat.pow_eq]
  push_cast
  constructor
  · rfl
  · ring

theorem pow_le_of_nat {j k : ℕ} (h : 2 * Nat.pow 10 j ≤ 18014398509481977 * Nat.pow 2 k) :
    (10 : ℚ) ^ j ≤ (2 ^ 53 - 7 / 2) * 2 ^ (k : ℤ) := by
  obtain ⟨hten, htwo⟩ := cast_compare j k
  have hcast := (Nat.cast_le (α := ℚ)).2 h
  rw [hten, htwo] at hcast
  linarith

theorem lt_pow_of_nat {j k : ℕ} (h : 18014398509481977 * Nat.pow 2 k < 2 * Nat.pow 10 j) :
    (2 ^ 53 - 7 / 2) * (2 : ℚ) ^ (k : ℤ) < 10 ^ j := by
  obtain ⟨hten, htwo⟩ := cast_compare j k
  have hcast := (Nat.cast_lt (α := ℚ)).2 h
  rw [hten, htwo] at hcast
  linarith

/-- The greatest power of ten that is scaled by in one step is safe, and the next one is not. -/
theorem pow_stepPower : (10 : ℚ) ^ 308 ≤ safe ∧ safe < 10 ^ 309 :=
  ⟨pow_le_of_nat (k := 971) (by decide +kernel), lt_pow_of_nat (k := 971) (by decide +kernel)⟩

/-- Two more roundings stay below what is too great. -/
theorem safe_mul_lt_overflow : safe * ((1 + 1 / 2 ^ 53) * (1 + 1 / 2 ^ 53)) < Double.overflow := by
  have hstep : (0 : ℚ) < 2 ^ (971 : ℤ) := by positivity
  unfold safe Double.overflow
  rw [mul_right_comm]
  exact mul_lt_mul_of_pos_right (by norm_num) hstep

theorem safe_lt_overflow : safe < Double.overflow := by
  have hpos : 0 ≤ safe := le_trans (by positivity) pow_stepPower.1
  exact (le_mul_of_one_le_right hpos (by norm_num)).trans_lt safe_mul_lt_overflow

/-- **The powers of ten up to `stepPower` are doubles**, and nearly what they should be. -/
theorem tenTo_spec {k : ℕ} (hk : k ≤ 308) : ∃ t, tenTo k = some t ∧ (10 : ℚ) ^ k / 2 ≤ t.size ∧
    t.size ≤ 10 ^ k * (1 + 1 / 2 ^ 53) := by
  have hone : (1 : ℚ) ≤ (Nat.pow 10 k : ℕ) / (1 : ℕ) := by
    rw [Nat.cast_one, div_one]
    exact_mod_cast Nat.one_le_pow k 10 (by decide)
  have hpower : ((Nat.pow 10 k : ℕ) : ℚ) / (1 : ℕ) = 10 ^ k := by
    rw [Nat.cast_one, div_one, Nat.pow_eq, Nat.cast_pow]
    rfl
  have hsome : (tenTo k).isSome = true := by
    refine Double.ofRatio_isSome false _ Nat.one_pos ?_
    rw [hpower]
    have hle : (10 : ℚ) ^ k ≤ 10 ^ 308 := pow_le_pow_right₀ (by norm_num) hk
    exact (hle.trans pow_stepPower.1).trans_lt safe_lt_overflow
  obtain ⟨t, ht⟩ := Option.isSome_iff_exists.1 hsome
  have hsize := Double.size_of_ofRatio Nat.one_pos ht hone
  rw [hpower] at hsize
  exact ⟨t, ht, hsize⟩

theorem great_lt_overflow : (2 : ℚ) ^ 71 < Double.overflow := by
  have hpower : (2 : ℚ) ^ 71 < 10 ^ 71 := by norm_num
  have hstep : (10 : ℚ) ^ 71 ≤ 10 ^ 308 := pow_le_pow_right₀ (by norm_num) (by norm_num)
  exact (hpower.trans_le (hstep.trans pow_stepPower.1)).trans safe_lt_overflow

/-- A number that is not great stays one when it is divided by a power of ten. -/
theorem scaleDown_isSome {d : Double} {power : ℕ} (h : d.size ≤ 2 ^ 70) :
    (scaleDown d power).isSome = true := by
  -- a power of ten is rounded to half of it at least, so a quotient is at most twice the double
  have hdiv : ∀ {a t : Double} {k : ℕ}, a.size ≤ 2 ^ 70 → (10 : ℚ) ^ k / 2 ≤ t.size →
      0 < t.size ∧ (a.div t).isSome = true := by
    intro a t k ha hlow
    have hone : (1 : ℚ) ≤ 10 ^ k := one_le_pow₀ (by norm_num)
    have hhalf : (1 : ℚ) / 2 ≤ t.size := by linarith
    have hpos : 0 < t.size := by linarith
    have hquotient : a.size / t.size ≤ 2 ^ 71 := by
      rw [div_le_iff₀ hpos]
      calc a.size ≤ 2 ^ 71 * (1 / 2) := by linarith
        _ ≤ 2 ^ 71 * t.size := by gcongr
    exact ⟨hpos, Double.div_isSome hpos (hquotient.trans_lt great_lt_overflow)⟩
  fun_induction scaleDown d power with
  | case1 d power hpower =>
    obtain ⟨t, ht, hlow, -⟩ := tenTo_spec hpower
    rw [ht]
    exact (hdiv h hlow).2
  | case2 d power hpower hzero => rfl
  | case3 d power hpower hzero ih =>
    obtain ⟨t, ht, hlow, -⟩ := tenTo_spec (le_refl stepPower)
    obtain ⟨hpos, hsome⟩ := hdiv h hlow
    obtain ⟨q, hq⟩ := Option.isSome_iff_exists.1 hsome
    rw [ht, Option.bind_eq_bind, Option.bind_some, hq]
    refine ih q ?_
    have hgreat : (4 : ℚ) ≤ t.size := by
      have hpower : (10 : ℚ) ^ 1 ≤ 10 ^ stepPower := pow_le_pow_right₀ (by norm_num) (by decide)
      linarith
    have hquotient : d.size / t.size ≤ 2 ^ 68 := by
      rw [div_le_iff₀ hpos]
      calc d.size ≤ 2 ^ 68 * 4 := by linarith
        _ ≤ 2 ^ 68 * t.size := by gcongr
    have hsize := Double.size_le_of_div hpos hq
    linarith

/-- A word is a double, and nearly what it should be. -/
theorem word_spec (negative : Bool) {word : ℕ} (hword : word ≤ wordMax) :
    ∃ d, Double.ofRatio negative word 1 = some d ∧ d.size ≤ 2 ^ 70 ∧
      d.size ≤ word * (1 + 1 / 2 ^ 53) ∧ (word = 0 → d.mantissa = 0) := by
  have hone : (word : ℚ) / (1 : ℕ) = word := by rw [Nat.cast_one, div_one]
  have hbound : (word : ℚ) ≤ 2 ^ 64 := by
    have hmax : word ≤ 2 ^ 64 := hword.trans (Nat.sub_le _ _)
    exact_mod_cast hmax
  have hsome : (Double.ofRatio negative word 1).isSome = true := by
    refine Double.ofRatio_isSome negative word Nat.one_pos ?_
    rw [hone]
    exact (lt_of_le_of_lt hbound (by norm_num)).trans great_lt_overflow
  obtain ⟨d, hd⟩ := Option.isSome_iff_exists.1 hsome
  have hsize := Double.size_le_of_ofRatio Nat.one_pos hd
  rw [hone] at hsize
  refine ⟨d, hd, by linarith, ?_, ?_⟩
  · rcases Nat.eq_zero_or_pos word with rfl | hpos
    · cases hd
      rw [Double.size_zero]
      norm_num
    · have hleast : (1 : ℚ) ≤ word / (1 : ℕ) := by
        rw [hone]
        exact_mod_cast hpos
      have hnear := (Double.size_of_ofRatio Nat.one_pos hd hleast).2
      rwa [hone] at hnear
  · rintro rfl
    cases hd
    rfl

/-- **A word is scaled to a double if what it stands for is safe.** -/
theorem scale_isSome (negative : Bool) {word : ℕ} {power : ℤ} (hword : word ≤ wordMax)
    (h : (word : ℚ) * 10 ^ power ≤ safe) : (scale negative word power).isSome = true := by
  obtain ⟨d, hd, hgreat, hnear, hzero⟩ := word_spec negative hword
  unfold scale
  rw [hd, Option.bind_eq_bind, Option.bind_some]
  split
  · rename_i hsign
    lift power to ℕ using hsign
    rw [zpow_natCast] at h
    split
    · rename_i hstep
      obtain ⟨t, ht, -, hupper⟩ := tenTo_spec (k := power) (by exact_mod_cast hstep)
      rw [Int.toNat_natCast, ht, Option.bind_some]
      refine Double.mul_isSome (lt_of_le_of_lt ?_ safe_mul_lt_overflow)
      calc d.size * t.size
          ≤ word * (1 + 1 / 2 ^ 53) * (10 ^ power * (1 + 1 / 2 ^ 53)) :=
            mul_le_mul hnear hupper t.size_nonneg (by positivity)
        _ = word * 10 ^ power * ((1 + 1 / 2 ^ 53) * (1 + 1 / 2 ^ 53)) := by ring
        _ ≤ safe * ((1 + 1 / 2 ^ 53) * (1 + 1 / 2 ^ 53)) := by gcongr
    · rename_i hstep
      -- no word but zero is safe beyond the greatest step
      have hnothing : word = 0 := by
        by_contra hne
        have hword : (1 : ℚ) ≤ word := by exact_mod_cast Nat.one_le_iff_ne_zero.2 hne
        have hstep' : 309 ≤ power := by
          simp only [stepPower] at hstep
          omega
        have hpower : (10 : ℚ) ^ 309 ≤ 10 ^ power := pow_le_pow_right₀ (by norm_num) hstep'
        have hproduct : (10 : ℚ) ^ power ≤ word * 10 ^ power :=
          le_mul_of_one_le_left (by positivity) hword
        exact absurd (hpower.trans (hproduct.trans h)) (not_le.2 pow_stepPower.2)
      rw [if_pos (hzero hnothing)]
      rfl
  · exact scaleDown_isSome hgreat

/-! ## Numerals that are read -/

/-- **A numeral that is not too great is read as a double.** -/
theorem double?_isSome {n : Numeral} (hwhole : n.whole.length ≤ 16) (hpower : n.power ≤ 308)
    (h : n.value ≤ safe) : (double? n).isSome = true := by
  have hlong : 10 ^ 16 ≤ wordMax := by decide +kernel
  have hfits : Numeral.ofDigits n.whole ≤ wordMax := by
    have hlt := Numeral.ofDigits_lt n.whole
    have hle : 10 ^ n.whole.length ≤ 10 ^ 16 := Nat.pow_le_pow_right (by decide) hwhole
    omega
  have hfill : fill n.whole 0 = (Numeral.ofDigits n.whole, 0) := fill_eq hfits
  obtain ⟨hmax, hrest, hword⟩ := fill_le n.fraction hfits
  generalize hfraction : fill n.fraction (Numeral.ofDigits n.whole) = filled at hmax hrest hword
  obtain ⟨word, rest⟩ := filled
  dsimp only at hmax hrest hword
  -- the digits that were read stand for less than all digits do
  have hscaled : (word : ℚ) * 10 ^ (n.power - (n.fraction.length - rest : ℕ)) ≤ safe := by
    have hdigits : (word : ℚ) * 10 ^ rest ≤ Numeral.ofDigits (n.whole ++ n.fraction) := by
      rw [Numeral.ofDigits, List.foldl_append]
      exact_mod_cast hword
    have hsplit : n.power - (n.fraction.length - rest : ℕ) =
        rest + (n.power - n.fraction.length) := by omega
    rw [hsplit, zpow_add₀ (by norm_num), zpow_natCast, ← mul_assoc]
    exact (mul_le_mul_of_nonneg_right hdigits (by positivity)).trans h
  unfold double?
  rw [hfill]
  dsimp only
  rw [hfraction]
  dsimp only
  unfold Numeral.power at hpower hscaled
  split
  · rename_i hexponent
    rw [hexponent] at hscaled
    exact scale_isSome n.negative hmax hscaled
  · rename_i below ds hexponent
    rw [hexponent] at hpower hscaled
    dsimp only at hpower hscaled
    split
    · rename_i hgreat
      split
      · rename_i hnone
        rw [if_neg hnone.2] at hpower
        have hless : 308 < Nat.pow 2 31 := by decide +kernel
        omega
      · rfl
    · refine scale_isSome n.negative hmax ?_
      cases below with
      | true | false => simpa [sub_eq_add_neg, add_comm] using hscaled

/-- A numeral that is read as a double, if need be, is read as a number. -/
theorem ofNumeral?_isSome {n : Numeral} (h : (double? n).isSome = true) :
    (ofNumeral? n).isSome = true := by
  obtain ⟨d, hd⟩ := Option.isSome_iff_exists.1 h
  unfold ofNumeral?
  rw [hd]
  split
  · split
    · rfl
    · rfl
  · rfl

/-- A numeral of few digits without an exponent is read as a number. -/
theorem ofNumeral?_positional {n : Numeral} (hwhole : n.whole.length ≤ 16)
    (hexponent : n.exponent = none) : (ofNumeral? n).isSome = true := by
  have hpower : n.power = 0 := by rw [Numeral.power, hexponent]
  refine ofNumeral?_isSome (double?_isSome hwhole (by omega) ?_)
  have hvalue := n.value_lt
  rw [hpower, add_zero, zpow_natCast] at hvalue
  have hshort : (10 : ℚ) ^ n.whole.length ≤ 10 ^ 308 :=
    pow_le_pow_right₀ (by norm_num) (by omega)
  exact hvalue.le.trans (hshort.trans pow_stepPower.1)

/-! ## Numbers that are written -/

section Written

variable {d : Double}

/-- The digits of a number that is not zero do not begin with one. -/
theorem digitsOf_pos {n : ℕ} (hn : 0 < n) : ∃ e es, digitsOf n = e :: es ∧ e ≠ 0 := by
  obtain ⟨e, es, hdigits, hzero⟩ := Numeral.digitsOf_cons n
  exact ⟨e, es, hdigits, fun h => hn.ne' (hzero h).1⟩

/-- What is written for a double is known to the grammar. -/
theorem proper_numeralOf (h : d.mantissa = 0 ∨ 0 < d.shortest.digits) :
    (numeralOf d).Proper := by
  have hzero : ∀ b fraction, Numeral.Proper ⟨b, [zeroDigit], fraction, none⟩ := fun _ _ =>
    ⟨⟨zeroDigit, [], rfl, fun _ => rfl⟩, nofun⟩
  unfold numeralOf
  split
  · exact hzero _ _
  · rename_i hne
    obtain ⟨e, es, hdigits, he⟩ := digitsOf_pos (h.resolve_left hne)
    dsimp only
    rw [hdigits]
    split
    · exact ⟨⟨e, _, rfl, fun h => absurd h he⟩, nofun⟩
    split
    · rename_i hpoint
      obtain ⟨k, hk⟩ : ∃ k, ((e :: es).length + d.shortest.power).toNat = k + 1 :=
        ⟨((e :: es).length + d.shortest.power).toNat - 1, by omega⟩
      rw [hk]
      exact ⟨⟨e, _, rfl, fun h => absurd h he⟩, nofun⟩
    split
    · exact hzero _ _
    · refine ⟨⟨e, [], rfl, fun h => absurd h he⟩, ?_⟩
      rintro _ ⟨⟩ hnil
      obtain ⟨f, fs, hexponent, -⟩ := Numeral.digitsOf_cons _
      exact List.cons_ne_nil f fs (hexponent.symm.trans hnil)

/-- **What is written for a double is read as a number**, if its shortest decimal number is safe. -/
theorem ofNumeral?_numeralOf (hpos : 0 < d.shortest.digits) (h : d.shortest.value ≤ safe) :
    (ofNumeral? (numeralOf d)).isSome = true := by
  obtain ⟨e, es, hdigits, he⟩ := digitsOf_pos hpos
  unfold numeralOf
  split
  · exact ofNumeral?_positional (by simp) rfl
  dsimp only
  split
  · rename_i hpoint
    exact ofNumeral?_positional (by simp; omega) rfl
  split
  · rename_i hpoint
    exact ofNumeral?_positional (by simp; omega) rfl
  split
  · exact ofNumeral?_positional (by simp) rfl
  · -- one digit comes before the point, and the exponent is the power of ten it stands for
    rw [hdigits]
    let n : Numeral := ⟨d.negative, (e :: es).take 1, (e :: es).drop 1,
      some ((e :: es).length + d.shortest.power - 1 < 0,
        digitsOf ((e :: es).length + d.shortest.power - 1).natAbs)⟩
    have hpower : n.power = es.length + d.shortest.power := by
      show (if _ then _ else _) = _
      rw [Numeral.ofDigits_digitsOf, List.length_cons]
      split
      · rename_i hneg
        rw [Int.natCast_natAbs, abs_of_neg (of_decide_eq_true hneg)]
        push_cast
        ring
      · rename_i hneg
        rw [decide_eq_true_eq, not_lt] at hneg
        rw [Int.natCast_natAbs, abs_of_nonneg hneg]
        push_cast
        ring
    have hvalue : n.value = d.shortest.value := by
      unfold Numeral.value
      rw [hpower]
      show (Numeral.ofDigits (e :: es) : ℚ) *
        10 ^ ((es.length : ℤ) + d.shortest.power - es.length) = _
      rw [← hdigits, Numeral.ofDigits_digitsOf, add_sub_cancel_left]
      rfl
    have hleast : (10 : ℚ) ^ n.power ≤ safe := by
      have hfirst : ((10 ^ es.length : ℕ) : ℚ) ≤ d.shortest.digits :=
        Nat.cast_le.2 (Numeral.pow_le_of_cons hdigits he)
      rw [hpower, zpow_add₀ (by norm_num), zpow_natCast]
      refine le_trans ?_ h
      exact mul_le_mul_of_nonneg_right (by exact_mod_cast hfirst) (by positivity)
    have hsmall : n.power ≤ 308 := by
      by_contra hgreat
      have hmore : (10 : ℚ) ^ (309 : ℤ) ≤ 10 ^ n.power :=
        zpow_le_zpow_right₀ (by norm_num) (by omega)
      rw [zpow_ofNat] at hmore
      exact absurd (hmore.trans hleast) (not_le.2 pow_stepPower.2)
    exact ofNumeral?_isSome (double?_isSome (n := n) (by simp [n]) hsmall (hvalue ▸ h))

/-- The shortest decimal number of a double is safe, but for the three greatest doubles. -/
theorem value_shortest_le_safe (hd : d.Finite) (hpos : 0 < d.mantissa)
    (htop : d.exponent = 971 → d.mantissa < 2 ^ 53 - 3) : d.shortest.value ≤ safe := by
  obtain ⟨-, hnear | htiny⟩ := Double.value_shortest_le hd hpos
  · refine hnear.trans ?_
    have hstep : (0 : ℚ) < 2 ^ (970 : ℤ) := by positivity
    have hdouble : (2 : ℚ) ^ (971 : ℤ) = 2 ^ (970 : ℤ) * 2 := zpow_add_one₀ two_ne_zero 970
    rcases eq_or_lt_of_le hd.greatest with hgreatest | hless
    · have hmantissa : (d.mantissa : ℚ) ≤ 2 ^ 53 - 4 := by
        have hlt := htop hgreatest
        have hle : d.mantissa + 4 ≤ 2 ^ 53 := by omega
        have hcast : (d.mantissa : ℚ) + 4 ≤ 2 ^ 53 := by exact_mod_cast hle
        linarith
      rw [hgreatest, safe]
      exact mul_le_mul_of_nonneg_right (by linarith) (by positivity)
    · have hmantissa : (d.mantissa : ℚ) + 1 ≤ 2 ^ 53 := by exact_mod_cast hd.mantissa
      have hexponent : (2 : ℚ) ^ d.exponent ≤ 2 ^ (970 : ℤ) :=
        zpow_le_zpow_right₀ one_le_two (by omega)
      calc ((d.mantissa : ℚ) + 1 / 2) * 2 ^ d.exponent
          ≤ 2 ^ 53 * 2 ^ (970 : ℤ) :=
            mul_le_mul (by linarith) hexponent (by positivity) (by positivity)
        _ ≤ safe := by
          rw [safe, hdouble]
          generalize (2 : ℚ) ^ (970 : ℤ) = step at hstep
          linarith
  · refine htiny.trans (le_trans ?_ pow_stepPower.1)
    have hsplit : (10 : ℚ) ^ 308 = 10 ^ 18 * 10 ^ (290 : ℤ) := by
      rw [zpow_ofNat, ← pow_add]
    rw [hsplit]
    exact mul_le_mul_of_nonneg_right (by norm_num) (by positivity)

/-- The three greatest doubles are read as they were written. -/
theorem ofNumeral?_greatest (negative : Bool) :
    (ofNumeral? (numeralOf ⟨negative, 2 ^ 53 - 1, 971⟩)).isSome = true ∧
      (ofNumeral? (numeralOf ⟨negative, 2 ^ 53 - 2, 971⟩)).isSome = true ∧
      (ofNumeral? (numeralOf ⟨negative, 2 ^ 53 - 3, 971⟩)).isSome = true := by
  cases negative with
  | true | false => decide +kernel

end Written

/-- A number that can be held: a whole number of 64 bits, with or without a sign, or a double. -/
def Held : Number → Prop
  | whole i => -2 ^ 63 ≤ i ∧ i < 2 ^ 64
  | real d => d.Finite

theorem int?_ofInt (i : ℤ) : (Numeral.ofInt i).int? = some i := by
  show some (if decide (i < 0) = true then -(Numeral.ofDigits (digitsOf i.natAbs) : ℤ)
    else Numeral.ofDigits (digitsOf i.natAbs)) = some i
  rw [Numeral.ofDigits_digitsOf, Int.natCast_natAbs]
  split
  · rename_i hneg
    rw [abs_of_neg (of_decide_eq_true hneg), neg_neg]
  · rename_i hneg
    rw [decide_eq_true_eq, not_lt] at hneg
    rw [abs_of_nonneg hneg]

/-- **Every number that can be held is written as the grammar knows numbers, and is read as a
number again.** -/
theorem Held.read {n : Number} (h : n.Held) :
    n.numeral.Proper ∧ (ofNumeral? n.numeral).isSome = true := by
  match n with
  | whole i =>
    obtain ⟨hleast, hgreatest⟩ := h
    obtain ⟨e, es, hdigits, hzero⟩ := Numeral.digitsOf_cons i.natAbs
    have hmax : (wordMax : ℤ) = 2 ^ 64 - 1 := by decide +kernel
    have hfits : (0 ≤ i ∧ ¬(Numeral.ofInt i).negative ∧ i ≤ wordMax) ∨
        (i < 0 ∧ -(Nat.pow 2 63 : ℤ) ≤ i) := by
      rcases lt_or_ge i 0 with hneg | hsign
      · exact Or.inr ⟨hneg, hleast⟩
      · exact Or.inl ⟨hsign, by simpa [Numeral.ofInt] using hsign, by omega⟩
    refine ⟨⟨⟨e, es, hdigits, fun he => (hzero he).2⟩, nofun⟩, ?_⟩
    unfold ofNumeral? numeral
    rw [int?_ofInt]
    dsimp only
    rw [if_pos hfits]
    rfl
  | real d =>
    have hd : d.Finite := h
    show (numeralOf d).Proper ∧ (ofNumeral? (numeralOf d)).isSome = true
    rcases Nat.eq_zero_or_pos d.mantissa with hzero | hpos
    · refine ⟨proper_numeralOf (Or.inl hzero), ?_⟩
      unfold numeralOf
      rw [if_pos hzero]
      exact ofNumeral?_positional (by simp) rfl
    obtain ⟨hdigits, -⟩ := Double.value_shortest_le hd hpos
    refine ⟨proper_numeralOf (Or.inr hdigits), ?_⟩
    by_cases htop : d.exponent = 971 → d.mantissa < 2 ^ 53 - 3
    · exact ofNumeral?_numeralOf hdigits (value_shortest_le_safe hd hpos htop)
    · obtain ⟨negative, m, e⟩ := d
      obtain ⟨rfl, hge⟩ := Classical.not_imp.1 htop
      have hlt : m < 2 ^ 53 := hd.mantissa
      obtain ⟨hfirst, hsecond, hthird⟩ := ofNumeral?_greatest negative
      have hcases : m = 2 ^ 53 - 1 ∨ m = 2 ^ 53 - 2 ∨ m = 2 ^ 53 - 3 := by
        dsimp only at hge
        omega
      rcases hcases with rfl | rfl | rfl
      · exact hfirst
      · exact hsecond
      · exact hthird

/-! ## Numbers that were read -/

section Read

variable {d x : Double}

theorem tenTo_pos {k : ℕ} {t : Double} (hk : k ≤ 308) (h : tenTo k = some t) : 0 < t.size := by
  obtain ⟨u, hu, hleast, -⟩ := tenTo_spec hk
  obtain rfl : u = t := Option.some.inj (hu.symm.trans h)
  exact lt_of_lt_of_le (by positivity) hleast

theorem finite_of_scaleDown {power : ℕ} (hd : d.Finite) (h : scaleDown d power = some x) :
    x.Finite := by
  fun_induction scaleDown d power with
  | case1 d power hpower =>
    obtain ⟨t, ht, hx⟩ := Option.bind_eq_some_iff.1 h
    exact Double.finite_of_div (tenTo_pos hpower ht) hx
  | case2 d power hpower hzero =>
    cases h
    exact hd
  | case3 d power hpower hzero ih =>
    obtain ⟨t, ht, hrest⟩ := Option.bind_eq_some_iff.1 h
    obtain ⟨q, hq, hx⟩ := Option.bind_eq_some_iff.1 hrest
    exact ih q (Double.finite_of_div (tenTo_pos le_rfl ht) hq) hx

theorem finite_of_scale {negative : Bool} {word : ℕ} {power : ℤ}
    (h : scale negative word power = some x) : x.Finite := by
  obtain ⟨d, hword, hrest⟩ := Option.bind_eq_some_iff.1 h
  have hd : d.Finite := Double.finite_of_ofRatio Nat.one_pos hword
  split at hrest
  · split at hrest
    · obtain ⟨t, -, hx⟩ := Option.bind_eq_some_iff.1 hrest
      exact Double.finite_of_mul hx
    · split at hrest
      · cases hrest
        exact hd
      · cases hrest
  · exact finite_of_scaleDown hd hrest

theorem finite_of_double? {n : Numeral} (h : double? n = some x) : x.Finite := by
  unfold double? at h
  dsimp only at h
  split at h
  · exact finite_of_scale h
  · split at h
    · split at h
      · cases h
      · cases h
        exact Double.finite_zero n.negative
    · exact finite_of_scale h

/-- **A number that was read can be held.** -/
theorem held_of_ofNumeral? {n : Numeral} {m : Number} (h : ofNumeral? n = some m) : m.Held := by
  have hreal : real <$> double? n = some m → m.Held := by
    intro hdouble
    obtain ⟨x, hx, rfl⟩ := Option.map_eq_some_iff.1 hdouble
    exact finite_of_double? hx
  have hmax : (wordMax : ℤ) = 2 ^ 64 - 1 := by decide +kernel
  have hmin : -(Nat.pow 2 63 : ℤ) = -2 ^ 63 := by decide +kernel
  unfold ofNumeral? at h
  split at h
  · split at h
    · rename_i i _ hfits
      cases h
      show -2 ^ 63 ≤ i ∧ i < 2 ^ 64
      rcases hfits with ⟨hsign, -, hle⟩ | ⟨hneg, hle⟩
      · omega
      · omega
    · exact hreal h
  · exact hreal h

end Read

end Number

end Json

end RegistryStorage
