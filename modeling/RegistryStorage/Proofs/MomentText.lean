import RegistryStorage.Moment.Text

/-!
Points in time, written and read.

A moment that is written in the form of a file is read back as it was (`Moment.ofText?_text`): with
years of any sign and length, with leap seconds, and with no, three, six or nine digits after the
second. Reading is more generous than writing, so each reader is shown to stop where the writer of
the field did: a field of a fixed width takes its digits and no more, and a signed year and a
fraction end with the first character that is no digit.
-/

set_option autoImplicit false

namespace RegistryStorage.Moment

/-! ## Digits -/

theorem not_isBlank_of_isDigit {c : Char} (h : c.isDigit = true) : Text.isBlank c = false := by
  have hrange : 48 ≤ c.toNat ∧ c.toNat ≤ 57 := Char.isDigit_iff_toNat.1 h
  unfold Text.isBlank
  simp only [Bool.or_eq_false_iff, Bool.and_eq_false_iff, decide_eq_false_iff_not, beq_eq_false_iff_ne]
  omega

theorem isDigit_of_mem_padded {width n : Nat} {c : Char} (h : c ∈ padded width n) :
    c.isDigit = true := by
  rcases List.mem_append.1 h with h | h
  · rw [List.eq_of_mem_replicate h]
    rfl
  · exact Nat.isDigit_of_mem_toDigits (by decide) (by decide) h

/-- A number that fits is written with the given width. -/
theorem length_padded {width n : Nat} (hwidth : 0 < width) (h : n < Nat.pow 10 width) :
    (padded width n).length = width := by
  have hle : (Nat.toDigits 10 n).length ≤ width :=
    (Nat.length_toDigits_le_iff (by decide) hwidth).2 h
  simp only [padded, List.length_append, List.length_replicate]
  omega

theorem padded_ne_nil (width n : Nat) : padded width n ≠ [] := by
  intro h
  exact Nat.toDigits_ne_nil (List.append_eq_nil_iff.1 h).2

theorem digitsValue_eq (ds : List Char) : digitsValue ds = Nat.ofDigitChars 10 ds 0 := rfl

/-- Zeros in front do not count. -/
theorem digitsValue_padded (width n : Nat) : digitsValue (padded width n) = n := by
  have hzeros : ∀ k, Nat.ofDigitChars 10 (List.replicate k '0') 0 = 0 := by
    intro k
    induction k with
    | zero => rfl
    | succ k ih => exact ih
  rw [digitsValue_eq, padded, Nat.ofDigitChars_append, hzeros]
  exact Nat.ofDigitChars_ten_toDigits

/-! ## Fields -/

variable {width n : Nat} {s : List Char}

/-- A number is read as it was written, if its digits fit and no other digit comes within the
width. -/
theorem readNumber_padded {most : Nat} (hlength : (padded width n).length ≤ most)
    (hends : (s.take (most - (padded width n).length)).takeWhile Char.isDigit = []) :
    readNumber most (padded width n ++ s) = some (n, s) := by
  have htaken : ((padded width n ++ s).take most).takeWhile Char.isDigit = padded width n := by
    rw [List.take_append, List.take_of_length_le hlength,
      List.takeWhile_append_of_pos fun c hc => isDigit_of_mem_padded hc, hends, List.append_nil]
  unfold readNumber
  rw [htaken]
  cases hdigits : padded width n with
  | nil => exact absurd hdigits (padded_ne_nil width n)
  | cons c r =>
    dsimp only
    rw [← hdigits, digitsValue_padded, List.drop_left]

theorem skipBlanks_padded : skipBlanks (padded width n ++ s) = padded width n ++ s := by
  cases hdigits : padded width n with
  | nil => exact absurd hdigits (padded_ne_nil width n)
  | cons c r =>
    have hc : c.isDigit = true := isDigit_of_mem_padded (hdigits ▸ List.mem_cons_self)
    rw [skipBlanks, List.cons_append, List.dropWhile_cons_of_neg]
    rw [not_isBlank_of_isDigit hc]
    exact Bool.false_ne_true

theorem readField_padded (h : n < 100) : readField (padded 2 n ++ s) = some (n, s) := by
  have hlength : (padded 2 n).length = 2 := length_padded (by decide) h
  rw [readField, skipBlanks_padded]
  refine readNumber_padded (Nat.le_of_eq hlength) ?_
  rw [hlength]
  rfl

theorem readSeparator_self {c : Char} (hc : Text.isBlank c = false) :
    readSeparator c (c :: s) = some s := by
  have hskip : skipBlanks (c :: s) = c :: s := List.dropWhile_cons_of_neg (by simp [hc])
  rw [readSeparator, hskip]
  exact if_pos rfl

/-- Written digits do not begin with a character that is none. -/
theorem padded_append_ne_cons {c : Char} {r : List Char} (hc : c.isDigit = false) :
    padded width n ++ s ≠ c :: r := by
  intro h
  cases hdigits : padded width n with
  | nil => exact absurd hdigits (padded_ne_nil width n)
  | cons d t =>
    rw [hdigits, List.cons_append, List.cons.injEq] at h
    have hd : d.isDigit = true := isDigit_of_mem_padded (hdigits ▸ List.mem_cons_self)
    rw [h.1, hc] at hd
    cases hd

/-- After a sign any number of digits is read. -/
theorem readNumber_signed (hends : s.takeWhile Char.isDigit = []) :
    readNumber (padded 4 n ++ s).length (padded 4 n ++ s) = some (n, s) := by
  refine readNumber_padded (by simp) ?_
  rwa [List.length_append, Nat.add_sub_cancel_left, List.take_length]

/-- A year is read as it was written, whatever its sign, if no digit follows. -/
theorem readYear_yearChars (year : Int) (hends : s.takeWhile Char.isDigit = []) :
    readYear (yearChars year ++ s) = some (year, s) := by
  by_cases hyear : 0 ≤ year ∧ year ≤ 9999
  · have hlength : (padded 4 year.natAbs).length = 4 := by
      refine length_padded (by decide) ?_
      show year.natAbs < 10000
      omega
    have hread : readNumber 4 (padded 4 year.natAbs ++ s) = some (year.natAbs, s) :=
      readNumber_padded (Nat.le_of_eq hlength) (by rw [hlength]; rfl)
    rw [yearChars, if_pos hyear, readYear, skipBlanks_padded]
    split
    · exact absurd ‹_› (padded_append_ne_cons rfl)
    · exact absurd ‹_› (padded_append_ne_cons rfl)
    · rw [hread]
      exact congrArg (fun y => some (y, s)) (Int.natAbs_of_nonneg hyear.1)
  · rw [yearChars, if_neg hyear]
    let r := padded 4 year.natAbs ++ s
    by_cases hnegative : year < 0
    · have hsign : readYear ('-' :: r) =
          (readNumber r.length r).map fun p => (-(p.1 : Int), p.2) := rfl
      rw [if_pos hnegative, List.cons_append, hsign, readNumber_signed hends]
      exact congrArg (fun y => some (y, s)) (by omega : -(year.natAbs : Int) = year)
    · have hsign : readYear ('+' :: r) =
          (readNumber r.length r).map fun p => ((p.1 : Int), p.2) := rfl
      rw [if_neg hnegative, List.cons_append, hsign, readNumber_signed hends]
      exact congrArg (fun y => some (y, s)) (by omega : (year.natAbs : Int) = year)

/-! ## Fractions -/

/-- Three, six or nine digits are read as the part of a second that they are. -/
theorem readFraction_padded (hpos : 0 < width) (hwidth : width ≤ 9) (hn : n < Nat.pow 10 width)
    (hends : s.takeWhile Char.isDigit = []) :
    readFraction ('.' :: padded width n ++ s) = some (n * Nat.pow 10 (9 - width), s) := by
  have hlength : (padded width n).length = width := length_padded hpos hn
  have hdigits : (padded width n ++ s).takeWhile Char.isDigit = padded width n := by
    rw [List.takeWhile_append_of_pos fun c hc => isDigit_of_mem_padded hc, hends, List.append_nil]
  rw [List.cons_append, readFraction, hdigits]
  split
  · exact absurd ‹_› (padded_ne_nil width n)
  · have hkept : (padded width n).take 9 = padded width n :=
      List.take_of_length_le (by rwa [hlength])
    dsimp only
    rw [hkept, digitsValue_padded, List.drop_left, hlength]

/-- A fraction is read as it was written, if neither a point nor a digit follows. -/
theorem readFraction_fractionChars {nano : Nat} (hnano : nano < 1000000000)
    (hends : s.takeWhile Char.isDigit = []) (hpoint : ∀ r, s ≠ '.' :: r) :
    readFraction (fractionChars nano ++ s) = some (nano, s) := by
  unfold fractionChars
  split
  · rename_i hzero
    unfold readFraction
    rw [List.nil_append, hzero]
    split
    · exact absurd rfl (hpoint _)
    · rfl
  · split
    · rename_i hmillis
      have hfits : nano / 1000000 < 1000 := by omega
      rw [readFraction_padded (by decide) (by decide) hfits hends]
      exact congrArg (fun n => some (n, s)) (by omega : nano / 1000000 * 1000000 = nano)
    · split
      · rename_i hmicros
        have hfits : nano / 1000 < 1000000 := by omega
        rw [readFraction_padded (by decide) (by decide) hfits hends]
        exact congrArg (fun n => some (n, s)) (by omega : nano / 1000 * 1000 = nano)
      · rw [readFraction_padded (by decide) (by decide) hnano hends]
        exact congrArg (fun n => some (n, s)) (Nat.mul_one nano)

/-! ## Moments -/

/-- A clock that shows universal time shows the moment itself. -/
theorem ofLocal?_zero (m : Moment) : ofLocal? m.date m.time 0 = some m := by
  have htime := m.time_exists
  simp only [TimeOfDay.exists?, Bool.and_eq_true, decide_eq_true_eq] at htime
  obtain ⟨⟨⟨hhour, hminute⟩, -⟩, -⟩ := htime
  have hnotBefore : ¬(m.time.hour * 60 + m.time.minute - 0 : Int) < 0 := by omega
  have hnotAfter : ¬1440 ≤ (m.time.hour * 60 + m.time.minute - 0 : Int) := by omega
  have hhours : ((m.time.hour * 60 + m.time.minute - 0 : Int) % 1440).toNat / 60 = m.time.hour := by
    omega
  have hminutes :
      ((m.time.hour * 60 + m.time.minute - 0 : Int) % 1440).toNat % 60 = m.time.minute := by
    omega
  have hexists : (m.date.exists? && m.time.exists?) = true := by
    rw [m.date_exists, m.time_exists]
    rfl
  unfold ofLocal?
  rw [if_pos hexists]
  dsimp only
  rw [if_neg hnotBefore, if_neg hnotAfter, hhours, hminutes]
  exact dif_pos ⟨m.date_exists, m.time_exists⟩

/-- **A moment that was written is read back.** -/
theorem ofText?_text (m : Moment) : ofText? m.text = some m := by
  have hdate := m.date_exists
  have htime := m.time_exists
  simp only [Date.exists?, TimeOfDay.exists?, Bool.and_eq_true, decide_eq_true_eq] at hdate htime
  obtain ⟨⟨⟨-, hmonth⟩, -⟩, hday⟩ := hdate
  obtain ⟨⟨⟨hhour, hminute⟩, hsecond⟩, hnano⟩ := htime
  have hdays : daysInMonth m.date.year m.date.month ≤ 31 := by
    unfold daysInMonth
    split
    · split <;> omega
    · split <;> omega
  have hyear : ∀ s, readYear (yearChars m.date.year ++ '-' :: s) = some (m.date.year, '-' :: s) :=
    fun s => readYear_yearChars m.date.year rfl
  have hdash : ∀ s, readSeparator '-' ('-' :: s) = some s := fun s => readSeparator_self rfl
  have hcolon : ∀ s, readSeparator ':' (':' :: s) = some s := fun s => readSeparator_self rfl
  have hfield : ∀ n < 100, ∀ s, readField (padded 2 n ++ s) = some (n, s) := fun n hn s =>
    readField_padded hn
  have hmark : ∀ s, readTimeMark ('T' :: s) = some s := fun s => rfl
  have hfraction : readFraction (fractionChars m.time.nano ++ ['Z']) = some (m.time.nano, ['Z']) :=
    readFraction_fractionChars hnano rfl (by simp)
  have hoffset : readOffset ['Z'] = some (0, []) := rfl
  have hread {α β : Type} {o : Option α} {a : α} {f : α → Option β} (h : o = some a) :
      (do f (← o)) = f a := by
    rw [h]
    rfl
  unfold ofText? text chars
  rw [String.toList_ofList]
  simp only [List.append_assoc, List.cons_append]
  -- the reader takes one part after the other, in the order in which they were written
  refine (hread (hyear _)).trans ?_
  refine (hread (hdash _)).trans ?_
  refine (hread (hfield m.date.month (by omega) _)).trans ?_
  refine (hread (hdash _)).trans ?_
  refine (hread (hfield m.date.day (by omega) _)).trans ?_
  refine (hread (hmark _)).trans ?_
  refine (hread (hfield m.time.hour (by omega) _)).trans ?_
  refine (hread (hcolon _)).trans ?_
  refine (hread (hfield m.time.minute (by omega) _)).trans ?_
  refine (hread (hcolon _)).trans ?_
  refine (hread (hfield m.time.second (by omega) _)).trans ?_
  refine (hread hfraction).trans ?_
  refine (hread hoffset).trans ?_
  exact (if_pos (by decide)).trans (ofLocal?_zero m)

end RegistryStorage.Moment
