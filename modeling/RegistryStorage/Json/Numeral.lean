/-!
Numbers as they are written.

A numeral keeps the digits of a number in a JSON text: nothing is rounded and nothing
overflows here. What a reader makes of the digits is its own decision: a count takes only
numerals without fraction and exponent, a free-form value rounds to a double.
-/

set_option autoImplicit false

namespace RegistryStorage.Json

/-- A decimal digit. -/
abbrev Digit := Fin 10

/-- A number in a JSON text. -/
structure Numeral where
  negative : Bool
  /-- The digits before the point: a zero alone, or no zero in front. -/
  whole : List Digit
  /-- The digits after the point; none without a point. -/
  fraction : List Digit
  /-- Whether the exponent is negative, and its digits. -/
  exponent : Option (Bool × List Digit)
deriving DecidableEq, Repr, Inhabited

/-- The digit of nothing. -/
def zeroDigit : Digit := ⟨0, by decide⟩

/-- The digit that a character writes. -/
def digitOf? (c : Char) : Option Digit :=
  if h : '0'.toNat ≤ c.toNat ∧ c.toNat < '0'.toNat + 10 then
    some ⟨c.toNat - '0'.toNat, by omega⟩
  else none

/-- The character that writes a digit. -/
def digitChar (d : Digit) : Char := Nat.digitChar d.val

/-- The number that digits write. -/
def Numeral.ofDigits (ds : List Digit) : Nat := ds.foldl (fun n d => 10 * n + d.val) 0

/-- The digits that write a number, without a zero in front. -/
def digitsOf (n : Nat) : List Digit :=
  if n < 10 then [Fin.ofNat 10 n] else digitsOf (n / 10) ++ [Fin.ofNat 10 n]

/-- The digits at the start of a text, and what follows. -/
def takeDigits : List Char → List Digit × List Char
  | [] => ([], [])
  | c :: r =>
    match digitOf? c with
    | some d => let (ds, r) := takeDigits r; (d :: ds, r)
    | none => ([], c :: r)

theorem takeDigits_length (s : List Char) : (takeDigits s).2.length ≤ s.length := by
  induction s with
  | nil => simp [takeDigits]
  | cons c r ih =>
    unfold takeDigits
    split
    · simp only [List.length_cons]; omega
    · simp

/-- A whole number as a numeral. -/
def Numeral.ofInt (i : Int) : Numeral := ⟨i < 0, digitsOf i.natAbs, [], none⟩

/-- The text of a numeral, with or without a plus sign in front of an exponent that is not
negative. -/
def Numeral.toChars (n : Numeral) (plus : Bool := true) : List Char :=
  (if n.negative then ['-'] else []) ++ n.whole.map digitChar ++
    (if n.fraction.isEmpty then [] else '.' :: n.fraction.map digitChar) ++
    (match n.exponent with
     | none => []
     | some (neg, ds) =>
       'e' :: (if neg then ['-'] else if plus then ['+'] else []) ++ ds.map digitChar)

/-- The number, if it is written as a whole number. -/
def Numeral.int? (n : Numeral) : Option Int :=
  if n.fraction.isEmpty && n.exponent.isNone then
    let m := Numeral.ofDigits n.whole
    some (if n.negative then -(m : Int) else m)
  else none

/-! ## Reading -/

/-- Reads a fraction, if a point comes. -/
def readFraction (s : List Char) : Option (List Digit × List Char) :=
  match s with
  | '.' :: r =>
    match takeDigits r with
    | ([], _) => none
    | (ds, r) => some (ds, r)
  | _ => some ([], s)

/-- Reads the sign of an exponent. -/
def readSign : List Char → Bool × List Char
  | '-' :: r => (true, r)
  | '+' :: r => (false, r)
  | r => (false, r)

/-- Reads an exponent, if one comes. -/
def readExponent (s : List Char) : Option (Option (Bool × List Digit) × List Char) :=
  match s with
  | c :: r =>
    if c = 'e' ∨ c = 'E' then
      let (neg, r) := readSign r
      match takeDigits r with
      | ([], _) => none
      | (ds, r) => some (some (neg, ds), r)
    else some (none, s)
  | [] => some (none, s)

/-- Reads a number at the start of a text. -/
def Numeral.read? (s : List Char) : Option (Numeral × List Char) :=
  let (negative, r) := match s with
    | '-' :: r => (true, r)
    | r => (false, r)
  match takeDigits r with
  | ([], _) => none
  | (d :: ds, r) =>
    if d = 0 ∧ ds ≠ [] then none
    else do
      let (fraction, r) ← readFraction r
      let (exponent, r) ← readExponent r
      some (⟨negative, d :: ds, fraction, exponent⟩, r)

theorem takeDigits_cons_length {s r : List Char} {d : Digit} {ds : List Digit}
    (h : takeDigits s = (d :: ds, r)) : r.length < s.length := by
  cases s with
  | nil => simp [takeDigits] at h
  | cons c t =>
    unfold takeDigits at h
    split at h
    · have ht := takeDigits_length t
      rw [Prod.mk.injEq] at h
      rw [← h.2, List.length_cons]
      omega
    · simp at h

theorem readFraction_length {s r : List Char} {ds : List Digit}
    (h : readFraction s = some (ds, r)) : r.length ≤ s.length := by
  unfold readFraction at h
  split at h
  · rename_i t
    have ht := takeDigits_length t
    split at h
    · simp at h
    · rename_i heq
      rw [heq] at ht
      dsimp only at ht
      simp only [Option.some.injEq, Prod.mk.injEq] at h
      rw [← h.2, List.length_cons]
      omega
  · simp only [Option.some.injEq, Prod.mk.injEq] at h
    exact Nat.le_of_eq (congrArg List.length h.2.symm)

theorem readSign_length (s : List Char) : (readSign s).2.length ≤ s.length := by
  unfold readSign
  split <;> simp

theorem readExponent_length {s r : List Char} {e : Option (Bool × List Digit)}
    (h : readExponent s = some (e, r)) : r.length ≤ s.length := by
  unfold readExponent at h
  split at h
  · rename_i c t
    split at h
    · have hs := readSign_length t
      have ht := takeDigits_length (readSign t).2
      split at h
      rename_i neg u hsign
      rw [hsign] at hs ht
      dsimp only at hs ht
      split at h
      · simp at h
      · rename_i heq
        rw [heq] at ht
        dsimp only at ht
        simp only [Option.some.injEq, Prod.mk.injEq] at h
        rw [← h.2, List.length_cons]
        omega
    · simp only [Option.some.injEq, Prod.mk.injEq] at h
      exact Nat.le_of_eq (congrArg List.length h.2.symm)
  · simp only [Option.some.injEq, Prod.mk.injEq] at h
    exact Nat.le_of_eq (congrArg List.length h.2.symm)

/-- A numeral takes at least one character. -/
theorem Numeral.read?_length {s r : List Char} {n : Numeral}
    (h : Numeral.read? s = some (n, r)) : r.length < s.length := by
  unfold Numeral.read? at h
  split at h
  rename_i negative t hneg
  have hst : t.length ≤ s.length := by
    split at hneg <;> (rw [Prod.mk.injEq] at hneg; simp [← hneg.2])
  split at h
  · simp at h
  · rename_i d ds u hd
    have hu := takeDigits_cons_length hd
    split at h
    · simp at h
    · simp only [Option.bind_eq_bind, Option.bind_eq_some_iff, Option.some.injEq,
        Prod.mk.injEq] at h
      obtain ⟨⟨f, v⟩, hf, ⟨e, w⟩, he, _, hr⟩ := h
      have h1 : v.length ≤ u.length := readFraction_length hf
      have h2 : w.length ≤ v.length := readExponent_length he
      have h3 : r.length = w.length := by rw [← hr]
      omega

end RegistryStorage.Json
