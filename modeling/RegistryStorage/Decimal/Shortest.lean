import RegistryStorage.Decimal.Double

/-!
The fewest digits that read back.

A double is the nearest one to every number of a small interval around it. Of the decimal
numbers in that interval those with the fewest digits are taken, and of these the nearest to
the double itself. The search tries 1, 2, … 17 digits; on each grid only the two neighbours
of the double can lie in the interval.
-/

set_option autoImplicit false

namespace RegistryStorage

/-- A decimal number `digits * 10 ^ power`. -/
structure Decimal where
  digits : Nat
  power : Int
deriving DecidableEq, Repr, Inhabited

namespace Double

/-- A power of ten with any exponent, as a quotient. -/
def powerOfTen (e : Int) : Nat × Nat := powerOf 10 e

/-- Whether a decimal number rounds to a double. The interval around the double reaches half
way to its neighbours, the lower of which is nearer below a power of two; the ends belong to
it if the mantissa is even. -/
def reads (d : Double) (n : Decimal) : Bool :=
  let (p, q) := powerOfTwo (d.exponent - 2)
  let (a, b) := powerOfTen n.power
  -- both sides of each comparison are scaled by the denominators
  let value := n.digits * a * q
  let unit := b * p
  let above := (4 * d.mantissa + 2) * unit
  let narrow := d.mantissa == Nat.pow 2 52 && d.exponent != -1074
  let below := (4 * d.mantissa - (if narrow then 1 else 2)) * unit
  if d.mantissa % 2 = 0 then below ≤ value && value ≤ above
  else below < value && value < above

/-- How far a decimal number lies from a double, in a unit that depends on the two powers
alone. -/
def distance (d : Double) (n : Decimal) : Nat :=
  let (p, q) := powerOfTwo d.exponent
  let (a, b) := powerOfTen n.power
  let x := n.digits * a * q
  let y := d.mantissa * p * b
  max x y - min x y

/-- The neighbour of a double among the multiples of a power of ten that rounds to it, the
nearer one of two, the even one of two as near. -/
def onGrid (d : Double) (power : Int) : Option Decimal :=
  let (n, q) := d.ratio
  let (a, b) := powerOfTen power
  let low := n * b / (q * a)
  let lower : Decimal := ⟨low, power⟩
  let upper : Decimal := ⟨low + 1, power⟩
  match 0 < low && d.reads lower, d.reads upper with
  | true, true =>
    let x := d.distance lower
    let y := d.distance upper
    some (if x < y ∨ (x = y ∧ low % 2 = 0) then lower else upper)
  | true, false => some lower
  | false, true => some upper
  | false, false => none

/-- The power of ten of the first digit of a positive double. -/
def leadingPower (d : Double) : Int :=
  let (n, q) := d.ratio
  -- a first guess from the lengths, corrected by comparison
  let guess : Int := ((Nat.log2 n : Int) - Nat.log2 q) * 30103 / 100000 - 1
  let reaches (e : Int) : Bool := let (a, b) := powerOfTen e; a * q ≤ n * b
  if reaches (guess + 2) then guess + 2
  else if reaches (guess + 1) then guess + 1
  else if reaches guess then guess
  else guess - 1

/-- The shortest decimal number that rounds to a positive double, on one of the next `count`
grids. -/
def shortestFrom (d : Double) : Nat → Int → Decimal
  | 0, power => ⟨d.mantissa, power⟩
  | count + 1, power =>
    match d.onGrid power with
    | some n => n
    | none => shortestFrom d count (power - 1)

/-- A decimal number without zeros at its end. -/
def stripZeros (digits : Nat) (power : Int) : Decimal :=
  if h : digits ≠ 0 ∧ digits % 10 = 0 then stripZeros (digits / 10) (power + 1)
  else ⟨digits, power⟩
termination_by digits
decreasing_by omega

/-- The shortest decimal number that rounds to the size of a double. -/
def shortest (d : Double) : Decimal :=
  if d.mantissa = 0 then ⟨0, 0⟩
  else
    let n := d.shortestFrom 18 d.leadingPower
    stripZeros n.digits n.power

end Double

end RegistryStorage
