/-!
Double precision numbers in exact arithmetic.

A finite double is a sign, a mantissa below 2^53 and a power of two. `ofRatio` rounds a
quotient of whole numbers to the nearest double, a tie to the even mantissa; products and
quotients of doubles are rounded the same way, since both are quotients of whole numbers. No
floating point operation of the machine takes part, so what holds of these numbers can be
proved by arithmetic.
-/

set_option autoImplicit false

namespace RegistryStorage

/-- A finite double: `mantissa * 2 ^ exponent`, negated if `negative`. The mantissa of a number
that is not tiny has 53 bits; the exponent is never below -1074. -/
structure Double where
  negative : Bool
  mantissa : Nat
  exponent : Int
deriving DecidableEq, Repr, Inhabited

namespace Double

/-- Zero of either sign. -/
def zero (negative : Bool) : Double := ⟨negative, 0, -1074⟩

/-- The quotient of two whole numbers, rounded to the nearest, a half to the even neighbour. -/
def roundHalfEven (num den : Nat) : Nat :=
  let q := num / den
  let r := num % den
  if 2 * r < den then q
  else if 2 * r > den then q + 1
  else q + q % 2

/-- A power with any exponent, as a quotient. -/
def powerOf (base : Nat) (e : Int) : Nat × Nat :=
  if 0 ≤ e then (Nat.pow base e.toNat, 1) else (1, Nat.pow base (-e).toNat)

/-- A power of two with any exponent, as a quotient. -/
def powerOfTwo (e : Int) : Nat × Nat := powerOf 2 e

/-- The exponent with which a positive quotient has a mantissa of 53 bits, unless that lies
below the least exponent. -/
def exponentFor (num den : Nat) : Int :=
  let e : Int := (Nat.log2 num : Int) - Nat.log2 den - 52
  let (p, q) := powerOfTwo e
  -- the quotient lies between 2^(e+51) and 2^(e+53)
  let e := if num * q < den * p * Nat.pow 2 52 then e - 1 else e
  max e (-1074)

/-- The mantissa of a quotient with some exponent. -/
def mantissaFor (num den : Nat) (e : Int) : Nat :=
  let (p, q) := powerOfTwo e
  roundHalfEven (num * q) (den * p)

/-- The double with a mantissa that may have been rounded up to 54 bits, if there is one below the
greatest. -/
def carry (negative : Bool) (m : Nat) (e : Int) : Option Double :=
  if m = Nat.pow 2 53 then
    if e + 1 > 971 then none else some ⟨negative, Nat.pow 2 52, e + 1⟩
  else if e > 971 then none
  else some ⟨negative, m, e⟩

/-- The double nearest to a quotient, if there is one below the greatest. -/
def ofRatio (negative : Bool) (num den : Nat) : Option Double :=
  if num = 0 then some (zero negative)
  else
    let e := exponentFor num den
    carry negative (mantissaFor num den e) e

/-- The size of a double as a quotient. -/
def ratio (d : Double) : Nat × Nat :=
  let (p, q) := powerOfTwo d.exponent
  (d.mantissa * p, q)

/-- The product of two doubles, rounded. -/
def mul (a b : Double) : Option Double :=
  let (n, d) := a.ratio
  let (n', d') := b.ratio
  ofRatio (a.negative != b.negative) (n * n') (d * d')

/-- The quotient of two doubles, rounded; the divisor is not zero. -/
def div (a b : Double) : Option Double :=
  let (n, d) := a.ratio
  let (n', d') := b.ratio
  ofRatio (a.negative != b.negative) (n * d') (d * n')

end Double

end RegistryStorage
