import RegistryStorage.Json.Token
import RegistryStorage.Decimal.Double

/-!
What an unquoted word means in YAML.

Some words stand for something else than themselves: nothing at all, a truth value, a whole
number in one of four bases, or a number with a fraction or an exponent that is not beyond the
doubles. A text that is spelled like one of them has to be quoted. Digits with a needless zero
in front are a text to a reader, and are quoted all the same.
-/

set_option autoImplicit false

namespace RegistryStorage.Yaml

/-! ## Words -/

/-- The spellings of a missing value. -/
def nullWords : List String := ["null", "Null", "NULL", "~"]

/-- The spellings of the truth values. -/
def boolWords : List String := ["true", "True", "TRUE", "false", "False", "FALSE"]

/-- The spellings of the numbers that are not finite. -/
def unboundedWords : List String :=
  [".inf", ".Inf", ".INF", "+.inf", "+.Inf", "+.INF", "-.inf", "-.Inf", "-.INF",
    ".nan", ".NaN", ".NAN"]

/-! ## Numbers -/

/-- The number that digits write in a base, if there is at least one and all belong to it. -/
def based? (base : Nat) (ds : List Char) : Option Nat :=
  if ds.isEmpty then none
  else
    ds.foldlM
      (fun n c =>
        match Json.hexValue? c with
        | some d => if d < base then some (base * n + d) else none
        | none => none)
      0

/-- Splits a sign off. -/
def splitSign : List Char → Bool × List Char
  | '-' :: r => (true, r)
  | '+' :: r => (false, r)
  | s => (false, s)

/-- Whether a word writes a whole number in base sixteen, eight or two, in 128 bits. -/
def isBased (s : List Char) : Bool :=
  let (negative, r) := splitSign s
  let fits (n : Option Nat) : Bool :=
    match n with
    | some n => if negative then n ≤ Nat.pow 2 127 else n < Nat.pow 2 128
    | none => false
  match r with
  | '0' :: 'x' :: ds => fits (based? 16 ds)
  | '0' :: 'o' :: ds => fits (based? 8 ds)
  | '0' :: 'b' :: ds => fits (based? 2 ds)
  | _ => false

/-- Whether a word is digits with a needless zero in front. -/
def isPaddedDigits (s : List Char) : Bool :=
  match (splitSign s).2 with
  | '0' :: c :: r => (c :: r).all Char.isDigit
  | _ => false

/-- Whether digits times a power of ten are not beyond the doubles. -/
def isFinite (digits : List Char) (power : Int) : Bool :=
  match digits.dropWhile (· = '0') with
  | [] => true
  | ds =>
    let point : Int := ds.length + power
    if point > 310 then false
    else if point < 300 then true
    else
      let m := (based? 10 ds).getD 0
      if 0 ≤ power then (Double.ofRatio false (m * Nat.pow 10 power.toNat) 1).isSome
      else (Double.ofRatio false m (Nat.pow 10 (-power).toNat)).isSome

/-- The power of ten at the end of a number; none if something else stands there. -/
def power? : List Char → Option Int
  | [] => some 0
  | c :: r =>
    if c = 'e' ∨ c = 'E' then
      let (negative, ds) := splitSign r
      if ds.all Char.isDigit then
        (based? 10 ds).map fun n => if negative then -(n : Int) else n
      else none
    else none

/-- Whether a word writes a finite number in base ten: digits with a point among them or
beside them, or without one, and a power of ten. -/
def isDecimal (s : List Char) : Bool :=
  let r := (splitSign s).2
  let whole := r.takeWhile Char.isDigit
  let (fraction, rest) :=
    match r.dropWhile Char.isDigit with
    | '.' :: r => (r.takeWhile Char.isDigit, r.dropWhile Char.isDigit)
    | r => ([], r)
  if (whole ++ fraction).isEmpty then false
  else
    match power? rest with
    | some power => isFinite (whole ++ fraction) (power - fraction.length)
    | none => false

/-- Whether a text without quotes around it is not read as that text, or is digits. -/
def isAmbiguous (s : String) : Bool :=
  let cs := s.toList
  s.isEmpty || nullWords.contains s || boolWords.contains s || unboundedWords.contains s ||
    isPaddedDigits cs || isBased cs || isDecimal cs

end RegistryStorage.Yaml
