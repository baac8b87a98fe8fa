import RegistryStorage.Decimal.Shortest
import RegistryStorage.Dict
import RegistryStorage.Json.Tree

/-!
Free-form JSON values.

A `Value` is what a tree means where no record is expected: a member for each key, the last
one written, in the order of the keys, whole numbers that fit into 64 bits kept exactly and
all others as doubles. Reading one fails where half a surrogate pair stands alone, where a
number is beyond the doubles, and where lists and objects lie deeper in one another than 127.
Records that are written to a file are values too, with their members in the order of the
record's fields.
-/

set_option autoImplicit false

namespace RegistryStorage.Json

/-- A number of a free-form value. -/
inductive Number
  | whole (i : Int)
  | real (d : Double)
deriving DecidableEq, Repr, Inhabited

/-- A free-form value. -/
inductive Value
  | null
  | bool (b : Bool)
  | number (n : Number)
  | text (s : String)
  | list (items : List Value)
  | object (members : List (String × Value))
deriving Repr, BEq, Inhabited

/-! ## Numbers -/

namespace Number

/-- The greatest number of 64 bits. -/
def wordMax : Nat := Nat.pow 2 64 - 1

/-- Reads digits into a word as far as they fit, and counts the digits that did not. -/
def fill : List Digit → Nat → Nat × Nat
  | [], word => (word, 0)
  | d :: r, word =>
    if 10 * word + d.val ≤ wordMax then fill r (10 * word + d.val) else (word, r.length + 1)

/-- The greatest power of ten that is scaled by in one step. -/
def stepPower : Nat := 308

/-- A power of ten up to `stepPower`, rounded to a double. -/
def tenTo (power : Nat) : Option Double := Double.ofRatio false (Nat.pow 10 power) 1

/-- Divides by a power of ten, `stepPower` digits at a time. -/
def scaleDown (d : Double) (power : Nat) : Option Double :=
  if _h : power ≤ stepPower then do d.div (← tenTo power)
  else if d.mantissa = 0 then some d
  else do
    let p ← tenTo stepPower
    let q ← d.div p
    scaleDown q (power - stepPower)
termination_by power
decreasing_by
  simp only [stepPower] at *
  omega

/-- The double of a word scaled by a power of ten. The power is itself rounded to a double
before the word is multiplied or divided by it, and a division by a greater power is made in
steps. A greater power is refused, unless there is nothing to multiply. -/
def scale (negative : Bool) (word : Nat) (power : Int) : Option Double := do
  let d ← Double.ofRatio negative word 1
  if 0 ≤ power then
    if power ≤ stepPower then d.mul (← tenTo power.toNat)
    else if d.mantissa = 0 then some d else none
  else scaleDown d (-power).toNat

/-- The double of a numeral: the digits that fit into a word, scaled by the power of ten of the
last of them. A nonzero number whose exponent has too many digits is refused or zero. -/
def double? (n : Numeral) : Option Double :=
  let (word, left) := fill n.whole 0
  let (word, used) :=
    let (w, rest) := fill n.fraction word
    (w, n.fraction.length - rest)
  let power : Int := left - used
  match n.exponent with
  | none => scale n.negative word power
  | some (below, ds) =>
    let e := Numeral.ofDigits ds
    if e ≥ Nat.pow 2 31 then
      if word ≠ 0 ∧ ¬below then none else some (Double.zero n.negative)
    else scale n.negative word (if below then power - e else power + e)

/-- The number of a numeral. A whole number that does not fit into 64 bits and a negative zero
are doubles. -/
def ofNumeral? (n : Numeral) : Option Number :=
  match n.int? with
  | some i =>
    if (0 ≤ i ∧ ¬n.negative ∧ i ≤ wordMax) ∨ (i < 0 ∧ -(Nat.pow 2 63 : Int) ≤ i) then some (whole i)
    else real <$> double? n
  | none => real <$> double? n

/-- The shortest numeral of a double: positional where the power of its first digit is at
least -5 and below 16, with at least one digit on either side of the point; otherwise one
digit before the point and an exponent. -/
def numeralOf (d : Double) : Numeral :=
  if d.mantissa = 0 then ⟨d.negative, [zeroDigit], [zeroDigit], none⟩
  else
    let n := d.shortest
    let digits := digitsOf n.digits
    let point : Int := digits.length + n.power
    if 0 ≤ n.power ∧ point ≤ 16 then
      ⟨d.negative, digits ++ List.replicate n.power.toNat zeroDigit, [zeroDigit], none⟩
    else if 0 < point ∧ point ≤ 16 then
      ⟨d.negative, digits.take point.toNat, digits.drop point.toNat, none⟩
    else if -5 < point ∧ point ≤ 0 then
      ⟨d.negative, [zeroDigit], List.replicate (-point).toNat zeroDigit ++ digits, none⟩
    else
      let e := point - 1
      ⟨d.negative, digits.take 1, digits.drop 1, some (e < 0, digitsOf e.natAbs)⟩

/-- The numeral that writes a number. -/
def numeral : Number → Numeral
  | whole i => Numeral.ofInt i
  | real d => numeralOf d

end Number

/-! ## Reading -/

namespace Tree

mutual
/-- The value of a tree whose nesting is small enough. -/
def valueOf : Tree → Option Value
  | .null => some .null
  | .bool b => some (.bool b)
  | .number n => .number <$> Number.ofNumeral? n
  | .text t => .text <$> t
  | .list items => .list <$> valuesOfItems items
  | .object members => .object <$> valuesOfMembers members

/-- The values of the items of a list. -/
def valuesOfItems : List Tree → Option (List Value)
  | [] => some []
  | t :: r => do return (← t.valueOf) :: (← valuesOfItems r)

/-- The values of members, by their keys; the last one of a key counts. -/
def valuesOfMembers : List (Option String × Tree) → Option (List (String × Value))
  | [] => some []
  | (key, t) :: r => do
    let k ← key
    let v ← t.valueOf
    let l ← valuesOfMembers r
    return if (Entries.find? k l).isSome then l else Entries.put k v l
end

/-- The value of a tree that lies `depth` deep in what is being read. -/
def value? (t : Tree) (depth : Nat := 0) : Option Value :=
  if t.nesting + depth < 128 then t.valueOf else none

end Tree

namespace Value

/-- The value of a text. -/
def read? (s : String) : Option Value := do (← Tree.read? s).value?

/-! ## Access -/

/-- The value of a key; none if this is no object. -/
def get? (v : Value) (key : String) : Option Value :=
  match v with
  | .object members => Entries.find? key members
  | _ => none

/-- The value at the end of a path of keys. -/
def at? (v : Value) : List String → Option Value
  | [] => some v
  | key :: path => do (← v.get? key).at? path

/-- A text. -/
def text? : Value → Option String
  | .text s => some s
  | _ => none

/-- A truth value. -/
def bool? : Value → Option Bool
  | .bool b => some b
  | _ => none

/-- The items of a list. -/
def list? : Value → Option (List Value)
  | .list items => some items
  | _ => none

/-- The members of an object. -/
def members? : Value → Option (List (String × Value))
  | .object members => some members
  | _ => none

/-- The text at the end of a path. -/
def textAt? (v : Value) (path : List String) : Option String := do (← v.at? path).text?

mutual
/-- The tree that says the same. -/
def tree : Value → Tree
  | .null => .null
  | .bool b => .bool b
  | .number n => .number n.numeral
  | .text s => .text (some s)
  | .list items => .list (treesOfItems items)
  | .object members => .object (treesOfMembers members)

/-- The trees of the items of a list. -/
def treesOfItems : List Value → List Tree
  | [] => []
  | v :: r => v.tree :: treesOfItems r

/-- The trees of members. -/
def treesOfMembers : List (String × Value) → List (Option String × Tree)
  | [] => []
  | (key, v) :: r => (some key, v.tree) :: treesOfMembers r
end

/-- A whole number. -/
def ofNat (n : Nat) : Value := .number (.whole n)

/-- A text, or `null` for none. -/
def ofText? : Option String → Value
  | some s => .text s
  | none => .null

/-- An object of members in any order, a later one of a key over an earlier one. -/
def ofMembers (members : List (String × Value)) : Value :=
  .object (members.foldl (fun l m => Entries.put m.1 m.2 l) [])

end Value

end RegistryStorage.Json
