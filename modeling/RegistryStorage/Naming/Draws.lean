/-!
Random characters.

A source of randomness hands out 32-bit numbers: the listed ones, then zeros. A character is
drawn from the six high bits of a number, and numbers whose bits name no character are passed
over. The count of numbers handed out is kept beside the source.
-/

set_option autoImplicit false

namespace RegistryStorage.Naming

/-- A source of 32-bit numbers, and how many it has handed out. -/
structure Draws where
  upcoming : List UInt32
  taken : Nat := 0
deriving Repr, Inhabited

/-- The characters that can be drawn, in the order of their numbers. -/
def alphabet : List Char :=
  "ABCDEFGHIJKLMNOPQRSTUVWXYZabcdefghijklmnopqrstuvwxyz0123456789".toList

/-- The character that a number names; the two highest values name none. -/
def letterOf (number : UInt32) : Option Char := alphabet[(number >>> 26).toNat]?

/-- Draws a character from the listed numbers, of which `taken` went before. -/
def drawFrom : List UInt32 → Nat → Char × Draws
  | [], taken => ('A', ⟨[], taken + 1⟩)
  | number :: rest, taken =>
    match letterOf number with
    | some c => (c, ⟨rest, taken + 1⟩)
    | none => drawFrom rest (taken + 1)

/-- Draws a character. -/
def Draws.letter (d : Draws) : Char × Draws := drawFrom d.upcoming d.taken

/-- Draws several characters. -/
def Draws.letters : Nat → Draws → List Char × Draws
  | 0, d => ([], d)
  | n + 1, d =>
    let (c, d) := d.letter
    let (cs, d) := Draws.letters n d
    (c :: cs, d)

end RegistryStorage.Naming
