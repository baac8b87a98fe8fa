import RegistryStorage.Text.WidthClass

/-!
How many columns a text takes on a terminal.

A character takes one column, two or none by its class, and a control character takes one. A
selector takes none, but behind a symbol that can be a picture it decides what the symbol is
shown as: a picture takes two columns, a plain symbol one. The width of a text of several lines
is that of its widest line.
-/

set_option autoImplicit false

namespace RegistryStorage.Text

/-! ## Characters -/

/-- The columns that a character takes by itself. -/
def charWidth (c : Char) : Nat :=
  if inRanges wideRanges c.toNat then 2 else if inRanges zeroRanges c.toNat then 0 else 1

/-- Whether a character is shown as a picture by itself, and as a plain symbol on request. -/
def isPicture (c : Char) : Bool :=
  let n := c.toNat
  inRanges wideRanges n && ((0x231A ≤ n && n ≤ 0x2B55) || (0x1F000 ≤ n && n ≤ 0x1FAFF)) &&
    !((0x2329 ≤ n && n ≤ 0x232A) || (0x2630 ≤ n && n ≤ 0x2637) || (0x268A ≤ n && n ≤ 0x268F) ||
      (0x1F200 ≤ n && n ≤ 0x1F2FF))

/-- The selector that turns a symbol into a picture. -/
def pictureSelector : Char := '\uFE0F'

/-- The selector that turns a picture into a symbol. -/
def textSelector : Char := '\uFE0E'

/-- The columns that a character takes before the rest of its line. -/
def widthBefore (c : Char) (rest : List Char) : Nat :=
  match rest with
  | [] => charWidth c
  | d :: _ =>
    if d = pictureSelector ∧ inRanges symbolRanges c.toNat then 2
    else if d = textSelector ∧ isPicture c then 1
    else charWidth c

/-! ## Texts -/

/-- The columns that a line takes. -/
def lineWidth : List Char → Nat
  | [] => 0
  | c :: r => widthBefore c r + lineWidth r

/-- The lines of a text, without the line feeds between them; at least one. -/
def linesOf (s : String) : List (List Char) :=
  s.toList.foldr
    (fun c lines =>
      if c = '\n' then [] :: lines
      else
        match lines with
        | [] => [[c]]
        | l :: r => (c :: l) :: r)
    [[]]

/-- The columns that a text takes. -/
def width (s : String) : Nat := ((linesOf s).map lineWidth).foldl max 0

end RegistryStorage.Text
