/-!
Punycode.

A host name outside ASCII is sent in ASCII letters: the ASCII characters of a label, then the
others as the gaps between them, in numbers of base 36 whose digits grow with the gaps seen so
far. `encode` writes a label so, `decodes` says whether a text can have come from one.
-/

set_option autoImplicit false

namespace RegistryStorage.Url.Punycode

/-- The letter or digit of a value below 36. -/
def digit (n : Nat) : Char := if n < 26 then Char.ofNat (97 + n) else Char.ofNat (22 + n)

/-- The value of a letter or digit. -/
def value? (c : Char) : Option Nat :=
  if c.isDigit then some (c.toNat - 22)
  else if c.isAlpha then some (c.toLower.toNat - 97)
  else none

/-- The least value of the digit at a place that says that another digit follows. -/
def threshold (place bias : Nat) : Nat :=
  if place ≤ bias then 1 else if bias + 26 ≤ place then 26 else place - bias

/-- Divides a gap until it is small, counting the places. -/
def shrink (gap places : Nat) : Nat × Nat :=
  if 455 < gap then shrink (gap / 35) (places + 36) else (gap, places)
termination_by gap
decreasing_by omega

/-- The bias after a gap. -/
def adapt (gap count : Nat) (first : Bool) : Nat :=
  let gap := if first then gap / 700 else gap / 2
  let (gap, places) := shrink (gap + gap / count) 0
  places + 36 * gap / (gap + 38)

/-- The digits of a gap, on at most `fuel` places. -/
def gapDigits (bias : Nat) : Nat → Nat → Nat → List Char
  | 0, _, _ => []
  | fuel + 1, place, gap =>
    let t := threshold place bias
    if gap < t then [digit gap]
    else
      digit (t + (gap - t) % (36 - t)) ::
        gapDigits bias fuel (place + 36) ((gap - t) / (36 - t))

/-- What has been written of a label. -/
structure Writing where
  out : List Char
  gap : Nat
  bias : Nat
  handled : Nat

/-- Passes a character of the label in the round for one code. -/
def Writing.pass (basic code : Nat) (w : Writing) (c : Char) : Writing :=
  if c.toNat < code then { w with gap := w.gap + 1 }
  else if c.toNat = code then
    { out := w.out ++ gapDigits w.bias (w.gap + 1) 36 w.gap
      gap := 0
      bias := adapt w.gap (w.handled + 1) (w.handled == basic)
      handled := w.handled + 1 }
  else w

/-- A round for each code outside ASCII, in order. -/
def rounds (label : List Char) (basic : Nat) : List Nat → Nat → Writing → Writing
  | [], _, w => w
  | code :: codes, next, w =>
    let w := { w with gap := w.gap + (code - next) * (w.handled + 1) }
    let w := label.foldl (Writing.pass basic code) w
    rounds label basic codes (code + 1) { w with gap := w.gap + 1 }

/-- A label in ASCII letters. -/
def encode (label : List Char) : List Char :=
  let basic := label.filter fun c => c.toNat < 128
  let codes := ((label.filter fun c => 128 ≤ c.toNat).map Char.toNat).mergeSort.eraseDups
  let w := rounds label basic.length codes 128 ⟨[], 0, 72, basic.length⟩
  basic ++ (if basic.isEmpty then [] else ['-']) ++ w.out

/-- Reads a gap. -/
def readGap (bias : Nat) : List Char → Nat → Nat → Nat → Option (Nat × List Char)
  | [], _, _, _ => none
  | c :: r, place, weight, gap =>
    match value? c with
    | none => none
    | some d =>
      let t := threshold place bias
      if d < t then some (gap + d * weight, r)
      else readGap bias r (place + 36) (weight * (36 - t)) (gap + d * weight)

/-- Reads gaps to the end, checking that each leads to a character outside ASCII. -/
def readGaps : Nat → List Char → Nat → Nat → Nat → Nat → Bool
  | 0, _, _, _, _, _ => false
  | fuel + 1, s, code, position, bias, count =>
    if s.isEmpty then true
    else
      match readGap bias s 36 1 0 with
      | none => false
      | some (gap, r) =>
        let total := position + gap
        let code := code + total / (count + 1)
        let bias := adapt gap (count + 1) (position == 0)
        decide (Nat.isValidChar code) &&
          readGaps fuel r code (total % (count + 1) + 1) bias (count + 1)

/-- Whether a text is the form of a label. -/
def decodes (s : List Char) : Bool :=
  let back := s.reverse.dropWhile (· != '-')
  let basic := (back.drop 1).reverse
  let gaps := if back.isEmpty then s else s.drop (basic.length + 1)
  basic.all (fun c => c.toNat < 128) && !gaps.isEmpty &&
    readGaps (gaps.length + 1) gaps 128 0 72 basic.length

end RegistryStorage.Url.Punycode
