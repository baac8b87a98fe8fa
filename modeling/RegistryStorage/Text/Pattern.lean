/-!
Patterns of texts.

A pattern is a regular expression, and a text matches it as a whole: it is anchored at both ends,
so that a line break at the end of a text belongs to the text like any other character. Matching
reads the text once, from left to right, and keeps the patterns that what is left of the text may
still match.
-/

set_option autoImplicit false

namespace RegistryStorage.Text

/-- A pattern of texts. -/
inductive Pattern
  /-- No character. -/
  | empty
  /-- One character between the ends of one of some ranges. -/
  | oneOf (ranges : List (Char × Char))
  /-- A text of the first pattern, and after it one of the second. -/
  | followedBy (p q : Pattern)
  /-- A text of either pattern. -/
  | either (p q : Pattern)
  /-- Any number of texts, one after the other. -/
  | many (p : Pattern)
  /-- At least so many texts and at most so many, one after the other. -/
  | times (p : Pattern) (least most : Nat)
deriving Repr

namespace Pattern

/-- Whether the empty text matches. -/
def matchesEmpty : Pattern → Bool
  | empty => true
  | oneOf _ => false
  | followedBy p q => p.matchesEmpty && q.matchesEmpty
  | either p q => p.matchesEmpty || q.matchesEmpty
  | many _ => true
  | times p least most => least ≤ most && (least = 0 || p.matchesEmpty)

/-- The patterns that may match what is left of a text after its first character. -/
def after (c : Char) : Pattern → List Pattern
  | empty => []
  | oneOf ranges => if ranges.any fun r => r.1 ≤ c && c ≤ r.2 then [empty] else []
  | followedBy p q =>
    (p.after c).map (followedBy · q) ++ if p.matchesEmpty then q.after c else []
  | either p q => p.after c ++ q.after c
  | many p => (p.after c).map (followedBy · (many p))
  | times p least most =>
    if most = 0 then [] else (p.after c).map (followedBy · (times p (least - 1) (most - 1)))

/-- Whether a text matches one of some patterns. -/
def anyMatches : List Pattern → List Char → Bool
  | ps, [] => ps.any matchesEmpty
  | ps, c :: r => anyMatches (ps.flatMap (after c)) r

/-- Whether a text matches. -/
def accepts (p : Pattern) (s : String) : Bool := anyMatches [p] s.toList

end Pattern

end RegistryStorage.Text
