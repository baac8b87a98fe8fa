import RegistryStorage.Yaml.Resolution

/-!
Texts in YAML.

A text is written in one of four styles. A text with a line feed is a literal block, line by
line below a bar, further in than what it belongs to. Another text is plain where nothing in
it has a meaning of its own, between single quotes where it has, and between double quotes,
with escapes, where it holds a character that is not printed or has blanks at a line break.
-/

set_option autoImplicit false

namespace RegistryStorage.Yaml

/-! ## Characters -/

/-- Whether a character ends a line. -/
def isBreak (c : Char) : Bool :=
  c = '\n' || c = '\r' || c = '\u0085' || c = '\u2028' || c = '\u2029'

/-- Whether a character parts words. -/
def isGap (c : Char) : Bool := c = ' ' || c = '\t' || c = '\x00' || isBreak c

/-- Whether a character may stand without an escape. -/
def isPrinted (c : Char) : Bool :=
  let n := c.toNat
  n = 0xA || (0x20 ≤ n && n ≤ 0x7E) || (0xA0 ≤ n && n != 0xFEFF && n != 0xFFFE && n != 0xFFFF)

/-- The characters with which no plain text begins. -/
def indicators : List Char :=
  ['#', ',', '[', ']', '\x7b', '\x7d', '&', '*', '!', '|', '>', '\'', '"', '%', '@', '\x60']

/-! ## What a text holds -/

/-- Whether a gap, or the end, comes next. -/
def gapAhead : List Char → Bool
  | [] => true
  | c :: _ => isGap c

/-- Whether a colon before a gap or a number sign after one stands behind the start. -/
def hasInnerIndicator (afterGap : Bool) : List Char → Bool
  | [] => false
  | c :: r =>
    (c = ':' && gapAhead r) || (c = '#' && afterGap) || hasInnerIndicator (isGap c) r

/-- Whether something in a text has a meaning of its own. -/
def hasIndicator (s : List Char) : Bool :=
  ['-', '-', '-'].isPrefixOf s || ['.', '.', '.'].isPrefixOf s ||
    match s with
    | [] => false
    | c :: r =>
      indicators.contains c || ((c = '?' || c = ':' || c = '-') && gapAhead r) ||
        hasInnerIndicator (isGap c) r

/-- Whether two neighbours in a text pass a test. -/
def hasNeighbours (p : Char → Char → Bool) (s : List Char) : Bool :=
  (s.zip s.tail).any fun (a, b) => p a b

/-- Whether every character may stand as it is, and no line ends in a space. -/
def isClean (s : List Char) : Bool :=
  s.all isPrinted && !hasNeighbours (fun a b => a = ' ' && isBreak b) s

/-- Whether a text may stand by itself. -/
def plainAllowed (s : List Char) : Bool :=
  isClean s && !s.any isBreak && !hasIndicator s && s.head? != some ' ' &&
    s.getLast? != some ' '

/-- Whether a text may stand between single quotes. -/
def quotesAllowed (s : List Char) : Bool :=
  isClean s && !hasNeighbours (fun a b => isBreak a && b = ' ') s

/-- Whether a text may be a literal block. -/
def blockAllowed (s : List Char) : Bool := isClean s && s.getLast? != some ' '

/-! ## Styles -/

/-- How a text is written. -/
inductive Style
  | plain
  | single
  | double
  | block
deriving DecidableEq, Repr, Inhabited

/-- The style of a text. -/
def Style.of (s : String) : Style :=
  let cs := s.toList
  if cs.contains '\n' then (if blockAllowed cs then .block else .double)
  else if plainAllowed cs && !isAmbiguous s then .plain
  else if quotesAllowed cs then .single
  else .double

/-- Spaces. -/
def spaces (n : Nat) : List Char := List.replicate n ' '

/-- Sets the lines of a text further in, the first one as well if it starts a line. -/
def indented (n : Nat) (fresh : Bool) : List Char → List Char
  | [] => []
  | c :: r =>
    if isBreak c then c :: indented n true r
    else (if fresh then spaces n else []) ++ c :: indented n false r

/-- The head of a literal block: an indentation where the text begins with a blank, and whether
the line breaks at its end are dropped or kept. -/
def blockHead (s : List Char) : List Char :=
  let start :=
    match s with
    | c :: _ => if c = ' ' || isBreak c then ['2'] else []
    | [] => []
  let finish :=
    match s.reverse with
    | [] => ['-']
    | [c] => if isBreak c then ['+'] else ['-']
    | c :: d :: _ => if !isBreak c then ['-'] else if isBreak d then ['+'] else []
  '|' :: start ++ finish

/-- The hexadecimal digits of a number, a given count of them. -/
def hexDigits (n : Nat) : Nat → List Char
  | 0 => []
  | k + 1 => hexDigits (n / 16) k ++ [(Nat.digitChar (n % 16)).toUpper]

/-- A character between double quotes. -/
def escaped (c : Char) : List Char :=
  match c with
  | '\x00' => ['\\', '0']
  | '\x07' => ['\\', 'a']
  | '\x08' => ['\\', 'b']
  | '\t' => ['\\', 't']
  | '\n' => ['\\', 'n']
  | '\x0B' => ['\\', 'v']
  | '\x0C' => ['\\', 'f']
  | '\r' => ['\\', 'r']
  | '\x1B' => ['\\', 'e']
  | '"' => ['\\', '"']
  | '\\' => ['\\', '\\']
  | '\u0085' => ['\\', 'N']
  | '\u2028' => ['\\', 'L']
  | '\u2029' => ['\\', 'P']
  | c =>
    if isPrinted c then [c]
    else if c.toNat ≤ 0xFF then '\\' :: 'x' :: hexDigits c.toNat 2
    else '\\' :: 'u' :: hexDigits c.toNat 4

/-- A text whose further lines are set in by `n` spaces. -/
def written (n : Nat) (s : String) : List Char :=
  let cs := s.toList
  match Style.of s with
  | .plain => cs
  | .single =>
    '\'' :: indented n false (cs.flatMap (fun c => if c = '\'' then [c, c] else [c]) ++ ['\''])
  | .double => '"' :: cs.flatMap escaped ++ ['"']
  | .block => blockHead cs ++ '\n' :: indented n true cs

end RegistryStorage.Yaml
