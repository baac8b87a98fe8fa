import RegistryStorage.Text.Capitals
import RegistryStorage.Url.Encoding
import RegistryStorage.Url.Punycode

/-!
Hosts.

The host of an address is a domain name, an IPv4 address in any of its traditional spellings,
an IPv6 address in brackets, or, outside the well-known schemes, any text. Domain names are
put into small ASCII letters. Letters outside ASCII are mapped to their small forms and the
label is written in Punycode.
-/

set_option autoImplicit false

namespace RegistryStorage.Url

/-- Why a text is no address. -/
inductive ParseFault
  | emptyHost
  | badInternationalName
  | badPort
  | badIpv4
  | badIpv6
  | badHostCharacter
  | relative
deriving DecidableEq, Repr, Inhabited

/-- The wording of a fault. -/
def ParseFault.message : ParseFault → String
  | emptyHost => "empty host"
  | badInternationalName => "invalid international domain name"
  | badPort => "invalid port number"
  | badIpv4 => "invalid IPv4 address"
  | badIpv6 => "invalid IPv6 address"
  | badHostCharacter => "invalid domain character"
  | relative => "relative URL without a base"

/-! ## Domain names -/

/-- Characters that no host may hold. -/
def forbiddenInHost (c : Char) : Bool :=
  c = '\x00' || c = '\t' || c = '\n' || c = '\r' ||
    c ∈ [' ', '#', '/', ':', '<', '>', '?', '@', '[', '\\', ']', '^', '|']

/-- Characters that no domain name may hold. -/
def forbiddenInDomain (c : Char) : Bool :=
  forbiddenInHost c || c.toNat < 0x20 || c = '%' || c.toNat = 0x7F

/-- The small form of a letter outside ASCII. -/
def smallLetter (c : Char) : Char :=
  let small (r : Text.CapitalRun) : Option Nat :=
    if r.capital ≤ c.toNat ∧ c.toNat ≤ r.capital + (r.last - r.first) ∧
        (c.toNat - r.capital) % r.step = 0 then some (r.first + (c.toNat - r.capital))
    else none
  match Text.capitalRuns.findSome? small with
  | some code => Char.ofNat code
  | none => c

/-- A character as a domain name holds it; some are left out. -/
def domainChar (c : Char) : List Char :=
  if c.toNat < 0x80 then [c.toLower]
  else if c.toNat = 0xAD ∨ (0x200B ≤ c.toNat ∧ c.toNat ≤ 0x200D) ∨ c.toNat = 0x2060 ∨
      c.toNat = 0xFEFF ∨ (0xFE00 ≤ c.toNat ∧ c.toNat ≤ 0xFE0F) then []
  else if c = '\u3002' ∨ c = '\uFF0E' ∨ c = '\uFF61' then ['.']
  else if 0xFF01 ≤ c.toNat ∧ c.toNat ≤ 0xFF5E then [(Char.ofNat (c.toNat - 0xFEE0)).toLower]
  else if c = '\u1E9E' then ['s', 's']
  else if c = '\u0130' then ['i', '\u0307']
  else [smallLetter c]

/-- Cuts a list at a character. -/
def splitAtChar (c : Char) : List Char → List (List Char)
  | [] => [[]]
  | d :: r =>
    match splitAtChar c r with
    | [] => [[]]
    | label :: labels => if d = c then [] :: label :: labels else (d :: label) :: labels

/-- A label of a domain name in ASCII letters. -/
def labelAscii? (label : List Char) : Option (List Char) :=
  if label.all fun c => c.toNat < 0x80 then
    if "xn--".toList.isPrefixOf label && !Punycode.decodes (label.drop 4) then none
    else some label
  else some ("xn--".toList ++ Punycode.encode label)

/-- A domain name in small ASCII letters. -/
def domainAscii? (name : List Char) : Option (List Char) := do
  let labels ← (splitAtChar '.' (name.flatMap domainChar)).mapM labelAscii?
  let ascii := List.intercalate ['.'] labels
  if ascii.any forbiddenInDomain then none else some ascii

/-! ## IPv4 -/

/-- A number in one of the spellings of an IPv4 part: octal after a zero, hexadecimal after
`0x`, decimal otherwise. -/
def ipv4Part? (s : List Char) : Option Nat :=
  let digits (base : Nat) (ds : List Char) : Option Nat :=
    ds.foldlM (fun n c => do
      let d ← hexValue? c
      if d < base then some (base * n + d) else none) 0
  match s with
  | [] => none
  | '0' :: x :: r =>
    if x = 'x' ∨ x = 'X' then digits 16 r else digits 8 (x :: r)
  | r => digits 10 r

/-- Whether the last part of a domain name is a number, so that the name has to be an IPv4
address. -/
def endsInNumber (name : List Char) : Bool :=
  let parts := (splitAtChar '.' name).reverse
  let last := match parts with
    | [] :: p :: _ => p
    | [] :: [] => []
    | p :: _ => p
    | [] => []
  (!last.isEmpty && last.all Char.isDigit) ||
    (("0x".toList.isPrefixOf last || "0X".toList.isPrefixOf last) && (ipv4Part? last).isSome)

/-- The IPv4 address that a domain name spells. -/
def ipv4? (name : List Char) : Option Nat := do
  let parts := splitAtChar '.' name
  let parts := match parts.reverse with
    | [] :: p :: r => (p :: r).reverse
    | _ => parts
  if parts.length > 4 then none
  let numbers ← parts.mapM ipv4Part?
  match numbers.reverse with
  | [] => none
  | last :: front =>
    if front.any (255 < ·) ∨ Nat.pow 256 (4 - front.length) ≤ last then none
    else
      let places := (List.range front.length).map fun i => Nat.pow 256 (3 - i)
      some ((front.reverse.zip places).foldl (fun n p => n + p.1 * p.2) last)

/-- The four numbers of an IPv4 address. -/
def ipv4Text (n : Nat) : String :=
  ".".intercalate ([24, 16, 8, 0].map fun shift => toString (n / Nat.pow 2 shift % 256))

/-! ## IPv6 -/

/-- The dotted end of an IPv6 address, as two pieces. -/
def ipv6Tail? (s : List Char) : Option (List Nat) := do
  let numbers ← (splitAtChar '.' s).mapM fun p =>
    if p.isEmpty ∨ 3 < p.length ∨ ¬p.all Char.isDigit ∨ (1 < p.length ∧ p.head? = some '0') then
      none
    else
      let n := p.foldl (fun n c => 10 * n + (c.toNat - 48)) 0
      if n < 256 then some n else none
  match numbers with
  | [a, b, c, d] => some [256 * a + b, 256 * c + d]
  | _ => none

/-- The pieces of a part of an IPv6 address without a gap. -/
def ipv6Pieces? (s : List Char) (mayEndDotted : Bool) : Option (List Nat) :=
  if s.isEmpty then some []
  else
    let parts := splitAtChar ':' s
    let piece? (p : List Char) : Option Nat :=
      if p.isEmpty ∨ 4 < p.length then none
      else p.foldlM (fun n c => do return 16 * n + (← hexValue? c)) 0
    match parts.reverse with
    | [] => none
    | last :: front => do
      let front ← front.reverse.mapM piece?
      if mayEndDotted ∧ '.' ∈ last then return front ++ (← ipv6Tail? last)
      else return front ++ [← piece? last]

/-- Cuts a text at the first pair of colons. -/
def splitAtGap : List Char → Option (List Char × List Char)
  | ':' :: ':' :: r => some ([], r)
  | c :: r => (splitAtGap r).map fun (a, b) => (c :: a, b)
  | [] => none

/-- The eight pieces of an IPv6 address. -/
def ipv6? (s : List Char) : Option (List Nat) := do
  match splitAtGap s with
  | none =>
    let pieces ← ipv6Pieces? s true
    if pieces.length = 8 then some pieces else none
  | some (before, after) =>
    let front ← ipv6Pieces? before false
    let back ← ipv6Pieces? after true
    let count := front.length + back.length
    if count < 8 then some (front ++ List.replicate (8 - count) 0 ++ back) else none

/-- The longest run of zero pieces, the first of several: its place and its length. -/
def longestZeros (pieces : List Nat) : Nat × Nat :=
  let runAt (i : Nat) : Nat := ((pieces.drop i).takeWhile (· == 0)).length
  (List.range pieces.length).foldl (fun best i => if best.2 < runAt i then (i, runAt i) else best)
    (0, 0)

/-- The text of an IPv6 address, its longest run of zeros left out. -/
def ipv6Text (pieces : List Nat) : String :=
  let hex (ps : List Nat) := ":".intercalate (ps.map fun p => String.ofList (Nat.toDigits 16 p))
  let (place, length) := longestZeros pieces
  if length < 2 then hex pieces
  else hex (pieces.take place) ++ "::" ++ hex (pieces.drop (place + length))

/-! ## Hosts -/

/-- Reads the host of an address of a well-known scheme. -/
def specialHost (s : List Char) : Except ParseFault String :=
  match s with
  | '[' :: r =>
    match r.reverse with
    | ']' :: inner =>
      match ipv6? inner.reverse with
      | some pieces => .ok ("[" ++ ipv6Text pieces ++ "]")
      | none => .error .badIpv6
    | _ => .error .badIpv6
  | _ =>
    match (decode? s).bind fun name => domainAscii? name.toList with
    | none => .error .badInternationalName
    | some name =>
      if name.isEmpty then .error .emptyHost
      else if endsInNumber name then
        match ipv4? name with
        | some n => .ok (ipv4Text n)
        | none => .error .badIpv4
      else .ok (String.ofList name)

/-- Reads the host of an address of any other scheme. -/
def plainHost (s : List Char) : Except ParseFault String :=
  match s with
  | '[' :: _ => specialHost s
  | _ =>
    if s.any forbiddenInHost then .error .badHostCharacter
    else .ok (String.ofList (encodeWith [] s))

end RegistryStorage.Url
