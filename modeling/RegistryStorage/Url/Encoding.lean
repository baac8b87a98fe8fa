/-!
Percent encoding.

Each part of an address has its own set of characters that are written as the bytes of their
UTF-8 form, a percent sign and two hexadecimal digits for each. Everything outside ASCII is
always written so, and so are control characters.
-/

set_option autoImplicit false

namespace RegistryStorage.Url

/-- The capital hexadecimal digit of a value. -/
def hexDigit (n : Nat) : Char := (Nat.digitChar n).toUpper

/-- An encoded byte. -/
def encodeByte (b : UInt8) : List Char := ['%', hexDigit (b.toNat / 16), hexDigit (b.toNat % 16)]

/-- A character as its encoded bytes. -/
def encodeAlways (c : Char) : List Char := (String.utf8EncodeChar c).flatMap encodeByte

/-- Encodes what a set names, control characters, and everything outside ASCII. -/
def encodeWith (set : List Char) (cs : List Char) : List Char :=
  cs.flatMap fun c =>
    if c.toNat < 0x20 ∨ 0x7E < c.toNat ∨ c ∈ set then encodeAlways c else [c]

/-- What is encoded in the fragment. -/
def fragmentSet : List Char := [' ', '"', '<', '>', '\x60']
/-- What is encoded in the path. -/
def pathSet : List Char := fragmentSet ++ ['#', '?', '\x7B', '\x7D']
/-- What is encoded in a segment that is put into a path as a whole. -/
def segmentSet : List Char := pathSet ++ ['/', '%', '\\']
/-- What is encoded in the query. -/
def querySet : List Char := [' ', '"', '#', '<', '>']
/-- What is encoded in the query of the well-known schemes. -/
def specialQuerySet : List Char := querySet ++ ['\x27']
/-- What is encoded in the name and password of a user. -/
def userSet : List Char :=
  pathSet ++ ['/', ':', ';', '=', '@', '[', '\\', ']', '^', '|']

/-- The value of a hexadecimal digit. -/
def hexValue? (c : Char) : Option Nat :=
  if c.isDigit then some (c.toNat - 48)
  else
    let d := c.toLower
    if 'a' ≤ d ∧ d ≤ 'f' then some (d.toNat - 87) else none

/-- The bytes of a text in which encoded bytes are decoded. -/
def decodeBytes : List Char → List UInt8
  | [] => []
  | '%' :: a :: b :: r =>
    match hexValue? a, hexValue? b with
    | some x, some y => UInt8.ofNat (16 * x + y) :: decodeBytes r
    | _, _ => '%'.toUInt8 :: decodeBytes (a :: b :: r)
  | c :: r => String.utf8EncodeChar c ++ decodeBytes r

/-- The text in which encoded bytes are decoded, if the bytes form a text. -/
def decode? (cs : List Char) : Option String := String.fromUTF8? ⟨(decodeBytes cs).toArray⟩

/-! ## Forms -/

/-- A text as a value of a form: letters, digits and four marks stay, a blank becomes a plus
sign, everything else is encoded. -/
def formChars (cs : List Char) : List Char :=
  cs.flatMap fun c =>
    if c = ' ' then ['+']
    else if c.isAlphanum ∨ c = '*' ∨ c = '-' ∨ c = '.' ∨ c = '_' then [c]
    else encodeAlways c

/-- The body of a form. -/
def form (fields : List (String × String)) : String :=
  "&".intercalate (fields.map fun f =>
    String.ofList (formChars f.1.toList ++ '=' :: formChars f.2.toList))

end RegistryStorage.Url
