/-!
Base 64.

Keys of storage accounts are bytes written in base 64. `isEncoded` says whether a text is such
a writing: the padding may be left out, but must not be wrong, and the bits that no byte uses
have to be zero. `encode` writes a text.
-/

set_option autoImplicit false

namespace RegistryStorage.Http.Base64

/-- The characters of base 64, in the order of their values. -/
def alphabet : List Char :=
  "ABCDEFGHIJKLMNOPQRSTUVWXYZabcdefghijklmnopqrstuvwxyz0123456789+/".toList

/-- The value of a character. -/
def value? (c : Char) : Option Nat := alphabet.idxOf? c

/-- Whether a text is the writing of some bytes. -/
def isEncoded (s : String) : Bool :=
  let cs := s.toList
  let body := (cs.reverse.dropWhile (· == '=')).reverse
  let padding := cs.length - body.length
  let last := (body.getLast?.bind value?).getD 0
  body.all (fun c => (value? c).isSome) &&
    (match body.length % 4 with
     | 0 => padding == 0
     | 2 => (padding == 0 || padding == 2) && last % 16 == 0
     | 3 => (padding == 0 || padding == 1) && last % 4 == 0
     | _ => false)

/-- The character of a value. -/
def char (n : Nat) : Char := alphabet.getD (n % 64) 'A'

/-- The writing of bytes. -/
def encodeBytes : List UInt8 → List Char
  | [] => []
  | [a] => [char (a.toNat / 4), char (a.toNat * 16), '=', '=']
  | [a, b] =>
    [char (a.toNat / 4), char (a.toNat * 16 + b.toNat / 16), char (b.toNat * 4), '=']
  | a :: b :: c :: r =>
    char (a.toNat / 4) :: char (a.toNat * 16 + b.toNat / 16) ::
      char (b.toNat * 4 + c.toNat / 64) :: char c.toNat :: encodeBytes r

/-- The writing of a text. -/
def encode (s : String) : String := String.ofList (encodeBytes s.toUTF8.toList)

end RegistryStorage.Http.Base64
