import RegistryStorage.Text.Capitals

/-!
Upper and lower case.

Cloud names are compared in upper case, generated container names are put into lower case.
`upper` follows the whole Unicode mapping. `lower` maps ASCII letters and the two letters
outside ASCII whose lower case begins with an ASCII letter: what a container name keeps of
any other letter is the same hyphen in either case.
-/

set_option autoImplicit false

namespace RegistryStorage.Text

/-- The capital form of a character. -/
def upperChar (c : Char) : List Char :=
  if c.toNat < 0x80 then [c.toUpper]
  else
    match capitalExpansions.lookup c.toNat with
    | some codes => codes.map Char.ofNat
    | none =>
      match capitalRuns.findSome? (·.image? c.toNat) with
      | some code => [Char.ofNat code]
      | none => [c]

/-- The text in upper case. -/
def upper (s : String) : String := String.ofList (s.toList.flatMap upperChar)

/-- The lower case form of a character, as far as it holds ASCII letters. -/
def lowerChar (c : Char) : List Char :=
  if c = '\u212A' then ['k']
  else if c = '\u0130' then ['i', '\u0307']
  else [c.toLower]

/-- The text in lower case, as far as ASCII letters come out. -/
def lower (s : String) : String := String.ofList (s.toList.flatMap lowerChar)

end RegistryStorage.Text
