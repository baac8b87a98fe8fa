import RegistryStorage.Json.Value

/-!
Writing JSON.

`compact` writes a value without a space, `pretty` with every item and member on a line of its
own, two spaces further in than what it belongs to. Both escape the quote, the backslash and
the control characters below U+0020 and write every other character as it is.
-/

set_option autoImplicit false

namespace RegistryStorage.Json

/-- A character inside a quoted text. -/
def escapeChar (c : Char) : List Char :=
  match c with
  | '"' => ['\\', '"']
  | '\\' => ['\\', '\\']
  | '\x08' => ['\\', 'b']
  | '\x0C' => ['\\', 'f']
  | '\n' => ['\\', 'n']
  | '\r' => ['\\', 'r']
  | '\t' => ['\\', 't']
  | c =>
    if c.toNat < 0x20 then
      ['\\', 'u', '0', '0', Nat.digitChar (c.toNat / 16), Nat.digitChar (c.toNat % 16)]
    else [c]

/-- A quoted text. -/
def quote (s : String) : List Char := '"' :: s.toList.flatMap escapeChar ++ ['"']

namespace Value

/-- A value without parts. -/
def scalarChars : Value → List Char
  | .null => "null".toList
  | .bool b => (if b then "true" else "false").toList
  | .number n => n.numeral.toChars
  | .text s => quote s
  | .list _ => ['[', ']']
  | .object _ => ['{', '}']

mutual
/-- A value without a space. -/
def compactChars : Value → List Char
  | .list items => '[' :: compactItems items ++ [']']
  | .object members => '{' :: compactMembers members ++ ['}']
  | v => v.scalarChars

/-- Items with commas between them. -/
def compactItems : List Value → List Char
  | [] => []
  | [v] => v.compactChars
  | v :: r => v.compactChars ++ ',' :: compactItems r

/-- Members with commas between them. -/
def compactMembers : List (String × Value) → List Char
  | [] => []
  | [(key, v)] => quote key ++ ':' :: v.compactChars
  | (key, v) :: r => quote key ++ ':' :: v.compactChars ++ ',' :: compactMembers r
end

/-- A new line, `depth` steps in. -/
def newLine (depth : Nat) : List Char := '\n' :: List.replicate (2 * depth) ' '

mutual
/-- A value that lies `depth` steps in, its parts on lines of their own. -/
def prettyChars (depth : Nat) : Value → List Char
  | .list [] => ['[', ']']
  | .object [] => ['{', '}']
  | .list items => '[' :: prettyItems (depth + 1) items ++ newLine depth ++ [']']
  | .object members => '{' :: prettyMembers (depth + 1) members ++ newLine depth ++ ['}']
  | v => v.scalarChars

/-- Items on lines of their own. -/
def prettyItems (depth : Nat) : List Value → List Char
  | [] => []
  | [v] => newLine depth ++ v.prettyChars depth
  | v :: r => newLine depth ++ v.prettyChars depth ++ ',' :: prettyItems depth r

/-- Members on lines of their own. -/
def prettyMembers (depth : Nat) : List (String × Value) → List Char
  | [] => []
  | [(key, v)] => newLine depth ++ quote key ++ ':' :: ' ' :: v.prettyChars depth
  | (key, v) :: r =>
    newLine depth ++ quote key ++ ':' :: ' ' :: v.prettyChars depth ++
      ',' :: prettyMembers depth r
end

/-- The text of a value without a space. -/
def compact (v : Value) : String := String.ofList v.compactChars

/-- The text of a value over several lines. -/
def pretty (v : Value) : String := String.ofList (v.prettyChars 0)

end Value

end RegistryStorage.Json
