import RegistryStorage.Json.Value
import RegistryStorage.Yaml.Scalar

/-!
Writing YAML.

A value is written over as many lines as it needs: an item behind a dash, a member behind its
key, what belongs to either two spaces further in, save that the dashes of a list stand below
the first letter of its key. A list or an object in a list begins on the line of its dash. A
key that is long or holds a line break stands behind a question mark, and its value behind a
colon on a line of its own.
-/

set_option autoImplicit false

namespace RegistryStorage.Yaml

open Json (Value)

/-! ## Parts -/

/-- A value without parts, its further lines set in by `n` spaces. -/
def scalarChars (n : Nat) : Value → List Char
  | .null => "null".toList
  | .bool b => (if b then "true" else "false").toList
  | .number m => m.numeral.toChars false
  | .text s => written n s
  | .list _ => ['[', ']']
  | .object _ => ['\x7b', '\x7d']

/-- Ends the last line, unless the text ends it itself. -/
def endLine (s : List Char) : List Char :=
  match s.getLast? with
  | some c => if isBreak c then s else s ++ ['\n']
  | none => ['\n']

/-- The bytes that a key on the line of its value may have. -/
def keyLimit : Nat := 128

/-- Whether a key stands on the line of its value. -/
def isShortKey (key : String) : Bool :=
  key.utf8ByteSize ≤ keyLimit && !key.toList.any isBreak

/-- Where a value is written: from a column on, or behind the colon of a key at a column. -/
inductive Place
  | start (column : Nat)
  | behindKey (column : Nat)
deriving DecidableEq, Repr, Inhabited

/-- What stands before a list, and the column of its dashes. -/
def Place.list : Place → List Char × Nat
  | .start n => ([], n)
  | .behindKey n => ('\n' :: spaces n, n)

/-- What stands before an object, and the column of its keys. -/
def Place.object : Place → List Char × Nat
  | .start n => ([], n)
  | .behindKey n => ('\n' :: spaces (n + 2), n + 2)

/-- What stands before a value without parts, and the column of its further lines. -/
def Place.scalar : Place → List Char × Nat
  | .start n => ([], n)
  | .behindKey n => ([' '], n + 2)

/-- A key at column `n` with its colon, and the place of its value. -/
def keyChars (n : Nat) (key : String) : List Char × Place :=
  if isShortKey key then (written n key ++ [':'], .behindKey n)
  else
    ('?' :: ' ' :: endLine (written (n + 2) key) ++ spaces n ++ [':', ' '], .start (n + 2))

/-! ## Values -/

mutual
/-- A value at a place, with the line feed at its end. -/
def valueChars (place : Place) : Value → List Char
  | .list [] => place.scalar.1 ++ ['[', ']', '\n']
  | .object [] => place.scalar.1 ++ ['\x7b', '\x7d', '\n']
  | .list items => place.list.1 ++ itemsChars place.list.2 items
  | .object members => place.object.1 ++ membersChars place.object.2 members
  | v => place.scalar.1 ++ endLine (scalarChars place.scalar.2 v)

/-- The items of a list at column `n`. -/
def itemsChars (n : Nat) : List Value → List Char
  | [] => []
  | [v] => '-' :: ' ' :: valueChars (.start (n + 2)) v
  | v :: r => '-' :: ' ' :: valueChars (.start (n + 2)) v ++ spaces n ++ itemsChars n r

/-- The members of an object at column `n`. -/
def membersChars (n : Nat) : List (String × Value) → List Char
  | [] => []
  | [(key, v)] => (keyChars n key).1 ++ valueChars (keyChars n key).2 v
  | (key, v) :: r =>
    (keyChars n key).1 ++ valueChars (keyChars n key).2 v ++ spaces n ++ membersChars n r
end

/-- The text of a value. A text by itself has its lines set in as well. -/
def render (v : Value) : String :=
  String.ofList <|
    match v with
    | .text s => endLine (written 2 s)
    | v => valueChars (.start 0) v

end RegistryStorage.Yaml
