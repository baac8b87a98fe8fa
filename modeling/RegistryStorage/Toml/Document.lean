import RegistryStorage.Toml.Table

/-!
Documents of TOML.

A document is a list of statements, one on a line or a few: a key gets a value, or a heading
says under which table the keys that follow are written. `read?` gives the tree of the whole
document's table.
-/

set_option autoImplicit false

namespace RegistryStorage.Toml

/-- A statement. -/
inductive Statement
  | put (keys : List String) (item : Item)
  | define (keys : List String)
  | append (keys : List String)
deriving Repr

/-- Takes a statement. -/
def statement? : List Char → Option (Statement × List Char)
  | '[' :: '[' :: r => do
    match ← keys? r with
    | (keys, ']' :: ']' :: r) => return (.append keys, r)
    | _ => none
  | '[' :: r => do
    match ← keys? r with
    | (keys, ']' :: r) => return (.define keys, r)
    | _ => none
  | s => do
    let ((keys, item), r) ← pair (value? deepest) s
    return (.put keys item, r)

/-- The statements of a text. -/
def statements? (s : List Char) : Option (List Statement) :=
  match skipLines false s with
  | [] => some []
  | t => do
    let (first, r) ← statement? t
    let r ← restOfLine? r
    if _h : r.length < s.length then
      return first :: (← statements? r)
    else none
termination_by s.length

/-- A document as far as it has been read, and the table under which keys are written. -/
structure Reading where
  root : Entries := []
  current : List String := []
deriving Repr

/-- Takes up a statement. -/
def Reading.step (d : Reading) : Statement → Option Reading
  | .put keys item => do return { d with root := ← d.root.putUnder d.current keys item }
  | .define keys => do return ⟨← d.root.define keys, keys⟩
  | .append keys => do return ⟨← d.root.append keys, keys⟩

/-- The tree of a document; a mark of byte order in front of it is passed over. -/
def read? (text : String) : Option Json.Tree := do
  let s := match text.toList with
    | '\uFEFF' :: r => r
    | r => r
  let d ← (← statements? s).foldlM Reading.step {}
  return (Item.table .defined d.root).tree

end RegistryStorage.Toml
