import RegistryStorage.Json.Tree
import RegistryStorage.Toml.Scalar

/-!
Values and tables of TOML.

A table is filled key by key, and a key that was given a value keeps it. What may still be
written into a table depends on how it came about, which is what `Origin` remembers: a table
that was only passed through on the way to another may still be defined under its own name, one
that dotted keys made may only get more dotted keys, and one that was defined may not be defined
again.
-/

set_option autoImplicit false

namespace RegistryStorage.Toml

open Json (Tree Numeral)

/-- How a table came about. -/
inductive Origin
  /-- It was named on the way to another table. -/
  | passed
  /-- It was named by dotted keys. -/
  | dotted
  | defined
deriving DecidableEq, Repr

/-- What a key leads to. -/
inductive Item
  | text (s : String)
  | whole (i : Int)
  | bool (b : Bool)
  /-- A number that is not whole, a date or a time. -/
  | other
  | list (items : List Item)
  /-- A table between braces, to which nothing can be added. -/
  | closed (entries : List (String × Item))
  | table (origin : Origin) (entries : List (String × Item))
  /-- Tables that were defined one after the other; the last one comes first. -/
  | tables (items : List (List (String × Item)))
deriving Repr

/-- The entries of a table, in the order of their keys' first appearance. -/
abbrev Entries : Type := List (String × Item)

namespace Entries

/-- Changes what a key leads to; a key without anything is put at the end. -/
def change (key : String) (f : Option Item → Option Item) : Entries → Option Entries
  | [] => do return [(key, ← f none)]
  | (k, item) :: rest =>
    if k = key then do return (k, ← f (some item)) :: rest
    else do return (k, item) :: (← change key f rest)

/-- Changes the table at the end of a path. Tables that are missing are made; dotted keys do
not lead through a table that was defined. -/
def changeAt (origin : Origin) (f : Origin → Entries → Option Entries) :
    Origin → List String → Entries → Option Entries
  | here, [], entries => f here entries
  | _, key :: path, entries =>
    entries.change key fun
      | none => .table origin <$> changeAt origin f origin path []
      | some (.table found inner) =>
        if origin = .dotted ∧ found = .defined then none
        else .table found <$> changeAt origin f found path inner
      | some (.tables (last :: before)) => do
        return .tables ((← changeAt origin f .defined path last) :: before)
      | some _ => none

/-- Gives a key of a table a value. Dotted keys go only into tables that dotted keys made. -/
def give (path : List String) (key : String) (item : Item) : Entries → Option Entries :=
  changeAt .dotted (fun found entries =>
    if path ≠ [] ∧ found ≠ .dotted then none
    else entries.change key fun
      | none => some item
      | some _ => none) .defined path

/-- Gives dotted keys a value. -/
def put (keys : List String) (item : Item) (entries : Entries) : Option Entries := do
  entries.give keys.dropLast (← keys.getLast?) item

/-- Defines a table. -/
def define (keys : List String) (entries : Entries) : Option Entries := do
  let last ← keys.getLast?
  entries |> changeAt .passed (fun _ l => l.change last fun
    | none => some (.table .defined [])
    | some (.table .passed inner) => some (.table .defined inner)
    | some _ => none) .defined keys.dropLast

/-- Defines one more table of a list of tables. -/
def append (keys : List String) (entries : Entries) : Option Entries := do
  let last ← keys.getLast?
  entries |> changeAt .passed (fun _ l => l.change last fun
    | none => some (.tables [[]])
    | some (.tables before) => some (.tables ([] :: before))
    | some _ => none) .defined keys.dropLast

/-- Puts dotted keys into the table that was defined last under a path. -/
def putUnder (table keys : List String) (item : Item) : Entries → Option Entries :=
  changeAt .passed (fun _ l => put keys item l) .defined table

end Entries

/-! ## Values -/

/-- Takes elements of a list up to its closing bracket. -/
def elements (element : List Char → Option (Item × List Char)) (s : List Char) :
    Option (List Item × List Char) :=
  match skipLines false s with
  | ']' :: r => some ([], r)
  | t => do
    let (item, r) ← element t
    match skipLines false r with
    | ']' :: r => return ([item], r)
    | ',' :: r =>
      if _h : r.length < s.length then
        let (more, r) ← elements element r
        return (item :: more, r)
      else none
    | _ => none
termination_by s.length

/-- Takes a key and its value. -/
def pair (element : List Char → Option (Item × List Char)) (s : List Char) :
    Option ((List String × Item) × List Char) := do
  match ← keys? s with
  | (keys, '=' :: r) =>
    let (item, r) ← element (skipSpaces r)
    return ((keys, item), r)
  | _ => none

/-- Takes the pairs of a table between braces, up to the closing brace. -/
def pairs (element : List Char → Option (Item × List Char)) (entries : Entries)
    (s : List Char) : Option (Entries × List Char) := do
  let ((keys, item), r) ← pair element s
  let entries ← entries.put keys item
  match skipSpaces r with
  | '\x7D' :: r => return (entries, r)
  | ',' :: r => if _h : r.length < s.length then pairs element entries r else none
  | _ => none
termination_by s.length

/-- Takes a value in which lists and tables lie only so deep in one another. -/
def value? : (depth : Nat) → List Char → Option (Item × List Char)
  | _, 't' :: 'r' :: 'u' :: 'e' :: r => some (.bool true, r)
  | _, 'f' :: 'a' :: 'l' :: 's' :: 'e' :: r => some (.bool false, r)
  | 0, '[' :: _ => none
  | 0, '\x7B' :: _ => none
  | depth + 1, '[' :: r => do
    let (items, r) ← elements (value? depth) r
    return (.list items, r)
  | depth + 1, '\x7B' :: r =>
    match skipSpaces r with
    | '\x7D' :: r => some (.closed [], r)
    | r => do
      let (entries, r) ← pairs (value? depth) [] r
      return (.closed entries, r)
  | _, s =>
    match text? s, moment? s, real? s, whole? s with
    | some (t, r), _, _, _ => some (.text t, r)
    | none, some r, _, _ => some (.other, r)
    | none, none, some r, _ => some (.other, r)
    | none, none, none, some (i, r) => some (.whole i, r)
    | none, none, none, none => none

/-- How deep lists and tables may lie in one another. -/
def deepest : Nat := 79

/-! ## Trees -/

mutual
/-- The tree that says the same; what no setting takes is a text without a value. -/
def Item.tree : Item → Tree
  | .text s => .text (some s)
  | .whole i => .number (Numeral.ofInt i)
  | .bool b => .bool b
  | .other => .text none
  | .list items => .list (treesOfItems items)
  | .closed entries => .object (treesOfEntries entries)
  | .table _ entries => .object (treesOfEntries entries)
  | .tables items => .list (treesOfTables items).reverse

/-- The trees of the elements of a list. -/
def treesOfItems : List Item → List Tree
  | [] => []
  | item :: r => item.tree :: treesOfItems r

/-- The trees of the entries of a table. -/
def treesOfEntries : List (String × Item) → List (Option String × Tree)
  | [] => []
  | (key, item) :: r => (some key, item.tree) :: treesOfEntries r

/-- The trees of tables. -/
def treesOfTables : List (List (String × Item)) → List Tree
  | [] => []
  | entries :: r => .object (treesOfEntries entries) :: treesOfTables r
end

end RegistryStorage.Toml
