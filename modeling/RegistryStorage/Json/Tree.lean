import RegistryStorage.Json.Token

/-!
The form of a JSON text.

A `Tree` is what a text says before anyone decides what it means: members in the order in
which they are written, repeated ones included, numbers as numerals, and quoted texts without
a value where half a surrogate pair stands alone. The reader is a machine with a stack of
unfinished lists and objects that takes one token after the other, so its run over a text is
a fold. `nesting` counts how deep lists and objects go; only free-form values limit it.
-/

set_option autoImplicit false

namespace RegistryStorage.Json

/-- What a JSON text says. -/
inductive Tree
  | null
  | bool (b : Bool)
  | number (n : Numeral)
  | text (t : Option String)
  | list (items : List Tree)
  | object (members : List (Option String × Tree))
deriving Repr, BEq, Inhabited

/-- A list or object whose next element or member value is being read. What has been read of
it comes last first. -/
inductive Frame
  | items (done : List Tree)
  | members (done : List (Option String × Tree)) (key : Option String)
deriving Repr

/-- What the reader expects next. -/
inductive Reading
  /-- A value. -/
  | value (stack : List Frame)
  /-- A value or the end of a list just begun. -/
  | firstItem (stack : List Frame)
  /-- A comma or the end of a list. -/
  | afterItem (done : List Tree) (stack : List Frame)
  /-- A key or the end of an object just begun. -/
  | firstKey (stack : List Frame)
  /-- A key. -/
  | nextKey (done : List (Option String × Tree)) (stack : List Frame)
  /-- The colon after a key. -/
  | colon (done : List (Option String × Tree)) (key : Option String) (stack : List Frame)
  /-- A comma or the end of an object. -/
  | afterMember (done : List (Option String × Tree)) (stack : List Frame)
  /-- Nothing. -/
  | finished (tree : Tree)
deriving Repr

namespace Reading

/-- Hands a value that is complete to what it belongs to. -/
def deliver (t : Tree) : List Frame → Reading
  | [] => finished t
  | .items done :: stack => afterItem (t :: done) stack
  | .members done key :: stack => afterMember ((key, t) :: done) stack

/-- Begins a value. -/
def beginValue (stack : List Frame) : Token → Option Reading
  | .null => some (deliver .null stack)
  | .bool b => some (deliver (.bool b) stack)
  | .number n => some (deliver (.number n) stack)
  | .text t => some (deliver (.text t) stack)
  | .openList => some (firstItem stack)
  | .openObject => some (firstKey stack)
  | _ => none

/-- Takes one token. -/
def step : Reading → Token → Option Reading
  | value stack, t => beginValue stack t
  | firstItem stack, .closeList => some (deliver (.list []) stack)
  | firstItem stack, t => beginValue (.items [] :: stack) t
  | afterItem done stack, .comma => some (value (.items done :: stack))
  | afterItem done stack, .closeList => some (deliver (.list done.reverse) stack)
  | firstKey stack, .closeObject => some (deliver (.object []) stack)
  | firstKey stack, .text key => some (colon [] key stack)
  | nextKey done stack, .text key => some (colon done key stack)
  | colon done key stack, .colon => some (value (.members done key :: stack))
  | afterMember done stack, .comma => some (nextKey done stack)
  | afterMember done stack, .closeObject => some (deliver (.object done.reverse) stack)
  | _, _ => none

/-- The value that was read, if it is complete. -/
def result? : Reading → Option Tree
  | finished t => some t
  | _ => none

end Reading

namespace Tree

/-- The tree of a list of tokens that form one value. -/
def ofTokens? (ts : List Token) : Option Tree := do
  (← ts.foldlM Reading.step (Reading.value [])).result?

/-- The tree of a text that forms one value. -/
def read? (s : String) : Option Tree := do ofTokens? (← tokens s.toList)

mutual
/-- How deep lists and objects lie in one another. -/
def nesting : Tree → Nat
  | .list items => nestingOfItems items + 1
  | .object members => nestingOfMembers members + 1
  | _ => 0

/-- The greatest nesting in a list. -/
def nestingOfItems : List Tree → Nat
  | [] => 0
  | t :: r => max t.nesting (nestingOfItems r)

/-- The greatest nesting among members. -/
def nestingOfMembers : List (Option String × Tree) → Nat
  | [] => 0
  | (_, t) :: r => max t.nesting (nestingOfMembers r)
end

/-! ## Records

A record is written as an object, by the names of its fields, or as a list, by their order.
-/

/-- The values that members give to a field: none, one, or too many. -/
def valuesOf (name : String) (members : List (Option String × Tree)) : List Tree :=
  (members.filter fun m => m.1 == some name).map (·.2)

/-- The values given to the fields of a record. An object may leave out any field and may hold
members that are no fields, but its keys have to be texts and no field may be given twice. A
list may stop early but not go on after the last field. -/
def fields (names : List String) : Tree → Option (List (Option Tree))
  | .object members =>
    if members.all fun m => m.1.isSome then
      names.mapM fun name =>
        match valuesOf name members with
        | [] => some none
        | [t] => some (some t)
        | _ => none
    else none
  | .list items =>
    if items.length ≤ names.length then
      some (items.map some ++ List.replicate (names.length - items.length) none)
    else none
  | _ => none

/-- A text. -/
def text? : Tree → Option String
  | .text t => t
  | _ => none

/-- A truth value. -/
def bool? : Tree → Option Bool
  | .bool b => some b
  | _ => none

/-- A whole number that is not negative and fits into 64 bits. -/
def count? : Tree → Option Nat
  | .number n =>
    match n.int? with
    | some (.ofNat m) => if m < Nat.pow 2 64 ∧ ¬n.negative then some m else none
    | _ => none
  | _ => none

/-- A list whose elements can all be read. -/
def list? {α : Type} (item : Tree → Option α) : Tree → Option (List α)
  | .list items => items.mapM item
  | _ => none

/-- An optional value: `null` stands for none. -/
def option? {α : Type} (value : Tree → Option α) : Tree → Option (Option α)
  | .null => some none
  | t => some <$> value t

/-- The name of a choice without fields: a text, or an object whose only member is the name
with nothing in it. -/
def choice? : Tree → Option String
  | .text t => t
  | .object [(some name, .null)] => some name
  | _ => none

/-- The value of a field that may be left out. -/
def orDefault {α : Type} (value : Tree → Option α) (default : α) : Option Tree → Option α
  | none => some default
  | some t => value t

end Tree

end RegistryStorage.Json
