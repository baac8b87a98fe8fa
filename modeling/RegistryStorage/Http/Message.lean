import RegistryStorage.Json.Value
import RegistryStorage.Text.Blank

/-!
Requests and responses.

Header names are compared without regard to case. The body of a response may end before its
announced length; reading such a body fails. A client's own limits on the time that it takes to
connect or to be answered are left out: a request is answered or it fails, however long it takes.
-/

set_option autoImplicit false

namespace RegistryStorage.Http

open Json (Value)

/-- What is asked of a resource. -/
inductive Method
  | get
  | head
  | put
  | patch
  | post
  | delete
deriving DecidableEq, Repr, Inhabited

/-- The word for a method. -/
def Method.text : Method → String
  | get => "GET"
  | head => "HEAD"
  | put => "PUT"
  | patch => "PATCH"
  | post => "POST"
  | delete => "DELETE"

/-- What a request carries. -/
inductive Content
  | none
  | json (value : Value)
  | form (text : String)
deriving Repr, Inhabited

/-- What a request with a value, or without one, carries. -/
def Content.ofBody : Option Value → Content
  | some value => json value
  | Option.none => none

/-- A request as it is sent. -/
structure Request where
  method : Method
  url : String
  headers : List (String × String)
  content : Content
deriving Repr, Inhabited

/-- What follows the head of a response. -/
inductive Body
  | complete (text : String)
  /-- The body ended early. -/
  | truncated
deriving DecidableEq, Repr, Inhabited

/-- The value of a header as it is received: blanks around it are no part of it. -/
def trimmed (value : String) : String :=
  String.ofList (Text.trimBy (fun c => c = ' ' || c = '\t') value.toList)

/-- A response as it is received. -/
structure Response where
  status : Nat
  headers : List (String × String)
  body : Body
deriving DecidableEq, Repr, Inhabited

namespace Response

/-- Whether the server did what it was asked. -/
def isSuccess (r : Response) : Bool := 200 ≤ r.status && r.status < 300

/-- The value of a header; the name is given in small letters. -/
def header? (r : Response) (name : String) : Option String :=
  (r.headers.find? fun h => h.1.toList.map Char.toLower == name.toList).map fun h => trimmed h.2

/-- The value of a header that holds nothing but visible ASCII characters and is not empty. -/
def visibleHeader? (r : Response) (name : String) : Option String :=
  match r.header? name with
  | some value =>
    if value ≠ "" ∧ value.toList.all fun c => c = '\t' || (0x20 ≤ c.toNat && c.toNat < 0x7F) then
      some value
    else Option.none
  | Option.none => Option.none

end Response

/-- Whether a text can be sent as the value of a header. -/
def isHeaderValue (s : String) : Bool :=
  s.toList.all fun c => c = '\t' || (0x20 ≤ c.toNat && c.toNat ≠ 0x7F)

end RegistryStorage.Http
