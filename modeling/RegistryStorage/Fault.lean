/-!
What can go wrong.

A `Fault` is a cause: what was refused, by whom and with which details. Its wording is one
function, `Fault.message`, and the two questions the program asks of a fault are
`isNotFound` (the provider confirmed that the resource does not exist) and `isConflict`
(the provider refused a write because of one already there).
-/

set_option autoImplicit false

namespace RegistryStorage

/-- The causes for which an operation can fail. -/
inductive Fault
  /-- No token could be had, or it cannot be sent. -/
  | authentication (message : String)
  /-- The provider failed without an answer of its own, or answered nonsense. -/
  | api (message : String)
  /-- The provider answered with a status that is no success. -/
  | response (status : Nat) (code message : String)
  /-- The settings or the record do not say what is needed. -/
  | config (message : String)
  /-- A resource that was looked up does not exist. -/
  | resourceNotFound (kind name : String)
  /-- The storage account whose keys were asked for does not exist. -/
  | accountNotFound (name details : String)
  /-- A generated account name is taken. -/
  | nameNotAvailable (name reason : String)
  /-- A name breaks the rules of its kind. -/
  | invalidName (name details : String)
  /-- A long-running operation ended without success and without an error body. -/
  | operationFailed (operation status details : String)
  /-- The server was not reached. -/
  | network (message : String)
  /-- The server did not answer in time. No operation gives this fault, as the time that a client
  allows for an answer is left out; a provider may answer with it. -/
  | connectionTimeout (message : String)
  /-- An answer could not be understood. -/
  | serialization (message : String)
  /-- A file could not be read or written. -/
  | io (message : String)
  /-- A JSON text could not be decoded. -/
  | json (message : String)
  /-- The body of an answer could not be received. -/
  | http (message : String)
  /-- A long-running operation took longer than allowed. -/
  | timeout (operation : String)
deriving DecidableEq, Repr, Inhabited

namespace Fault

/-- The wording of a fault. -/
def message : Fault → String
  | authentication m => "Authentication failed: " ++ m
  | api m => "Azure API error: " ++ m
  | response status code m =>
    "Azure API error: HTTP " ++ toString status ++ " (" ++ code ++ "): " ++ m
  | config m => "Configuration error: " ++ m
  | resourceNotFound kind name => kind ++ " not found: " ++ name
  | accountNotFound name details => "Storage account not found: " ++ name ++ ": " ++ details
  | nameNotAvailable name reason =>
    "Storage account name not available: " ++ name ++ " (" ++ reason ++ ")"
  | invalidName name details => "Invalid resource name '" ++ name ++ "': " ++ details
  | operationFailed operation status details =>
    "Operation '" ++ operation ++ "' failed with status " ++ status ++ ": " ++ details
  | network m => "Network error: " ++ m
  | connectionTimeout m => "Connection timeout: " ++ m
  | serialization m => "Serialization error: " ++ m
  | io m => "IO error: " ++ m
  | json m => "JSON error: " ++ m
  | http m => "HTTP request error: " ++ m
  | timeout operation => "Operation '" ++ operation ++ "' timed out"

/-- Whether the provider confirmed that the resource does not exist. -/
def isNotFound : Fault → Bool
  | resourceNotFound .. | accountNotFound .. => true
  | response status code _ => status == 404 || code == "ResourceNotFound" || code == "NotFound"
  | _ => false

/-- Whether the provider refused a write because of one already there. Conflicts between
virtual network links are not answered with status 409, so the code counts as well. -/
def isConflict : Fault → Bool
  | response status code _ => status == 409 || code == "Conflict"
  | _ => false

/-- Names the resource that was looked up, if the fault says that it does not exist. -/
def orNotFound (fault : Fault) (kind name : String) : Fault :=
  if fault.isNotFound then resourceNotFound kind name else fault

end Fault

/-- A deletion of something that is gone already counts as done. -/
def tolerateNotFound : Except Fault Unit → Except Fault Unit
  | .error fault => if fault.isNotFound then .ok () else .error fault
  | .ok () => .ok ()

end RegistryStorage
