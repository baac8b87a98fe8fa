import RegistryStorage.CloudEnvironment
import RegistryStorage.Http.Base64
import RegistryStorage.Http.Session

/-!
The blob service.

Containers are looked for, created and deleted at the blob service of their account. Requests
are signed with the account's key, which is base 64; what the signature is depends on the time
of day, so a star stands for it. The service says in a header, or else in the body, which code
a failure has.
-/

set_option autoImplicit false

namespace RegistryStorage

open Http
open Json (Tree)

namespace BlobService

/-- The failure of a request that is not sent again, by the status of its answer. -/
def refusal (status : Nat) : String :=
  "server returned error status which will not be retried: " ++ toString status

/-- The text that the members of an object give to a name, in either spelling of its first
letter. A text that is given twice, or that is none, makes the object unreadable. -/
def namedText? (small capital : String) (members : List (Option String × Tree)) :
    Option (Option String) :=
  match Tree.valuesOf small members ++ Tree.valuesOf capital members with
  | [] => some none
  | [t] => t.option? Tree.text?
  | _ => none

/-- The code in an object that describes a failure. -/
def codeOf? : Tree → Option (Option String)
  | .object members => do
    let code ← namedText? "code" "Code" members
    let _ ← namedText? "message" "Message" members
    return code
  | _ => none

/-- The code in the body of an answer: that of its member `error`, or else its own. -/
def bodyCode? (body : String) : Option String := do
  match ← Tree.read? body with
  | .object members =>
    let own ← codeOf? (.object members)
    let inner ← match Tree.valuesOf "error" members ++ Tree.valuesOf "Error" members with
      | [] => some none
      | [t] => (t.option? codeOf?).map Option.join
      | _ => none
    inner.or own
  | _ => none

/-- The code of a failure. -/
def failureCode (r : Response) : String :=
  match r.header? "x-ms-error-code", r.body with
  | some code, _ => code
  | none, .complete text => (bodyCode? text).getD ""
  | none, .truncated => ""

/-- What an answer about an existing container tells, in the order in which it is looked up. -/
def propertyHeaders : List String :=
  ["x-ms-request-id", "date", "last-modified", "etag", "x-ms-lease-status", "x-ms-lease-state",
    "x-ms-has-immutability-policy", "x-ms-has-legal-hold"]

/-- Refuses an answer that leaves out a property. -/
def checkProperties (r : Response) : Except Fault Unit :=
  match propertyHeaders.find? fun name => (r.header? name).isNone with
  | some name => .error (.api ("header not found " ++ name))
  | none => .ok ()

/-- Sends a signed request that concerns a container. -/
def send (environment : CloudEnvironment) (method : Method) (account key container : String)
    (s : Session) : Except Fault Response × Session :=
  match Url.parse (environment.blobServiceUrl account) with
  | .error fault => (.error (.api fault.message), s)
  | .ok url =>
    if Base64.isEncoded key then
      let address := { url.push [container] with query := some "restype=container" }
      match s.server.send method address.text
          [("authorization", "SharedKey " ++ account ++ ":*")] .none with
      | .failed fault t _ => (.error (.api fault.message), { s with server := t })
      | .answered r t _ =>
        let s := { s with server := t }
        if r.isSuccess then (.ok r, s)
        else (.error (.response r.status (failureCode r) (refusal r.status)), s)
    else (.error (.api "non-io error occurred which will not be retried"), s)

/-- What a fault of the service says, without the words about whose fault it is. -/
def reasonOf : Fault → String
  | .api message => message
  | .response _ _ message => message
  | fault => fault.message

/-- Whether a container exists. -/
def containerExists (environment : CloudEnvironment) (account key container : String)
    (s : Session) : Except Fault Bool × Session :=
  let (result, t) := send environment .head account key container s
  let result := do checkProperties (← result)
  (match result with
   | .ok () => .ok true
   | .error (.response 404 _ _) => .ok false
   | .error fault =>
     .error (.api ("unable to get the storage container " ++ container ++ ": " ++
       reasonOf fault)), t)

/-- Creates a container. -/
def createContainer (environment : CloudEnvironment) (account key container : String)
    (s : Session) : Except Fault Unit × Session :=
  let (result, t) := send environment .put account key container s
  (result.map fun _ => (), t)

/-- Deletes a container. -/
def deleteContainer (environment : CloudEnvironment) (account key container : String)
    (s : Session) : Except Fault Unit × Session :=
  let (result, t) := send environment .delete account key container s
  (result.map fun _ => (), t)

end BlobService

end RegistryStorage
