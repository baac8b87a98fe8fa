import RegistryStorage.Fault
import RegistryStorage.Http.Message
import RegistryStorage.Polling
import RegistryStorage.Text.Blank

/-!
What the resource manager's answers say.

An answer that is no success says why in an error body, an object whose member `error` has a
`code` and a `message`; a body of any other form is itself the message. The body of a success
is a JSON value, or nothing. Error members and the status of an operation are read with the
same function, `Fault.ofErrorMember`, so a failure reads alike on both ways.
-/

set_option autoImplicit false

namespace RegistryStorage

open Json (Value)

/-- The fault that an error member describes; what it does not say is empty. -/
def Fault.ofErrorMember (status : Nat) (error : Value) : Fault :=
  .response status ((error.textAt? ["code"]).getD "") ((error.textAt? ["message"]).getD "")

/-- The fault that the body of an answer describes. -/
def Fault.ofBody (status : Nat) (body : String) : Fault :=
  match (Value.read? body).bind fun v => v.get? "error" with
  | some error => ofErrorMember status error
  | none => .response status "" body

namespace ResourceManager

open Http

/-- Refuses an answer that is no success. A body that was not received says nothing. -/
def checkStatus (r : Response) : Except Fault Response :=
  if r.isSuccess then .ok r
  else
    match r.body with
    | .complete text => .error (Fault.ofBody r.status text)
    | .truncated => .error (Fault.ofBody r.status "")

/-- The value in the body of an answer; a blank body holds `null`. -/
def readBody (r : Response) : Except Fault Value :=
  match r.body with
  | .truncated => .error (.http "the body of the answer ended early")
  | .complete text =>
    if Text.isAllBlank text then .ok .null
    else
      match Value.read? text with
      | some v => .ok v
      | none => .error (.serialization "Failed to parse resource manager response: ")

/-- How far an operation is, by the body that tells its status. An operation that tells none
is in progress. -/
def operationStatus (operation : String) (status : Nat) (body : Value) :
    Except Fault (PollStatus Unit) :=
  let word := (body.textAt? ["status"]).getD "InProgress"
  if word = "Succeeded" then .ok (.done ())
  else if word = "Failed" ∨ word = "Canceled" then
    match body.get? "error" with
    | some error => .error (Fault.ofErrorMember status error)
    | none => .error (.operationFailed operation word "no error details returned")
  else .ok .pending

/-- Where an accepted write is followed. -/
inductive Following
  /-- The status of the operation is told at an address. -/
  | status (address : String)
  /-- The result of the operation comes to be at an address. -/
  | result (address : String)
deriving DecidableEq, Repr

/-- Where the write that was answered so is followed, if it goes on after its answer. -/
def following? (r : Response) : Option Following :=
  if r.status = 201 ∨ r.status = 202 then
    match r.visibleHeader? "azure-asyncoperation", r.visibleHeader? "location" with
    | some address, _ => some (.status address)
    | none, some address => some (.result address)
    | none, none => none
  else none

end ResourceManager

end RegistryStorage
