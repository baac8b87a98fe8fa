import RegistryStorage.CloudEnvironment
import RegistryStorage.Http.Session
import RegistryStorage.ResourceId
import RegistryStorage.ResourceManager.Answer

/-!
Talking to the resource manager.

Every request shows a token, and an answer that is no success is a fault. A write that the
resource manager only accepts is followed to its end: the same address is asked again and again
until the operation is settled or has taken too long. What a write comes to is the body of the
last answer; where that holds nothing, the resource is read. A wait can also break down (`Halt`),
and then there is no result at all.
-/

set_option autoImplicit false

namespace RegistryStorage

open Http
open Json (Value)

/-- A resource manager, and whose resources it is asked about. -/
structure ResourceManager where
  source : TokenSource
  /-- Its address, without a slash at the end. -/
  endpoint : String
  /-- The scope of the tokens it wants to see. -/
  tokenScope : String
  subscription : String
  resourceGroup : String
  poll : PollOptions

/-- Steps of a session that may come to no value. -/
abbrev Dialogue (α : Type) : Type := ExceptT Halt (StateM Session) α

/-- The name under which the program presents itself. -/
def userAgent : String := "azstore/0.3.1"

/-- Whether a failure to connect speaks of the host's name. -/
def speaksOfName (message : String) : Bool :=
  let small := Text.lower message
  ["dns", "name resolution", "name or service not known", "nodename nor servname provided",
    "no such host"].any fun words => (small.splitOn words).length > 1

/-- The host of an address, as a fault names it. -/
def hostOf (address : String) : String :=
  match Url.parse address with
  | .ok url => url.host.getD "unknown-host"
  | .error _ => "unknown-host"

/-- The fault of a request that was not answered. -/
def Fault.unanswered (address : String) (fault : TransportFault) : Fault :=
  let host := hostOf address
  match fault with
  | .refused _ =>
    if speaksOfName fault.message then
      .network ("Unable to resolve host '" ++ host ++
        "'; check the cloud name and custom endpoints")
    else .network ("Failed to connect to '" ++ host ++ "': " ++ fault.message)
  | _ => .network ("Network error when calling '" ++ host ++ "': " ++ fault.message)

namespace ResourceManager

/-- The resource manager of a cloud. -/
def ofEnvironment (source : TokenSource) (environment : CloudEnvironment)
    (subscription resourceGroup : String) (poll : PollOptions) : ResourceManager where
  source := source
  endpoint := Text.dropEndSlashes environment.resourceManager
  tokenScope := environment.tokenScope
  subscription := subscription
  resourceGroup := resourceGroup
  poll := poll

/-- The path of a resource in the resource group. -/
def resourcePath (m : ResourceManager) (resource : String) : String :=
  ResourceId.inGroup m.subscription m.resourceGroup resource

/-- The path of an action in the subscription. -/
def subscriptionPath (m : ResourceManager) (action : String) : String :=
  "/subscriptions/" ++ m.subscription ++ "/providers/" ++ action

/-- The address of a path. -/
def address (m : ResourceManager) (path version : String) : String :=
  m.endpoint ++ path ++ "?api-version=" ++ version

/-! ## One request -/

/-- The headers of a request. -/
def headers (authorization : String) : List (String × String) :=
  [("authorization", authorization), ("content-type", "application/json"),
    ("user-agent", userAgent)]

/-- Sends a request with a token and checks the answer. -/
def send (m : ResourceManager) (method : Method) (address : String) (body : Option Value)
    (s : Session) : s.Sent :=
  match s.token m.source [m.tokenScope] with
  | (.error fault, ⟨t, h⟩) => .failed fault t h
  | (.ok token, ⟨t, h⟩) =>
    let authorization := "Bearer " ++ token
    if isHeaderValue authorization then
      match t.server.send method address (headers authorization) (.ofBody body) with
      | .failed fault u h' =>
        .failed (.unanswered address fault) { t with server := u } (Nat.le_trans h' h)
      | .answered r u h' =>
        match checkStatus r with
        | .ok r => .answered r { t with server := u } (Nat.lt_of_lt_of_le h' h)
        | .error fault =>
          .failed fault { t with server := u } (Nat.le_of_lt (Nat.lt_of_lt_of_le h' h))
    else
      .failed (.authentication "Invalid token format: failed to parse header value") t h

/-- Sends a request and takes its answer. -/
def ask (m : ResourceManager) (method : Method) (address : String) (body : Option Value) :
    Dialogue Response := fun s =>
  match m.send method address body s with
  | .answered r t _ => (.ok r, t)
  | .failed fault t _ => (.error (.fault fault), t)

/-- Takes over a result. -/
def ofResult {α : Type} (e : Except Fault α) : Dialogue α := fun s => (Halt.ofResult e, s)

/-- Reads what is at a path. -/
def get (m : ResourceManager) (path version : String) : Dialogue Value := do
  let r ← m.ask .get (m.address path version) none
  ofResult (readBody r)

/-! ## Operations that take long -/

/-- Waiting between the requests of a session. -/
def waiting : Waiting Session where
  clock s := s.server.clock
  size := Session.size
  sleep := Session.sleep
  size_sleep _ _ := rfl

/-- Asks an address once, and judges by the answer how far an operation is. -/
def question {α : Type} (m : ResourceManager) (address : String)
    (judge : Response → Except Fault (PollStatus α)) (s : Session) :
    Polled waiting.size s α :=
  match m.send .get address none s with
  | .failed fault t _ => .settled (.error fault) t
  | .answered r t h =>
    match judge r with
    | .ok .pending => .pending t h
    | .ok (.done a) => .settled (.ok a) t
    | .error fault => .settled (.error fault) t

/-- Asks an address until an operation is settled. -/
def follow {α : Type} (m : ResourceManager) (operation address : String)
    (judge : Response → Except Fault (PollStatus α)) : Dialogue α := fun s =>
  pollUntilDone waiting operation m.poll (m.question address judge) s

/-- How far an operation is, by an answer that tells its status. -/
def judgeStatus (operation : String) (r : Response) : Except Fault (PollStatus Unit) := do
  operationStatus operation r.status (← readBody r)

/-- How far an operation is, by an answer that may be its result. -/
def judgeResult (r : Response) : Except Fault (PollStatus Value) :=
  if r.status = 202 then .ok .pending else PollStatus.done <$> readBody r

/-- Follows a write to its end. There may be no result, where only the status is told. -/
def complete (m : ResourceManager) (operation : String) (r : Response) :
    Dialogue (Option Value) := do
  match following? r with
  | some (.status address) =>
    m.follow operation address (judgeStatus operation)
    return none
  | some (.result address) => some <$> m.follow operation address judgeResult
  | none => some <$> ofResult (readBody r)

/-- Writes at a path, and gives what is there in the end. -/
def write (m : ResourceManager) (method : Method) (operation path version : String)
    (body : Value) : Dialogue Value := do
  let r ← m.ask method (m.address path version) (some body)
  match ← m.complete operation r with
  | some .null | none => m.get path version
  | some v => return v

/-- Puts a resource at a path. -/
def put (m : ResourceManager) : String → String → String → Value → Dialogue Value :=
  m.write .put

/-- Changes the resource at a path. -/
def patch (m : ResourceManager) : String → String → String → Value → Dialogue Value :=
  m.write .patch

/-- Takes an action at a path. -/
def post (m : ResourceManager) (operation path version : String) (body : Option Value) :
    Dialogue Value := do
  let r ← m.ask .post (m.address path version) body
  return (← m.complete operation r).getD .null

/-- Deletes the resource at a path. -/
def delete (m : ResourceManager) (operation path version : String) : Dialogue Unit := do
  let r ← m.ask .delete (m.address path version) none
  let _ ← m.complete operation r

end ResourceManager

end RegistryStorage
