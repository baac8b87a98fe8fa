import RegistryStorage.Http.Message
import RegistryStorage.Url.Basic

/-!
A server with a script.

The server treats the requests that reach it one after the other as its script says: it
answers, or it drops the connection. Once the script is used up connections are refused. A
request whose address is none, or none that can be asked over the web, reaches no server. The
requests that reached the server are kept, the last one first. Where the client is redirected the
script says what it is answered in the end.
-/

set_option autoImplicit false

namespace RegistryStorage.Http

/-- How the server treats one request. -/
inductive Exchange
  | answer (response : Response)
  | drop
deriving DecidableEq, Repr, Inhabited

/-- Why a request was not answered. -/
inductive TransportFault
  /-- The address is none. -/
  | badAddress
  /-- The address cannot be asked over the web. -/
  | unsupported (url : String)
  | refused (url : String)
  | dropped (url : String)
deriving DecidableEq, Repr, Inhabited

/-- The wording of a fault. -/
def TransportFault.message : TransportFault → String
  | badAddress => "builder error"
  | unsupported url => "builder error for url (" ++ url ++ ")"
  | refused url | dropped url => "error sending request for url (" ++ url ++ ")"

/-- A server, its past and its future. -/
structure Server where
  script : List Exchange
  requests : List Request := []
  /-- Nanoseconds on the clock. -/
  clock : Nat := 0
  /-- The nanoseconds that the next exchanges take, where that is known. -/
  durations : List Nat := []
deriving Repr, Inhabited

/-- What becomes of a request: an answer, which uses up a part of the script, or a fault. -/
inductive Delivery (s : Server) : Type
  | answered (response : Response) (t : Server) (smaller : t.script.length < s.script.length)
  | failed (fault : TransportFault) (t : Server) (notLarger : t.script.length ≤ s.script.length)

namespace Server

/-- The nanoseconds that an exchange takes of which nothing is known. -/
def exchangeTime : Nat := 1000000

/-- Lets a request reach the server. -/
def receive (s : Server) (shown : String) (r : Request) : Delivery s :=
  match h : s.script with
  | [] => .failed (.refused shown) s (Nat.le_refl _)
  | e :: rest =>
    let t : Server := {
      script := rest
      requests := r :: s.requests
      clock := s.clock + s.durations.headD exchangeTime
      durations := s.durations.tail }
    match e with
    | .answer response =>
      let body := if r.method = .head ∨ response.status = 204 then .complete "" else response.body
      .answered { response with body } t (by rw [h]; exact Nat.lt_succ_self _)
    | .drop => .failed (.dropped shown) t (by rw [h]; exact Nat.le_succ _)

/-- Sends a request to an address. Its answer is the one that the client hands on, after any
redirections that it follows by itself; the requests that these take are not among those kept. -/
def send (s : Server) (method : Method) (address : String) (headers : List (String × String))
    (content : Content) : Delivery s :=
  match Url.parse address with
  | .error _ => .failed .badAddress s (Nat.le_refl _)
  | .ok url =>
    if url.host.isSome ∧ (url.scheme = "http" ∨ url.scheme = "https") then
      let shown := { url with user := "", password := none }
      let headers := headers.map fun h => (h.1, trimmed h.2)
      s.receive shown.text ⟨method, url.requested.text, headers, content⟩
    else .failed (.unsupported url.text) s (Nat.le_refl _)

end Server

end RegistryStorage.Http
