import RegistryStorage.Http.Base64
import RegistryStorage.Http.Server
import RegistryStorage.Polling

/-!
Sessions with tokens.

Whoever asks the resource manager for something shows a token. A `TokenSource` says where
tokens come from, and a `Session` is a server together with the tokens obtained so far: a token
is kept for the list of scopes it was asked for, and used again unless it expires within twenty
seconds. Sending moves only forward through the server's script, and `Sent` says so, because
waiting for an operation ends for this reason.

How a token is asked for with a secret, read and kept is the business of a library for identities
that is no part of the sources of this program, and `requestToken`, `tokenOf?` and `kept?` follow
what it is known to do. `TokenSource.custom` stands for whatever gives tokens, and what is said of
sessions for every source holds of it.
-/

set_option autoImplicit false

namespace RegistryStorage.Http

open Json (Tree Value)

/-- Where tokens come from. -/
inductive TokenSource
  /-- Whoever it is, a request for a token has a result, which may depend on how many there were
  before it. -/
  | custom (result : Nat → Except Fault String)
  /-- An authority gives tokens to a client that knows its secret. -/
  | clientSecret (authority : Url) (tenant client secret : String)
  /-- The surroundings of the program give tokens. There are none. -/
  | surroundings

/-- Every request for a token has the same result. -/
def TokenSource.fixed (result : Except Fault String) : TokenSource := .custom fun _ => result

/-- A token. -/
structure Token where
  text : String
  /-- The time on the clock, in nanoseconds, from which on the token is worth nothing. -/
  expires : Nat
deriving DecidableEq, Repr, Inhabited

/-- A server, and the tokens obtained so far. -/
structure Session where
  server : Server
  tokens : List (List String × Token) := []
  /-- The scopes of every token that was asked for, the last ones first. -/
  asked : List (List String) := []
deriving Inhabited

namespace Session

/-- How many exchanges are left. -/
def size (s : Session) : Nat := s.server.script.length

/-- A session that has not moved backward. -/
abbrev After (s : Session) : Type := { t : Session // t.size ≤ s.size }

/-! ## Tokens -/

/-- A token is not used during its last twenty seconds. -/
def tokenMargin : Nat := 20 * second

/-- The fault of a token that was not given. -/
def noToken (why : String) : Fault := .authentication ("Failed to get token: " ++ why)

/-- The token that an authority's answer holds, received at some time, as the identity library reads
it. -/
def tokenOf? (now : Nat) (r : Response) : Option Token :=
  match r.body with
  | .complete text => do
    if !r.isSuccess then none
    match ← (← Tree.read? text).fields ["access_token", "token_type", "expires_in"] with
    | [some token, some kind, some seconds] =>
      let _ ← kind.text?
      return ⟨← token.text?, now + second * (← seconds.count?)⟩
    | _ => none
  | .truncated => none

/-- The headers of a request for a token. A user in the authority's address identifies
itself. -/
def tokenHeaders (authority : Url) : List (String × String) :=
  let form := ("content-type", "application/x-www-form-urlencoded")
  let user := Url.decode? authority.user.toList
  let password := authority.password.bind fun p => Url.decode? p.toList
  match user with
  | some user =>
    if user ≠ "" ∨ password.isSome then
      [("authorization", "Basic " ++ Base64.encode (user ++ ":" ++ password.getD "")), form]
    else [form]
  | none => [form]

/-- The form that asks for a token. -/
def tokenForm (scopes : List String) (client secret : String) : String :=
  Url.form [("grant_type", "client_credentials"), ("scope", " ".intercalate scopes),
    ("client_id", client), ("client_secret", secret)]

/-- Asks an authority for a token, as the identity library does. -/
def requestToken (authority : Url) (tenant client secret : String) (scopes : List String)
    (s : Session) : Except Fault Token × s.After :=
  if authority.hasSegments then
    let address := authority.push [tenant, "oauth2", "v2.0", "token"]
    match s.server.send .post address.text (tokenHeaders authority)
        (.form (tokenForm scopes client secret)) with
    | .failed fault t h => (.error (noToken fault.message), ⟨{ s with server := t }, h⟩)
    | .answered r t h =>
      match tokenOf? t.clock r with
      | some token =>
        (.ok token,
          ⟨{ s with server := t, tokens := (scopes, token) :: s.tokens }, Nat.le_of_lt h⟩)
      | none => (.error (noToken "the answer holds no token"),
          ⟨{ s with server := t }, Nat.le_of_lt h⟩)
  else (.error (noToken "the authority has no path"), ⟨s, Nat.le_refl _⟩)

/-- The token that the identity library keeps for some scopes, if it is still of use. -/
def kept? (s : Session) (scopes : List String) : Option Token :=
  match s.tokens.lookup scopes with
  | some token => if s.server.clock + tokenMargin < token.expires then some token else none
  | none => none

/-- A token for some scopes. -/
def token (source : TokenSource) (scopes : List String) (s : Session) :
    Except Fault String × s.After :=
  let s' : Session := { s with asked := scopes :: s.asked }
  match source with
  | .custom result => (result s.asked.length, ⟨s', Nat.le_refl _⟩)
  | .surroundings => (.error (noToken "there is no source of tokens"), ⟨s', Nat.le_refl _⟩)
  | .clientSecret authority tenant client secret =>
    match s'.kept? scopes with
    | some token => (.ok token.text, ⟨s', Nat.le_refl _⟩)
    | none =>
      let (result, t) := s'.requestToken authority tenant client secret scopes
      (result.map Token.text, t)

/-! ## Sending -/

/-- What becomes of a request of a session. -/
inductive Sent (s : Session) : Type
  | answered (response : Response) (t : Session) (smaller : t.size < s.size)
  | failed (fault : Fault) (t : Session) (notLarger : t.size ≤ s.size)

/-- Lets some nanoseconds pass. -/
def sleep (duration : Nat) (s : Session) : Session :=
  { s with server := { s.server with clock := s.server.clock + duration } }

end Session

end RegistryStorage.Http
