import RegistryStorage.Url.Host

/-!
Addresses on the web.

An address is read as browsers read it: tabs and line ends inside it and blanks around it are
dropped, the scheme and host are put into small letters, backslashes count as slashes and the
usual port is left out in the well-known schemes, `.` and `..` are worked off, and every part
is encoded as its place asks. `text` writes the parts of an address back.
-/

set_option autoImplicit false

namespace RegistryStorage

/-- An address. -/
structure Url where
  scheme : String
  user : String := ""
  password : Option String := none
  /-- None where the address names no host. -/
  host : Option String
  port : Option Nat := none
  /-- The path with its slashes. -/
  path : String
  query : Option String := none
  fragment : Option String := none
deriving DecidableEq, Repr, Inhabited

namespace Url

/-- The usual port of a well-known scheme. -/
def usualPort? : String → Option Nat
  | "http" | "ws" => some 80
  | "https" | "wss" => some 443
  | "ftp" => some 21
  | _ => none

/-- Whether the addresses of a scheme always name a host. -/
def isSpecial (scheme : String) : Bool := (usualPort? scheme).isSome

/-! ## Writing -/

/-- The user in front of a host. -/
def userText (u : Url) : String :=
  match u.password with
  | none => if u.user = "" then "" else u.user ++ "@"
  | some password => u.user ++ ":" ++ password ++ "@"

/-- The text of an address. -/
def text (u : Url) : String :=
  u.scheme ++ ":" ++
    (match u.host with
     | some host =>
       "//" ++ u.userText ++ host ++
         (match u.port with
          | some port => ":" ++ toString port
          | none => "")
     | none => "") ++
    u.path ++
    (match u.query with
     | some query => "?" ++ query
     | none => "") ++
    (match u.fragment with
     | some fragment => "#" ++ fragment
     | none => "")

/-! ## Reading -/

/-- Drops control characters and blanks at both ends, and tabs and line ends everywhere. -/
def clean (cs : List Char) : List Char :=
  let outer (c : Char) : Bool := c.toNat ≤ 0x20
  (((cs.dropWhile outer).reverse.dropWhile outer).reverse).filter fun c =>
    c ≠ '\t' ∧ c ≠ '\n' ∧ c ≠ '\r'

/-- Cuts the scheme off. -/
def takeScheme (cs : List Char) : Option (String × List Char) :=
  let scheme := cs.takeWhile (· ≠ ':')
  match cs.drop scheme.length, scheme with
  | _ :: rest, first :: _ =>
    if first.isAlpha ∧ scheme.all fun c => c.isAlphanum || c = '+' || c = '-' || c = '.' then
      some (String.ofList (scheme.map Char.toLower), rest)
    else none
  | _, _ => none

/-- What a segment of a path says about moving: stay, go up, or neither. -/
inductive Dots
  | here
  | up
  | none

/-- Whether a segment is one of the two that only move, in any spelling. -/
def dotsOf (segment : List Char) : Dots :=
  let rec plain : List Char → List Char
    | '%' :: '2' :: c :: r => if c = 'e' ∨ c = 'E' then '.' :: plain r else '%' :: '2' :: plain (c :: r)
    | c :: r => c :: plain r
    | [] => []
  match plain segment with
  | ['.'] => .here
  | ['.', '.'] => .up
  | _ => .none

/-- Works off the segments of a path; those done come last first. -/
def walk (done : List (List Char)) : List (List Char) → List (List Char)
  | [] => done.reverse
  | [segment] =>
    match dotsOf segment with
    | .here => ([] :: done).reverse
    | .up => ([] :: done.drop 1).reverse
    | .none => (encodeWith pathSet segment :: done).reverse
  | segment :: next :: rest =>
    match dotsOf segment with
    | .here => walk done (next :: rest)
    | .up => walk (done.drop 1) (next :: rest)
    | .none => walk (encodeWith pathSet segment :: done) (next :: rest)

/-- The path of the text after an authority. -/
def pathText (special : Bool) (cs : List Char) : String :=
  let cs := if special then cs.map fun c => if c = '\\' then '/' else c else cs
  match cs with
  | [] => if special then "/" else ""
  | _ =>
    let body := match cs with
      | '/' :: r => r
      | r => r
    String.ofList ((walk [] (splitAtChar '/' body)).flatMap ('/' :: ·))

/-- Cuts a text at the first character that a test accepts. -/
def cutBefore (p : Char → Bool) (cs : List Char) : List Char × List Char :=
  (cs.takeWhile (!p ·), cs.dropWhile (!p ·))

/-- The query and the fragment that follow a path. -/
def tailOf (special : Bool) (cs : List Char) : Option String × Option String :=
  let (front, back) := cutBefore (· = '#') cs
  let query := match front with
    | '?' :: q => some (String.ofList (encodeWith (if special then specialQuerySet else querySet) q))
    | _ => none
  let fragment := match back with
    | '#' :: f => some (String.ofList (encodeWith fragmentSet f))
    | _ => none
  (query, fragment)

/-- Cuts the part before the last at sign off. -/
def takeUser (authority : List Char) : Option (List Char) × List Char :=
  let host := (authority.reverse.takeWhile (· ≠ '@')).reverse
  if host.length = authority.length then (none, authority)
  else (some (authority.take (authority.length - host.length - 1)), host)

/-- The user and password of the part before the at sign. -/
def readUser (cs : List Char) : String × Option String :=
  let (user, rest) := cutBefore (· = ':') cs
  let encode (s : List Char) := String.ofList (encodeWith userSet s)
  let password := rest.drop 1
  (encode user, if password.isEmpty then none else some (encode password))

/-- Cuts the port off a host; the colons inside brackets are no part of it. -/
def cutPort (cs : List Char) : List Char × Option (List Char) :=
  let bracketed := if cs.head? = some '[' then (cs.takeWhile (· ≠ ']')).length else 0
  let (front, back) := cutBefore (· = ':') (cs.drop bracketed)
  (cs.take bracketed ++ front, match back with
    | ':' :: port => some port
    | _ => none)

/-- The number of a port. -/
def readPort (scheme : String) : Option (List Char) → Except ParseFault (Option Nat)
  | none | some [] => .ok none
  | some ds =>
    if ds.all Char.isDigit then
      let n := ds.foldl (fun n c => 10 * n + (c.toNat - 48)) 0
      if n ≤ 65535 then .ok (if usualPort? scheme = some n then none else some n)
      else .error .badPort
    else .error .badPort

/-- Reads what follows the slashes in front of an authority. -/
def readAuthority (scheme : String) (cs : List Char) : Except ParseFault Url := do
  let special := isSpecial scheme
  let (authority, rest) :=
    cutBefore (fun c => c = '/' || c = '?' || c = '#' || (special && c = '\\')) cs
  let (user, host) := takeUser authority
  let (user, password) := (user.map readUser).getD ("", none)
  let (host, port) := cutPort host
  if host.isEmpty ∧ (special ∨ port.isSome) then throw .emptyHost
  let host ← if special then specialHost host else plainHost host
  let port ← readPort scheme port
  let (path, rest) := cutBefore (fun c => c = '?' || c = '#') rest
  let (query, fragment) := tailOf special rest
  return { scheme, user, password, host := some host, port, path := pathText special path,
           query, fragment }

/-- Reads what follows the scheme of an address of a file. The host may be left out, and the
local host is left out. -/
def readFile (scheme : String) (cs : List Char) : Except ParseFault Url := do
  let isSlash (c : Char) : Bool := c = '/' || c = '\\'
  let (host, rest) := match cs with
    | a :: b :: r =>
      if isSlash a && isSlash b then cutBefore (fun c => isSlash c || c = '?' || c = '#') r
      else ([], cs)
    | _ => ([], cs)
  let host ← if host.isEmpty then pure "localhost" else specialHost host
  let (path, tail) := cutBefore (fun c => c = '?' || c = '#') rest
  let path := pathText true path
  let (query, fragment) := tailOf true tail
  if host = "localhost" then return { scheme, host := none, path := "//" ++ path, query, fragment }
  else return { scheme, host := some host, path, query, fragment }

/-- Reads what follows the scheme of an address that need not name a host. -/
def readFree (scheme : String) (cs : List Char) : Except ParseFault Url :=
  match cs with
  | '/' :: '/' :: r => readAuthority scheme r
  | _ =>
    let (path, tail) := cutBefore (fun c => c = '?' || c = '#') cs
    let (query, fragment) := tailOf false tail
    let path :=
      if path.head? = some '/' then pathText false path else String.ofList (encodeWith [] path)
    .ok { scheme, host := none, path, query, fragment }

/-- Reads an address. -/
def parse (s : String) : Except ParseFault Url :=
  match takeScheme (clean s.toList) with
  | none => .error .relative
  | some (scheme, rest) =>
    if isSpecial scheme then
      readAuthority scheme (rest.dropWhile fun c => c = '/' || c = '\\')
    else if scheme = "file" then readFile scheme rest
    else readFree scheme rest

/-! ## Use -/

/-- The address as it is asked for: without user, password and fragment. -/
def requested (u : Url) : Url := { u with user := "", password := none, fragment := none }

/-- Puts segments at the end of the path. A trailing slash stays and an empty segment follows
it; the root alone has no segment yet. Segments that only move are passed over. -/
def push (u : Url) (segments : List String) : Url :=
  let add (path : String) (segment : String) : String :=
    if segment = "." ∨ segment = ".." then path
    else
      let base := if path = "/" then "" else path
      base ++ "/" ++ String.ofList (encodeWith segmentSet segment.toList)
  { u with path := segments.foldl add u.path }

/-- Whether a path can be extended segment by segment. -/
def hasSegments (u : Url) : Bool := u.path.toList.head? = some '/' || u.host.isSome

end Url

end RegistryStorage
