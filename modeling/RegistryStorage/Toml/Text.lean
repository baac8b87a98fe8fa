import RegistryStorage.Json.Token

/-!
Lines, keys and quoted texts of TOML.

Every function here takes what it recognises off the front of a text and returns the rest.
Lines end with a line feed or with a carriage return and a line feed. Keys are bare or quoted,
and several of them are joined by dots. Texts are quoted with one quote or with three; with
three they may go over several lines, and the first line end after the opening is no part of
them.
-/

set_option autoImplicit false

namespace RegistryStorage.Toml

/-! ## Lines -/

/-- Whether a character may stand on a line. -/
def isLineChar (c : Char) : Bool := c = '\t' || (0x20 ≤ c.toNat && c.toNat ≠ 0x7F)

/-- Whether a character is a blank inside a line. -/
def isSpace (c : Char) : Bool := c = ' ' || c = '\t'

/-- Passes over blanks. -/
def skipSpaces (s : List Char) : List Char := s.dropWhile isSpace

/-- Takes a line end. -/
def lineEnd? : List Char → Option (List Char)
  | '\n' :: r => some r
  | '\r' :: '\n' :: r => some r
  | _ => none

/-- Passes over blanks, line ends and comments; inside a comment if so told. -/
def skipLines : (inComment : Bool) → List Char → List Char
  | _, '\n' :: r => skipLines false r
  | _, '\r' :: '\n' :: r => skipLines false r
  | true, c :: r => if isLineChar c then skipLines true r else c :: r
  | false, '#' :: r => skipLines true r
  | false, c :: r => if isSpace c then skipLines false r else c :: r
  | _, [] => []

/-- Takes the rest of a line on which nothing but a comment may follow. -/
def restOfLine? (s : List Char) : Option (List Char) :=
  let s := match skipSpaces s with
    | '#' :: r => r.dropWhile isLineChar
    | r => r
  match s with
  | [] => some []
  | r => lineEnd? r

/-! ## Quoted texts -/

/-- The character of a code point given in hexadecimal digits. -/
def codePoint? (digits : List Char) : Option Char := do
  let n ← digits.foldlM (fun n c => do return 16 * n + (← Json.hexValue? c)) 0
  if n.isValidChar then some (Char.ofNat n) else none

/-- The character that a backslash and a letter stand for. -/
def escaped? : Char → Option Char
  | 'b' => some '\x08'
  | 't' => some '\t'
  | 'n' => some '\n'
  | 'f' => some '\x0C'
  | 'r' => some '\r'
  | '"' => some '"'
  | '\\' => some '\\'
  | _ => none

/-- Puts a character in front of what a text goes on with. -/
def andThen (c : Char) (more : Option (List Char × List Char)) :
    Option (List Char × List Char) :=
  more.map fun m => (c :: m.1, m.2)

/-- Takes a text after its opening double quote. -/
def quoted : List Char → Option (List Char × List Char)
  | '"' :: r => some ([], r)
  | '\\' :: 'u' :: a :: b :: c :: d :: r => do andThen (← codePoint? [a, b, c, d]) (quoted r)
  | '\\' :: 'U' :: a :: b :: c :: d :: e :: f :: g :: h :: r => do
    andThen (← codePoint? [a, b, c, d, e, f, g, h]) (quoted r)
  | '\\' :: c :: r => do andThen (← escaped? c) (quoted r)
  | c :: r => if isLineChar c then andThen c (quoted r) else none
  | [] => none

/-- Takes a text after its opening single quote; nothing in it is escaped. -/
def literal : List Char → Option (List Char × List Char)
  | '\'' :: r => some ([], r)
  | c :: r => if isLineChar c then andThen c (literal r) else none
  | [] => none

/-- Whether nothing but blanks is left of a line. -/
def endsLine (s : List Char) : Bool := (lineEnd? (skipSpaces s)).isSome

/-- Takes a text after its three opening double quotes. A backslash at the end of a line takes
away the blanks and line ends that follow, which is what `skipping` remembers. One or two
quotes may stand before the closing three. -/
def quotedLines : (skipping : Bool) → List Char → Option (List Char × List Char)
  | true, ' ' :: r => quotedLines true r
  | true, '\t' :: r => quotedLines true r
  | true, '\n' :: r => quotedLines true r
  | true, '\r' :: '\n' :: r => quotedLines true r
  | _, '"' :: '"' :: '"' :: '"' :: '"' :: r => some (['"', '"'], r)
  | _, '"' :: '"' :: '"' :: '"' :: r => some (['"'], r)
  | _, '"' :: '"' :: '"' :: r => some ([], r)
  | _, '\\' :: 'u' :: a :: b :: c :: d :: r => do
    andThen (← codePoint? [a, b, c, d]) (quotedLines false r)
  | _, '\\' :: 'U' :: a :: b :: c :: d :: e :: f :: g :: h :: r => do
    andThen (← codePoint? [a, b, c, d, e, f, g, h]) (quotedLines false r)
  | _, '\\' :: c :: r =>
    if endsLine (c :: r) then quotedLines true (c :: r)
    else do andThen (← escaped? c) (quotedLines false r)
  | _, '\r' :: '\n' :: r => andThen '\n' (quotedLines false r)
  | _, c :: r =>
    if c = '\n' ∨ isLineChar c then andThen c (quotedLines false r) else none
  | _, [] => none

/-- Takes a text after its three opening single quotes. -/
def literalLines : List Char → Option (List Char × List Char)
  | '\'' :: '\'' :: '\'' :: '\'' :: '\'' :: r => some (['\'', '\''], r)
  | '\'' :: '\'' :: '\'' :: '\'' :: r => some (['\''], r)
  | '\'' :: '\'' :: '\'' :: r => some ([], r)
  | '\r' :: '\n' :: r => andThen '\n' (literalLines r)
  | c :: r => if c = '\n' ∨ isLineChar c then andThen c (literalLines r) else none
  | [] => none

/-- Passes over the line end after an opening of three quotes. -/
def skipLineEnd (s : List Char) : List Char := (lineEnd? s).getD s

/-- Takes the characters of a text. -/
def textChars? : List Char → Option (List Char × List Char)
  | '"' :: '"' :: '"' :: r => quotedLines false (skipLineEnd r)
  | '"' :: r => quoted r
  | '\'' :: '\'' :: '\'' :: r => literalLines (skipLineEnd r)
  | '\'' :: r => literal r
  | _ => none

/-- Takes a text. -/
def text? (s : List Char) : Option (String × List Char) :=
  (textChars? s).map fun m => (String.ofList m.1, m.2)

/-! ## Keys -/

/-- Whether a character may stand in a bare key. -/
def isBareChar (c : Char) : Bool := c.isAlphanum || c = '-' || c = '_'

/-- Takes one key. -/
def key? (s : List Char) : Option (String × List Char) :=
  match s with
  | '"' :: r => (quoted r).map fun m => (String.ofList m.1, m.2)
  | '\'' :: r => (literal r).map fun m => (String.ofList m.1, m.2)
  | s =>
    let bare := s.takeWhile isBareChar
    if bare.isEmpty then none else some (String.ofList bare, s.drop bare.length)

/-- Takes keys joined by dots, and the blanks around them. -/
def keys? (s : List Char) : Option (List String × List Char) := do
  let (key, r) ← key? (skipSpaces s)
  match skipSpaces r with
  | '.' :: r =>
    if _h : r.length < s.length then
      let (more, r) ← keys? r
      return (key :: more, r)
    else none
  | r => return ([key], r)
termination_by s.length

end RegistryStorage.Toml
