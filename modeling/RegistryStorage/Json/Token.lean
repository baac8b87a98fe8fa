import RegistryStorage.Json.Numeral

/-!
The words of a JSON text.

A text is cut into tokens from left to right. Each token takes at least one character, which
is why cutting ends. A quoted text is first read as pieces, characters and code units of
UTF-16, and only then put together: an escape that names half of a surrogate pair is no error
of the text's form, it only keeps the token from having a value.
-/

set_option autoImplicit false

namespace RegistryStorage.Json

/-- What a quoted text is made of. -/
inductive Piece
  | char (c : Char)
  /-- A code unit of UTF-16, given by an escape. -/
  | unit (code : Nat)
deriving DecidableEq, Repr

/-- The value of a hexadecimal digit. -/
def hexValue? (c : Char) : Option Nat :=
  let n := c.toNat
  if 48 ≤ n ∧ n ≤ 57 then some (n - 48)
  else if 97 ≤ n ∧ n ≤ 102 then some (n - 87)
  else if 65 ≤ n ∧ n ≤ 70 then some (n - 55)
  else none

/-- The code unit that four hexadecimal digits write. -/
def hexUnit? (a b c d : Char) : Option Nat := do
  return 4096 * (← hexValue? a) + 256 * (← hexValue? b) + 16 * (← hexValue? c) + (← hexValue? d)

/-- The character that a backslash and a letter stand for. -/
def escaped? (c : Char) : Option Char :=
  match c with
  | '"' => some '"'
  | '\\' => some '\\'
  | '/' => some '/'
  | 'b' => some '\x08'
  | 'f' => some '\x0C'
  | 'n' => some '\n'
  | 'r' => some '\r'
  | 't' => some '\t'
  | _ => none

/-- Reads a quoted text after its opening quote, up to and with its closing quote. -/
def pieces : List Char → Option (List Piece × List Char)
  | [] => none
  | '"' :: r => some ([], r)
  | '\\' :: 'u' :: a :: b :: c :: d :: r => do
    let code ← hexUnit? a b c d
    let (ps, r) ← pieces r
    return (.unit code :: ps, r)
  | '\\' :: c :: r => do
    let e ← escaped? c
    let (ps, r) ← pieces r
    return (.char e :: ps, r)
  | c :: r =>
    if c.toNat < 0x20 then none
    else do
      let (ps, r) ← pieces r
      return (.char c :: ps, r)

/-- Whether a code unit is the first half of a pair. -/
def isHighUnit (code : Nat) : Bool := 0xD800 ≤ code && code < 0xDC00

/-- Whether a code unit is the second half of a pair. -/
def isLowUnit (code : Nat) : Bool := 0xDC00 ≤ code && code < 0xE000

/-- The text that pieces make, unless half a pair stands alone. -/
def joinPieces : List Piece → Option (List Char)
  | [] => some []
  | .char c :: r => (c :: ·) <$> joinPieces r
  | .unit high :: .unit low :: r =>
    if isHighUnit high then
      if isLowUnit low then
        (Char.ofNat (0x10000 + (high - 0xD800) * 0x400 + (low - 0xDC00)) :: ·) <$> joinPieces r
      else none
    else if isLowUnit high then none
    else (Char.ofNat high :: ·) <$> joinPieces (.unit low :: r)
  | .unit code :: r =>
    if isHighUnit code || isLowUnit code then none
    else (Char.ofNat code :: ·) <$> joinPieces r

/-- A word of a JSON text. -/
inductive Token
  | openObject
  | closeObject
  | openList
  | closeList
  | colon
  | comma
  | null
  | bool (b : Bool)
  | number (n : Numeral)
  /-- A quoted text; it has no value if half a surrogate pair stands alone in it. -/
  | text (t : Option String)
deriving DecidableEq, Repr

/-- Whether a character may stand between tokens. -/
def isSpace (c : Char) : Bool := c == ' ' || c == '\t' || c == '\n' || c == '\r'

/-- Reads the token at the start of a text that begins with no space. -/
def nextToken : List Char → Option (Token × List Char)
  | '{' :: r => some (.openObject, r)
  | '}' :: r => some (.closeObject, r)
  | '[' :: r => some (.openList, r)
  | ']' :: r => some (.closeList, r)
  | ':' :: r => some (.colon, r)
  | ',' :: r => some (.comma, r)
  | 'n' :: 'u' :: 'l' :: 'l' :: r => some (.null, r)
  | 't' :: 'r' :: 'u' :: 'e' :: r => some (.bool true, r)
  | 'f' :: 'a' :: 'l' :: 's' :: 'e' :: r => some (.bool false, r)
  | '"' :: r => (pieces r).map fun (ps, r) => (.text ((joinPieces ps).map String.ofList), r)
  | s => (Numeral.read? s).map fun (n, r) => (.number n, r)

theorem pieces_length {s r : List Char} {ps : List Piece} (h : pieces s = some (ps, r)) :
    r.length < s.length := by
  fun_induction pieces s generalizing ps r with
  | case1 => simp at h
  | case2 t => simp only [Option.some.injEq, Prod.mk.injEq] at h; rw [← h.2]; simp
  | case3 a b c d t ih =>
    simp only [bind, Option.bind_eq_some_iff, pure, Option.some.injEq, Prod.mk.injEq] at h
    obtain ⟨_, _, ⟨qs, u⟩, hq, _, hr⟩ := h
    have := ih hq
    simp only [List.length_cons]
    dsimp only at hr
    rw [← hr]
    omega
  | case4 c t _ ih =>
    simp only [bind, Option.bind_eq_some_iff, pure, Option.some.injEq, Prod.mk.injEq] at h
    obtain ⟨_, _, ⟨qs, u⟩, hq, _, hr⟩ := h
    have := ih hq
    simp only [List.length_cons]
    dsimp only at hr
    rw [← hr]
    omega
  | case5 => simp at h
  | case6 c t _ _ _ _ ih =>
    simp only [bind, Option.bind_eq_some_iff, pure, Option.some.injEq, Prod.mk.injEq] at h
    obtain ⟨⟨qs, u⟩, hq, _, hr⟩ := h
    have := ih hq
    simp only [List.length_cons]
    dsimp only at hr
    rw [← hr]
    omega

/-- A token takes at least one character. -/
theorem nextToken_length {s r : List Char} {t : Token} (h : nextToken s = some (t, r)) :
    r.length < s.length := by
  unfold nextToken at h
  split at h
  case h_10 u =>
    obtain ⟨⟨ps, v⟩, hp, hr⟩ := Option.map_eq_some_iff.1 h
    have := pieces_length hp
    simp only [Prod.mk.injEq] at hr
    rw [← hr.2, List.length_cons]
    omega
  case h_11 u _ _ _ _ _ _ _ _ _ _ =>
    obtain ⟨⟨n, v⟩, hn, hr⟩ := Option.map_eq_some_iff.1 h
    have := Numeral.read?_length hn
    simp only [Prod.mk.injEq] at hr
    rw [← hr.2]
    exact this
  all_goals
    simp only [Option.some.injEq, Prod.mk.injEq] at h
    rw [← h.2]
    simp only [List.length_cons]
    omega

/-- The tokens of a text, if it can be cut into tokens to its end. -/
def tokens (s : List Char) : Option (List Token) :=
  match s with
  | [] => some []
  | c :: r =>
    if isSpace c then tokens r
    else
      match _h : nextToken (c :: r) with
      | none => none
      | some (t, r) => (t :: ·) <$> tokens r
termination_by s.length
decreasing_by
  · simp
  · exact nextToken_length (by assumption)

end RegistryStorage.Json
