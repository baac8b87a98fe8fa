import RegistryStorage.Moment.Basic
import RegistryStorage.Toml.Text

/-!
Numbers, dates and times of TOML.

Whole numbers have 64 bits with a sign. Of numbers with a fraction or an exponent, of dates and
of times only the form is looked at, because no setting takes one: such a value is recognised
and passed over.
-/

set_option autoImplicit false

namespace RegistryStorage.Toml

/-! ## Numbers -/

/-- Takes digits; a single underscore may stand between two of them. -/
def moreDigits (p : Char → Bool) : List Char → List Char × List Char
  | '_' :: c :: r =>
    if p c then
      let (ds, t) := moreDigits p r
      (c :: ds, t)
    else ([], '_' :: c :: r)
  | c :: r =>
    if p c then
      let (ds, t) := moreDigits p r
      (c :: ds, t)
    else ([], c :: r)
  | [] => ([], [])

/-- Takes at least one digit. -/
def digits? (p : Char → Bool) : List Char → Option (List Char × List Char)
  | c :: r =>
    if p c then
      let (ds, t) := moreDigits p r
      some (c :: ds, t)
    else none
  | [] => none

/-- The number that digits write in a base. -/
def numberOf (base : Nat) (ds : List Char) : Nat :=
  ds.foldl (fun n c => base * n + (Json.hexValue? c).getD 0) 0

/-- A whole number, if it fits into 64 bits with a sign. -/
def fitting? (i : Int) : Option Int :=
  if -(Nat.pow 2 63 : Int) ≤ i ∧ i < (Nat.pow 2 63 : Int) then some i else none

/-- Takes a sign. -/
def sign : List Char → Bool × List Char
  | '-' :: r => (true, r)
  | '+' :: r => (false, r)
  | r => (false, r)

/-- Takes decimal digits that do not begin with a needless zero. -/
def decimal? : List Char → Option (List Char × List Char)
  | '0' :: r => some (['0'], r)
  | s => digits? Char.isDigit s

/-- Takes a whole number. -/
def whole? (s : List Char) : Option (Int × List Char) := do
  let based (base : Nat) (p : Char → Bool) (r : List Char) : Option (Int × List Char) := do
    let (ds, r) ← digits? p r
    return (← fitting? (numberOf base ds), r)
  match s with
  | '0' :: 'x' :: r => based 16 (fun c => (Json.hexValue? c).isSome) r
  | '0' :: 'o' :: r => based 8 (fun c => '0' ≤ c && c ≤ '7') r
  | '0' :: 'b' :: r => based 2 (fun c => c = '0' || c = '1') r
  | s =>
    let (negative, r) := sign s
    let (ds, r) ← decimal? r
    let n : Int := numberOf 10 ds
    return (← fitting? (if negative then -n else n), r)

/-- Takes a power of ten. -/
def power? : List Char → Option (List Char)
  | c :: r =>
    if c = 'e' ∨ c = 'E' then (digits? Char.isDigit (sign r).2).map (·.2) else none
  | [] => none

/-- Takes a number that is not whole. -/
def real? (s : List Char) : Option (List Char) :=
  match (sign s).2 with
  | 'i' :: 'n' :: 'f' :: r => some r
  | 'n' :: 'a' :: 'n' :: r => some r
  | r => do
    let (_, r) ← decimal? r
    match r with
    | '.' :: r =>
      let (_, r) ← digits? Char.isDigit r
      return (power? r).getD r
    | r => power? r

/-! ## Dates and times -/

/-- Takes a number of two digits. -/
def twoDigits? : List Char → Option (Nat × List Char)
  | a :: b :: r => if a.isDigit ∧ b.isDigit then some (numberOf 10 [a, b], r) else none
  | _ => none

/-- Takes a date. -/
def date? (s : List Char) : Option (List Char) := do
  let (a, r) ← twoDigits? s
  let (b, r) ← twoDigits? r
  match r with
  | '-' :: r =>
    let (month, r) ← twoDigits? r
    match r with
    | '-' :: r =>
      let (day, r) ← twoDigits? r
      if 1 ≤ month ∧ month ≤ 12 ∧ 1 ≤ day ∧ day ≤ daysInMonth (100 * a + b) month then some r
      else none
    | _ => none
  | _ => none

/-- Takes hours and minutes. -/
def hourMinute? (s : List Char) : Option (List Char) := do
  let (hour, r) ← twoDigits? s
  match r with
  | ':' :: r =>
    let (minute, r) ← twoDigits? r
    if hour < 24 ∧ minute < 60 then some r else none
  | _ => none

/-- Takes a time of day. -/
def time? (s : List Char) : Option (List Char) := do
  match ← hourMinute? s with
  | ':' :: r =>
    let (second, r) ← twoDigits? r
    if second ≤ 60 then
      match r with
      | '.' :: d :: r => if d.isDigit then some (r.dropWhile Char.isDigit) else some ('.' :: d :: r)
      | r => some r
    else none
  | _ => none

/-- Takes the distance of a clock from universal time, if one is given. -/
def zone (s : List Char) : List Char :=
  match s with
  | 'Z' :: r => r
  | 'z' :: r => r
  | '+' :: r => (hourMinute? r).getD s
  | '-' :: r => (hourMinute? r).getD s
  | _ => s

/-- Takes a date, a time, or both. -/
def moment? (s : List Char) : Option (List Char) :=
  match date? s with
  | some r =>
    match r with
    | c :: t =>
      if c = 'T' ∨ c = 't' ∨ c = ' ' then
        match time? t with
        | some u => some (zone u)
        | none => some r
      else some r
    | [] => some []
  | none => time? s

end RegistryStorage.Toml
