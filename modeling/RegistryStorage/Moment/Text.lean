import RegistryStorage.Moment.Basic
import RegistryStorage.Text.Blank

/-!
Points in time as text.

A moment is written as its date and time of day in the form of RFC 3339, with as many groups
of three fraction digits as it needs, and with `Z` or `+00:00` for universal time. Reading is
more generous: blanks may stand before each number and before most separators, numbers may
have fewer digits, a blank or a small letter may stand for `T`, years beyond four digits have
a sign, and the offset from universal time may be written in several ways.
-/

set_option autoImplicit false

namespace RegistryStorage.Moment

/-! ## Writing -/

/-- A number in at least `width` digits. -/
def padded (width n : Nat) : List Char :=
  let digits := Nat.toDigits 10 n
  List.replicate (width - digits.length) '0' ++ digits

/-- A year: four digits, or a sign and at least four digits outside the years 0 to 9999. -/
def yearChars (year : Int) : List Char :=
  if 0 ≤ year ∧ year ≤ 9999 then padded 4 year.natAbs
  else (if year < 0 then '-' else '+') :: padded 4 year.natAbs

/-- A fraction of a second in no, three, six or nine digits. -/
def fractionChars (nano : Nat) : List Char :=
  if nano = 0 then []
  else if nano % 1000000 = 0 then '.' :: padded 3 (nano / 1000000)
  else if nano % 1000 = 0 then '.' :: padded 6 (nano / 1000)
  else '.' :: padded 9 nano

/-- A moment, with the given word for universal time. -/
def chars (m : Moment) (zone : List Char) : List Char :=
  yearChars m.date.year ++ '-' :: padded 2 m.date.month ++ '-' :: padded 2 m.date.day ++
    'T' :: padded 2 m.time.hour ++ ':' :: padded 2 m.time.minute ++ ':' ::
    padded 2 m.time.second ++ fractionChars m.time.nano ++ zone

/-- A moment as a file holds it. -/
def text (m : Moment) : String := String.ofList (m.chars ['Z'])

/-- A moment as a table shows it. -/
def offsetText (m : Moment) : String := String.ofList (m.chars ['+', '0', '0', ':', '0', '0'])

/-! ## Reading -/

/-- Drops the blanks at the start. -/
def skipBlanks (s : List Char) : List Char := s.dropWhile Text.isBlank

/-- The number that digits write. -/
def digitsValue (ds : List Char) : Nat := ds.foldl (fun n c => 10 * n + (c.toNat - 48)) 0

/-- Reads a number of one to `width` digits. -/
def readNumber (width : Nat) (s : List Char) : Option (Nat × List Char) :=
  match (s.take width).takeWhile Char.isDigit with
  | [] => none
  | ds => some (digitsValue ds, s.drop ds.length)

/-- Reads a field of one or two digits, blanks before it allowed. -/
def readField (s : List Char) : Option (Nat × List Char) := readNumber 2 (skipBlanks s)

/-- Reads a year, blanks before it allowed. With a sign it may have any number of digits. -/
def readYear (s : List Char) : Option (Int × List Char) :=
  match skipBlanks s with
  | '-' :: r => (readNumber r.length r).map fun (n, r) => (-(n : Int), r)
  | '+' :: r => (readNumber r.length r).map fun (n, r) => ((n : Int), r)
  | r => (readNumber 4 r).map fun (n, r) => ((n : Int), r)

/-- Reads a separator, blanks before it allowed. -/
def readSeparator (c : Char) (s : List Char) : Option (List Char) :=
  match skipBlanks s with
  | d :: r => if d = c then some r else none
  | [] => none

/-- Reads the letter between date and time. -/
def readTimeMark : List Char → Option (List Char)
  | c :: r => if c = 'T' ∨ c = 't' ∨ c = ' ' then some r else none
  | [] => none

/-- Reads a fraction of a second, if a point comes; digits after the ninth do not count. -/
def readFraction (s : List Char) : Option (Nat × List Char) :=
  match s with
  | '.' :: r =>
    match r.takeWhile Char.isDigit with
    | [] => none
    | ds =>
      let kept := ds.take 9
      some (digitsValue kept * Nat.pow 10 (9 - kept.length), r.drop ds.length)
  | _ => some (0, s)

/-- The value of two digits. -/
def twoDigits? (a b : Char) : Option Nat :=
  if a.isDigit && b.isDigit then some (digitsValue [a, b]) else none

/-- Reads the hours and minutes of an offset. Colons and blanks may stand between them. -/
def readHoursMinutes : List Char → Option (Nat × List Char)
  | a :: b :: r => do
    let hours ← twoDigits? a b
    match r.dropWhile fun c => c = ':' || Text.isBlank c with
    | c :: d :: r =>
      let minutes ← twoDigits? c d
      if minutes < 60 then some (60 * hours + minutes, r) else none
    | _ => none
  | _ => none

/-- Reads an offset from universal time, in minutes. -/
def readOffset (s : List Char) : Option (Int × List Char) :=
  match skipBlanks s with
  | u :: t :: c :: r =>
    if [u, t, c].map Char.toUpper = ['U', 'T', 'C'] then some (0, r)
    else readNumeric (u :: t :: c :: r)
  | r => readNumeric r
where
  /-- Reads an offset that is not written as a word. -/
  readNumeric : List Char → Option (Int × List Char)
    | 'Z' :: r => some (0, r)
    | 'z' :: r => some (0, r)
    | '+' :: r => (readHoursMinutes r).map fun (n, r) => ((n : Int), r)
    | '-' :: r => (readHoursMinutes r).map fun (n, r) => (-(n : Int), r)
    | '\u2212' :: r => (readHoursMinutes r).map fun (n, r) => (-(n : Int), r)
    | _ => none

/-- The moment that a text names. -/
def ofText? (text : String) : Option Moment := do
  let (year, s) ← readYear text.toList
  let s ← readSeparator '-' s
  let (month, s) ← readField s
  let s ← readSeparator '-' s
  let (day, s) ← readField s
  let s ← readTimeMark s
  let (hour, s) ← readField s
  let s ← readSeparator ':' s
  let (minute, s) ← readField s
  let s ← readSeparator ':' s
  let (second, s) ← readField s
  let (nano, s) ← readFraction s
  let (ahead, s) ← readOffset s
  if s.all Text.isBlank ∧ ahead.natAbs < 1440 then
    ofLocal? ⟨year, month, day⟩ ⟨hour, minute, second, nano⟩ ahead
  else none

end RegistryStorage.Moment
