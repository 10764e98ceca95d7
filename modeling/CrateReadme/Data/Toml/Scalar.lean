import CrateReadme.Data.Json
import CrateReadme.Text.Real

/-!
# Numbers and points in time in settings

What starts with a digit or a sign is a number, a date or a time. Underscores may stand between
digits, and integers may be written in base two, eight or sixteen.
-/

namespace CrateReadme.Data.Toml

def endsScalar (c : Char) : Bool :=
  c ∈ [' ', '\t', '\n', '\r', '#', ',', ']', '\x7d']

def dropUnderscores (isDigit : Char → Bool) : List Char → List Char
  | [] => []
  | [c] => [c]
  | a :: '_' :: rest =>
    match rest with
    | b :: _ =>
      if isDigit a && isDigit b then a :: dropUnderscores isDigit rest
      else a :: '_' :: dropUnderscores isDigit rest
    | [] => [a, '_']
  | a :: rest => a :: dropUnderscores isDigit rest

/-- The base that the start of a number announces, and whether it does. -/
def baseOf : List Char → Nat
  | '0' :: 'b' :: _ => 2
  | '0' :: 'o' :: _ => 8
  | '0' :: 'x' :: _ => 16
  | _ => 10

def isDigitOf (base : Nat) (c : Char) : Bool :=
  match base with
  | 16 => (Json.hexValue? c).isSome
  | base => c.isDigit && c.toNat - 48 < base

/-- Whether the digits of a number start with a zero that must not be there. -/
def hasLeadingZero : List Char → Bool
  | '0' :: c :: _ => c ∉ ['.', 'o', 'x', 'b', 'e']
  | _ => false

def number? (text : List Char) : Option Value :=
  let (sign, digits) := match text with
    | '+' :: rest => (['+'], rest)
    | '-' :: rest => (['-'], rest)
    | text => ([], text)
  let base := baseOf digits
  let clean := (dropUnderscores (isDigitOf base) digits).map Char.toLower
  if hasLeadingZero digits || '_' ∈ clean ||
      (sign ≠ [] && (base ≠ 10 || (digits.head? = some '.' && 1 < digits.length))) then
    none
  else if clean.getLast? = some '.' ||
      (base ≠ 16 && (clean.takeWhile (· ≠ 'e')).getLast? = some '.') then
    none
  else
    match Text.integer? base (sign ++ clean) with
    | some value => some (.int value)
    | none => (Text.real? (sign ++ clean)).map .float

def daysIn (year month : Nat) : Nat :=
  if month = 2 then
    if year % 4 = 0 ∧ (year % 100 ≠ 0 ∨ year % 400 = 0) then 29 else 28
  else if month ∈ [4, 6, 9, 11] then 30
  else 31

def twoDigits? : List Char → Option (Nat × List Char)
  | a :: b :: rest =>
    if a.isDigit && b.isDigit then some (Json.digitsValue [a, b], rest) else none
  | _ => none

def date? (text : List Char) : Option (List Char) :=
  match Json.digits text with
  | ([], _) => none
  | (digits, '-' :: rest) => do
    let year := Json.digitsValue digits
    let (month, rest) ← twoDigits? rest
    let rest ← match rest with
      | '-' :: rest => some rest
      | _ => none
    let (day, rest) ← twoDigits? rest
    guard (1 ≤ year ∧ year ≤ 9999 ∧ 1 ≤ month ∧ month ≤ 12 ∧ 1 ≤ day ∧ day ≤ daysIn year month)
    return rest
  | _ => none

/-- Reads a number of two digits below a limit, and a colon behind it if one must be there. -/
def clockPart? (limit : Nat) (colon : Bool) (text : List Char) : Option (List Char) := do
  let (value, rest) ← twoDigits? text
  guard (value < limit)
  if colon then
    match rest with
    | ':' :: rest => some rest
    | _ => none
  else
    some rest

/-- Reads a time of day, with a fraction of a second if one is there. -/
def time? (text : List Char) : Option (List Char) := do
  let rest ← clockPart? 24 true text
  let rest ← clockPart? 60 true rest
  let rest ← clockPart? 60 false rest
  return (Json.readFraction rest).2

/-- Whether a text is the offset of a time zone, or empty. -/
def isZone (text : List Char) : Bool :=
  match text with
  | [] => true
  | [c] => c = 'Z' || c = 'z'
  | sign :: rest =>
    (sign = '+' || sign = '-' || sign = '|') &&
      ((clockPart? 24 true rest).bind (clockPart? 60 false)) == some []

/-- What kind of point in time a text gives. -/
def moment? (text : List Char) : Option Moment :=
  match date? text with
  | some [] => some .date
  | some (mark :: rest) =>
    if mark = 'T' ∨ mark = 't' ∨ mark = ' ' then
      match time? rest with
      | some zone => if isZone zone then some .dateTime else none
      | none => none
    else
      none
  | none => if time? text = some [] then some .time else none

/-- Reads a number or a point in time. A date may be followed by a space and a time. -/
def readScalar? (text : List Char) : Option (Value × List Char) :=
  let (raw, rest) := text.span fun c => !endsScalar c
  match moment? raw with
  | some .date =>
    let (more, rest) := rest.span fun c => c = ' ' || !endsScalar c
    let time := Text.trimEnd Text.isBlank more
    if time.isEmpty then
      some (.moment .date (String.ofList raw), rest)
    else if moment? (raw ++ time) = some .dateTime then
      some (.moment .dateTime (String.ofList (raw ++ time)), rest)
    else
      none
  | some kind => some (.moment kind (String.ofList raw), rest)
  | none => (number? raw).map fun value => (value, rest)

end CrateReadme.Data.Toml
