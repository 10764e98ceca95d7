import CrateReadme.Template.Format.Percent

/-!
# Layouts of single values

A layout says how one value is written: a fill character and where the value stands between the fill
characters, a sign, the mark of a base, a width, separators between groups of digits, a precision
and a letter for the way of writing. What a layout may say depends on the kind of the value.
-/

namespace CrateReadme.Template

structure Layout where
  fill : Option Char
  align : Option Char
  sign : Option Char
  keepsZeroSign : Bool
  isAlternate : Bool
  hasZeros : Bool
  width : Nat
  separator : Option Char
  precision : Option Nat
  letter : Option Char

namespace Layout

/-- Whether a character says where a value stands. -/
def isAlign (c : Char) : Bool :=
  c ∈ ['<', '>', '=', '^']

/-- Takes a character that satisfies a condition from the front of a text. -/
def takeChar (keep : Char → Bool) : List Char → Option Char × List Char
  | c :: text => if keep c then (some c, text) else (none, c :: text)
  | [] => (none, [])

def takeNumber (text : List Char) : Option Nat × List Char :=
  match text.span Text.isDecimal with
  | ([], _) => (none, text)
  | (digits, rest) => (Text.natural? 10 digits, rest)

def ofText (text : List Char) : Run Layout := do
  let (fill, align, text) : Option Char × Option Char × List Char :=
    match text with
    | c :: d :: rest =>
      if isAlign d then (some c, some d, rest)
      else if isAlign c then (none, some c, d :: rest)
      else (none, none, text)
    | [c] => if isAlign c then (none, some c, []) else (none, none, text)
    | [] => (none, none, [])
  let (sign, text) := takeChar (· ∈ ['+', '-', ' ']) text
  let (zero, text) := takeChar (· = 'z') text
  let (mark, text) := takeChar (· = '#') text
  let (zeros, text) : Option Char × List Char :=
    if fill.isNone then takeChar (· = '0') text else (none, text)
  let (width, text) := takeNumber text
  let (comma, text) := takeChar (· = ',') text
  let (underscore, text) := takeChar (· = '_') text
  let (comma', text) := takeChar (· = ',') text
  if (comma.isSome && underscore.isSome) || comma'.isSome then
    Run.fault .value
  let (precision, text) ←
    match text with
    | '.' :: rest =>
      match takeNumber rest with
      | (some count, rest) => pure (some count, rest)
      | (none, _) => Run.fault .value
    | text => pure (none, text)
  if 1 < text.length then
    Run.fault .value
  return {
    fill, align, sign
    keepsZeroSign := zero.isNone
    isAlternate := mark.isSome
    hasZeros := zeros.isSome
    width := width.getD 0
    separator := comma <|> underscore
    precision
    letter := text.head? }

/-- A text between fill characters. -/
def pad (layout : Layout) (default : Char) (start body : List Char) : List Char :=
  let fill := layout.fill.getD (if layout.hasZeros then '0' else ' ')
  let room := layout.width - (start.length + body.length)
  let filling (count : Nat) : List Char := List.replicate count fill
  match layout.align.getD default with
  | '<' => start ++ body ++ filling room
  | '^' => filling (room / 2) ++ start ++ body ++ filling (room - room / 2)
  | '=' => start ++ filling room ++ body
  | _ => filling room ++ start ++ body

/-- Digits, given in reverse, with a separator behind every group of the given size. -/
def grouped (separator : Char) (size : Nat) : (place : Nat) → List Char → List Char
  | _, [] => []
  | place, digit :: digits =>
    let rest := digit :: grouped separator size (place + 1) digits
    if place ≠ 0 ∧ place % size = 0 then separator :: rest else rest

/-- Digits in groups, with zeros in front of them until they fill the given width. `left` bounds the
zeros. -/
def groupedWithin (separator : Char) (size width : Nat) : (left : Nat) → List Char → List Char
  | 0, digits => (grouped separator size 0 digits.reverse).reverse
  | left + 1, digits =>
    let found := (grouped separator size 0 digits.reverse).reverse
    if found.length < width then groupedWithin separator size width left ('0' :: digits) else found

def signText (layout : Layout) (isNegative : Bool) : List Char :=
  if isNegative then ['-']
  else
    match layout.sign with
    | some '+' => ['+']
    | some ' ' => [' ']
    | _ => []

/-- A number in its layout: its sign and mark, its whole digits and the rest. -/
def number (layout : Layout) (start digits rest : List Char) : List Char :=
  let padsZeros := layout.hasZeros && layout.fill.isNone && layout.align.isNone ||
    layout.fill.getD (if layout.hasZeros then '0' else ' ') = '0' && layout.align = some '='
  let size := if layout.letter.any (· ∈ ['b', 'o', 'x', 'X']) then 4 else 3
  let digits :=
    match layout.separator with
    | some separator =>
      let room := if padsZeros then layout.width - start.length - rest.length else 0
      groupedWithin separator size room room digits
    | none => digits
  layout.pad (if layout.hasZeros then '=' else '>') start (digits ++ rest)

def text (layout : Layout) (value : List Char) : Run (List Char) := do
  let isRefused := layout.sign.isSome || layout.isAlternate || layout.align = some '=' ||
    layout.separator.isSome || !layout.keepsZeroSign || layout.letter.any (· ≠ 's')
  if isRefused then
    Run.fault .value
  return layout.pad '<' [] (layout.precision.elim value value.take)

/-- The text of a number, with a point behind its whole digits even if there are no others. -/
def withPoint (text : List Char) : List Char :=
  match text.span Char.isDigit with
  | ([], _) | (_, '.' :: _) => text
  | (whole, rest) => whole ++ '.' :: rest

def real (layout : Layout) (value : Binary64) : Run (List Char) := do
  let letter := layout.letter.getD 'r'
  unless letter ∈ ['r', 'e', 'E', 'f', 'F', 'g', 'G', 'n', '%'] do
    Run.fault .value
  if letter = 'n' && layout.separator.isSome then
    Run.fault .value
  let value := if letter = '%' then value.mul (.ofInt 100) else value
  let places := layout.precision.getD 6
  let body : List Char :=
    match letter.toLower with
    | 'r' =>
      match layout.precision with
      | some count => value.textIn .generalWithPoint layout.isAlternate count
      | none =>
        let text := value.magnitude.render.toList
        if layout.isAlternate then withPoint text else text
    | 'e' => value.textIn .scientific layout.isAlternate places
    | 'f' | '%' => value.textIn .fixed layout.isAlternate places
    | _ => value.textIn .general layout.isAlternate places
  let isZero := body.all fun c => c = '0' || c = '.' || c = 'e' || c = '+' || c = '-'
  let isNegative := value.isNegative && (layout.keepsZeroSign || !isZero)
  let body := if letter ∈ ['E', 'F', 'G'] then body.map Char.toUpper else body
  let (whole, rest) := body.span Char.isDigit
  let ending := if letter = '%' then ['%'] else []
  return layout.number (layout.signText isNegative) whole (rest ++ ending)

def integer (layout : Layout) (value : Int) : Run (List Char) := do
  let letter := layout.letter.getD 'd'
  if letter ∈ ['e', 'E', 'f', 'F', 'g', 'G', '%'] then
    return ← layout.real (← Value.realOfInt value)
  unless letter ∈ ['b', 'c', 'd', 'n', 'o', 'x', 'X'] do
    Run.fault .value
  let isRefused := layout.precision.isSome || !layout.keepsZeroSign ||
    (layout.separator = some ',' && letter ∈ ['b', 'c', 'n', 'o', 'x', 'X']) ||
    (layout.separator = some '_' && letter ∈ ['c', 'n']) ||
    (letter = 'c' && (layout.sign.isSome || layout.isAlternate))
  if isRefused then
    Run.fault .value
  if letter = 'c' then
    if value < 0 || 0x110000 ≤ value then
      Run.fault .overflow
    return layout.pad (if layout.hasZeros then '=' else '>') [] [← Run.char value.toNat]
  let (base, mark) : Nat × List Char :=
    match letter with
    | 'x' => (16, ['0', 'x'])
    | 'X' => (16, ['0', 'X'])
    | 'o' => (8, ['0', 'o'])
    | 'b' => (2, ['0', 'b'])
    | _ => (10, [])
  if base = 10 && digitLimit ≤ value.natAbs then
    Run.fault .value
  let digits := Nat.toDigits base value.natAbs
  let digits := if letter = 'X' then digits.map Char.toUpper else digits
  let mark := if layout.isAlternate then mark else []
  return layout.number (layout.signText (value < 0) ++ mark) digits []

end Layout

def Value.inLayout (value : Value) (description : List Char) : Run (List Char) := do
  if description.isEmpty then
    return ← value.shown
  match value, value.chars?, value.integer? with
  | .float number, _, _ => (← Layout.ofText description).real number
  | _, some chars, _ => (← Layout.ofText description).text chars
  | _, _, some number => (← Layout.ofText description).integer number
  | _, _, _ => Run.fault .kind

end CrateReadme.Template
