import CrateReadme.Template.Arguments
import CrateReadme.Text.Digits
import CrateReadme.Text.Real

/-!
# Patterns with percent signs

A pattern has places at which values are inserted. A place starts with a percent sign; behind it
come the key of the value in parentheses, marks that say how the value is laid out, a width, a
precision, and a letter that says how the value is written. In markup, what is inserted is escaped.
-/

namespace CrateReadme.Template.Percent

/-- A width or precision. -/
inductive Measure where
  | missing
  | given (value : Nat)
  /-- It is the next argument. -/
  | argument
  deriving DecidableEq

/-- How the value at a place is written: with marks, and as a letter says. -/
structure Slot where
  marks : List Char
  letter : Char

/-- Passes over digits or a star. -/
def splitMeasure : List Char → Measure × List Char
  | '*' :: text => (.argument, text)
  | text =>
    match text.span Char.isDigit with
    | ([], _) => (.missing, text)
    | (digits, rest) => (.given ((Text.natural? 10 digits).getD 0), rest)

/-- Reads a width, and a precision behind a point. -/
def splitMeasures (text : List Char) : Measure × Measure × List Char :=
  match splitMeasure text with
  | (width, '.' :: text) =>
    match splitMeasure text with
    | (.missing, text) => (width, .given 0, text)
    | (precision, text) => (width, precision, text)
  | (width, text) => (width, .missing, text)

/-- Passes over a letter that says how large a value is, which makes no difference. -/
def dropSize : List Char → List Char
  | c :: text => if c ∈ ['h', 'l', 'L'] then text else c :: text
  | [] => []

/-- Reads a key up to its closing parenthesis; parentheses in it are balanced. -/
def key? : (depth : Nat) → List Char → Option (List Char × List Char)
  | _, [] => none
  | depth, c :: text =>
    if c = ')' then
      match depth with
      | 0 => some ([], text)
      | depth + 1 => (key? depth text).map fun found => (c :: found.1, found.2)
    else
      (key? (if c = '(' then depth + 1 else depth) text).map fun found => (c :: found.1, found.2)

/-- The values that are still to be inserted, and the one that is asked for keys. -/
structure Supply where
  values : List Value
  keyed : Option Value

namespace Supply

def hasKeys : Value → Bool
  | .list _ | .table _ | .range _ _ _ | .bytes _ | .undefined _ | .blank _ | .whole _ => true
  | _ => false

/-- What an argument supplies: the items of a tuple, or else itself. -/
def ofValue (argument : Value) : Supply :=
  match argument.tupleItems? with
  | some items => ⟨items, none⟩
  | none => ⟨[argument], if hasKeys argument then some argument else none⟩

def next (supply : Supply) : Run (Value × Supply) :=
  match supply.values with
  | value :: values => return (value, { supply with values })
  | [] => Run.fault .kind

def measure (supply : Supply) (inMarkup : Bool) : Measure → Run (Option Int × Supply)
  | .missing => return (none, supply)
  | .given value => return (some value, supply)
  | .argument => do
    let (value, supply) ← supply.next
    if inMarkup then
      Run.fault .kind
    return (some (← value.index), supply)

end Supply

/-- The integer part of a floating-point number. -/
def truncated (number : Binary64) : Run Int :=
  match number, number.truncated? with
  | _, some value => return value
  | .infinite _, _ => Run.fault .overflow
  | _, _ => Run.fault .value

/-- The integer that is inserted for a value. Inside of markup a text counts as what it spells. -/
def integer (inMarkup : Bool) (value : Value) : Run Int :=
  match value, inMarkup, value.chars? with
  | .float number, _, _ => truncated number
  | _, true, some text =>
    match Text.integer? 10 text with
    | some number => return number
    | none => Run.fault .value
  | _, _, _ =>
    match value.integer? with
    | some number => return number
    | none => Run.reject value

/-- The floating-point number that is inserted for a value. -/
def realValue (inMarkup : Bool) (value : Value) : Run Binary64 :=
  match inMarkup, value.chars? with
  | true, some text =>
    match Text.real? text with
    | some number => return number
    | none => Run.fault .value
  | _, _ => value.real

/-- What is inserted: a sign and a mark of the base, which stand before padding zeros, and the
rest. -/
structure Piece where
  sign : List Char
  mark : List Char
  body : List Char
  isNumber : Bool

def signOf (marks : List Char) (isNegative : Bool) : List Char :=
  if isNegative then ['-'] else if '+' ∈ marks then ['+'] else if ' ' ∈ marks then [' '] else []

def integerPiece (slot : Slot) (precision : Option Int) (value : Int) : Run Piece := do
  let (base, mark) : Nat × List Char :=
    match slot.letter with
    | 'x' => (16, ['0', 'x'])
    | 'X' => (16, ['0', 'X'])
    | 'o' => (8, ['0', 'o'])
    | _ => (10, [])
  if base = 10 && digitLimit ≤ value.natAbs then
    Run.fault .value
  let digits := Nat.toDigits base value.natAbs
  let digits := if slot.letter = 'X' then digits.map Char.toUpper else digits
  let zeros := List.replicate ((precision.getD 0).toNat - digits.length) '0'
  return ⟨signOf slot.marks (value < 0), if '#' ∈ slot.marks then mark else [], zeros ++ digits,
    true⟩

def realPiece (slot : Slot) (precision : Option Int) (number : Binary64) : Piece :=
  let style : Binary64.Style :=
    match slot.letter.toLower with
    | 'f' => .fixed
    | 'e' => .scientific
    | _ => .general
  let text := number.textIn style ('#' ∈ slot.marks) (precision.getD 6).toNat
  let text := if slot.letter.isUpper then text.map Char.toUpper else text
  ⟨signOf slot.marks number.isNegative, [], text, true⟩

def piece (inMarkup : Bool) (slot : Slot) (precision : Option Int) (value : Value) :
    Run Piece := do
  let plain (text : List Char) : Piece :=
    ⟨[], [], precision.elim text fun count => text.take count.toNat, false⟩
  let guarded (text : List Char) : List Char := if inMarkup then escapedText text else text
  match slot.letter with
  | 's' => return plain (← if inMarkup then value.escaped else value.shown)
  | 'r' => return plain (guarded (← value.quoted))
  | 'a' =>
    let quoted ← value.quoted
    return plain (if inMarkup then Text.asciiText (guarded quoted) else Text.asciiText quoted)
  | 'd' | 'i' | 'u' => integerPiece slot precision (← integer inMarkup value)
  | 'x' | 'X' | 'o' =>
    if inMarkup then
      Run.fault .kind
    integerPiece slot precision (← value.index)
  | 'e' | 'E' | 'f' | 'F' | 'g' | 'G' =>
    return realPiece slot precision (← realValue inMarkup value)
  | 'c' =>
    if inMarkup then
      Run.fault .kind
    match value.chars?, value.integer? with
    | some [c], _ => return ⟨[], [], [c], false⟩
    | none, some code =>
      if 0 ≤ code && code < 0x110000 then return ⟨[], [], [← Run.char code.toNat], false⟩
      else Run.fault .overflow
    | _, _ => Run.fault .kind
  | _ => Run.fault .value

def Piece.render (piece : Piece) (slot : Slot) (width : Option Int) : List Char :=
  let width := width.getD 0
  let start := piece.sign ++ piece.mark
  let room := width.natAbs - (start.length + piece.body.length)
  if '-' ∈ slot.marks || width < 0 then start ++ piece.body ++ List.replicate room ' '
  else if '0' ∈ slot.marks && piece.isNumber then start ++ List.replicate room '0' ++ piece.body
  else List.replicate room ' ' ++ start ++ piece.body

/-- Fills in a pattern, given in reverse what is written already. Every step passes a character, so
that the length of the pattern bounds them. -/
def fill (inMarkup : Bool) : (left : Nat) → Supply → (done : List Char) → List Char →
    Run (List Char)
  | _, supply, done, [] =>
    if supply.values.isEmpty || supply.keyed.isSome then return done.reverse else Run.fault .kind
  | 0, _, done, _ => return done.reverse
  | left + 1, supply, done, '%' :: '%' :: text => fill inMarkup left supply ('%' :: done) text
  | left + 1, supply, done, '%' :: text => do
    let (supply, text) ←
      match text with
      | '(' :: rest =>
        match supply.keyed, key? 0 rest with
        | none, _ => Run.fault .kind
        | _, none => Run.fault .value
        | some keyed, some (key, rest) =>
          pure ({ supply with values := [← keyed.subscript (.text key)] }, rest)
      | text => pure (supply, text)
    let (marks, text) := text.span (· ∈ ['-', '+', ' ', '#', '0'])
    let (width, precision, text) := splitMeasures text
    let (width, supply) ← supply.measure inMarkup width
    let (precision, supply) ← supply.measure inMarkup precision
    match dropSize text with
    | [] => Run.fault .value
    | letter :: text =>
      let slot : Slot := ⟨marks, letter⟩
      let (value, supply) ← supply.next
      let piece ← piece inMarkup slot precision value
      fill inMarkup left supply ((piece.render slot width).reverse ++ done) text
  | left + 1, supply, done, c :: text => fill inMarkup left supply (c :: done) text

def format (inMarkup : Bool) (pattern : List Char) (argument : Value) : Run (List Char) :=
  fill inMarkup pattern.length (.ofValue argument) [] pattern

end CrateReadme.Template.Percent
