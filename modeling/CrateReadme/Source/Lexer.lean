import CrateReadme.Source.Token
import CrateReadme.Text.Integer

/-!
# Cutting a source into tokens

The source is read from left to right. At each place one of the rules below says how many
characters belong together and which token, if any, they make. White space and ordinary comments
make none. Brackets are checked on the way, so the tokens of an accepted source are well nested.
-/

namespace CrateReadme.Source

/-- What a rule found: a stretch of `extra + 1` characters and the token that it makes. -/
structure Stretch where
  extra : Nat
  token? : Option (TokenClass × List Char × Option (List Char)) := none

/-- The character that stands for itself, or for a control, after a backslash. -/
def simpleEscape? : Char → Option Char
  | 'n' => some '\n'
  | 'r' => some '\r'
  | 't' => some '\t'
  | '\\' => some '\\'
  | '0' => some '\x00'
  | '\x27' => some '\x27'
  | '"' => some '"'
  | _ => none

/-- The character with the number that a Unicode escape holds between its braces. -/
def unicodeEscape (index : Nat) (digits : List Char) : Except ReadError Char :=
  match Text.integer? 16 (digits.filter (· ≠ '_')) with
  | none => .error (.malformed .invalidUnicodeEscape index)
  | some value =>
    if value > 0x7fffffff ∨ value < -0x80000000 then .error .hugeEscape
    else if value < 0 ∨ value > 0x10ffff then .error (.malformed .invalidUnicodeEscape index)
    else .ok (Char.ofNat value.toNat)

/-- Reads an escape. `rest` is what follows the backslash at `index`. The answer holds the
characters meant and the number of characters of `rest` that were used. -/
def readEscape (index : Nat) (rest : List Char) : Except ReadError (List Char × Nat) :=
  match rest with
  | [] => .error (.malformed (.unknownEscape none) index)
  | c :: more =>
    match simpleEscape? c with
    | some meant => .ok ([meant], 1)
    | none =>
      if c = 'x' then
        match Text.integer? 16 (more.take 2) with
        | some value => if value < 0 then .error .hexEscape else .ok ([Char.ofNat value.toNat], 3)
        | none => .error .hexEscape
      else if c = 'u' then
        if '}' ∈ more then
          let inside := more.takeWhile (· ≠ '}')
          match unicodeEscape index (inside.drop 1) with
          | .ok meant => .ok ([meant], inside.length + 2)
          | .error fault => .error fault
        else
          .error (.malformed .unterminatedUnicodeEscape index)
      else if c = '\n' ∨ c = '\r' then
        .ok ([], (rest.takeWhile Text.isBlank).length)
      else
        .error (.malformed (.unknownEscape (some c)) index)

/-- Reads the inside of a literal up to its closing quote. `start` is where the literal began and
`index` where `input` begins. The answer holds the text meant and the number of characters up to
and including the closing quote. -/
def readQuoted (quote : Char) (start index : Nat) (input : List Char) :
    Except ReadError (List Char × Nat) :=
  match input with
  | [] => .error (.malformed (.unterminatedLiteral quote) start)
  | c :: rest =>
    if c = quote then
      .ok ([], 1)
    else if c = '\\' then
      match readEscape index rest with
      | .error fault => .error fault
      | .ok (meant, used) =>
        match readQuoted quote start (index + 1 + used) (rest.drop used) with
        | .error fault => .error fault
        | .ok (value, size) => .ok (meant ++ value, size + used + 1)
    else
      match readQuoted quote start (index + 1) rest with
      | .error fault => .error fault
      | .ok (value, size) => .ok (c :: value, size + 1)
termination_by input.length
decreasing_by all_goals simp_all; try omega

/-- The number of characters of a block comment, counted from where `depth` comments are open.
Comments nest. -/
def commentSize? : (depth : Nat) → List Char → Option Nat
  | _, [] => none
  | depth, '/' :: '*' :: rest => (commentSize? (depth + 1) rest).map (· + 2)
  | depth, '*' :: '/' :: rest =>
    if depth ≤ 1 then some 2 else (commentSize? (depth - 1) rest).map (· + 2)
  | depth, _ :: rest => (commentSize? depth rest).map (· + 1)

/-- A line comment runs to the end of the line. Its text leaves out carriage returns at the end.
Three slashes, or two and an exclamation mark, make it documentation. -/
def lineComment (input : List Char) : Stretch :=
  let line := input.takeWhile (· ≠ '\n')
  let text := Text.trimEnd (· = '\r') line
  let token? :=
    match text with
    | '/' :: '/' :: '!' :: value => some (.innerDoc, text, some value)
    | '/' :: '/' :: '/' :: '/' :: _ => none
    | '/' :: '/' :: '/' :: value => some (.outerDoc, text, some value)
    | _ => none
  { extra := line.length - 1, token? }

/-- A block comment of `size` characters. An exclamation mark, or exactly one more star, after its
opening makes it documentation. -/
def blockComment (size : Nat) (input : List Char) : Stretch :=
  let text := input.take size
  let inside := (text.drop 3).take (size - 5)
  let token? :=
    match text with
    | '/' :: '*' :: '!' :: _ => some (.innerDoc, text, some inside)
    | ['/', '*', '*', '/'] => none
    | '/' :: '*' :: '*' :: '*' :: _ => none
    | '/' :: '*' :: '*' :: _ => some (.outerDoc, text, some inside)
    | _ => none
  { extra := size - 1, token? }

/-- How a literal begins: the number of its leading letters and whether it is raw. A raw literal
has at most 260 characters up to its opening quote. -/
inductive LiteralMark where
  | quoted (letters : Nat) (quote : Char)
  | raw (letters hashes : Nat)
  deriving DecidableEq, Repr

/-- The mark of a raw string whose `letters` leading letters have been passed. -/
def rawMark? (letters : Nat) (rest : List Char) : Option LiteralMark :=
  let hashes := (rest.takeWhile (· = '#')).length
  if (rest.drop hashes).head? = some '"' ∧ letters + hashes + 1 ≤ 260 then
    some (.raw letters hashes)
  else
    none

/-- The mark of the literal at the start of the input, if one starts there. -/
def literalMark? : List Char → Option LiteralMark
  | '"' :: _ => some (.quoted 0 '"')
  | '\x27' :: _ => some (.quoted 0 '\x27')
  | 'b' :: '"' :: _ => some (.quoted 1 '"')
  | 'c' :: '"' :: _ => some (.quoted 1 '"')
  | 'b' :: '\x27' :: _ => some (.quoted 1 '\x27')
  | 'b' :: 'r' :: rest => rawMark? 2 rest
  | 'c' :: 'r' :: rest => rawMark? 2 rest
  | 'r' :: rest => rawMark? 1 rest
  | _ => none

/-- Whether what follows a single quote makes it the start of a lifetime, not of a character. -/
def startsLifetime (rest : List Char) : Bool :=
  match rest with
  | [] => false
  | c :: more => c ≠ '\\' && more.head? ≠ some '\x27' && isWordStart c

def readLiteral (index : Nat) (mark : LiteralMark) (input : List Char) :
    Except ReadError Stretch :=
  match mark with
  | .raw letters hashes =>
    let opening := letters + hashes + 1
    let terminator := '"' :: List.replicate hashes '#'
    match Text.breakOn? terminator (input.drop opening) with
    | none => .error (.malformed .unterminatedRawString index)
    | some (value, _) =>
      let size := opening + value.length + terminator.length
      .ok { extra := size - 1, token? := some (.literal, input.take size, some value) }
  | .quoted letters quote =>
    let rest := input.drop (letters + 1)
    if quote = '\x27' ∧ startsLifetime rest then
      let size := letters + 1 + (rest.takeWhile isWordPart).length
      .ok { extra := size - 1, token? := some (.lifetime, input.take size, none) }
    else
      match readQuoted quote index (index + letters + 1) rest with
      | .error fault => .error fault
      | .ok (value, inner) =>
        let size := letters + 1 + inner
        .ok { extra := size - 1, token? := some (.literal, input.take size, some value) }

/-- A word, with the mark of a raw identifier if it has one. -/
def word (input : List Char) : Stretch :=
  let marked :=
    match input with
    | 'r' :: '#' :: c :: _ => isWordStart c
    | _ => false
  let mark := if marked then 2 else 0
  let size := mark + ((input.drop mark).takeWhile isWordPart).length
  { extra := size - 1, token? := some (.word, input.take size, none) }

/-- Whether `c` may stand inside a number. -/
def isNumberPart (c : Char) : Bool :=
  c.isAlphanum || c = '_'

/-- A number: a digit, then digits, letters and underscores, then possibly a fraction that starts
with a digit. -/
def number (input : List Char) : Stretch :=
  let whole := (input.takeWhile isNumberPart).length
  let fraction :=
    match input.drop whole with
    | '.' :: c :: rest =>
      if c.isDigit then 2 + (rest.takeWhile isNumberPart).length else 0
    | _ => 0
  let size := whole + fraction
  { extra := size - 1, token? := some (.literal, input.take size, none) }

/-- The stretch at the start of a non-empty input `c :: rest`, apart from brackets. -/
def nextStretch (index : Nat) (c : Char) (rest : List Char) : Except ReadError Stretch :=
  let input := c :: rest
  if Text.isBlank c then
    .ok { extra := 0 }
  else if Text.startsWith ['/', '/'] input then
    .ok (lineComment input)
  else if Text.startsWith ['/', '*'] input then
    match commentSize? 0 input with
    | none => .error (.malformed .unterminatedComment index)
    | some size => .ok (blockComment size input)
  else
    match literalMark? input with
    | some mark => readLiteral index mark input
    | none =>
      if isWordStart c then
        .ok (word input)
      else if c.isDigit then
        .ok (number input)
      else if Text.isDigitLike c then
        .error .strayDigit
      else if (partner? c).isSome then
        .ok { extra := 0, token? := some (.opening, [c], none) }
      else if isClosing c then
        .ok { extra := 0, token? := some (.closing, [c], none) }
      else if Text.startsWith [':', ':'] input then
        .ok { extra := 1, token? := some (.punctuation, [':', ':'], none) }
      else
        .ok { extra := 0, token? := some (.punctuation, [c], none) }

/-- The open brackets after a bracket at `index`: an opening one is added, a closing one must be
the partner of the innermost open one. -/
def trackBrackets (index : Nat) (pending : List (Char × Nat)) (cls : TokenClass) (c : Char) :
    Except ReadError (List (Char × Nat)) :=
  match cls with
  | .opening => .ok ((c, index) :: pending)
  | .closing =>
    match pending with
    | [] => .error (.malformed (.unexpectedClosing c) index)
    | (opening, _) :: outer =>
      if partner? opening = some c then .ok outer
      else .error (.malformed (.mismatchedClosing c opening) index)
  | _ => .ok pending

/-- The tokens of `input`, which begins at `index` and has the brackets `pending` open. -/
def tokensFrom (index : Nat) (pending : List (Char × Nat)) (input : List Char) :
    Except ReadError (List Token) :=
  match input with
  | [] =>
    match pending with
    | [] => .ok []
    | (opening, start) :: _ => .error (.malformed (.unclosed opening) start)
  | c :: rest => do
    let stretch ← nextStretch index c rest
    let stop := index + stretch.extra + 1
    match stretch.token? with
    | none => tokensFrom stop pending (rest.drop stretch.extra)
    | some (cls, text, value) =>
      let pending ← trackBrackets index pending cls c
      let tokens ← tokensFrom stop pending (rest.drop stretch.extra)
      return { cls, text, start := index, stop, value } :: tokens
termination_by input.length
decreasing_by all_goals (simp only [List.length_drop, List.length_cons]; omega)

/-- The length of an interpreter line at the very start of the source. -/
def shebangSize (code : List Char) : Nat :=
  match code with
  | '#' :: '!' :: '[' :: _ => 0
  | '#' :: '!' :: _ => (code.takeWhile (· ≠ '\n')).length
  | _ => 0

def tokenize (code : List Char) : Except ReadError (List Token) :=
  tokensFrom (shebangSize code) [] (code.drop (shebangSize code))

end CrateReadme.Source
