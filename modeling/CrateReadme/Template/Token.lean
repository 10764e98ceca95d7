import CrateReadme.Template.Error
import CrateReadme.Text.Basic
import CrateReadme.Text.Identifier
import CrateReadme.Text.Integer
import CrateReadme.Text.Printable
import CrateReadme.Text.Shortest
import CrateReadme.Text.Utf8

/-!
# Tokens of templates

A template is text with tags in it: `{{ … }}` writes a value, `{% … %}` is a statement and `{# … #}`
a comment. A hyphen at the inner side of a tag removes the white space outside of it.
Where a template cannot be read, its tokens end with one that says so.
-/

namespace CrateReadme.Template

inductive TokenKind where
  /-- Text outside of tags. -/
  | data (text : List Char)
  | valueStart
  | valueEnd
  | statementStart
  | statementEnd
  | name (word : String)
  | string (text : List Char)
  | integer (value : Nat)
  | float (value : Binary64)
  | operator (sign : String)
  /-- Here the template cannot be read. -/
  | broken (cause : TemplateError)
  deriving DecidableEq, Repr, Inhabited

/-- A token and the line it starts on. -/
structure Token where
  kind : TokenKind
  line : Nat
  deriving DecidableEq, Repr, Inhabited

namespace Token

def countLines (text : List Char) : Nat :=
  text.count '\n'

/-- The text before the first tag, the character that says its kind, and the text behind it. -/
def splitTag : List Char → List Char × Option (Char × List Char)
  | '\x7b' :: c :: text =>
    if c = '\x7b' ∨ c = '%' ∨ c = '#' then
      ([], some (c, text))
    else
      let (before, tag) := splitTag (c :: text)
      ('\x7b' :: before, tag)
  | c :: text =>
    let (before, tag) := splitTag text
    (c :: before, tag)
  | [] => ([], none)

/-- The sign behind the start of a tag, and the text behind it. -/
def splitSign : List Char → Option Char × List Char
  | c :: text => if c = '-' ∨ c = '+' then (some c, text) else (none, c :: text)
  | [] => (none, [])

/-- The text behind the end of a tag, if it stands at the start of a text. A hyphen in front of it
removes the white space behind it. -/
def tagEnd? (close : List Char) (allowPlus : Bool) (text : List Char) : Option (List Char) :=
  match Text.after? ('-' :: close) text with
  | some rest => some (rest.dropWhile Text.isBlank)
  | none =>
    if allowPlus then
      match Text.after? ('+' :: close) text with
      | some rest => some rest
      | none => Text.after? close text
    else
      Text.after? close text

/-- The text behind a comment whose start was read. -/
def commentEnd? : List Char → Option (List Char)
  | [] => none
  | c :: text =>
    match tagEnd? ['#', '\x7d'] true (c :: text) with
    | some rest => some rest
    | none => commentEnd? text

/-- The text behind a tag that holds only the given word, with the sign at its start. -/
def wordTag? (word : String) (allowPlus : Bool) (text : List Char) :
    Option (Option Char × List Char) := do
  let (sign, text) := splitSign text
  let text ← Text.after? word.toList (text.dropWhile Text.isBlank)
  let rest ← tagEnd? ['%', '\x7d'] allowPlus (text.dropWhile Text.isBlank)
  return (sign, rest)

/-- The text before the statement that ends verbatim text, and the text behind that statement. -/
def verbatimEnd? : List Char → Option (List Char × List Char)
  | [] => none
  | c :: text =>
    match Text.after? ['\x7b', '%'] (c :: text) with
    | some inner =>
      match wordTag? "endraw" true inner with
      | some (_, rest) => some ([], rest)
      | none => (verbatimEnd? text).map fun found => (c :: found.1, found.2)
    | none => (verbatimEnd? text).map fun found => (c :: found.1, found.2)

/-- Whether the statement that ends verbatim text removes the white space in front of it. -/
def trimsVerbatim (text : List Char) : Bool :=
  text.head? = some '-'

/-- Whether `c` belongs to a name. What belongs to a name is not always one. -/
def isNameChar (c : Char) : Bool :=
  Text.isWordChar c || Text.continueRanges.holds c

/-- The digits in front of a text, with single underscores in between and in front of them, and the
rest. -/
def splitDigits (isDigit : Char → Bool) : List Char → List Char × List Char
  | '_' :: c :: text =>
    if isDigit c then
      let (digits, rest) := splitDigits isDigit text
      (c :: digits, rest)
    else
      ([], '_' :: c :: text)
  | c :: text =>
    if isDigit c then
      let (digits, rest) := splitDigits isDigit text
      (c :: digits, rest)
    else
      ([], c :: text)
  | [] => ([], [])

/-- Whether `c` is a digit in a base of at most sixteen. Decimal digits of all scripts count, but in
the bases below ten only those of ASCII. -/
def isDigitIn (base : Nat) (c : Char) : Bool :=
  (Text.digitValue? base c).isSome && (10 ≤ base || c.isDigit)

/-- The base and the digits of the number at the start of a text, and the rest. -/
def number? (text : List Char) : Option (Nat × List Char × List Char) :=
  let read (base : Nat) (digits : List Char) : Option (Nat × List Char × List Char) :=
    match splitDigits (isDigitIn base) digits with
    | ([], _) => none
    | (found, rest) => some (base, found, rest)
  let marked? : Option (Nat × List Char × List Char) :=
    match text with
    | '0' :: mark :: digits =>
      if mark = 'x' ∨ mark = 'X' then read 16 digits
      else if mark = 'o' ∨ mark = 'O' then read 8 digits
      else if mark = 'b' ∨ mark = 'B' then read 2 digits
      else none
    | _ => none
  match marked? with
  | some found => some found
  | none =>
    match text with
    | '0' :: rest =>
      let (zeros, rest) := splitDigits (· = '0') rest
      some (10, '0' :: zeros, rest)
    | c :: rest =>
      if '1' ≤ c ∧ c ≤ '9' then
        let (digits, rest) := splitDigits Text.isDecimal rest
        some (10, c :: digits, rest)
      else
        none
    | [] => none

/-- The most digits that a decimal number may have. -/
def maxDigits : Nat :=
  4300

def integerToken (base : Nat) (digits : List Char) : TokenKind :=
  if base = 10 ∧ maxDigits < digits.length then .broken (.fault .value)
  else .integer ((Text.natural? base digits).getD 0)

/-- The digits at the start of a text, with single underscores in between, and the rest. They start
with a digit. -/
def decimals? (text : List Char) : Option (List Char × List Char) :=
  if text.head?.any Text.isDecimal then some (splitDigits Text.isDecimal text) else none

/-- The sign and the digits of the exponent of a number at the start of a text, and the rest. -/
def exponent? : List Char → Option (Bool × List Char × List Char)
  | mark :: text => do
    guard (mark = 'e' ∨ mark = 'E')
    let (negative, text) := match text with
      | '-' :: text => (true, text)
      | '+' :: text => (false, text)
      | text => (false, text)
    let (digits, rest) ← decimals? text
    return (negative, digits, rest)
  | [] => none

/-- The parts of a number with a fraction or an exponent. -/
structure Decimals where
  whole : List Char
  fraction : List Char
  negativeExponent : Bool
  exponent : List Char

def Decimals.value (decimals : Decimals) : Binary64 :=
  let read (digits : List Char) : Nat := (Text.natural? 10 digits).getD 0
  let power : Int := read decimals.exponent
  let power := (if decimals.negativeExponent then -power else power) - decimals.fraction.length
  Binary64.ofDecimal false (read (decimals.whole ++ decimals.fraction)) power

/-- The number with a fraction or an exponent at the start of a text, and the rest. -/
def decimal? (text : List Char) : Option (Decimals × List Char) := do
  let (whole, rest) ← decimals? text
  let fraction? : Option (List Char × List Char) := match rest with
    | '.' :: digits => decimals? digits
    | _ => none
  let (fraction, behind) := fraction?.getD ([], rest)
  let exponent? := exponent? behind
  guard (fraction?.isSome ∨ exponent?.isSome)
  let (negativeExponent, exponent, behind) := exponent?.getD (false, [], behind)
  return (⟨whole, fraction, negativeExponent, exponent⟩, behind)

/-- The token of a number with a fraction or an exponent. Only ASCII digits make one. -/
def decimalToken (decimals : Decimals) : TokenKind :=
  if (decimals.whole ++ decimals.fraction ++ decimals.exponent).all Char.isDigit then
    .float decimals.value
  else
    .broken (.fault .form)

/-- Reads a quoted string up to its closing quote: its source and the text behind it. -/
def quoted? (quote : Char) : List Char → Option (List Char × List Char)
  | [] => none
  | '\\' :: c :: text => (quoted? quote text).map fun found => ('\\' :: c :: found.1, found.2)
  | c :: text =>
    if c = quote then some ([], text)
    else if c = '\\' then none
    else (quoted? quote text).map fun found => (c :: found.1, found.2)

/-- The code that `count` hexadecimal digits at the start of a text spell. -/
def code? (count : Nat) (text : List Char) : Option Nat := do
  let digits := text.take count
  guard (digits.length = count ∧ digits.all Char.isAlphanum)
  let code ← Text.natural? 16 digits
  guard (code < 0x110000)
  return code

/-- The text that the source of a string stands for; `none` if an escape in it is malformed or names
its character. `skip` counts the characters of an escape that are still to be passed over. The two
halves of a surrogate pair stay apart. -/
def unescape? (standIns : Text.StandIns) : (skip : Nat) → List Char → Option (List Char)
  | _, [] => some []
  | skip + 1, _ :: text => unescape? standIns skip text
  | 0, '\\' :: c :: text =>
    let simple (char : Char) := (unescape? standIns 1 (c :: text)).map (char :: ·)
    let coded (count : Nat) := do
      let code ← code? count text
      let rest ← unescape? standIns (count + 1) (c :: text)
      return standIns.char code :: rest
    match c with
    | 'n' => simple '\n'
    | 't' => simple '\t'
    | 'r' => simple '\r'
    | 'a' => simple '\x07'
    | 'b' => simple '\x08'
    | 'f' => simple '\x0c'
    | 'v' => simple '\x0b'
    | '\n' => unescape? standIns 1 (c :: text)
    | 'x' => coded 2
    | 'u' => coded 4
    | 'U' => coded 8
    | 'N' => none
    | _ =>
      if c = '\\' ∨ c = '"' ∨ c = '\x27' then
        simple c
      else
        let digits := ((c :: text).take 3).takeWhile fun d => '0' ≤ d && d ≤ '7'
        match Text.natural? 8 digits with
        | some code => (unescape? standIns digits.length (c :: text)).map (Char.ofNat code :: ·)
        | none => (unescape? standIns 1 (c :: text)).map fun rest => '\\' :: c :: rest
  | 0, c :: text => (unescape? standIns 0 text).map (c :: ·)

/-- The operator at the start of a text: the longest that fits. -/
def operator? (text : List Char) : Option String :=
  ["//", "**", "==", "!=", ">=", "<=", "+", "-", "/", "*", "%", "~", "[", "]", "(", ")", "\x7b",
   "\x7d", ">", "<", "=", ".", ":", "|", ",", ";"].find? fun sign =>
    Text.startsWith sign.toList text

def closer? : String → Option String
  | "(" => some ")"
  | "[" => some "]"
  | "\x7b" => some "\x7d"
  | _ => none

/-- Where the lexer is: in text, or in a tag with some brackets open. Right behind a point a number
has no fraction. -/
inductive Mode where
  | text
  | tag (isStatement : Bool) (closers : List String) (afterPoint : Bool)

/-- The token at the start of the text of a tag, the brackets then open and the rest; no token is
white space. -/
def inTag (standIns : Text.StandIns) (closers : List String) (afterPoint : Bool) (line : Nat)
    (text : List Char) : Option TokenKind × List String × List Char :=
  let broken : TokenKind := .broken (.malformed line)
  match text with
  | [] => (some broken, closers, [])
  | c :: rest =>
    if Text.isBlank c then
      (none, closers, rest)
    else if c = '"' ∨ c = '\x27' then
      match quoted? c rest with
      | some (source, rest) =>
        (some ((unescape? standIns 0 (Text.asciiText source)).elim broken .string), closers, rest)
      | none => (some broken, closers, rest)
    else
      match (if afterPoint then none else decimal? text), number? text with
      | some (decimals, rest), _ => (some (decimalToken decimals), closers, rest)
      | none, some (base, digits, rest) => (some (integerToken base digits), closers, rest)
      | none, none =>
        if isNameChar c then
          let word := text.takeWhile isNameChar
          let kind := if Text.isName word then .name (String.ofList word) else broken
          (some kind, closers, text.dropWhile isNameChar)
        else
          match operator? text with
          | some sign =>
            let rest := text.drop sign.length
            match closer? sign with
            | some closer => (some (.operator sign), closer :: closers, rest)
            | none =>
              if sign = ")" ∨ sign = "]" ∨ sign = "\x7d" then
                if closers.head? = some sign then (some (.operator sign), closers.tail, rest)
                else (some broken, closers, rest)
              else
                (some (.operator sign), closers, rest)
          | none => (some broken, closers, rest)

/-- The tokens of a text that starts on the given line. Every step takes a character at least, so
that `left`, the length of the text, bounds their number. -/
def loop (standIns : Text.StandIns) : (left : Nat) → Mode → (line : Nat) → List Char → List Token
  | 0, _, _, _ => []
  | left + 1, .text, line, text =>
    match splitTag text with
    | (before, none) => if before.isEmpty then [] else [⟨.data before, line⟩]
    | (before, some (kind, inner)) =>
      let (sign, body) := splitSign inner
      let kept := if sign = some '-' then Text.trimEnd Text.isBlank before else before
      let data : List Token := if kept.isEmpty then [] else [⟨.data kept, line⟩]
      let line := line + countLines before
      let after (rest : List Char) : Nat := line + (countLines body - countLines rest)
      data ++
        match kind with
        | '#' =>
          match commentEnd? body with
          | some rest => loop standIns left .text (after rest) rest
          | none => if body.isEmpty then [] else [⟨.broken (.malformed line), line⟩]
        | '%' =>
          match wordTag? "raw" false inner with
          | some (_, verbatim) =>
            match verbatimEnd? verbatim with
            | some (content, rest) =>
              let start := after verbatim
              let isTrimmed := trimsVerbatim (verbatim.drop (content.length + 2))
              let shown := if isTrimmed then Text.trimEnd Text.isBlank content else content
              let data : List Token := if shown.isEmpty then [] else [⟨.data shown, start⟩]
              data ++ loop standIns left .text (after rest) rest
            | none =>
              if verbatim.isEmpty then []
              else [⟨.broken (.malformed (after verbatim)), after verbatim⟩]
          | none => ⟨.statementStart, line⟩ :: loop standIns left (.tag true [] false) line body
        | _ => ⟨.valueStart, line⟩ :: loop standIns left (.tag false [] false) line body
  | left + 1, .tag isStatement closers afterPoint, line, text =>
    let close := if isStatement then ['%', '\x7d'] else ['\x7d', '\x7d']
    match (if closers.isEmpty then tagEnd? close isStatement text else none) with
    | some rest =>
      ⟨if isStatement then .statementEnd else .valueEnd, line⟩ ::
        loop standIns left .text (line + (countLines text - countLines rest)) rest
    | none =>
      if text.isEmpty then
        []
      else
        let (kind, closers, rest) := inTag standIns closers afterPoint line text
        let next := line + (countLines text - countLines rest)
        let afterPoint := kind = some (.operator ".")
        match kind with
        | some (.broken cause) => [⟨.broken cause, line⟩]
        | some kind =>
          ⟨kind, line⟩ :: loop standIns left (.tag isStatement closers afterPoint) next rest
        | none => loop standIns left (.tag isStatement closers afterPoint) next rest

def ofText (text : List Char) (standIns : Text.StandIns := .usual) : List Token :=
  let text := Text.universalNewlines text
  loop standIns (text.length + 1) .text 1 text

end Token

end CrateReadme.Template
