import CrateReadme.Data.Value
import CrateReadme.Text.Shortest
import CrateReadme.Text.Utf8

/-!
# Reading JSON

The notation in which package descriptions are handed over. A number with a fraction or an exponent
is a floating-point number; the names of the infinities and of the value that is no number are known
too. Of several entries with one key the last one counts.
-/

namespace CrateReadme.Data.Json

def skipBlanks (text : List Char) : List Char :=
  text.dropWhile (· ∈ [' ', '\t', '\n', '\r'])

def hexValue? (c : Char) : Option Nat :=
  if c.isDigit then some (c.toNat - 48)
  else if 'a' ≤ c ∧ c ≤ 'f' then some (c.toNat - 87)
  else if 'A' ≤ c ∧ c ≤ 'F' then some (c.toNat - 55)
  else none

/-- Reads the four hexadecimal digits of an escape. -/
def readUnit? : List Char → Option (Nat × List Char)
  | a :: b :: c :: d :: text => do
    let value := ((← hexValue? a) * 16 + (← hexValue? b)) * 16 + (← hexValue? c)
    return (value * 16 + (← hexValue? d), text)
  | _ => none

/-- Reads an escape behind its backslash. Two units that make up one character are joined; a
surrogate that stands alone is kept, as the character that stands for it. -/
def readEscape? : List Char → Option (Char × List Char)
  | '"' :: text => some ('"', text)
  | '\\' :: text => some ('\\', text)
  | '/' :: text => some ('/', text)
  | 'b' :: text => some ('\x08', text)
  | 'f' :: text => some ('\x0c', text)
  | 'n' :: text => some ('\n', text)
  | 'r' :: text => some ('\r', text)
  | 't' :: text => some ('\t', text)
  | 'u' :: text => do
    let (high, text) ← readUnit? text
    let pair? : Option (Char × List Char) := do
      guard (0xd800 ≤ high ∧ high < 0xdc00)
      let rest ← match text with
        | '\\' :: 'u' :: rest => some rest
        | _ => none
      let (low, rest) ← readUnit? rest
      guard (0xdc00 ≤ low ∧ low < 0xe000)
      return (Char.ofNat (0x10000 + (high - 0xd800) * 0x400 + (low - 0xdc00)), rest)
    return pair?.getD (Text.StandIns.usual.char high, text)
  | _ => none

/-- Reads a text behind its opening quote. Every step passes a character, so that `left`, the number
of characters, bounds the steps. -/
def readText? : (left : Nat) → List Char → Option (List Char × List Char)
  | 0, _ => none
  | _, [] => none
  | left + 1, c :: text =>
    if c = '"' then
      some ([], text)
    else if c = '\\' then do
      let (char, text) ← readEscape? text
      let (chars, text) ← readText? left text
      return (char :: chars, text)
    else if c.toNat < 0x20 then
      none
    else do
      let (chars, text) ← readText? left text
      return (c :: chars, text)

def digits (text : List Char) : List Char × List Char :=
  text.span Char.isDigit

def digitsValue (digits : List Char) : Nat :=
  digits.foldl (fun value c => value * 10 + (c.toNat - 48)) 0

def readFraction : List Char → Option (List Char) × List Char
  | '.' :: text =>
    match digits text with
    | ([], _) => (none, '.' :: text)
    | (fraction, text) => (some fraction, text)
  | text => (none, text)

def readExponent (text : List Char) : Option Int × List Char :=
  match text with
  | mark :: rest =>
    if mark = 'e' ∨ mark = 'E' then
      let (negative, unsigned) := match rest with
        | '-' :: rest => (true, rest)
        | '+' :: rest => (false, rest)
        | rest => (false, rest)
      match digits unsigned with
      | ([], _) => (none, text)
      | (power, rest) =>
        let value : Int := digitsValue power
        (some (if negative then -value else value), rest)
    else
      (none, text)
  | [] => (none, [])

def readNumber? (negative : Bool) (text : List Char) : Option (Value × List Char) :=
  let whole? := match text with
    | '0' :: rest => some (['0'], rest)
    | text =>
      match digits text with
      | ([], _) => none
      | (whole, rest) => some (whole, rest)
  whole?.map fun (whole, rest) =>
    let (fraction?, rest) := readFraction rest
    let (exponent?, rest) := readExponent rest
    match fraction?, exponent? with
    | none, none =>
      let value : Int := digitsValue whole
      (.int (if negative then -value else value), rest)
    | fraction?, exponent? =>
      let fraction := fraction?.getD []
      (.float (Binary64.ofDecimal negative (digitsValue (whole ++ fraction))
        (exponent?.getD 0 - fraction.length)), rest)

def words : List (String × Value) :=
  [("null", .null), ("true", .bool true), ("false", .bool false), ("NaN", .float .notANumber),
   ("Infinity", .float (.infinite false)), ("-Infinity", .float (.infinite true))]

def readWord? (text : List Char) : Option (Value × List Char) :=
  words.findSome? fun (word, value) =>
    (Text.after? word.toList text).map fun rest => (value, rest)

mutual

/-- Reads a value. Every call passes a character before the next one, so that `left`, the number of
characters, bounds the calls. -/
def readValue? : (left : Nat) → List Char → Option (Value × List Char)
  | 0, _ => none
  | left + 1, text =>
    match readWord? text, text with
    | some found, _ => some found
    | none, '"' :: rest => do
      let (chars, rest) ← readText? (left + 1) rest
      return (.text (String.ofList chars), rest)
    | none, '[' :: rest =>
      match skipBlanks rest with
      | ']' :: rest => some (.list [], rest)
      | rest => do
        let (items, rest) ← readItems? left rest
        return (.list items, rest)
    | none, '\x7b' :: rest =>
      match skipBlanks rest with
      | '\x7d' :: rest => some (.table [], rest)
      | rest => do
        let (entries, rest) ← readEntries? left rest
        let table := entries.foldl (fun table entry => Table.put entry.1 entry.2 table) []
        return (.table table, rest)
    | none, '-' :: rest => readNumber? true rest
    | none, text => readNumber? false text

def readItems? : (left : Nat) → List Char → Option (List Value × List Char)
  | 0, _ => none
  | left + 1, text => do
    let (item, text) ← readValue? left text
    match skipBlanks text with
    | ',' :: text =>
      let (items, text) ← readItems? left (skipBlanks text)
      return (item :: items, text)
    | ']' :: text => return ([item], text)
    | _ => none

def readEntries? : (left : Nat) → List Char → Option (Table × List Char)
  | 0, _ => none
  | left + 1, text => do
    let rest ← match text with
      | '"' :: rest => some rest
      | _ => none
    let (key, rest) ← readText? (left + 1) rest
    let rest ← match skipBlanks rest with
      | ':' :: rest => some (skipBlanks rest)
      | _ => none
    let (value, rest) ← readValue? left rest
    let entry := (String.ofList key, value)
    match skipBlanks rest with
    | ',' :: rest =>
      let (entries, rest) ← readEntries? left (skipBlanks rest)
      return (entry :: entries, rest)
    | '\x7d' :: rest => return ([entry], rest)
    | _ => none

end

def parse? (text : List Char) : Option Value := do
  let (value, rest) ← readValue? (text.length + 1) (skipBlanks text)
  if (skipBlanks rest).isEmpty then some value else none

end CrateReadme.Data.Json
