import CrateReadme.Data.Toml.Scalar
import CrateReadme.Data.Toml.Tree

/-!
# Values in settings

Texts in four kinds of quotes, truth values, lists that may span lines, and tables on one line.
-/

namespace CrateReadme.Data.Toml

/-- Why settings cannot be read: at the given rest stands a character that fits nowhere, a table
does not allow for what is put into it, or something else is wrong. -/
inductive Fault where
  | unexpected (rest : List Char)
  | clash (cause : Clash)
  | malformed

def isSpace (c : Char) : Bool :=
  c = ' ' || c = '\t'

/-- Whether a character is white space or a line end. -/
def isGap (c : Char) : Bool :=
  isSpace c || c = '\r' || c = '\n'

/-- Whether a character must not stand in a text as it is. -/
def isForbidden (c : Char) : Bool :=
  (c.toNat ≤ 0x1f || c.toNat = 0x7f) && c ≠ '\t'

/-- Whether a character that must not stand in a text may do so in one over several lines, in front
of the given rest: it ends a line. -/
def endsLine (c : Char) (rest : List Char) : Bool :=
  c = '\n' || (c = '\r' && rest.head? = some '\n')

/-- Reads the hexadecimal number of an escaped character. It may be written like any number of the
given length, but after a `d` a digit below eight must follow. -/
def readCode? (count : Nat) (text : List Char) : Option (Char × List Char) := do
  let digits := text.take count
  guard (digits.length = count)
  if digits.head?.any (fun c => c = 'd' || c = 'D') then
    guard (digits.tail.head?.any fun c => '0' ≤ c && c ≤ '7')
  match ← Text.integer? 16 digits with
  | .ofNat value =>
    guard (value.isValidChar)
    return (Char.ofNat value, text.drop count)
  | .negSucc _ => none

/-- Reads an escaped character behind its backslash. -/
def readEscape? : List Char → Option (Char × List Char)
  | 'b' :: text => some ('\x08', text)
  | 't' :: text => some ('\t', text)
  | 'n' :: text => some ('\n', text)
  | 'f' :: text => some ('\x0c', text)
  | 'r' :: text => some ('\r', text)
  | '"' :: text => some ('"', text)
  | '\\' :: text => some ('\\', text)
  | 'u' :: text => readCode? 4 text
  | 'U' :: text => readCode? 8 text
  | _ => none

/-- Reads a text behind its opening quotes. In a text in double quotes, `escapes` holds. A text over
several lines ends in three quotes, to which up to two more may be added that belong to the text.
Every step passes a character, so that `left`, the number of characters, bounds the steps. -/
def readText? (quote : Char) (escapes multiline : Bool) : (left : Nat) → List Char →
    Option (List Char × List Char)
  | 0, _ => none
  | _, [] => none
  | left + 1, c :: text =>
    if c = quote then
      if multiline then
        let (more, rest) := text.span (· = quote)
        let count := more.length + 1
        if count < 3 then do
          let (chars, rest) ← readText? quote escapes multiline left rest
          return (List.replicate count quote ++ chars, rest)
        else if count < 6 then
          some (List.replicate (count - 3) quote, rest)
        else
          none
      else
        some ([], text)
    else if escapes ∧ c = '\\' then
      let (gap, rest) := text.span isGap
      if multiline ∧ gap ≠ [] then
        if '\n' ∈ gap then readText? quote escapes multiline left rest else none
      else do
        let (char, rest) ← readEscape? text
        let (chars, rest) ← readText? quote escapes multiline left rest
        return (char :: chars, rest)
    else if isForbidden c && !(multiline && endsLine c text) then
      none
    else do
      let (chars, rest) ← readText? quote escapes multiline left text
      return (c :: chars, rest)

def dropFirstLineEnd : List Char → List Char
  | '\n' :: text => text
  | '\r' :: '\n' :: text => text
  | text => text

/-- Reads a text in quotes, and says whether it may span lines. -/
def readQuoted? (quote : Char) (text : List Char) : Option ((Bool × List Char) × List Char) :=
  let escapes := quote = '"'
  match text with
  | a :: b :: rest =>
    if a = quote ∧ b = quote then do
      let (chars, rest) ← readText? quote escapes true text.length (dropFirstLineEnd rest)
      return ((true, chars), rest)
    else do
      let (chars, rest) ← readText? quote escapes false text.length text
      return ((false, chars), rest)
  | text => do
    let (chars, rest) ← readText? quote escapes false text.length text
    return ((false, chars), rest)

/-- Whether a character may stand in a key without quotes. -/
def isKeyChar (c : Char) : Bool :=
  c.isAlphanum || c = '-' || c = '_'

/-- Reads a key: names with dots between them. Every name passes a character, so that `left`, the
number of characters, bounds the names. -/
def readKey : (left : Nat) → List Char → Except Fault (List String × List Char)
  | 0, _ => .error .malformed
  | left + 1, text => do
    let start := text.dropWhile isSpace
    let (name, rest) ← match start with
      | '"' :: rest => quoted '"' rest
      | '\x27' :: rest => quoted '\x27' rest
      | _ => bare start
    match rest with
    | '.' :: rest =>
      let (names, rest) ← readKey left rest
      return (name :: names, rest)
    | rest => return ([name], rest)
where
  /-- A name in quotes, on one line. -/
  quoted (quote : Char) (text : List Char) : Except Fault (String × List Char) :=
    match readQuoted? quote text with
    | some ((false, chars), rest) => .ok (String.ofList chars, rest.dropWhile isSpace)
    | some ((true, _), rest) => .error (.unexpected rest)
    | none => .error .malformed
  /-- A name without quotes. -/
  bare (text : List Char) : Except Fault (String × List Char) :=
    let (raw, rest) := text.span fun c => isKeyChar c || isSpace c
    let name := Text.strip raw
    if name.isEmpty ∨ ' ' ∈ name then .error .malformed else .ok (String.ofList name, rest)

def readEquals (text : List Char) : Except Fault (List Char) :=
  match text.dropWhile isSpace with
  | '=' :: rest =>
    match rest.dropWhile isSpace with
    | '=' :: rest => .error (.unexpected ('=' :: rest))
    | rest => .ok rest
  | rest => .error (.unexpected rest)

def readComment (text : List Char) : Except Fault (List Char) :=
  let (comment, rest) := text.span fun c => c ≠ '\n' && c ≠ '\r'
  if comment.any isForbidden then .error .malformed else .ok rest

mutual

/-- Reads a value. Every call passes a character before the next one, so that `left`, the number of
characters, bounds the calls. -/
def readValue : (left : Nat) → List Char → Except Fault (Value × List Char)
  | 0, _ => .error .malformed
  | left + 1, text =>
    match text with
    | [] => .error (.unexpected [])
    | '"' :: rest => quoted (readQuoted? '"' rest)
    | '\x27' :: rest => quoted (readQuoted? '\x27' rest)
    | 't' :: rest => word (Text.after? "rue".toList rest) true
    | 'f' :: rest => word (Text.after? "alse".toList rest) false
    | '[' :: rest => readItems left false rest
    | '\x7b' :: rest => do
      let (entries, rest) ← readPairs left none [] rest
      return (.table (entriesToTable entries), rest)
    | c :: _ =>
      let start := text.takeWhile fun c => !endsScalar c
      if c = '+' ∨ c = '-' ∨ c.isDigit ∨ start ∈ ["inf".toList, "nan".toList] then
        match readScalar? text with
        | some found => .ok found
        | none => .error .malformed
      else
        .error (.unexpected text)
where
  /-- A text as a value. -/
  quoted : Option ((Bool × List Char) × List Char) → Except Fault (Value × List Char)
    | some ((_, chars), rest) => .ok (.text (String.ofList chars), rest)
    | none => .error .malformed
  /-- A truth value. -/
  word : Option (List Char) → Bool → Except Fault (Value × List Char)
    | some rest, value => .ok (.bool value, rest)
    | none, _ => .error .malformed

/-- Reads the items of a list up to its end. `behind` says that an item stands directly before. -/
def readItems : (left : Nat) → (behind : Bool) → List Char → Except Fault (Value × List Char)
  | 0, _, _ => .error .malformed
  | left + 1, behind, text =>
    match text.dropWhile isGap with
    | '#' :: rest => do readItems left behind (← readComment rest)
    | ',' :: rest =>
      if behind then readItems left false rest else .error (.unexpected (',' :: rest))
    | ']' :: rest => .ok (.list [], rest)
    | rest =>
      if behind then
        .error (.unexpected rest)
      else
        match readValue left rest with
        | .ok (item, rest) =>
          match readItems left true rest with
          | .ok (.list items, rest) => .ok (.list (item :: items), rest)
          | .ok (_, _) => .error .malformed
          | .error fault => .error fault
        | .error (.unexpected (']' :: rest)) => .ok (.list [], rest)
        | .error fault => .error fault

/-- Reads the pairs of a table on one line up to its end. `comma` says whether a comma was behind
the pair before, if there was one. -/
def readPairs : (left : Nat) → (comma : Option Bool) → Entries → List Char →
    Except Fault (Entries × List Char)
  | 0, _, _, _ => .error .malformed
  | left + 1, comma, entries, text =>
    let start := text.dropWhile isSpace
    match start, comma with
    | '\x7d' :: rest, some true => .error (.unexpected ('\x7d' :: rest))
    | '\x7d' :: rest, _ => .ok (entries, rest)
    | ',' :: rest, _ => .error (.unexpected (',' :: rest))
    | _, some false => .error (.unexpected start)
    | _, _ => do
      let (keys, rest) ← readKey (text.length + 1) start
      let (value, rest) ← readValue left (← readEquals rest)
      match entries.add value keys with
      | .error cause => .error (.clash cause)
      | .ok entries =>
        match rest.dropWhile isSpace with
        | ',' :: rest => readPairs left (some true) entries rest
        | rest => readPairs left (some false) entries rest

end

end CrateReadme.Data.Toml
