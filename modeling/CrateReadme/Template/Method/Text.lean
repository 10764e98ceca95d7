import CrateReadme.Template.Filter
import CrateReadme.Template.Format.Brace
import CrateReadme.Text.Printable

/-!
# Methods of texts

What texts can be asked to do with a dot behind them. Markup answers with markup where the answer is
made of its own characters.
-/

namespace CrateReadme.Template.Method

/-- The parts of a text between the first separators, of which at most `limit` count. -/
def splitAtMost (separator : List Char) : (limit : Nat) → List Char → List (List Char)
  | 0, text => [text]
  | limit + 1, text =>
    match Text.breakOn? separator text with
    | some (before, after) => before :: splitAtMost separator limit after
    | none => [text]

/-- The words of a text; behind the first `limit` ones the rest stays together. -/
def wordsAtMost : (limit : Nat) → List Char → List (List Char)
  | 0, text =>
    match Text.trimStart Text.isBlank text with
    | [] => []
    | rest => [rest]
  | limit + 1, text =>
    match (Text.trimStart Text.isBlank text).span fun c => !Text.isBlank c with
    | ([], _) => []
    | (word, rest) => word :: wordsAtMost limit rest

/-- Splits a text from its start, at a separator or at white space. -/
def splitted (separator : Option (List Char)) (limit : Nat) (text : List Char) :
    List (List Char) :=
  match separator with
  | some separator => splitAtMost separator limit text
  | none => wordsAtMost limit text

def breakOnLast? (separator text : List Char) : Option (List Char × List Char) :=
  (Text.breakOn? separator.reverse text.reverse).map fun (after, before) =>
    (before.reverse, after.reverse)

/-- A text whose tabs are replaced by spaces up to the next multiple of the given size. `column` is
where it starts. -/
def expandTabs (size : Nat) : (column : Nat) → List Char → List Char
  | _, [] => []
  | column, c :: text =>
    if c = '\t' then
      let width := if size = 0 then 0 else size - column % size
      List.replicate width ' ' ++ expandTabs size (column + width) text
    else
      c :: expandTabs size (if c = '\n' || c = '\r' then 0 else column + 1) text

/-- A text with zeros in front, behind its sign. -/
def zeroFilled (width : Int) (text : List Char) : List Char :=
  let zeros := List.replicate (width.toNat - text.length) '0'
  match text with
  | sign :: digits =>
    if sign = '-' ∨ sign = '+' then sign :: zeros ++ digits else zeros ++ text
  | [] => zeros

/-- A part of a text, and the place where it starts. If the start is behind the end of the text, the
part is missing. -/
def window (text : List Char) (start stop : Option Int) : Option (Nat × List Char) :=
  let place (bound : Int) : Nat :=
    if 0 ≤ bound then bound.toNat else text.length - bound.natAbs
  let first := (start.map place).getD 0
  let last := min ((stop.map place).getD text.length) text.length
  if first ≤ last then some (first, (text.take last).drop first) else none

def boundAt? (arguments : List Value) (place : Nat) : Run (Option Int) :=
  match arguments[place]? with
  | some value => value.bound?
  | none => return none

/-- A text that is asked about, in the part between two bounds. -/
def sought (text : List Char) (arguments : Arguments) :
    Run (List Char × Option (Nat × List Char)) := do
  let given ← arguments.plain 1 3
  let part ← (given.getD 0 Value.none).chars
  return (part, window text (← boundAt? given 1) (← boundAt? given 2))

/-- Where a text occurs for the first or for the last time. -/
def placeOf? (isLast : Bool) (text : List Char) (arguments : Arguments) : Run (Option Nat) := do
  let (part, window?) ← sought text arguments
  match window? with
  | none => return none
  | some (start, inner) =>
    let found? := if isLast then breakOnLast? part inner else Text.breakOn? part inner
    return found?.map fun (before, _) => start + before.length

/-- Whether one of the given edges passes a test. The edges behind it are not looked at. -/
def anyEdge (passes : List Char → Bool) : List Value → Run Bool
  | [] => return false
  | first :: rest => do
    if passes (← first.chars) then return true else anyEdge passes rest

def hasEdge (isEnd : Bool) (text : List Char) (arguments : Arguments) : Run Bool := do
  let given ← arguments.plain 1 3
  let first := given.getD 0 Value.none
  let window? := window text (← boundAt? given 1) (← boundAt? given 2)
  let passes (edge : List Char) : Bool :=
    window?.any fun (_, inner) =>
      if isEnd then Text.endsWith edge inner else Text.startsWith edge inner
  anyEdge passes (first.tupleItems?.getD [first])

/-- The characters that a method removes: those that are given, or white space. -/
def removed (arguments : Arguments) : Run (Char → Bool) := do
  match ← arguments.plain 0 1 with
  | [] | [.none] => return Text.isBlank
  | value :: _ => do
    let chars ← value.chars
    return fun c => c ∈ chars

def widthAndFill (isMarkup : Bool) (arguments : Arguments) : Run (Int × Char) := do
  let given ← arguments.plain 1 2
  let width ← (given.getD 0 Value.none).index
  match given[1]? with
  | none => return (width, ' ')
  | some fill =>
    let chars ← if isMarkup then fill.escaped else fill.chars
    match chars with
    | [c] => return (width, c)
    | _ => Run.fault .kind

/-- What stands for a character that an encoding does not have. -/
def substitute (word : List Char) (c : Char) : Run (List Char) :=
  match String.ofList word with
  | "strict" | "surrogateescape" | "surrogatepass" | "namereplace" => Run.fault .encoding
  | "ignore" => return []
  | "replace" => return ['?']
  | "xmlcharrefreplace" => return '&' :: '#' :: Text.decimal c.toNat ++ [';']
  | "backslashreplace" => return Text.asciiText [c]
  | _ => Run.fault .lookup

def encoded (text : List Char) (arguments : Arguments) : Run Value := do
  let bound ← arguments.bind 0 ["encoding", "errors"]
  let word ← (bound.get "encoding" (.text "utf-8".toList)).chars
  let onMissing ← (bound.get "errors" (.text "strict".toList)).chars
  let limited (limit : Nat) : Run Value := do
    let found ← text.mapM fun c => do
      if c.toNat < limit then return [c] else substitute onMissing c
    return .bytes (found.flatten.map fun c => UInt8.ofNat c.toNat)
  match String.ofList ((word.map Char.toLower).map fun c => if c = '_' then '-' else c) with
  | "utf-8" | "utf8" | "u8" | "utf" => return .bytes (Text.utf8 (String.ofList text))
  | "ascii" | "us-ascii" | "646" => limited 0x80
  | "latin-1" | "latin1" | "iso-8859-1" | "iso8859-1" | "l1" => limited 0x100
  | _ => Run.fault .lookup

/-- The character or text that a table has for a character, which may be none. -/
def translated (table : Value) (c : Char) : Run (List Char) := do
  match ← Run.attempt (table.subscript (.int c.toNat)) with
  | .error (.fault .key) | .error (.fault .index) => return [c]
  | .error cause => throw cause
  | .ok value =>
    match value, value.chars?, value.integer? with
    | .none, _, _ => return []
    | _, some chars, _ => return chars
    | _, _, some code =>
      if 0 ≤ code && code < 0x110000 then return [← Run.char code.toNat] else Run.fault .value
    | _, _, _ => Run.fault .kind

/-- The table that replaces characters by others. -/
def translation (arguments : Arguments) : Run Value := do
  let code (c : Char) : Value := .int c.toNat
  match ← arguments.plain 1 3 with
  | [.table ref] =>
    let entries ← (← Run.entries ref).mapM fun (key, value) => do
      match key.chars?, key.integer? with
      | some [c], _ => return (code c, value)
      | some _, _ => Run.fault .value
      | _, some _ => return (key, value)
      | _, _ => Run.fault .kind
    Run.newTable (← Entries.putAll [] entries)
  | old :: new :: rest =>
    let old ← old.chars
    let new ← new.chars
    if old.length ≠ new.length then
      Run.fault .value
    let gone ←
      match rest with
      | value :: _ => value.chars
      | [] => pure []
    let entries := (old.zip new).map (fun (c, d) => (code c, code d)) ++
      gone.map fun c => (code c, Value.none)
    Run.newTable (← Entries.putAll [] entries)
  | _ => Run.fault .kind

/-- Calls a method of a text whose answer is made of its own characters. `isMarkup` says whether it
is markup, and `made` makes such an answer. -/
def ownText? (isMarkup : Bool) (made : List Char → Value) (text : List Char) (word : String)
    (arguments : Arguments) : Option (Run Value) :=
  let onAll (change : List Char → List Char) : Option (Run Value) :=
    some (do
      arguments.nothing
      return made (change text))
  let parts (found : List (List Char)) : Value := .tuple (found.map made)
  let separator : Run (List Char) := do
    match ← (← arguments.single).chars with
    | [] => Run.fault .value
    | separator => return separator
  let splits (isLast : Bool) : Run Value := do
    let bound ← arguments.bind 0 ["sep", "maxsplit"]
    let limit ← (bound.get "maxsplit" (.int (-1))).index
    let limit := if limit < 0 then text.length + 1 else limit.toNat
    let separator ←
      match bound.optional? "sep" with
      | some value => do pure (some (← value.chars))
      | none => pure none
    if separator = some [] then
      Run.fault .value
    let found :=
      if isLast then
        ((splitted (separator.map List.reverse) limit text.reverse).map List.reverse).reverse
      else splitted separator limit text
    Run.newList (found.map made)
  match word with
  | "upper" => onAll Text.upper
  | "lower" => onAll Text.lower
  | "capitalize" => onAll Text.capitalize
  | "casefold" => onAll Text.fold
  | "title" => onAll Text.titleCase
  | "swapcase" => onAll Text.swapCase
  | "strip" => some (do return made (Text.trim (← removed arguments) text))
  | "lstrip" => some (do return made (Text.trimStart (← removed arguments) text))
  | "rstrip" => some (do return made (Text.trimEnd (← removed arguments) text))
  | "split" => some (splits false)
  | "rsplit" => some (splits true)
  | "splitlines" =>
    some (do
      let bound ← arguments.bind 0 ["keepends"]
      let keeps ← (bound.get "keepends" (.bool false)).index
      let lines := if keeps ≠ 0 then Text.linesWithBreaks text else Filter.bareLines text
      Run.newList (lines.map made))
  | "replace" =>
    some (do
      let given ← arguments.plain 2 3
      let old ← (given.getD 0 Value.none).chars
      let new := given.getD 1 Value.none
      let new ← if isMarkup then new.escaped else new.chars
      let count ← (given.getD 2 (Value.int (-1))).index
      return made (Filter.replaced old new count text))
  | "removeprefix" =>
    some (do
      return made ((Text.after? (← (← arguments.single).chars) text).getD text))
  | "removesuffix" =>
    some (do
      let ending ← (← arguments.single).chars
      return made (if Text.endsWith ending text then text.take (text.length - ending.length)
        else text))
  | "partition" =>
    some (do
      let separator ← separator
      match Text.breakOn? separator text with
      | some (before, after) => return parts [before, separator, after]
      | none => return parts [text, [], []])
  | "rpartition" =>
    some (do
      let separator ← separator
      match breakOnLast? separator text with
      | some (before, after) => return parts [before, separator, after]
      | none => return parts [[], [], text])
  | "ljust" =>
    some (do
      let (width, fill) ← widthAndFill isMarkup arguments
      return made (text ++ List.replicate (width.toNat - text.length) fill))
  | "rjust" =>
    some (do
      let (width, fill) ← widthAndFill isMarkup arguments
      return made (List.replicate (width.toNat - text.length) fill ++ text))
  | "center" =>
    some (do
      let (width, fill) ← widthAndFill isMarkup arguments
      return made (Filter.centered width fill text))
  | "zfill" => some (do return made (zeroFilled (← (← arguments.single).index) text))
  | "expandtabs" =>
    some (do
      let bound ← arguments.bind 0 ["tabsize"]
      return made (expandTabs (← (bound.get "tabsize" (.int 8)).index).toNat 0 text))
  | "translate" =>
    some (do
      let table ← arguments.single
      return made (← text.mapM (translated table)).flatten)
  | "format" => some (do return made (← Brace.format isMarkup text (.arguments arguments)))
  | "format_map" =>
    some (do return made (← Brace.format isMarkup text (.keyed (← arguments.single))))
  | "join" =>
    some (do
      let items ← (← arguments.single).items
      let found ← items.mapM fun item => if isMarkup then item.escaped else item.chars
      return made (Text.joinWith text found))
  | _ => none

def askText (text : List Char) (word : String) (arguments : Arguments) : Run Value := do
  let all (keep : Char → Bool) : Run Value := do
    arguments.nothing
    return .bool (!text.isEmpty && text.all keep)
  let answer (value : Bool) : Run Value := do
    arguments.nothing
    return .bool value
  let place (isLast : Bool) : Run Value := do
    return .int ((← placeOf? isLast text arguments).elim (-1) fun place => place)
  let placeOrFail (isLast : Bool) : Run Value := do
    match ← placeOf? isLast text arguments with
    | some place => return .int place
    | none => Run.fault .value
  match word with
  | "isdecimal" => all Text.isDecimal
  | "isdigit" => all Text.isDigitLike
  | "isnumeric" => all Text.isNumeric
  | "isalpha" => all Text.isLetter
  | "isalnum" => all Text.isLetterOrNumeric
  | "isspace" => all Text.isBlank
  | "isascii" => answer (text.all fun c => c.toNat < 0x80)
  | "isprintable" => answer (text.all Text.isPrintable)
  | "isidentifier" => answer (Text.isName text)
  | "isupper" => answer (Text.isUpperText text)
  | "islower" => answer (Text.isLowerText text)
  | "istitle" => answer (Text.isTitleText false false text)
  | "startswith" => return .bool (← hasEdge false text arguments)
  | "endswith" => return .bool (← hasEdge true text arguments)
  | "find" => place false
  | "rfind" => place true
  | "index" => placeOrFail false
  | "rindex" => placeOrFail true
  | "count" =>
    match ← sought text arguments with
    | (_, none) => return .int 0
    | ([], some (_, inner)) => return .int (inner.length + 1)
    | (part, some (_, inner)) => return .int ((Text.splitOn part inner).length - 1)
  | "encode" => encoded text arguments
  | "maketrans" => translation arguments
  | "striptags" =>
    arguments.nothing
    return .text (Markup.stripTags text)
  | "unescape" =>
    arguments.nothing
    return .text (Markup.unescape text)
  | "escape" => return .markup (← (← arguments.single).escaped)
  | _ => Run.fault .kind

def onText (isMarkup : Bool) (text : List Char) (word : String) (arguments : Arguments) :
    Run Value :=
  match ownText? isMarkup (if isMarkup then .markup else .text) text word arguments with
  | some run => run
  | none => askText text word arguments

end CrateReadme.Template.Method
