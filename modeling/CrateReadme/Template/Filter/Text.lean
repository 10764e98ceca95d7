import CrateReadme.Template.Markup
import CrateReadme.Template.Operator
import CrateReadme.Text.Basic
import CrateReadme.Text.Case
import CrateReadme.Text.Utf8
import CrateReadme.Text.Wrap

/-!
# Filters on texts

Filters that change the letters of a text, cut, pad, wrap and escape it. Most of them take any value
as the text that it writes and leave markup markup.
-/

namespace CrateReadme.Template.Filter

/-- What a filter does with a value and its arguments. -/
abbrev Action :=
  Value → Arguments → Run Value

/-- A filter without arguments that changes the characters of a text. -/
def onChars (change : List Char → List Char) : Action := fun value arguments => do
  arguments.nothing
  match ← value.soft with
  | .markup chars => return .markup (change chars)
  | value => return .text (change (← value.shown))

/-- The runs of characters for which a condition holds or does not hold in turn. `left` bounds the
runs. -/
def runs (keep : Char → Bool) : (left : Nat) → List Char → List (List Char)
  | 0, _ => []
  | _, [] => []
  | left + 1, c :: text =>
    let (run, rest) := (c :: text).span fun d => keep d = keep c
    run :: runs keep left rest

/-- A text with a capital letter at the start of every word. -/
def titled (text : List Char) : List Char :=
  let isMark (c : Char) : Bool := Text.isBlank c || c ∈ ['-', '(', '\x7b', '[', '<']
  (runs isMark text.length text).flatMap fun
    | [] => []
    | c :: rest => Text.upperChar c ++ Text.lower rest

/-- The text in which the first occurrences of `old` are replaced, at most `limit` of them. `left`
bounds the characters. -/
def replaceAtMost (old new : List Char) : (left : Nat) → (limit : Option Nat) → List Char →
    List Char
  | 0, _, text => text
  | _, some 0, text => text
  | left + 1, limit, text =>
    let limit' := limit.map (· - 1)
    if old.isEmpty then
      match text with
      | [] => new
      | c :: rest => new ++ c :: replaceAtMost old new left limit' rest
    else
      match Text.breakOn? old text with
      | some (before, after) => before ++ new ++ replaceAtMost old new left limit' after
      | none => text

/-- The text in which occurrences of `old` are replaced; a negative number of them means all. -/
def replaced (old new : List Char) (count : Int) (text : List Char) : List Char :=
  replaceAtMost old new (text.length + 1) (if count < 0 then none else some count.toNat) text

def centered (width : Int) (fill : Char) (text : List Char) : List Char :=
  let room := width.toNat - text.length
  let before := room / 2 + (if room % 2 = 1 && width % 2 = 1 then 1 else 0)
  List.replicate before fill ++ text ++ List.replicate (room - before) fill

def bareLines (text : List Char) : List (List Char) :=
  (Text.linesWithBreaks text).map (Text.trimEnd Text.isLineBreak)

/-- A text whose lines are indented, the first only on demand and blank ones only on demand. -/
def indented (pad : List Char) (first blank : Bool) (text : List Char) : List Char :=
  match bareLines (text ++ ['\n']) with
  | [] => []
  | line :: lines =>
    let lines := lines.map fun line => if line.isEmpty && !blank then line else pad ++ line
    Text.unlines ((if first then pad ++ line else line) :: lines)

/-- Removes white space or the given characters around a text. -/
def trim : Action := fun value arguments => do
  let bound ← arguments.bind 0 ["chars"]
  let drop : Char → Bool ←
    match bound.optional? "chars" with
    | none => pure Text.isBlank
    | some chars => do
      let chars ← chars.chars
      pure fun c => c ∈ chars
  onChars (Text.trim drop) value ⟨[], []⟩

def isMarkup : Value → Bool
  | .markup _ => true
  | _ => false

/-- Replaces occurrences of a text. Where values are escaped, the text and what replaces it are
escaped too, unless they are markup. -/
def replace : Action := fun value arguments => do
  let bound ← arguments.bind 2 ["old", "new", "count"]
  let old := bound.get "old" .none
  let new := bound.get "new" .none
  let count := (bound.optional? "count").getD (.int (-1))
  if (← get).escapes then
    let value ←
      if isMarkup old || (isMarkup new && !isMarkup value) then do
        pure (.markup (← value.escaped))
      else value.soft
    let oldText ← old.shown
    match value with
    | .markup chars =>
      return .markup (replaced oldText (← (← new.soft).escaped) (← count.index) chars)
    | value => return .text (replaced oldText (← new.shown) (← count.index) (← value.shown))
  else
    let text ← value.shown
    let oldText ← old.shown
    let newText ← new.shown
    return .text (replaced oldText newText (← count.index) text)

def center : Action := fun value arguments => do
  let bound ← arguments.bind 0 ["width"]
  let value ← value.soft
  let width ← (bound.get "width" (.int 80)).index
  onChars (centered width ' ') value ⟨[], []⟩

def indent : Action := fun value arguments => do
  let bound ← arguments.bind 0 ["width", "first", "blank"]
  let pad ←
    match bound.get "width" (.int 4) with
    | .text pad | .markup pad => pure pad
    | width =>
      match width.integer? with
      | some width => pure (List.replicate width.toNat ' ')
      | none => Run.reject width
  let first ← bound.flag "first"
  let blank ← bound.flag "blank"
  match value with
  | .text chars => return .text (indented pad first blank chars)
  | .markup chars => return .markup (indented pad first blank chars)
  | .list _ => Run.fault .member
  | value => Run.reject value

/-- Cuts a text that is longer than `length` by more than `leeway`. It is cut between words unless
`killwords` is set, and an ending shows that it was. -/
def truncate : Action := fun value arguments => do
  let bound ← arguments.bind 0 ["length", "killwords", "end", "leeway"]
  let length := bound.get "length" (.int 255)
  let ending := bound.get "end" (.text ['.', '.', '.'])
  let leeway := (bound.optional? "leeway").getD (.int 5)
  let endLength ← ending.length
  unless ← length.ordered .ge (.int endLength) do
    Run.fault .assertion
  unless ← leeway.ordered .ge (.int 0) do
    Run.fault .assertion
  let size ← value.length
  if ← (Value.int size).ordered .le (← binary .add length leeway) then
    return value
  let kept := (← length.index).toNat - endLength
  let killsWords ← bound.flag "killwords"
  let shortened (chars : List Char) : List Char :=
    let start := chars.take kept
    let behind := start.reverse.dropWhile (· ≠ ' ')
    if killsWords || behind.isEmpty then start else behind.tail.reverse
  match value with
  | .text chars => sumOf (.text (shortened chars)) ending
  | .markup chars => sumOf (.markup (shortened chars)) ending
  | _ => Run.fault (if killsWords then .kind else .member)

def wordwrap : Action := fun value arguments => do
  let bound ← arguments.bind 0
    ["width", "break_long_words", "wrapstring", "break_on_hyphens"]
  match value.chars?, value.isDefined with
  | none, true => Run.fault .member
  | none, false => Run.reject value
  | some chars, _ =>
    let width := bound.get "width" (.int 79)
    let hyphens := bound.get "break_on_hyphens" (.bool true)
    let lines := bareLines chars
    let joint := (bound.optional? "wrapstring").getD (.text ['\n'])
    let isMarkup := isMarkup joint
    let joint ← joint.chars
    let paragraphs ← lines.mapM fun line => do
      unless ← width.ordered .gt (.int 0) do
        Run.fault .value
      let options : Text.Wrap.Options :=
        { width := (← width.index).toNat
          cutsWords := ← (bound.get "break_long_words" (.bool true)).truth
          usesHyphens := match hyphens with
            | .bool true => true
            | _ => false
          prefersHyphens := ← hyphens.truth }
      let wrapped := Text.Wrap.lines options line
      return Text.joinWith joint (if isMarkup then wrapped.map escapedText else wrapped)
    let written := Text.joinWith joint paragraphs
    return if isMarkup then .markup written else .text written

def wordcount : Action := fun value arguments => do
  arguments.nothing
  return .int (Text.runsOf Text.isWordChar (← value.shown)).length

/-- Fills in a pattern with percent signs. -/
def format : Action := fun value arguments => do
  if !arguments.positional.isEmpty && !arguments.named.isEmpty then
    Run.fail "can't handle positional and keyword arguments at the same time"
  let argument ←
    if arguments.named.isEmpty then pure (.tuple arguments.positional)
    else Run.newTable (arguments.named.map fun (word, value) => (.text word.toList, value))
  binary .mod (← value.soft) argument

/-- A text with its special characters escaped for an address. In a query, spaces are plus signs. -/
def addressText (isQuery : Bool) (value : Value) : Run (List Char) := do
  let bytes ←
    match value with
    | .bytes bytes => pure bytes
    | value => do pure (Text.utf8 (String.ofList (← value.shown)))
  let isKept (c : Char) : Bool := Text.Percent.isPathChar c && !(isQuery && c = '/')
  return bytes.flatMap fun byte =>
    let c := Char.ofNat byte.toNat
    if byte.toNat < 128 && isKept c then [c]
    else if isQuery && c = ' ' then ['+']
    else Text.Percent.escape byte

def pairOf (value : Value) : Run (Value × Value) := do
  match ← value.items with
  | [first, second] => return (first, second)
  | _ => Run.fault .value

/-- Escapes a text for an address, or makes a query of pairs. -/
def urlencode : Action := fun value arguments => do
  arguments.nothing
  let isSingle : Bool :=
    match value with
    | .list _ | .tuple _ | .group _ _ | .table _ | .range _ _ _ | .view _ _ | .iterator _ | .loop _
    | .bytes _ | .undefined _ | .blank _ => false
    | _ => true
  if isSingle then
    return .text (← addressText false value)
  let pairs ←
    match value with
    | .table ref => Run.entries ref
    | value => do (← value.items).mapM pairOf
  let parts ← pairs.mapM fun (key, value) => do
    return (← addressText true key) ++ '=' :: (← addressText true value)
  return .text (Text.joinWith ['&'] parts)

/-- The text or markup of what a filter wrote, depending on whether values are escaped. -/
def written (chars : List Char) : Run Value := do
  return if (← get).escapes then .markup chars else .text chars

/-- Makes fields of a tag from a table. -/
def xmlattr : Action := fun value arguments => do
  let bound ← arguments.bind 0 ["autospace"]
  let hasSpace ← (bound.get "autospace" (.bool true)).truth
  match value with
  | .table ref =>
    let fields ← (← Run.entries ref).filterMapM fun (key, value) => do
      match value with
      | .none | .undefined _ | .blank _ => return none
      | value =>
        let word ← key.chars
        let isBroken (c : Char) : Bool :=
          c ∈ [' ', '\t', '\n', '\r', '\x0b', '\x0c', '/', '>', '=']
        if word.any isBroken then
          Run.fault .value
        return some ((← key.escaped) ++ '=' :: '"' :: (← value.escaped) ++ ['"'])
    let joined := Text.joinWith [' '] fields
    written (if hasSpace && !joined.isEmpty then ' ' :: joined else joined)
  | value => if value.isDefined then Run.fault .member else Run.reject value

/-- Whether a text is the start of an address: a name, a colon and up to two slashes. -/
def isScheme (text : List Char) : Bool :=
  let word := text.takeWhile fun c => Text.isWordChar c || c ∈ ['.', '+', '-']
  let isMark : List Char → Bool
    | [':'] | [':', '/'] | [':', '/', '/'] => true
    | _ => false
  2 ≤ word.length && isMark (text.drop word.length)

/-- The words of a text in order without repetitions. -/
def sortedWords (words : List (List Char)) : List (List Char) :=
  (words.mergeSort fun a b => compareChars a b ≠ .gt).eraseDups

def urlize : Action := fun value arguments => do
  let bound ← arguments.bind 0 ["trim_url_limit", "nofollow", "target", "rel", "extra_schemes"]
  let isFollowed := !(← bound.flag "nofollow")
  let rel ←
    match bound.get? "rel" with
    | some rel => do if ← rel.truth then rel.chars else pure []
    | none => pure []
  let words := Text.words rel ++ (if isFollowed then [] else ["nofollow".toList]) ++
    ["noopener".toList]
  let schemes ←
    match bound.optional? "extra_schemes" with
    | some schemes => do (← schemes.items).mapM Value.chars
    | none => pure []
  match schemes.find? fun scheme => !isScheme scheme with
  | some scheme =>
    Run.fail (String.ofList (quotedText scheme) ++ " is not a valid URI scheme prefix.")
  | none => pure ()
  let limit ←
    match bound.optional? "trim_url_limit" with
    | some limit => do pure (some (← limit.index))
    | none => pure none
  let target ←
    match bound.optional? "target" with
    | some target => do if ← target.truth then pure (some (← target.shown)) else pure none
    | none => pure none
  let options : Markup.LinkOptions :=
    ⟨limit, some (Text.joinWith [' '] (sortedWords words)), target, schemes⟩
  written (Markup.withLinks options (← value.escaped))

def simple (change : Value → Run Value) : Action := fun value arguments => do
  arguments.nothing
  change value

def onText? : String → Option Action
  | "upper" => some (onChars Text.upper)
  | "lower" => some (onChars Text.lower)
  | "capitalize" => some (onChars Text.capitalize)
  | "title" => some (simple fun value => do return .text (titled (← value.shown)))
  | "trim" => some trim
  | "replace" => some replace
  | "center" => some center
  | "indent" => some indent
  | "truncate" => some truncate
  | "wordwrap" => some wordwrap
  | "wordcount" => some wordcount
  | "string" => some (simple Value.soft)
  | "e" | "escape" => some (simple fun value => do return .markup (← value.escaped))
  | "forceescape" =>
    some (simple fun value => do return .markup (escapedText (← value.shown)))
  | "safe" => some (simple fun value => do return .markup (← value.shown))
  | "striptags" =>
    some (simple fun value => do return .text (Markup.stripTags (← value.shown)))
  | "format" => some format
  | "urlencode" => some urlencode
  | "urlize" => some urlize
  | "xmlattr" => some xmlattr
  | _ => none

end CrateReadme.Template.Filter
