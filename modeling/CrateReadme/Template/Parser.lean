import CrateReadme.Template.Syntax
import CrateReadme.Template.Token

/-!
# Reading templates

The grammar of expressions follows the usual order of precedence: choice, `or`, `and`, `not`,
comparison, sum, concatenation, product, power, sign, and then attributes, calls, filters and tests.
Every rule takes a token or passes to a rule that binds tighter, so that the number of tokens bounds
the steps. Names are not looked at here: the scopes of statements list no names yet.
-/

namespace CrateReadme.Template

/-- The tokens that are left, with the line of the last token that was current. -/
structure Reading where
  tokens : List Token
  line : Nat

abbrev Parser :=
  StateT Reading (Except TemplateError)

namespace Parser

def current? : Parser (Option TokenKind) := do
  return (← get).tokens.head?.map Token.kind

/-- The line of the current token; at the end, that of the last one. -/
def currentLine : Parser Nat := do
  return (← get).line

/-- Makes the first of `tokens` current. -/
def enter (tokens : List Token) (line : Nat) : Except TemplateError Reading :=
  match tokens with
  | [] => .ok ⟨[], line⟩
  | token :: _ =>
    match token.kind with
    | .broken cause => .error cause
    | _ => .ok ⟨tokens, token.line⟩

def advance : Parser Unit := do
  let reading ← get
  match enter reading.tokens.tail reading.line with
  | .ok next => set next
  | .error cause => throw cause

def next? : Parser (Option TokenKind) := do
  let reading ← get
  match enter reading.tokens.tail reading.line with
  | .ok next => return next.tokens.head?.map Token.kind
  | .error cause => throw cause

def failAt {α : Type} (line : Nat) : Parser α :=
  throw (.malformed line)

def fail {α : Type} : Parser α := do
  failAt (← currentLine)

/-- Whether the current token is of the given kind; if so, it is passed. -/
def accept (kind : TokenKind) : Parser Bool := do
  if (← current?) = some kind then
    advance
    return true
  return false

def expect (kind : TokenKind) : Parser Unit := do
  unless ← accept kind do
    fail

def expectName : Parser String := do
  match ← current? with
  | some (.name word) =>
    advance
    return word
  | _ => fail

def atWord (words : List String) : Parser Bool := do
  match ← current? with
  | some (.name word) => return word ∈ words
  | _ => return false

def comparison? : String → Option CompareOp
  | "==" => some .eq
  | "!=" => some .ne
  | "<" => some .lt
  | "<=" => some .le
  | ">" => some .gt
  | ">=" => some .ge
  | _ => none

def constant? : String → Option Literal
  | "true" | "True" => some (.bool true)
  | "false" | "False" => some (.bool false)
  | "none" | "None" => some .none
  | _ => none

/-- Whether the current token may follow a sequence that is written without brackets. -/
def atSequenceEnd (words : List String) : Parser Bool := do
  match ← current? with
  | some .valueEnd | some .statementEnd | some (.operator ")") => return true
  | _ => atWord words

/-- Strings that stand next to each other make up one. -/
def strings : (left : Nat) → List Char → Parser (List Char)
  | 0, text => return text
  | left + 1, text => do
    match ← current? with
    | some (.string more) =>
      advance
      strings left (text ++ more)
    | _ => return text

/-- The levels of expressions, from the loosest to the tightest. -/
inductive Level where
  | choice
  | disjunction
  | conjunction
  | negation
  | comparison
  | sum
  | concatenation
  | product
  | power
  | sign
  /-- A sign whose operand takes no filters. -/
  | plainSign
  | primary
  deriving DecidableEq

/-- What repeats behind the first operand of a level. -/
inductive Tail where
  | choice (line : Nat) (left : Expr)
  | disjunction (left : Expr)
  | conjunction (left : Expr)
  | comparison (first : Expr) (ops : List CompareOp) (rest : List Expr)
  | sum (left : Expr)
  | concatenation (parts : List Expr)
  | product (left : Expr)
  | power (left : Expr)
  | access (value : Expr)
  | filters (value : Expr)

/-- Lists of expressions. -/
inductive Sequence where
  /-- Up to the given closing sign. -/
  | bracketed (close : String) (items : List Expr)
  /-- Without brackets, up to a word or the end of the tag. The first expression alone is no
  sequence. -/
  | open (level : Level) (words : List String) (items : List Expr) (isTuple : Bool)

abbrev CallArguments :=
  List Expr × List Passing

def CallArguments.push (given : CallArguments) (value : Expr) (passing : Passing) : CallArguments :=
  (given.1 ++ [value], given.2 ++ [passing])

/-- The arguments in the order in which they get their values: those without names come first. -/
def CallArguments.ordered (given : CallArguments) : CallArguments :=
  let isNameless (pair : Expr × Passing) : Bool := pair.2 = .plain || pair.2 = .spread
  let pairs := given.1.zip given.2
  (pairs.filter isNameless ++ pairs.filter fun pair => !isNameless pair).unzip

/-- Whether an argument that is passed in a way may follow others. -/
def mayFollow (passing : Passing) (before : List Passing) : Bool :=
  let isAny (keep : Passing → Bool) : Bool := before.any keep
  let isNamed : Passing → Bool
    | .named _ => true
    | _ => false
  match passing with
  | .plain => !isAny fun other => isNamed other || other = .spread || other = .spreadNamed
  | .named _ | .spreadNamed => !isAny (· = .spreadNamed)
  | .spread => !isAny fun other => other = .spread || other = .spreadNamed

/-- The words of a name with points in it, put together. -/
def dotted : (left : Nat) → (word : String) → Parser String
  | 0, word => return word
  | left + 1, word => do
    if ← accept (.operator ".") then
      dotted left (word ++ "." ++ (← expectName))
    else
      return word

mutual

def expression : (left : Nat) → Level → Parser Expr
  | 0, _ => fail
  | left + 1, .choice => do
    let line ← currentLine
    let first ← expression left .disjunction
    tail left (.choice line first)
  | left + 1, .disjunction => do
    tail left (.disjunction (← expression left .conjunction))
  | left + 1, .conjunction => do
    tail left (.conjunction (← expression left .negation))
  | left + 1, .negation => do
    if ← accept (.name "not") then
      return .not (← expression left .negation)
    expression left .comparison
  | left + 1, .comparison => do
    tail left (.comparison (← expression left .sum) [] [])
  | left + 1, .sum => do
    tail left (.sum (← expression left .concatenation))
  | left + 1, .concatenation => do
    tail left (.concatenation [← expression left .product])
  | left + 1, .product => do
    tail left (.product (← expression left .power))
  | left + 1, .power => do
    tail left (.power (← expression left .sign))
  | left + 1, .sign => do
    tail left (.filters (← expression left .plainSign))
  | left + 1, .plainSign => do
    if ← accept (.operator "-") then
      let value ← expression left .plainSign
      tail left (.access (.sign true value))
    else if ← accept (.operator "+") then
      let value ← expression left .plainSign
      tail left (.access (.sign false value))
    else
      let value ← expression left .primary
      tail left (.access value)
  | left + 1, .primary => do
    match ← current? with
    | some (.name word) =>
      advance
      return (constant? word).elim (.name word) .literal
    | some (.string text) =>
      advance
      return .literal (.text (← strings left text))
    | some (.integer value) =>
      advance
      return .literal (.int value)
    | some (.float value) =>
      advance
      return .literal (.float value)
    | some (.operator "(") =>
      advance
      let (items, isTuple) ← sequence left (.open .choice [] [] false)
      expect (.operator ")")
      match items, isTuple with
      | [item], false => return item
      | items, _ => return .tuple items
    | some (.operator "[") =>
      advance
      let (items, _) ← sequence left (.bracketed "]" [])
      return .list items
    | some (.operator "\x7b") =>
      advance
      return .table (← tableEntries left [])
    | _ => fail

/-- Reads what repeats behind the first operand of a level. -/
def tail : (left : Nat) → Tail → Parser Expr
  | 0, _ => fail
  | left + 1, .choice line value => do
    if ← accept (.name "if") then
      let condition ← expression left .disjunction
      let no ← if ← accept (.name "else") then expression left .choice else pure (.missing line)
      tail left (.choice (← currentLine) (.choose condition value no))
    else
      return value
  | left + 1, .disjunction value => do
    if ← accept (.name "or") then
      tail left (.disjunction (.or value (← expression left .conjunction)))
    else
      return value
  | left + 1, .conjunction value => do
    if ← accept (.name "and") then
      tail left (.conjunction (.and value (← expression left .negation)))
    else
      return value
  | left + 1, .comparison first ops rest => do
    let op? : Option CompareOp ←
      match ← current? with
      | some (.operator sign) => pure (comparison? sign)
      | some (.name "in") => pure (some .isIn)
      | some (.name "not") => do
        pure (if (← next?) = some (.name "in") then some .notIn else none)
      | _ => pure none
    match op? with
    | some op =>
      advance
      if op = .notIn then
        advance
      let operand ← expression left .sum
      tail left (.comparison first (ops ++ [op]) (rest ++ [operand]))
    | none => return if ops.isEmpty then first else .compare first ops rest
  | left + 1, .sum value => do
    if ← accept (.operator "+") then
      tail left (.sum (.binary .add value (← expression left .concatenation)))
    else if ← accept (.operator "-") then
      tail left (.sum (.binary .sub value (← expression left .concatenation)))
    else
      return value
  | left + 1, .concatenation parts => do
    if ← accept (.operator "~") then
      let part ← expression left .product
      tail left (.concatenation (parts ++ [part]))
    else
      match parts with
      | [part] => return part
      | parts => return .concat parts
  | left + 1, .product value => do
    if ← accept (.operator "*") then
      tail left (.product (.binary .mul value (← expression left .power)))
    else if ← accept (.operator "/") then
      tail left (.product (.binary .div value (← expression left .power)))
    else if ← accept (.operator "//") then
      tail left (.product (.binary .floorDiv value (← expression left .power)))
    else if ← accept (.operator "%") then
      tail left (.product (.binary .mod value (← expression left .power)))
    else
      return value
  | left + 1, .power value => do
    if ← accept (.operator "**") then
      tail left (.power (.binary .pow value (← expression left .sign)))
    else
      return value
  | left + 1, .access value => do
    match ← current? with
    | some (.operator ".") =>
      advance
      match ← current? with
      | some (.name word) =>
        advance
        tail left (.access (.member value word))
      | some (.integer index) =>
        advance
        tail left (.access (.item value (.literal (.int index))))
      | _ =>
        let line ← currentLine
        advance
        failAt line
    | some (.operator "[") =>
      advance
      tail left (.access (← subscript left value []))
    | some (.operator "(") =>
      let (items, passing) ← callArguments left
      tail left (.access (.call value items passing))
    | _ => return value
  | left + 1, .filters value => do
    match ← current? with
    | some (.operator "|") =>
      advance
      tail left (.filters (← filter left value))
    | some (.name "is") =>
      let line ← currentLine
      advance
      let isNegated ← accept (.name "not")
      let word ← dotted left (← expectName)
      let (items, passing) ← testArguments left
      let found := Expr.test line word value items passing
      tail left (.filters (if isNegated then .not found else found))
    | some (.operator "(") =>
      let (items, passing) ← callArguments left
      tail left (.filters (.call value items passing))
    | _ => return value

def filter : (left : Nat) → Expr → Parser Expr
  | 0, _ => fail
  | left + 1, value => do
    let line ← currentLine
    let word ← dotted left (← expectName)
    let (items, passing) ←
      if (← current?) = some (.operator "(") then callArguments left else pure ([], [])
    return .filter line word value items passing

/-- Reads the entries of a table behind its opening bracket; keys and values take turns. -/
def tableEntries : (left : Nat) → List Expr → Parser (List Expr)
  | 0, _ => fail
  | left + 1, entries => do
    if ← accept (.operator "\x7d") then
      return entries
    unless entries.isEmpty do
      expect (.operator ",")
      if ← accept (.operator "\x7d") then
        return entries
    let key ← expression left .choice
    expect (.operator ":")
    let value ← expression left .choice
    tableEntries left (entries ++ [key, value])

/-- Reads what stands between the brackets behind a value: keys with commas between them. -/
def subscript : (left : Nat) → Expr → List Expr → Parser Expr
  | 0, _, _ => fail
  | left + 1, object, keys => do
    if ← accept (.operator "]") then
      match keys with
      | [key] => return .item object key
      | keys => return .item object (.tuple keys)
    unless keys.isEmpty do
      expect (.operator ",")
    subscript left object (keys ++ [← key left])

/-- Reads a key: an expression, or two bounds and a step. -/
def key : (left : Nat) → Parser Expr
  | 0 => fail
  | left + 1 => do
    let none : Expr := .literal .none
    let bound : Parser Expr := do
      match ← current? with
      | some (.operator ":") | some (.operator "]") | some (.operator ",") => return none
      | _ => expression left .choice
    let start ← if (← current?) = some (.operator ":") then pure none else expression left .choice
    if ← accept (.operator ":") then
      let stop ← bound
      let step ← if ← accept (.operator ":") then bound else pure none
      return .bounds start stop step
    else
      return start

/-- Reads the argument of a test, which needs no parentheses. -/
def testArguments : (left : Nat) → Parser CallArguments
  | 0 => fail
  | left + 1 => do
    let single : Parser CallArguments := do
      let value ← expression left .primary
      return ([← tail left (.access value)], [.plain])
    match ← current? with
    | some (.operator "(") => callArguments left
    | some (.name word) =>
      if word ∈ ["else", "or", "and"] then return ([], [])
      else if word = "is" then fail
      else single
    | some (.string _) | some (.integer _) | some (.float _) | some (.operator "[")
    | some (.operator "\x7b") => single
    | _ => return ([], [])

def callArguments : (left : Nat) → Parser CallArguments
  | 0 => fail
  | left + 1 => do
    let line ← currentLine
    expect (.operator "(")
    return (← arguments left line ([], [])).ordered

/-- Reads the arguments of a call behind its opening parenthesis, which stands on the given line. -/
def arguments : (left line : Nat) → CallArguments → Parser CallArguments
  | 0, _, _ => fail
  | left + 1, line, given => do
    if ← accept (.operator ")") then
      return given
    unless given.1.isEmpty do
      expect (.operator ",")
    if ← accept (.operator ")") then
      return given
    let passing : Passing ←
      match ← current? with
      | some (.operator "*") => pure .spread
      | some (.operator "**") => pure .spreadNamed
      | some (.name word) => do
        pure (if (← next?) = some (.operator "=") then .named word else .plain)
      | _ => pure .plain
    unless mayFollow passing given.2 do
      failAt line
    match passing with
    | .plain => pure ()
    | .named _ =>
      advance
      advance
    | _ => advance
    arguments left line (given.push (← expression left .choice) passing)

/-- Reads a list of expressions, and whether it is a sequence rather than one expression. -/
def sequence : (left : Nat) → Sequence → Parser (List Expr × Bool)
  | 0, _ => fail
  | left + 1, .bracketed close items => do
    if ← accept (.operator close) then
      return (items, true)
    unless items.isEmpty do
      expect (.operator ",")
      if ← accept (.operator close) then
        return (items, true)
    let value ← expression left .choice
    sequence left (.bracketed close (items ++ [value]))
  | left + 1, .open level words items isTuple => do
    unless items.isEmpty do
      expect (.operator ",")
    if ← atSequenceEnd words then
      return (items, isTuple)
    let value ← expression left level
    if (← current?) = some (.operator ",") then
      sequence left (.open level words (items ++ [value]) true)
    else
      return (items ++ [value], isTuple)

end

/-- Reads an expression or a sequence of them without brackets. -/
def value (left : Nat) (level : Level) (words : List String) : Parser Expr := do
  let (items, isTuple) ← sequence left (.open level words [] false)
  match items, isTuple with
  | [item], false => return item
  | [], false => fail
  | items, _ => return .tuple items

/-- What an expression on the given line means as the target of an assignment. -/
def patternOf (line : Nat) : Expr → Parser Pattern
  | .name word => return .name line word
  | .tuple items => return .tuple (← patternsOf line items)
  | .member (.name object) word => return .field object word
  | _ => failAt line
where
  /-- What expressions mean as targets. -/
  patternsOf (line : Nat) : List Expr → Parser (List Pattern)
    | [] => return []
    | item :: items => return (← patternOf line item) :: (← patternsOf line items)

/-- Reads one target of an assignment. If `withFields` is set, it may be a field of a record. -/
def target (left : Nat) (withFields : Bool) : Parser Expr := do
  match ← current? with
  | some (.name word) =>
    if (constant? word).isNone && withFields && (← next?) = some (.operator ".") then
      advance
      advance
      return .member (.name word) (← expectName)
    else
      expression left .primary
  | _ => expression left .primary

/-- Reads targets of an assignment with commas between them, up to a word or the end of the tag;
gives also the line on which the last of them starts. -/
def targets (words : List String) (withFields : Bool) : (left line : Nat) → List Expr →
    Parser (List Expr × Bool × Nat)
  | 0, _, _ => fail
  | left + 1, line, items => do
    unless items.isEmpty do
      expect (.operator ",")
    if ← atSequenceEnd words then
      return (items, !items.isEmpty, line)
    let item ← target left withFields
    match ← current? with
    | some (.operator ",") => targets words withFields left (← currentLine) (items ++ [item])
    | _ => return (items ++ [item], !items.isEmpty, line)

/-- Reads what a loop or an assignment binds. -/
def pattern (left : Nat) (words : List String) (withFields : Bool) : Parser Pattern := do
  let (items, isTuple, line) ← targets words withFields left (← currentLine) []
  match items, isTuple with
  | [item], false =>
    match item with
    | .tuple _ | .name _ | .member _ _ => patternOf line item
    | _ => failAt line
  | [], false => fail
  | items, _ => patternOf line (.tuple items)

def boundName : Parser String := do
  let line ← currentLine
  let word ← expectName
  if (constant? word).isSome then
    failAt line
  return word

def filterChain : (left : Nat) → Expr → Parser Expr
  | 0, _ => fail
  | left + 1, value => do
    if ← accept (.operator "|") then
      filterChain left (← filter left value)
    else
      return value

/-- Reads parameters behind their opening parenthesis. Those with defaults come last. -/
def parameters : (left : Nat) → List String → List Expr → Parser (List String × List Expr)
  | 0, _, _ => fail
  | left + 1, words, defaults => do
    if ← accept (.operator ")") then
      return (words, defaults)
    unless words.isEmpty do
      expect (.operator ",")
    let word ← boundName
    if ← accept (.operator "=") then
      parameters left (words ++ [word]) (defaults ++ [← expression left .choice])
    else if defaults.isEmpty then
      parameters left (words ++ [word]) defaults
    else
      fail

/-- Passes over two words, if they stand here. -/
def skipWords (first second : String) : Parser Bool := do
  if ← atWord [first] then
    if (← next?) = some (.name second) then
      advance
      advance
      return true
  return false

/-- Passes over the words that say which names another template sees. -/
def skipContext : Parser Bool := do
  if ← skipWords "with" "context" then
    return true
  skipWords "without" "context"

/-- Reads the names that are taken from another template. They do not start with an underscore. -/
def imported : (left : Nat) → List String → Parser (List String)
  | 0, _ => fail
  | left + 1, words => do
    unless words.isEmpty do
      expect (.operator ",")
    match ← current? with
    | some (.name _) => pure ()
    | _ => expect (.name "")
    if ← skipContext then
      return words
    let line ← currentLine
    let word ← boundName
    if word.startsWith "_" then
      failAt line
    let word ← if ← accept (.name "as") then boundName else pure word
    let words := words ++ [word]
    if ← skipContext then
      return words
    match ← current? with
    | some (.operator ",") => imported left words
    | _ => return words

/-- Reads the rest of a statement that needs another template and that stands on the given line. -/
def external (left line : Nat) (word : String) : Parser Statement := do
  let source ← expression left .choice
  match word with
  | "include" =>
    let ignoresMissing ← skipWords "ignore" "missing"
    let _ ← skipContext
    return .external (.insertion ignoresMissing) source
  | "import" =>
    expect (.name "as")
    let word ← boundName
    let _ ← skipContext
    return .external (.library [word]) source
  | "from" =>
    expect (.name "import")
    return .external (.library (← imported left [])) source
  | _ => return .external (.parent line) source

def printed : (left : Nat) → List Expr → Parser (List Expr)
  | 0, _ => fail
  | left + 1, values => do
    if (← current?) = some .statementEnd then
      return values
    unless values.isEmpty do
      expect (.operator ",")
    printed left (values ++ [← expression left .choice])

/-- The head of a routine before its names are looked at. -/
def plainSignature (word : Option String) (parameters : List String) : Signature :=
  ⟨word, parameters, false, false, false, []⟩

/-- Whether a statement writes only white space. -/
def isBlank : Statement → Bool
  | .text content => content.all Text.isBlank
  | _ => false

mutual

/-- Reads statements up to a statement that starts with one of the given words, which is left
current, or to the end of the template. -/
def statements : (left : Nat) → Option (List String) → Parser (List Statement)
  | 0, _ => fail
  | left + 1, ends => do
    match ← current? with
    | none => return []
    | some (.data text) =>
      advance
      return .text text :: (← statements left ends)
    | some .valueStart =>
      advance
      let shown ← value left .choice []
      expect .valueEnd
      return .output [shown] :: (← statements left ends)
    | some .statementStart =>
      advance
      if ← atWord (ends.getD []) then
        return []
      let first ← statement left
      expect .statementEnd
      return first :: (← statements left ends)
    | _ => fail

/-- Reads the body of a statement up to one of the given words. -/
def body : (left : Nat) → List String → Parser (List Statement)
  | 0, _ => fail
  | left + 1, ends => do
    let _ ← accept (.operator ":")
    expect .statementEnd
    let found ← statements left (some ends)
    if (← current?).isNone then
      fail
    return found

/-- Reads the branches of a condition behind its first word. -/
def branches : (left : Nat) → Parser Statement
  | 0 => fail
  | left + 1 => do
    let condition ← value left .disjunction []
    let yes ← body left ["elif", "else", "endif"]
    match ← expectName with
    | "elif" => return .cond condition yes [← branches left]
    | "else" =>
      let no ← body left ["endif"]
      advance
      return .cond condition yes no
    | _ => return .cond condition yes []

def bindings : (left : Nat) → List Pattern → List Expr → Parser (List Pattern × List Expr)
  | 0, _, _ => fail
  | left + 1, patterns, values => do
    if (← current?) = some .statementEnd then
      return (patterns, values)
    unless patterns.isEmpty do
      expect (.operator ",")
    let bound ← pattern left [] false
    expect (.operator "=")
    let value ← expression left .choice
    bindings left (patterns ++ [bound]) (values ++ [value])

/-- Reads a statement up to the end of its tag. -/
def statement : (left : Nat) → Parser Statement
  | 0 => fail
  | left + 1 => do
    let line ← currentLine
    match ← current? with
    | some (.name "if") =>
      advance
      branches left
    | some (.name "for") =>
      advance
      let bound ← pattern left ["in"] false
      expect (.name "in")
      let source ← value left .disjunction ["recursive"]
      let hasGuard ← accept (.name "if")
      let guard ← if hasGuard then expression left .choice else pure (.literal (.bool true))
      let isRecursive ← accept (.name "recursive")
      let shape : LoopShape := ⟨bound, isRecursive, hasGuard, false, [], [], []⟩
      let inner ← body left ["endfor", "else"]
      match ← expectName with
      | "else" =>
        let otherwise ← body left ["endfor"]
        advance
        return .loop shape source guard inner otherwise
      | _ => return .loop shape source guard inner []
    | some (.name "set") =>
      advance
      let bound ← pattern left [] true
      if ← accept (.operator "=") then
        return .assign bound (← value left .choice [])
      let changed ← filterChain left .captured
      let inner ← body left ["endset"]
      advance
      return .capture [] bound changed inner
    | some (.name "with") =>
      advance
      let (patterns, values) ← bindings left [] []
      let inner ← body left ["endwith"]
      advance
      return .scope [] patterns values inner
    | some (.name "autoescape") =>
      advance
      let chosen ← expression left .choice
      let inner ← body left ["endautoescape"]
      advance
      return .escaping [] chosen inner
    | some (.name "print") =>
      advance
      return .output (← printed left [])
    | some (.name "macro") =>
      advance
      let word ← boundName
      expect (.operator "(")
      let (words, defaults) ← parameters left [] []
      let inner ← body left ["endmacro"]
      advance
      return .routine line (plainSignature (some word) words) defaults inner
    | some (.name "call") =>
      advance
      let (words, defaults) ←
        if ← accept (.operator "(") then parameters left [] [] else pure ([], [])
      match ← expression left .choice with
      | .call function items passing =>
        let inner ← body left ["endcall"]
        advance
        return .callBlock line (plainSignature none words) defaults function items passing inner
      | _ => failAt line
    | some (.name "filter") =>
      advance
      let changed ← filterChain left (← filter left .captured)
      let inner ← body left ["endfilter"]
      advance
      return .changed [] changed inner
    | some (.name "block") =>
      advance
      let word ← expectName
      let isScoped ← accept (.name "scoped")
      let isRequired ← accept (.name "required")
      let inner ← body left ["endblock"]
      advance
      if isRequired && !inner.all isBlank then
        fail
      let _ ← accept (.name word)
      return .block ⟨word, isScoped, isRequired, line, []⟩ inner
    | some (.name word) =>
      if word ∈ ["include", "import", "from", "extends"] then
        advance
        external left line word
      else
        fail
    | _ => fail

end

end Parser

def parse (text : List Char) (standIns : Text.StandIns := .usual) :
    Except TemplateError (List Statement) := do
  let tokens := Token.ofText text standIns
  let start ← Parser.enter tokens 1
  let (found, _) ← (Parser.statements (16 * (tokens.length + 1)) none).run start
  return found

end CrateReadme.Template
