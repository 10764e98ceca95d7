import CrateReadme.Text.Shortest

/-!
# Syntax of templates

Expressions and statements. Arguments are kept in a list together with a list that says how each of
them is passed. Filters and tests remember the line they stand on. Every statement with a scope of
its own lists the names of that scope and what they start with.
-/

namespace CrateReadme.Template

/-- Values that are written down in a template. -/
inductive Literal where
  | none
  | bool (value : Bool)
  | int (value : Int)
  | float (value : Binary64)
  | text (value : List Char)
  deriving DecidableEq, Repr, Inhabited

/-- Operators with two operands. -/
inductive BinaryOp where
  | add
  | sub
  | mul
  | div
  | floorDiv
  | mod
  | pow
  deriving DecidableEq, Repr

inductive CompareOp where
  | eq
  | ne
  | lt
  | le
  | gt
  | ge
  | isIn
  | notIn
  deriving DecidableEq, Repr

inductive Passing where
  | plain
  | named (word : String)
  /-- Its items are arguments. -/
  | spread
  /-- Its entries are arguments with names. -/
  | spreadNamed
  deriving DecidableEq, Repr

inductive Expr where
  | literal (value : Literal)
  | name (word : String)
  | list (items : List Expr)
  | tuple (items : List Expr)
  /-- A table: keys and values take turns. -/
  | table (entries : List Expr)
  | member (object : Expr) (word : String)
  | item (object key : Expr)
  /-- Two bounds and a step, as a key; each of the three is possibly `none`. -/
  | bounds (start stop step : Expr)
  | call (function : Expr) (arguments : List Expr) (passing : List Passing)
  | filter (line : Nat) (word : String) (value : Expr) (arguments : List Expr)
      (passing : List Passing)
  | test (line : Nat) (word : String) (value : Expr) (arguments : List Expr)
      (passing : List Passing)
  | not (value : Expr)
  | and (left right : Expr)
  | or (left right : Expr)
  | sign (isNegative : Bool) (value : Expr)
  | binary (op : BinaryOp) (left right : Expr)
  | concat (parts : List Expr)
  | compare (first : Expr) (ops : List CompareOp) (rest : List Expr)
  | choose (condition yes no : Expr)
  /-- The value of a choice on the given line that has no value. -/
  | missing (line : Nat)
  /-- The text that a body has written. -/
  | captured
  deriving Repr, Inhabited

/-- What an assignment or a loop binds: a name, several patterns that share out a sequence, or a
field of a record. -/
inductive Pattern where
  | name (line : Nat) (word : String)
  | tuple (items : List Pattern)
  | field (object word : String)
  deriving Repr, Inhabited

/-- What a name of a scope starts with. -/
inductive Load where
  /-- It is bound when the scope is entered. -/
  | parameter
  /-- It is looked up among the values that are given to the template. -/
  | given
  /-- It starts with the value that it has in the scopes around. -/
  | outer
  /-- It has no value yet. -/
  | unset
  /-- It is the template itself. -/
  | itself
  /-- It is the block of that name in a parent, of which there is none. -/
  | inherited (block : String)
  deriving DecidableEq, Repr

abbrev Locals :=
  List (String × Load)

/-- The head of a loop. `usesState` says whether the body may ask for the state of the loop. -/
structure LoopShape where
  pattern : Pattern
  isRecursive : Bool
  hasGuard : Bool
  usesState : Bool
  guardLocals : Locals
  bodyLocals : Locals
  otherwiseLocals : Locals
  deriving Repr, Inhabited

/-- The head of a routine: its name, its parameters, and whether it takes the body of a call,
further arguments by name and further arguments without names. -/
structure Signature where
  word : Option String
  parameters : List String
  takesCaller : Bool
  takesNamed : Bool
  takesRest : Bool
  locals : Locals
  deriving Repr, Inhabited

/-- The head of a named part of the template. Of the names around it, it sees those that are
`passed`. -/
structure BlockShape where
  word : String
  isScoped : Bool
  isRequired : Bool
  line : Nat
  passed : List String
  deriving DecidableEq, Repr, Inhabited

/-- How a statement uses another template. -/
inductive External where
  /-- Its text is inserted; if `ignoresMissing` is set, it need not exist. -/
  | insertion (ignoresMissing : Bool)
  /-- Its routines are bound to the given names. -/
  | library (words : List String)
  /-- It is the frame for the blocks of this one; the statement stands on the given line. -/
  | parent (line : Nat)
  deriving DecidableEq, Repr

inductive Statement where
  | text (content : List Char)
  | output (values : List Expr)
  | cond (condition : Expr) (body otherwise : List Statement)
  | loop (shape : LoopShape) (source guard : Expr) (body otherwise : List Statement)
  | assign (pattern : Pattern) (value : Expr)
  /-- Assigns what the body writes, changed by `value`. -/
  | capture (locals : Locals) (pattern : Pattern) (value : Expr) (body : List Statement)
  /-- Binds names for the body only. -/
  | scope (locals : Locals) (patterns : List Pattern) (values : List Expr) (body : List Statement)
  /-- Names a body with parameters; the last parameters have the given defaults. -/
  | routine (line : Nat) (signature : Signature) (defaults : List Expr) (body : List Statement)
  /-- Writes the result of a call that may call the body in turn. -/
  | callBlock (line : Nat) (signature : Signature) (defaults : List Expr) (function : Expr)
      (arguments : List Expr) (passing : List Passing) (body : List Statement)
  /-- Writes what the body writes, changed by `value`. -/
  | changed (locals : Locals) (value : Expr) (body : List Statement)
  /-- A part of the template that sees only the names of the whole template. -/
  | block (shape : BlockShape) (body : List Statement)
  /-- Says whether what the body writes is escaped. -/
  | escaping (locals : Locals) (value : Expr) (body : List Statement)
  | external (use : External) (source : Expr)
  deriving Repr, Inhabited

/-- A named part of the template with the names of its scope. -/
structure Block where
  locals : Locals
  body : List Statement
  deriving Repr, Inhabited

/-- A template that is ready to be filled in. -/
structure Program where
  locals : Locals
  body : List Statement
  blocks : List (String × Block)
  deriving Repr, Inhabited

/-- A body with parameters; the last parameters have the given defaults. -/
structure Routine where
  signature : Signature
  defaults : List Expr
  body : List Statement
  deriving Repr, Inhabited

/-- A loop that can be run again for other items. -/
structure LoopBody where
  shape : LoopShape
  guard : Expr
  body : List Statement
  otherwise : List Statement
  deriving Repr, Inhabited

/-! ### Vocabulary

The names of the filters, tests and functions that every template knows.
-/

def filterNames : List String :=
  ["abs", "attr", "batch", "capitalize", "center", "count", "d", "default", "dictsort", "e",
   "escape", "filesizeformat", "first", "float", "forceescape", "format", "groupby", "indent",
   "int", "items", "join", "last", "length", "list", "lower", "map", "max", "min", "pprint",
   "random", "reject", "rejectattr", "replace", "reverse", "round", "safe", "select", "selectattr",
   "slice", "sort", "string", "striptags", "sum", "title", "tojson", "trim", "truncate", "unique",
   "upper", "urlencode", "urlize", "wordcount", "wordwrap", "xmlattr"]

def testNames : List String :=
  ["!=", "<", "<=", "==", ">", ">=", "boolean", "callable", "defined", "divisibleby", "eq",
   "equalto", "escaped", "even", "false", "filter", "float", "ge", "greaterthan", "gt", "in",
   "integer", "iterable", "le", "lessthan", "lower", "lt", "mapping", "ne", "none", "number",
   "odd", "sameas", "sequence", "string", "test", "true", "undefined", "upper"]

/-- The functions that every template knows, with the kinds of values that they make. -/
def functionKinds : List (String × String) :=
  [("range", "range"), ("dict", "dict"), ("lipsum", "lipsum"), ("cycler", "jinja2.utils.Cycler"),
   ("joiner", "jinja2.utils.Joiner"), ("namespace", "jinja2.utils.Namespace")]

end CrateReadme.Template
