import CrateReadme.Template.Error
import CrateReadme.Template.Names
import CrateReadme.Template.Parser
import CrateReadme.Template.Syntax

/-!
# Programs

A template that can be read may still be malformed: a filter or test does not exist, a block is
defined twice, a loop binds the name of its own state. These mistakes are looked for in the order in
which the parts of the template are prepared. Inside a condition an unknown filter only matters when
it is used.
-/

namespace CrateReadme.Template

mutual

/-- The line of the first filter or test in an expression that does not exist. -/
def Expr.unknown? : Expr → Option Nat
  | .literal _ | .name _ | .missing _ | .captured | .choose _ _ _ => none
  | .list items | .tuple items | .table items | .concat items => unknownAmong? items
  | .member object _ => object.unknown?
  | .item object key => object.unknown? <|> key.unknown?
  | .bounds start stop step => start.unknown? <|> stop.unknown? <|> step.unknown?
  | .call function arguments _ => function.unknown? <|> unknownAmong? arguments
  | .filter line word value arguments _ =>
    if word ∈ filterNames then value.unknown? <|> unknownAmong? arguments else some line
  | .test line word value arguments _ =>
    if word ∈ testNames then value.unknown? <|> unknownAmong? arguments else some line
  | .not value | .sign _ value => value.unknown?
  | .and left right | .or left right | .binary _ left right => left.unknown? <|> right.unknown?
  | .compare first _ rest => first.unknown? <|> unknownAmong? rest

/-- The line of the first filter or test in expressions that does not exist. -/
def unknownAmong? : List Expr → Option Nat
  | [] => none
  | item :: items => item.unknown? <|> unknownAmong? items

end

mutual

/-- The names that assignments and loops anywhere in a statement bind. -/
def Statement.assigned : Statement → List (Nat × String)
  | .text _ | .output _ | .external _ _ => []
  | .cond _ body otherwise => assignedByAll body ++ assignedByAll otherwise
  | .loop shape _ _ body otherwise =>
    shape.pattern.bound ++ assignedByAll body ++ assignedByAll otherwise
  | .assign pattern _ => pattern.bound
  | .capture _ pattern _ body => pattern.bound ++ assignedByAll body
  | .scope _ _ _ body | .routine _ _ _ body | .callBlock _ _ _ _ _ _ body | .changed _ _ body
  | .escaping _ _ body | .block _ body => assignedByAll body

/-- The names that assignments and loops anywhere in statements bind. -/
def assignedByAll : List Statement → List (Nat × String)
  | [] => []
  | first :: rest => first.assigned ++ assignedByAll rest

end

/-- Where a statement stands: in a condition, among the statements of the whole template, among
those outside of conditions, and where a parent would replace what is written. Then the names that
can be seen. -/
structure Place where
  isSoft : Bool
  isTop : Bool
  isRoot : Bool
  isReplaceable : Bool
  visible : List String

namespace Place

def soft (place : Place) : Place :=
  { place with isSoft := true, isRoot := false }

def inner (place : Place) (locals : Locals) : Place :=
  ⟨false, false, false, place.isReplaceable, locals.map Prod.fst ++ place.visible⟩

/-- In a scope whose text is not written where it stands. -/
def apart (place : Place) (locals : Locals) : Place :=
  { place.inner locals with isReplaceable := false }

/-- Looks for an unknown filter or test. -/
def knows (place : Place) (value : Expr) : Except TemplateError Unit :=
  match if place.isSoft then none else value.unknown? with
  | some line => .error (.malformed line)
  | none => .ok ()

/-- Looks for an unknown filter or test in several expressions. -/
def knowsAll (place : Place) (values : List Expr) : Except TemplateError Unit :=
  values.forM place.knows

end Place

/-- A parameter for the body of a call needs a default if that body is used. -/
def Signature.check (signature : Signature) (line defaults : Nat) : Except TemplateError Unit :=
  match signature.takesCaller, signature.parameters.findIdx? (· = "caller") with
  | true, some place =>
    if signature.parameters.length ≤ place + defaults then .ok () else .error (.malformed line)
  | _, _ => .ok ()

mutual

/-- Checks a statement. `hasParent` says whether the template is known to have a parent; the result
says the same behind the statement, and is missing if the rest does not matter. -/
def Statement.check (place : Place) (hasParent : Bool) :
    Statement → Except TemplateError (Option Bool)
  | .text _ | .block _ _ => return some hasParent
  | .output values => do
    unless place.isReplaceable && hasParent do
      place.knowsAll values
    return some hasParent
  | .cond _ body otherwise => do
    let hasParent ← checkAll place.soft hasParent body
    return some (← checkAll place.soft hasParent otherwise)
  | .loop shape source guard body otherwise => do
    (place.inner shape.guardLocals).knows guard
    let bound := shape.pattern.bound ++ assignedByAll body ++ assignedByAll otherwise
    match bound.find? fun entry => entry.2 = "loop" with
    | some (line, _) => throw (.malformed line)
    | none => pure ()
    unless shape.isRecursive do
      place.knows source
    let hasParent ← checkAll (place.inner shape.bodyLocals) hasParent body
    let hasParent ← checkAll (place.inner shape.otherwiseLocals) hasParent otherwise
    if shape.isRecursive then
      place.knows source
    return some hasParent
  | .assign _ value => do
    place.knows value
    return some hasParent
  | .capture locals _ value body => do
    let inside := place.apart locals
    let hasParent ← checkAll inside hasParent body
    inside.knows value
    unless value.reads.all (· ∈ inside.visible) do
      throw (.fault .assertion)
    return some hasParent
  | .scope locals _ values body => do
    place.knowsAll values
    return some (← checkAll (place.inner locals) hasParent body)
  | .routine line signature defaults body => do
    signature.check line defaults.length
    let inside := place.apart signature.locals
    inside.knowsAll defaults
    return some (← checkAll inside hasParent body)
  | .callBlock line signature defaults function arguments _ body => do
    signature.check line defaults.length
    let inside := place.apart signature.locals
    inside.knowsAll defaults
    let hasParent ← checkAll inside hasParent body
    place.knowsAll (function :: arguments)
    return some hasParent
  | .changed locals value body => do
    let inside := place.inner locals
    let hasParent ← checkAll inside hasParent body
    inside.knows value
    return some hasParent
  | .escaping locals value body => do
    let inside := place.inner locals
    inside.knows value
    return some (← checkAll inside hasParent body)
  | .external (.parent line) source => do
    unless place.isTop do
      throw (.malformed line)
    if hasParent then
      return none
    place.knows source
    return some place.isRoot
  | .external _ source => do
    place.knows source
    return some hasParent

def checkAll (place : Place) (hasParent : Bool) : List Statement → Except TemplateError Bool
  | [] => return hasParent
  | first :: rest => do
    match ← first.check place hasParent with
    | some hasParent => checkAll place hasParent rest
    | none => return true

end

/-- Words with a meaning of their own where arguments are passed on. -/
def reservedWords : List String :=
  ["False", "None", "True", "and", "as", "assert", "async", "await", "break", "class", "continue",
   "def", "del", "elif", "else", "except", "finally", "for", "from", "global", "if", "import", "in",
   "is", "lambda", "nonlocal", "not", "or", "pass", "raise", "return", "try", "while", "with",
   "yield"]

def hasRepetition : List String → Bool
  | [] => false
  | word :: words => word ∈ words || hasRepetition words

/-- Whether an argument is named twice, which only words with a meaning of their own may be. -/
def repeatsName (passing : List Passing) : Bool :=
  let words := passing.filterMap fun
    | .named word => some word
    | _ => none
  hasRepetition words && !words.any (· ∈ reservedWords)

mutual

/-- Whether an expression has a part that has no meaning in its place: bounds that are not the only
key, or an argument that is named twice. -/
def Expr.isIllFormed : Expr → Bool
  | .literal _ | .name _ | .missing _ | .captured => false
  | .list items | .tuple items | .table items | .concat items => anyIllFormed items
  | .member object _ => object.isIllFormed
  | .item object (.bounds start stop step) =>
    object.isIllFormed || start.isIllFormed || stop.isIllFormed || step.isIllFormed
  | .item object key => object.isIllFormed || key.isIllFormed
  | .bounds _ _ _ => true
  | .call function arguments passing =>
    repeatsName passing || function.isIllFormed || anyIllFormed arguments
  | .filter _ _ value arguments passing | .test _ _ value arguments passing =>
    repeatsName passing || value.isIllFormed || anyIllFormed arguments
  | .not value | .sign _ value => value.isIllFormed
  | .and left right | .or left right | .binary _ left right =>
    left.isIllFormed || right.isIllFormed
  | .compare first _ rest => first.isIllFormed || anyIllFormed rest
  | .choose condition yes no => condition.isIllFormed || yes.isIllFormed || no.isIllFormed

/-- Whether one of several expressions has a part without meaning. -/
def anyIllFormed : List Expr → Bool
  | [] => false
  | item :: items => item.isIllFormed || anyIllFormed items

end

mutual

/-- Whether a statement has a part without meaning. -/
def Statement.isIllFormed : Statement → Bool
  | .text _ => false
  | .output values => anyIllFormed values
  | .cond condition body otherwise =>
    condition.isIllFormed || anyIllFormedStatement body || anyIllFormedStatement otherwise
  | .loop _ source guard body otherwise =>
    source.isIllFormed || guard.isIllFormed || anyIllFormedStatement body ||
      anyIllFormedStatement otherwise
  | .assign _ value => value.isIllFormed
  | .capture _ _ value body | .changed _ value body | .escaping _ value body =>
    value.isIllFormed || anyIllFormedStatement body
  | .scope _ _ values body => anyIllFormed values || anyIllFormedStatement body
  | .routine _ signature defaults body =>
    hasRepetition signature.parameters || anyIllFormed defaults || anyIllFormedStatement body
  | .callBlock _ signature defaults function arguments passing body =>
    hasRepetition signature.parameters || repeatsName (.named "caller" :: passing) ||
      function.isIllFormed || anyIllFormed (defaults ++ arguments) || anyIllFormedStatement body
  | .block _ body => anyIllFormedStatement body
  | .external _ source => source.isIllFormed

/-- Whether one of several statements has a part without meaning. -/
def anyIllFormedStatement : List Statement → Bool
  | [] => false
  | first :: rest => first.isIllFormed || anyIllFormedStatement rest

end

/-- The line of the first block whose name another block before it has. -/
def repeatedBlock? : (seen : List String) → List BlockShape → Option Nat
  | _, [] => none
  | seen, shape :: shapes =>
    if shape.word ∈ seen then some shape.line else repeatedBlock? (shape.word :: seen) shapes

mutual

def Statement.namesParent : Statement → Bool
  | .external (.parent _) _ => true
  | .cond _ body otherwise | .loop _ _ _ body otherwise =>
    anyNamesParent body || anyNamesParent otherwise
  | .capture _ _ _ body | .scope _ _ _ body | .routine _ _ _ body | .callBlock _ _ _ _ _ _ body
  | .changed _ _ body | .escaping _ _ body | .block _ body => anyNamesParent body
  | .text _ | .output _ | .assign _ _ | .external _ _ => false

def anyNamesParent : List Statement → Bool
  | [] => false
  | first :: rest => first.namesParent || anyNamesParent rest

end

def Program.ofText (text : List Char) (standIns : Text.StandIns := .usual) :
    Except TemplateError Program := do
  let statements ← parse text standIns
  match repeatedBlock? [] ((blocksOfAll statements).map Prod.fst) with
  | some line => throw (.malformed line)
  | none => pure ()
  let program := Program.ofStatements statements
  let isReplaceable := anyNamesParent statements
  let names (locals : Locals) : List String := locals.map Prod.fst
  let hasParent ← checkAll ⟨false, true, true, isReplaceable, names program.locals⟩ false
    program.body
  let _ ← program.blocks.foldlM (fun hasParent (_, block) =>
    checkAll ⟨false, false, false, false, names block.locals⟩ hasParent block.body) hasParent
  if anyIllFormedStatement statements then
    throw (.fault .form)
  return program

end CrateReadme.Template
