import CrateReadme.Template.Syntax

/-!
# Names of scopes

Before a template is filled in, every scope of it is given the list of its names. A name that a
scope binds belongs to it; a name that it only reads belongs to it if no scope around it has that
name. The branches of a condition share the scope of the condition, but a name that only they bind
may already have a value, so that it does not start empty.
-/

namespace CrateReadme.Template

mutual

def Expr.reads : Expr → List String
  | .literal _ | .missing _ | .captured => []
  | .name word => [word]
  | .list items | .tuple items | .table items | .concat items => readsOfAll items
  | .member object _ => object.reads
  | .item object key => object.reads ++ key.reads
  | .bounds start stop step => start.reads ++ stop.reads ++ step.reads
  | .call function arguments _ => function.reads ++ readsOfAll arguments
  | .filter _ _ value arguments _ | .test _ _ value arguments _ =>
    value.reads ++ readsOfAll arguments
  | .not value | .sign _ value => value.reads
  | .and left right | .or left right | .binary _ left right => left.reads ++ right.reads
  | .compare first _ rest => first.reads ++ readsOfAll rest
  | .choose condition yes no => condition.reads ++ yes.reads ++ no.reads

def readsOfAll : List Expr → List String
  | [] => []
  | item :: items => item.reads ++ readsOfAll items

end

mutual

/-- The names that a pattern binds, with the lines they stand on. -/
def Pattern.bound : Pattern → List (Nat × String)
  | .name line word => [(line, word)]
  | .tuple items => boundByAll items
  | .field _ _ => []

def boundByAll : List Pattern → List (Nat × String)
  | [] => []
  | item :: items => item.bound ++ boundByAll items

end

mutual

/-- The names of the records whose fields a pattern binds. -/
def Pattern.records : Pattern → List String
  | .name _ _ => []
  | .tuple items => recordsOfAll items
  | .field object _ => [object]

/-- The names of the records whose fields patterns bind. -/
def recordsOfAll : List Pattern → List String
  | [] => []
  | item :: items => item.records ++ recordsOfAll items

end

def Pattern.words (pattern : Pattern) : List String :=
  pattern.bound.map Prod.snd

/-- What a statement does with a name. -/
inductive NameUse where
  | reads (word : String)
  | binds (word : String)
  deriving DecidableEq, Repr

def readUses (words : List String) : List NameUse :=
  words.map .reads

def boundUses (words : List String) : List NameUse :=
  words.map .binds

mutual

/-- The uses of names in a statement, in order. Blocks count for themselves. -/
def Statement.uses : Statement → List NameUse
  | .text _ | .block _ _ => []
  | .output values => readUses (readsOfAll values)
  | .cond condition body otherwise =>
    readUses condition.reads ++ usesOfAll body ++ usesOfAll otherwise
  | .loop shape source guard body otherwise =>
    boundUses shape.pattern.words ++ readUses source.reads ++ usesOfAll body ++
      usesOfAll otherwise ++ readUses guard.reads
  | .assign pattern value => boundUses pattern.words ++ readUses value.reads
  | .capture _ pattern value body =>
    boundUses pattern.words ++ readUses value.reads ++ usesOfAll body
  | .scope _ patterns values body =>
    boundUses ((boundByAll patterns).map Prod.snd) ++ readUses (readsOfAll values) ++ usesOfAll body
  | .routine _ signature defaults body =>
    boundUses signature.parameters ++ readUses (readsOfAll defaults) ++ usesOfAll body
  | .callBlock _ signature defaults function arguments _ body =>
    readUses (function.reads ++ readsOfAll arguments) ++ boundUses signature.parameters ++
      readUses (readsOfAll defaults) ++ usesOfAll body
  | .changed _ value body => usesOfAll body ++ readUses value.reads
  | .escaping _ value body => readUses value.reads ++ usesOfAll body
  | .external _ source => readUses source.reads

def usesOfAll : List Statement → List NameUse
  | [] => []
  | first :: rest => first.uses ++ usesOfAll rest

end

/-- Whether a name is read before it is bound anywhere. -/
def isFree (word : String) : List NameUse → Bool
  | [] => false
  | .reads other :: uses => other = word || isFree word uses
  | .binds other :: uses => other ≠ word && isFree word uses

/-- What is known about a scope: its names, those of them that it binds, and the names of the scopes
around it. -/
structure Symbols where
  locals : Locals
  stores : List String
  outer : List String

namespace Symbols

def owns (symbols : Symbols) (word : String) : Bool :=
  (symbols.locals.lookup word).isSome

def define (word : String) (load : Load) (symbols : Symbols) : Symbols :=
  if symbols.owns word then
    { symbols with
      locals := symbols.locals.map fun entry => if entry.1 = word then (word, load) else entry }
  else
    { symbols with locals := symbols.locals ++ [(word, load)] }

def read (symbols : Symbols) (word : String) : Symbols :=
  if symbols.owns word || word ∈ symbols.outer then symbols else symbols.define word .given

def readAll (words : List String) (symbols : Symbols) : Symbols :=
  words.foldl read symbols

def store (symbols : Symbols) (word : String) : Symbols :=
  let symbols := { symbols with stores := symbols.stores.insert word }
  if symbols.owns word then symbols
  else symbols.define word (if word ∈ symbols.outer then .outer else .unset)

def storeAll (words : List String) (symbols : Symbols) : Symbols :=
  words.foldl store symbols

/-- Notes that a name is bound when the scope is entered. -/
def declare (symbols : Symbols) (word : String) : Symbols :=
  let symbols := { symbols with stores := symbols.stores.insert word }
  symbols.define word .parameter

/-- Notes that names are bound when the scope is entered. -/
def declareAll (words : List String) (symbols : Symbols) : Symbols :=
  words.foldl declare symbols

def storePattern (pattern : Pattern) (symbols : Symbols) : Symbols :=
  (symbols.readAll pattern.records).storeAll pattern.words

/-- Puts together what is known behind the branches of a condition. A name that only they bind may
have a value before. -/
def merge (before first second : Symbols) : Symbols :=
  let stores := second.stores.foldl (fun words word => words.insert word) first.stores
  let isNew (word : String) : Bool := word ∈ stores && word ∉ before.stores
  let all := second.locals.foldl (fun symbols entry => symbols.define entry.1 entry.2) first
  { all with
    stores
    locals := all.locals.map fun (word, load) =>
      (word, if isNew word then (if word ∈ before.outer then .outer else .given) else load) }

end Symbols

mutual

/-- Notes what a statement does with the names of the scope it stands in. -/
def Statement.note : Statement → Symbols → Symbols
  | .text _, symbols | .block _ _, symbols | .escaping _ _ _, symbols => symbols
  | .output values, symbols => symbols.readAll (readsOfAll values)
  | .cond condition body otherwise, symbols =>
    let symbols := symbols.readAll condition.reads
    symbols.merge (noteAll body symbols) (noteAll otherwise symbols)
  | .loop _ source _ _ _, symbols => symbols.readAll source.reads
  | .assign pattern value, symbols => (symbols.readAll value.reads).storePattern pattern
  | .capture _ pattern _ _, symbols => symbols.storePattern pattern
  | .scope _ _ values _, symbols => symbols.readAll (readsOfAll values)
  | .routine _ signature _ _, symbols => symbols.storeAll signature.word.toList
  | .callBlock _ _ _ function arguments _ _, symbols =>
    symbols.readAll (function.reads ++ readsOfAll arguments)
  | .changed _ value _, symbols => symbols.readAll value.reads
  | .external use source, symbols =>
    let symbols := symbols.readAll source.reads
    match use with
    | .library words => symbols.storeAll words
    | _ => symbols

/-- Notes what statements do with the names of the scope they stand in. -/
def noteAll : List Statement → Symbols → Symbols
  | [], symbols => symbols
  | first :: rest, symbols => noteAll rest (first.note symbols)

end

mutual

def Statement.hasScopedBlock : Statement → Bool
  | .block shape body => shape.isScoped || anyScopedBlock body
  | .cond _ body otherwise | .loop _ _ _ body otherwise =>
    anyScopedBlock body || anyScopedBlock otherwise
  | .capture _ _ _ body | .scope _ _ _ body | .routine _ _ _ body
  | .callBlock _ _ _ _ _ _ body | .changed _ _ body | .escaping _ _ body => anyScopedBlock body
  | .text _ | .output _ | .assign _ _ | .external _ _ => false

/-- Whether statements have a block in them that sees the names around it. -/
def anyScopedBlock : List Statement → Bool
  | [] => false
  | first :: rest => first.hasScopedBlock || anyScopedBlock rest

end

/-- The names that can be seen from a place in a template, and those of them that are bound. -/
structure Surroundings where
  visible : List String
  bound : List String

namespace Surroundings

/-- A scope in these surroundings about which nothing is known yet. -/
def fresh (surroundings : Surroundings) : Symbols :=
  ⟨[], [], surroundings.visible⟩

def inside (surroundings : Surroundings) (symbols : Symbols) : Surroundings :=
  ⟨symbols.locals.map Prod.fst ++ surroundings.visible, symbols.stores ++ surroundings.bound⟩

end Surroundings

/-- The names of a routine, and the routine with what its body makes of the names that are bound in
every call. -/
def Signature.resolve (signature : Signature) (defaults : List Expr) (body : List Statement)
    (surroundings : Surroundings) : Signature × Symbols :=
  let uses := usesOfAll body
  let takes (word : String) : Bool := isFree word uses && word ∉ signature.parameters
  let specials := ["caller", "kwargs", "varargs"].filter takes
  let symbols := noteAll body
    ((surroundings.fresh.declareAll signature.parameters).readAll (readsOfAll defaults))
  let symbols := symbols.declareAll specials
  ({ signature with
     takesCaller := isFree "caller" uses
     takesNamed := takes "kwargs"
     takesRest := takes "varargs"
     locals := symbols.locals }, symbols)

mutual

def Statement.resolve (around : Surroundings) : Statement → Statement
  | .text content => .text content
  | .output values => .output values
  | .assign pattern value => .assign pattern value
  | .external use source => .external use source
  | .cond condition body otherwise =>
    .cond condition (resolveAll around body) (resolveAll around otherwise)
  | .loop shape source guard body otherwise =>
    let usesState := shape.isRecursive || isFree "loop" (usesOfAll body) || anyScopedBlock body ||
      anyScopedBlock otherwise
    let words := shape.pattern.words
    let entered := if usesState then around.fresh.declare "loop" else around.fresh
    let inner := noteAll body (entered.declareAll words)
    let guarded := (around.fresh.declareAll words).readAll guard.reads
    let last := noteAll otherwise around.fresh
    .loop
      { shape with
        usesState
        guardLocals := guarded.locals
        bodyLocals := inner.locals
        otherwiseLocals := last.locals }
      source guard (resolveAll (around.inside inner) body)
      (resolveAll (around.inside last) otherwise)
  | .capture _ pattern value body =>
    let inner := noteAll body around.fresh
    .capture inner.locals pattern value (resolveAll (around.inside inner) body)
  | .scope _ patterns values body =>
    let inner := noteAll body (around.fresh.declareAll ((boundByAll patterns).map Prod.snd))
    .scope inner.locals patterns values (resolveAll (around.inside inner) body)
  | .routine line signature defaults body =>
    let (signature, inner) := signature.resolve defaults body around
    .routine line signature defaults (resolveAll (around.inside inner) body)
  | .callBlock line signature defaults function arguments passing body =>
    let (signature, inner) := signature.resolve defaults body around
    .callBlock line signature defaults function arguments passing
      (resolveAll (around.inside inner) body)
  | .changed _ value body =>
    let inner := (noteAll body around.fresh).readAll value.reads
    .changed inner.locals value (resolveAll (around.inside inner) body)
  | .escaping _ value body =>
    let inner := noteAll body (around.fresh.readAll value.reads)
    .escaping inner.locals value (resolveAll (around.inside inner) body)
  | .block shape body => .block { shape with passed := around.bound } body

def resolveAll (around : Surroundings) : List Statement → List Statement
  | [] => []
  | first :: rest => first.resolve around :: resolveAll around rest

end

/-- The names of a whole template or of a block, and its statements with the names of the scopes in
them. -/
def resolveWhole (block : Option String) (body : List Statement) : Block :=
  let around : Surroundings := ⟨[], []⟩
  let uses := usesOfAll body
  let symbols := noteAll body around.fresh
  let withSelf := if isFree "self" uses then symbols.define "self" .itself else symbols
  let symbols :=
    match block with
    | some word => if isFree "super" uses then withSelf.define "super" (.inherited word) else withSelf
    | none => withSelf
  ⟨symbols.locals, resolveAll (around.inside symbols) body⟩

mutual

def Statement.blocks : Statement → List (BlockShape × List Statement)
  | .block shape body => (shape, body) :: blocksOfAll body
  | .cond _ body otherwise | .loop _ _ _ body otherwise => blocksOfAll body ++ blocksOfAll otherwise
  | .capture _ _ _ body | .scope _ _ _ body | .routine _ _ _ body
  | .callBlock _ _ _ _ _ _ body | .changed _ _ body | .escaping _ _ body => blocksOfAll body
  | .text _ | .output _ | .assign _ _ | .external _ _ => []

def blocksOfAll : List Statement → List (BlockShape × List Statement)
  | [] => []
  | first :: rest => first.blocks ++ blocksOfAll rest

end

def Program.ofStatements (statements : List Statement) : Program :=
  let whole := resolveWhole none statements
  let blocks := (blocksOfAll statements).map fun (shape, body) =>
    (shape.word, resolveWhole (some shape.word) body)
  ⟨whole.locals, whole.body, blocks⟩

end CrateReadme.Template
