import CrateReadme.Proofs.Source.Heads

/-!
# Writing and reading items

A crate root is written as items one after the other. The bodies of the items are any texts that can
be read on their own; only where a semicolon or a brace ends an item must there be none outside
brackets in front of it. Reading gives one node for every item that declares something, in the order
of the items, and none from inside a body.
-/

namespace CrateReadme.Source

/-! ### Items -/

/-- A text that can be read on its own, so that its brackets are well nested. None of its tokens
outside brackets is written like one of `stops`. -/
structure Fragment (stops : List String) where
  text : List Char
  tokens : List Token
  accepted : tokensFrom 0 [] text = .ok tokens
  clear : Nested stops tokens

theorem eq_ok_of_isSome {α ε : Type} {result : Except ε α} (hsome : result.toOption.isSome) :
    result = .ok (result.toOption.get hsome) := by
  cases result with
  | error fault => cases hsome
  | ok value => rfl

/-- Any text that can be read on its own is a fragment. -/
def Fragment.ofText (text : List Char) (haccepted : (tokensFrom 0 [] text).toOption.isSome) :
    Fragment [] where
  text
  tokens := (tokensFrom 0 [] text).toOption.get haccepted
  accepted := eq_ok_of_isSome haccepted
  clear := by
    have hcloses := (reads_of_tokensFrom (eq_ok_of_isSome haccepted)).closes
    cases hcloses with
    | done hnested => exact hnested

/-- The words that would be read as something else in the place of a name. All are keywords. -/
def misreadNames : List String :=
  ["mut", "fn", "unsafe", "async", "extern"]

/-- A name that an item may have. It may be a raw identifier. -/
structure Name where
  text : List Char
  isWord : isWordText text
  plain : ∀ keyword ∈ misreadNames, text ≠ keyword.toList
  visible : plainName text ≠ ['_']

/-- The tokens that items are written with. -/
inductive Piece where
  | word (text : List Char) (hword : isWordText text)
  | mark (c : Char) (hmark : c ∈ [':', '=', ';', '!', '#'])
  | group (left right : Char) (hpartner : partner? left = some right) (body : Fragment [])
  | run {stops : List String} (body : Fragment stops)

/-- The first tokens of the attributes that make a function a macro. -/
def macroAttributes : List String :=
  ["proc_macro", "proc_macro_attribute", "proc_macro_derive"]

/-- The name of an attribute, given the tokens inside its brackets. -/
def attributeName? (body : List Token) : Option (List Char) :=
  body.head?.map Token.text

/-- What may stand in front of an item: a documentation comment, or an attribute that does not make
a function a macro. -/
inductive Decoration where
  | doc (comment : Fragment [])
      (hcomment : ∃ token, comment.tokens = [token] ∧ token.cls = .outerDoc)
  | brackets (body : Fragment [])
      (hbody : ∀ name ∈ attributeName? body.tokens, ∀ text ∈ macroAttributes, name ≠ text.toList)

/-- A written visibility: none, `pub`, or `pub` with a scope in parentheses. -/
inductive Access where
  | inherited
  | everywhere
  | restricted (scope : Fragment [])

/-- The keywords of items that end with a semicolon or a body in braces. -/
inductive BlockKeyword where
  | struct
  | enumeration
  | union
  | trait
  | moduleItem
  | function

/-- The keywords of items with a value after an equals sign, which end with a semicolon. -/
inductive ValueKeyword where
  | constant
  | staticItem
  | mutableStatic
  | typeAlias

/-- The forms of items, without what may stand in front of them:
* `struct N;`, `struct N {B}`, `struct N (B);`, `enum N {B}`, `mod N;`, `fn N (B) {B}` and so on,
* `const N: B = B;`, `static mut N: B = B;`, `type N = B;` and so on,
* `macro_rules! N {B}`,
* `impl H {B}`. -/
inductive Form where
  | block (keyword : BlockKeyword) (name : Name) (arguments? body? : Option (Fragment []))
  | value (keyword : ValueKeyword) (name : Name) (type? : Option (Fragment [";"]))
      (content : Fragment [";"])
  | macroRules (name : Name) (body : Fragment [])
  | implementation (head : Fragment ["\x7b", ";"]) (body : Fragment [])

structure Item where
  decorations : List Decoration
  access : Access
  form : Form

/-! ### Writing -/

namespace Piece

/-- The text of a piece. Something blank ends it. -/
def write : Piece → List Char
  | word text _ => text ++ [' ']
  | mark c _ => [c, ' ']
  | group left right _ body => left :: (body.text ++ ['\n'] ++ [right])
  | run body => body.text ++ ['\n']

def faces : Piece → List Face
  | word text _ => [.word text]
  | mark c _ => [.mark [c]]
  | group left right _ body => Face.group left right (body.tokens.map Token.face)
  | run body => body.tokens.map Token.face

end Piece

def braces (body : Fragment []) : Piece :=
  .group '\x7b' '\x7d' rfl body

def parentheses (body : Fragment []) : Piece :=
  .group '(' ')' rfl body

def Decoration.pieces : Decoration → List Piece
  | doc comment _ => [.run comment]
  | brackets body _ => [.mark '#' (by decide), .group '[' ']' rfl body]

def Access.pieces : Access → List Piece
  | inherited => []
  | everywhere => [.word ['p', 'u', 'b'] rfl]
  | restricted scope => [.word ['p', 'u', 'b'] rfl, parentheses scope]

def BlockKeyword.text : BlockKeyword → List Char
  | struct => ['s', 't', 'r', 'u', 'c', 't']
  | enumeration => ['e', 'n', 'u', 'm']
  | union => ['u', 'n', 'i', 'o', 'n']
  | trait => ['t', 'r', 'a', 'i', 't']
  | moduleItem => ['m', 'o', 'd']
  | function => ['f', 'n']

theorem BlockKeyword.isWordText_text (keyword : BlockKeyword) : isWordText keyword.text := by
  cases keyword <;> rfl

def ValueKeyword.text : ValueKeyword → List Char
  | constant => ['c', 'o', 'n', 's', 't']
  | staticItem => ['s', 't', 'a', 't', 'i', 'c']
  | mutableStatic => ['s', 't', 'a', 't', 'i', 'c']
  | typeAlias => ['t', 'y', 'p', 'e']

theorem ValueKeyword.isWordText_text (keyword : ValueKeyword) : isWordText keyword.text := by
  cases keyword <;> rfl

def ValueKeyword.qualifiers : ValueKeyword → List Piece
  | mutableStatic => [.word ['m', 'u', 't'] rfl]
  | _ => []

def Name.piece (name : Name) : Piece :=
  .word name.text name.isWord

def Form.pieces : Form → List Piece
  | block keyword name arguments? body? =>
    .word keyword.text keyword.isWordText_text :: name.piece ::
      ((arguments?.map parentheses).toList ++
        [(body?.map braces).getD (.mark ';' (by decide))])
  | value keyword name type? content =>
    .word keyword.text keyword.isWordText_text :: (keyword.qualifiers ++ name.piece ::
      ((type?.map fun type => [Piece.mark ':' (by decide), .run type]).getD [] ++
        [.mark '=' (by decide), .run content, .mark ';' (by decide)]))
  | macroRules name body =>
    [.word "macro_rules".toList (by decide), .mark '!' (by decide), name.piece, braces body]
  | implementation head body => [.word ['i', 'm', 'p', 'l'] rfl, .run head, braces body]

def Item.pieces (item : Item) : List Piece :=
  item.decorations.flatMap Decoration.pieces ++ (item.access.pieces ++ item.form.pieces)

/-- The text of some items, each on a line of its own. -/
def writeItems (items : List Item) : List Char :=
  items.flatMap fun item => '\n' :: item.pieces.flatMap Piece.write

def Item.faces (item : Item) : List Face :=
  item.pieces.flatMap Piece.faces

/-- A source is a writing of the items if its tokens are theirs, one item after the other. It may
have any layout, and any comments that are no documentation. -/
def IsWriting (items : List Item) (code : String) : Prop :=
  ∃ tokens, tokenize code.toList = .ok tokens ∧ tokens.map Token.face = items.flatMap Item.faces

/-! ### What items declare -/

def Access.visibility : Access → Visibility
  | inherited => .inherited
  | everywhere => .everywhere
  | restricted _ => .restricted

def BlockKeyword.kind : BlockKeyword → SymbolKind
  | struct => .struct
  | enumeration => .enumeration
  | union => .union
  | trait => .trait
  | moduleItem => .moduleItem
  | function => .function

def ValueKeyword.kind : ValueKeyword → SymbolKind
  | constant => .constant
  | staticItem => .staticItem
  | mutableStatic => .staticItem
  | typeAlias => .typeAlias

def Decoration.name? : Decoration → Option (List Char)
  | doc _ _ => none
  | brackets body _ => attributeName? body.tokens

/-- The identifier of a name, which has no mark of a raw identifier. -/
def Name.ident (name : Name) : String :=
  String.ofList (plainName name.text)

/-- The node of a form behind a visibility and attributes with the given names. Only a macro with
the attribute `macro_export` is exported. -/
def Form.node? (visibility : Visibility) (names : List (List Char)) : Form → Option Node
  | block keyword name _ _ => some (.item { kind := keyword.kind, ident := name.ident, visibility })
  | value keyword name _ _ => some (.item { kind := keyword.kind, ident := name.ident, visibility })
  | macroRules name _ => some (.item {
      kind := .textMacro, ident := name.ident, visibility
      exported := names.any fun name => name = "macro_export".toList })
  | implementation _ _ => none

/-- The node of an item, without its place. -/
def Item.node? (item : Item) : Option Node :=
  item.form.node? item.access.visibility (item.decorations.filterMap Decoration.name?)

/-! ### Written items are accepted -/

/-- A piece is spelled by its tokens. -/
theorem Piece.spells_write (piece : Piece) : Spells Anywhere piece.write piece.faces := by
  cases piece with
  | word text hword =>
      exact (Spells.word hword).append (.blank rfl) fun _ _ => rfl
  | mark c hmark =>
      have hc : Spells (fun rest => ∃ more, rest = ' ' :: more) [c] [.mark [c]] := by
        refine .of_nextStretch (fun index rest hrest => ?_) (by decide)
        obtain ⟨more, rfl⟩ := hrest
        simp only [List.mem_cons, List.not_mem_nil, or_false] at hmark
        rcases hmark with rfl | rfl | rfl | rfl | rfl <;> rfl
      exact hc.append (.blank rfl) fun rest _ => ⟨rest, rfl⟩
  | group left right hpartner body =>
      exact (Spells.of_tokensFrom body.accepted).group hpartner fun _ => trivial
  | run body => exact .of_tokensFrom body.accepted

theorem spells_flatMap {α : Type} {write : α → List Char} {faces : α → List Face}
    (hspells : ∀ part, Spells Anywhere (write part) (faces part)) (parts : List α) :
    Spells Anywhere (parts.flatMap write) (parts.flatMap faces) := by
  induction parts with
  | nil => exact .nil Anywhere
  | cons part parts ih => exact (hspells part).append ih fun _ _ => trivial

theorem isWriting_writeItems (items : List Item) :
    IsWriting items (String.ofList (writeItems items)) := by
  have hitem (item : Item) :
      Spells Anywhere ('\n' :: item.pieces.flatMap Piece.write) item.faces :=
    (Spells.blank (c := '\n') rfl).append (spells_flatMap Piece.spells_write item.pieces)
      fun _ _ => trivial
  have hshebang : shebangSize (writeItems items) = 0 := by
    cases items with
    | nil => rfl
    | cons item items => rfl
  rw [IsWriting, String.toList_ofList]
  exact (spells_flatMap hitem items).tokenize trivial hshebang

end CrateReadme.Source
