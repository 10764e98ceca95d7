import CrateReadme.Source.Lexer
import CrateReadme.Source.UseTree
import CrateReadme.Text.Basic

/-!
# The outline of a crate root

The outline holds the documentation fragments of the crate and its top-level declarations in source
order. Bodies are skipped by their brackets. Unknown syntax is passed over one token, or one bracket
group, at a time, so reading always reaches the end.

Documentation is written behind comment markers, usually after a space. The indentation that all
lines with text share is removed.
-/

namespace CrateReadme.Source

/-! ### Documentation -/

/-- The number of white space characters at the start of a line. -/
def indentation (line : List Char) : Nat :=
  (line.takeWhile Text.isBlank).length

/-- Whether a line holds white space only. -/
def isBlankLine (line : List Char) : Bool :=
  line.all Text.isBlank

/-- The least indentation of the lines that hold text; zero if there is none. -/
def sharedIndentation (lines : List (List Char)) : Nat :=
  (((lines.filter fun line => !isBlankLine line).map indentation).min?).getD 0

/-- A text without the indentation that all its lines with text share. Lines without text become
empty when there is anything to remove. -/
def unindent (text : List Char) : List Char :=
  let lines := Text.lines text
  match sharedIndentation lines with
  | 0 => text
  | shared =>
    Text.unlines (lines.map fun line => if isBlankLine line then [] else line.drop shared)

/-! ### Declarations -/

/-- An outer attribute: its first token and the tokens after it. -/
structure Attribute where
  name : List Char
  arguments : List Cell

/-- The attributes in front of a declaration, and what follows them. Documentation comments between
them are passed over. -/
def readAttributes (cells : List Cell) : List Attribute × List Cell :=
  match cells with
  | [] => ([], [])
  | cell :: rest =>
    if cell.token.cls = .outerDoc then
      readAttributes rest
    else if cell.reads "#" && readsAt rest "[" 0 then
      let (attributes, after) := readAttributes (afterGroup rest)
      match groupBody rest with
      | [] => (attributes, after)
      | first :: arguments => (⟨first.token.text, arguments⟩ :: attributes, after)
    else
      ([], cell :: rest)
termination_by cells.length
decreasing_by
  · simp
  · cases rest with
    | nil => simp [afterGroup]
    | cons next more =>
      have := afterGroup_length_le next more
      simp only [List.length_cons]
      omega

theorem readAttributes_length_le (cells : List Cell) :
    (readAttributes cells).2.length ≤ cells.length := by
  fun_induction readAttributes cells with
  | case1 => simp
  | case2 cell rest _ ih =>
    simp only [List.length_cons]
    omega
  | case3 cell rest _ _ attributes after hrest _ ih =>
    cases rest with
    | nil => simp_all [afterGroup]
    | cons next more =>
      have := afterGroup_length_le next more
      simp_all only [List.length_cons]
      omega
  | case4 cell rest _ _ attributes after hrest first arguments _ ih =>
    cases rest with
    | nil => simp_all [afterGroup]
    | cons next more =>
      have := afterGroup_length_le next more
      simp_all only [List.length_cons]
      omega
  | case5 => simp

/-- The visibility in front of a declaration, and what follows it. -/
def readVisibility (cells : List Cell) : Visibility × List Cell :=
  match cells with
  | [] => (.inherited, [])
  | cell :: rest =>
    if cell.reads "pub" then
      if readsAt rest "(" 0 then (.restricted, afterGroup rest) else (.everywhere, rest)
    else
      (.inherited, cell :: rest)

theorem readVisibility_length_le (cells : List Cell) :
    (readVisibility cells).2.length ≤ cells.length := by
  unfold readVisibility
  split
  · simp
  · rename_i cell rest
    split
    · split
      · cases rest with
        | nil => simp [afterGroup]
        | cons next more =>
          have := afterGroup_length_le next more
          simp only [List.length_cons]
          omega
      · simp
    · simp

/-- Words that may stand between the visibility and the keyword of a declaration. -/
def isQualifier (cell : Cell) : Bool :=
  ["default", "unsafe", "async", "auto", "safe"].any cell.reads

def afterFunctionQualifiers (cells : List Cell) : List Cell :=
  if readsAt cells "const" 0 && ["fn", "unsafe", "async", "extern"].any (readsAt cells · 1) then
    (cells.drop 1).dropWhile isQualifier
  else
    cells

/-- What follows the calling convention of a function. -/
def afterConvention (cells : List Cell) : List Cell :=
  if readsAt cells "extern" 0 then
    if classAt cells 1 = some .literal then cells.drop 2
    else if readsAt cells "fn" 1 then cells.drop 1
    else cells
  else
    cells

def fromKeyword (cells : List Cell) : List Cell :=
  afterConvention (afterFunctionQualifiers (cells.dropWhile isQualifier))

theorem dropWhile_length_le {α : Type} (p : α → Bool) (xs : List α) :
    (xs.dropWhile p).length ≤ xs.length :=
  (List.dropWhile_sublist p).length_le

theorem fromKeyword_length_le (cells : List Cell) :
    (fromKeyword cells).length ≤ cells.length := by
  have hqualified := dropWhile_length_le isQualifier cells
  unfold fromKeyword
  generalize cells.dropWhile isQualifier = qualified at *
  have hfunction : (afterFunctionQualifiers qualified).length ≤ qualified.length := by
    unfold afterFunctionQualifiers
    split
    · have := dropWhile_length_le isQualifier (qualified.drop 1)
      simp only [List.length_drop] at this
      omega
    · exact Nat.le_refl _
  generalize afterFunctionQualifiers qualified = function at *
  have hconvention : (afterConvention function).length ≤ function.length := by
    unfold afterConvention
    split
    · split
      · simp
      · split <;> simp
    · exact Nat.le_refl _
  omega

/-- The kind of a declaration with a body in braces, by its keyword. The word `union` is a keyword
only in front of a name. -/
def bodyItem? (keyword : Cell) (rest : List Cell) : Option SymbolKind :=
  if keyword.reads "struct" then some .struct
  else if keyword.reads "enum" then some .enumeration
  else if keyword.reads "trait" then some .trait
  else if keyword.reads "mod" then some .moduleItem
  else if keyword.reads "union" && classAt rest 0 = some .word then some .union
  else none

/-- The kind of a declaration that ends in a semicolon, by its keyword. -/
def valueItem? (keyword : Cell) : Option SymbolKind :=
  if keyword.reads "const" then some .constant
  else if keyword.reads "static" then some .staticItem
  else if keyword.reads "type" then some .typeAlias
  else none

/-- Whether an equals sign comes before the body, the semicolon or the bounds of a trait. -/
def isTraitAlias (cells : List Cell) : Bool :=
  match cells with
  | [] => false
  | cell :: rest =>
    if cell.reads "\x7b" || cell.reads ";" || cell.reads "where" then
      false
    else if cell.reads "=" then
      true
    else if cell.token.cls = .opening then
      isTraitAlias (afterGroup (cell :: rest))
    else
      isTraitAlias rest
termination_by cells.length
decreasing_by
  · exact Nat.lt_succ_of_le (afterGroup_length_le cell rest)
  · simp

def declared (kind : SymbolKind) (visibility : Visibility) (exported : Bool)
    (name : List Char) : Node :=
  .item { kind, ident := String.ofList name, visibility, exported }

/-- What a function declares: itself, or the macro that its attributes say it implements. -/
def functionNode? (attributes : List Attribute) (visibility : Visibility) (name : List Char) :
    Option Node :=
  let attribute? (wanted : String) : Option Attribute :=
    attributes.reverse.find? fun attr => attr.name = wanted.toList
  if (attribute? "proc_macro").isSome then
    some (declared .textMacro visibility true name)
  else if (attribute? "proc_macro_attribute").isSome then
    some (declared .attributeMacro visibility true name)
  else
    match attribute? "proc_macro_derive" with
    | some attr =>
      match attr.arguments[1]? with
      | some cell =>
        if cell.token.cls = .word then
          some (declared .deriveMacro visibility true cell.token.text)
        else
          none
      | none => none
    | none => some (declared .function visibility false name)

/-- The node that renames a crate. Without a new name, or with the name `_`, there is none. -/
def crateAliasNode? (visibility : Visibility) (cells : List Cell) : Option Node :=
  if readsAt cells "as" 3 then
    match nameAt? cells 2, nameAt? cells 4 with
    | some crate, some newName =>
      if newName = ['_'] then
        none
      else
        some (.item
          { kind := .crateAlias, ident := String.ofList newName, visibility,
            aliasOf := some (String.ofList crate) })
    | _, _ => none
  else
    none

def afterMacroCall (cells : List Cell) : List Cell :=
  let cells := if classAt cells 0 = some .word then cells.drop 1 else cells
  if classAt cells 0 = some .opening then
    let after := afterGroup cells
    if !readsAt cells "\x7b" 0 && readsAt after ";" 0 then after.drop 1 else after
  else
    cells

theorem afterMacroCall_length_le (cells : List Cell) :
    (afterMacroCall cells).length ≤ cells.length := by
  have hgroup (xs : List Cell) : (afterGroup xs).length ≤ xs.length := by
    cases xs with
    | nil => simp [afterGroup]
    | cons cell rest => exact Nat.le_succ_of_le (afterGroup_length_le cell rest)
  have hword : (if classAt cells 0 = some TokenClass.word then cells.drop 1 else cells).length ≤
      cells.length := by
    split <;> simp
  unfold afterMacroCall
  simp only
  generalize (if classAt cells 0 = some TokenClass.word then cells.drop 1 else cells) = inner at *
  have := hgroup inner
  split
  · split
    · simp only [List.length_drop]
      omega
    · omega
  · exact hword

/-- Reads one declaration from its keyword on. The answer holds the node that it makes, if any, and
what follows the declaration. -/
def readKeyword (attributes : List Attribute) (visibility : Visibility) (keyword : Cell)
    (rest : List Cell) : Option Node × List Cell :=
  let cells := keyword :: rest
  if keyword.reads "fn" then
    ((nameAt? cells 1).bind (functionNode? attributes visibility), afterBody cells)
  else
  match bodyItem? keyword rest with
  | some kind =>
    if kind = .trait && isTraitAlias (cells.drop 2) then
      ((nameAt? cells 1).map (declared .traitAlias visibility false), afterSemicolon cells)
    else
      ((nameAt? cells 1).map (declared kind visibility false), afterBody cells)
  | none =>
  match valueItem? keyword with
  | some kind =>
    let place := if kind = .staticItem && readsAt cells "mut" 1 then 2 else 1
    let name? := (nameAt? cells place).filter (· ≠ ['_'])
    (name?.map (declared kind visibility false), afterSemicolon cells)
  | none =>
  if keyword.reads "use" then
    let (tree?, after) := UseTree.read rest
    (tree?.map fun tree => .use { tree, visibility }, afterSemicolon after)
  else if keyword.reads "extern" && readsAt cells "crate" 1 then
    (crateAliasNode? visibility cells, afterSemicolon cells)
  else if keyword.reads "macro_rules" && readsAt cells "!" 1 then
    let exported := attributes.any fun attr => attr.name = "macro_export".toList
    ((nameAt? cells 2).map (declared .textMacro visibility exported), afterBody (cells.drop 2))
  else if keyword.reads "macro" && classAt cells 1 = some .word then
    ((nameAt? cells 1).map (declared .textMacro visibility visibility.isPublic), afterBody cells)
  else if keyword.reads "impl" || keyword.reads "extern" then
    (none, afterBody cells)
  else if keyword.token.cls = .word && readsAt cells "!" 1 then
    (none, afterMacroCall (cells.drop 2))
  else if keyword.token.cls = .opening then
    (none, afterGroup cells)
  else
    (none, rest)

theorem ite_length_le {condition : Prop} [Decidable condition] {left right : Option Node × List Cell}
    {bound : Nat} (hleft : left.2.length ≤ bound) (hright : right.2.length ≤ bound) :
    (if condition then left else right).2.length ≤ bound := by
  split
  · exact hleft
  · exact hright

theorem readKeyword_length_le (attributes : List Attribute) (visibility : Visibility)
    (keyword : Cell) (rest : List Cell) :
    (readKeyword attributes visibility keyword rest).2.length ≤ rest.length := by
  have hbody := afterBody_cons_length_le keyword rest
  have hsemicolon := afterSemicolon_cons_length_le keyword rest
  have hgroup := afterGroup_length_le keyword rest
  have htree : (afterSemicolon (UseTree.read rest).2).length ≤ rest.length :=
    Nat.le_trans (afterSemicolon_length_le _) (UseTree.read_length_le rest)
  have hrules : (afterBody (rest.drop 1)).length ≤ rest.length :=
    Nat.le_trans (afterBody_length_le _) (by simp)
  have hcall : (afterMacroCall (rest.drop 1)).length ≤ rest.length :=
    Nat.le_trans (afterMacroCall_length_le _) (by simp)
  rw [readKeyword]
  refine ite_length_le hbody ?_
  cases bodyItem? keyword rest with
  | some kind => exact ite_length_le hsemicolon hbody
  | none =>
    cases valueItem? keyword with
    | some kind => exact hsemicolon
    | none =>
      refine ite_length_le htree (ite_length_le hsemicolon (ite_length_le hrules ?_))
      refine ite_length_le hbody (ite_length_le hbody (ite_length_le hcall ?_))
      exact ite_length_le hgroup (Nat.le_refl _)

/-- Reads one declaration with its attributes and visibility. -/
def readItem (cells : List Cell) : Option Node × List Cell :=
  let (attributes, afterAttributes) := readAttributes cells
  let (visibility, afterVisibility) := readVisibility afterAttributes
  match fromKeyword afterVisibility with
  | [] => (none, [])
  | keyword :: rest => readKeyword attributes visibility keyword rest

theorem readItem_length_lt (cell : Cell) (rest : List Cell) :
    (readItem (cell :: rest)).2.length ≤ rest.length := by
  have hattributes := readAttributes_length_le (cell :: rest)
  have hvisibility := readVisibility_length_le (readAttributes (cell :: rest)).2
  have hkeyword := fromKeyword_length_le (readVisibility (readAttributes (cell :: rest)).2).2
  unfold readItem
  simp only
  split
  · simp
  · rename_i keyword following heq
    have := readKeyword_length_le (readAttributes (cell :: rest)).1
      (readVisibility (readAttributes (cell :: rest)).2).1 keyword following
    rw [heq] at hkeyword
    simp only [List.length_cons] at *
    omega

/-- The bytes from the start of the first cell to the end of the last one before `after`. -/
def spanUpTo (code : List Char) (cells after : List Cell) : Option Span := do
  let first ← cells[0]?
  let last ← cells[cells.length - after.length - 1]?
  return ⟨byteOffset code first.token.start, byteOffset code last.token.stop⟩

def Node.withSpan (span : Option Span) : Node → Node
  | .item declaration => .item { declaration with span }
  | .use declaration => .use { declaration with span }

/-- What is known of a crate root: the fragments of its documentation, its declarations, and the
documentation attributes whose value is a macro call. -/
structure Outline where
  docs : List (List Char) := []
  nodes : List Node := []
  unexpanded : List Span := []

/-- The effect of an inner attribute, given the tokens inside its brackets and its place. Only
`doc = value` counts; a value that is not one string literal is a macro call. -/
def Outline.addAttribute (body : List Cell) (span : Option Span) (outline : Outline) : Outline :=
  match body with
  | name :: equals :: first :: more =>
    if name.reads "doc" && equals.reads "=" then
      match more, first.token.cls, first.token.value with
      | [], .literal, some text => { outline with docs := text :: outline.docs }
      | _, _, _ => { outline with unexpanded := span.toList ++ outline.unexpanded }
    else
      outline
  | _ => outline

/-- The outline of the tokens in `cells`. -/
def Outline.ofCells (code : List Char) (cells : List Cell) : Outline :=
  match cells with
  | [] => {}
  | cell :: rest =>
    if cell.token.cls = .innerDoc then
      let outline := ofCells code rest
      { outline with docs := cell.token.value.getD [] :: outline.docs }
    else if cell.reads "#" && readsAt rest "!" 0 && readsAt rest "[" 1 then
      let after := afterGroup (rest.drop 1)
      (ofCells code after).addAttribute (groupBody (rest.drop 1))
        (spanUpTo code (cell :: rest) after)
    else
      let item := readItem (cell :: rest)
      let outline := ofCells code item.2
      match item.1 with
      | some node =>
        let node := node.withSpan (spanUpTo code (cell :: rest) item.2)
        { outline with nodes := node :: outline.nodes }
      | none => outline
termination_by cells.length
decreasing_by
  · simp
  · cases rest with
    | nil => simp [afterGroup]
    | cons mark more =>
      cases more with
      | nil => simp [afterGroup]
      | cons bracket more =>
        have := afterGroup_length_le bracket more
        simp only [List.drop_succ_cons, List.drop_zero, List.length_cons]
        omega
  · exact Nat.lt_succ_of_le (readItem_length_lt cell rest)

/-- A source that has been read: the documentation of the crate, its declarations in source order,
and the places of documentation attributes that hold an unexpanded macro call. -/
structure SourceUnit where
  docs : String := ""
  nodes : List Node := []
  unexpanded : List Span := []

def read (code : String) : Except ReadError SourceUnit := do
  let chars := code.toList
  let tokens ← tokenize chars
  let outline := Outline.ofCells chars (cellsOf tokens)
  return {
    docs := String.ofList (unindent (Text.unlines outline.docs))
    nodes := outline.nodes
    unexpanded := outline.unexpanded }

end CrateReadme.Source
