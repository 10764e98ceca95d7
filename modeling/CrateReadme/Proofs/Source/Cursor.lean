import CrateReadme.Proofs.Source.Nesting
import CrateReadme.Source.Outline

/-!
# Reading with a cursor

The outline of a crate root can also be read by moving a cursor over the tokens, with a table that
gives the partner of every opening bracket. Such a reader looks up places and partners that need not
exist, and its loops need not end; both are failures here. A loop ends because each of its rounds
moves the cursor forward, so a round that does not is the failure. On the tokens of an accepted
source the reader does not fail, and it finds the same outline.
-/

namespace CrateReadme.Source

/-- Extends a table of brackets by those among the tokens from `index` on; `unclosed` holds the
places of the open brackets, the innermost first. A closing bracket without an open one is a
failure. -/
def partnersFrom (index : Nat) (unclosed : List Nat) (found : Nat → Option Nat) :
    List Token → Option (Nat → Option Nat)
  | [] => some found
  | token :: tokens =>
    if token.cls = .opening then
      partnersFrom (index + 1) (index :: unclosed) found tokens
    else if token.cls = .closing then
      match unclosed with
      | [] => none
      | opening :: outer =>
        partnersFrom (index + 1) outer
          (fun place => if place = opening then some index else found place) tokens
    else
      partnersFrom (index + 1) unclosed found tokens

/-- The tokens that a cursor moves over, and the partners of their opening brackets. -/
structure Tape where
  cells : List Cell
  partner? : Nat → Option Nat

theorem exists_cell_of_readsAt {cells : List Cell} {text : String} {place : Nat}
    (hreads : readsAt cells text place) :
    ∃ cell, cells[place]? = some cell ∧ cell.reads text := by
  unfold readsAt at hreads
  split at hreads
  · exact ⟨_, ‹_›, hreads⟩
  · cases hreads

theorem lt_of_readsAt {cells : List Cell} {text : String} {place : Nat}
    (hreads : readsAt cells text place) : place < cells.length := by
  obtain ⟨cell, hcell, -⟩ := exists_cell_of_readsAt hreads
  exact (List.getElem?_eq_some_iff.mp hcell).1

namespace Tape

def ofTokens? (tokens : List Token) : Option Tape :=
  (partnersFrom 0 [] (fun _ => none) tokens).map fun partner? => ⟨cellsOf tokens, partner?⟩

variable (tape : Tape)

def afterGroup (place : Nat) : Option Nat :=
  (tape.partner? place).map (· + 1)

/-- The place behind the next semicolon outside brackets. -/
def afterSemicolon (place : Nat) : Option Nat :=
  if tape.cells.length ≤ place then
    some place
  else do
    let cell ← tape.cells[place]?
    if cell.token.cls = .opening then
      let after ← tape.afterGroup place
      if place < after then afterSemicolon after else none
    else if cell.reads ";" then
      some (place + 1)
    else
      afterSemicolon (place + 1)
termination_by tape.cells.length - place
decreasing_by all_goals omega

/-- The place behind the next semicolon or braces group outside other brackets. -/
def afterBody (place : Nat) : Option Nat :=
  if tape.cells.length ≤ place then
    some place
  else do
    let cell ← tape.cells[place]?
    if cell.reads "\x7b" then
      tape.afterGroup place
    else if cell.token.cls = .opening then
      let after ← tape.afterGroup place
      if place < after then afterBody after else none
    else if cell.reads ";" then
      some (place + 1)
    else
      afterBody (place + 1)
termination_by tape.cells.length - place
decreasing_by all_goals omega

/-- The attributes from a place on, and the place behind them. -/
def readAttributes (place : Nat) : Option (List Attribute × Nat) :=
  if tape.cells.length ≤ place then
    some ([], place)
  else do
    let cell ← tape.cells[place]?
    if cell.token.cls = .outerDoc then
      readAttributes (place + 1)
    else if cell.reads "#" && readsAt tape.cells "[" (place + 1) then
      let close ← tape.partner? (place + 1)
      if place ≤ close then
        let (attributes, after) ← readAttributes (close + 1)
        match (tape.cells.take close).drop (place + 2) with
        | [] => return (attributes, after)
        | first :: arguments => return (⟨first.token.text, arguments⟩ :: attributes, after)
      else
        none
    else
      return ([], place)
termination_by tape.cells.length - place
decreasing_by all_goals omega

/-- The visibility at a place, and the place behind it. -/
def readVisibility (place : Nat) : Option (Visibility × Nat) :=
  if readsAt tape.cells "pub" place then
    if readsAt tape.cells "(" (place + 1) then
      (tape.afterGroup (place + 1)).map fun after => (.restricted, after)
    else
      some (.everywhere, place + 1)
  else
    some (.inherited, place)

def afterQualifiers (place : Nat) : Option Nat :=
  if tape.cells.length ≤ place then
    some place
  else do
    let cell ← tape.cells[place]?
    if isQualifier cell then afterQualifiers (place + 1) else some place
termination_by tape.cells.length - place
decreasing_by all_goals omega

def afterFunctionQualifiers (place : Nat) : Option Nat :=
  if readsAt tape.cells "const" place &&
      ["fn", "unsafe", "async", "extern"].any (readsAt tape.cells · (place + 1)) then
    tape.afterQualifiers (place + 1)
  else
    some place

/-- The place behind the calling convention of a function. -/
def afterConvention (place : Nat) : Nat :=
  if readsAt tape.cells "extern" place then
    if classAt tape.cells (place + 1) = some .literal then place + 2
    else if readsAt tape.cells "fn" (place + 1) then place + 1
    else place
  else
    place

/-- The place of the keyword of a declaration whose visibility was read. -/
def keywordPlace (place : Nat) : Option Nat := do
  let qualified ← tape.afterQualifiers place
  let function ← tape.afterFunctionQualifiers qualified
  return tape.afterConvention function

/-- Whether an equals sign comes before the body, the semicolon or the bounds of a trait. -/
def isTraitAlias (place : Nat) : Option Bool :=
  if tape.cells.length ≤ place then
    some false
  else do
    let cell ← tape.cells[place]?
    if cell.reads "\x7b" || cell.reads ";" || cell.reads "where" then
      some false
    else if cell.reads "=" then
      some true
    else if cell.token.cls = .opening then
      let after ← tape.afterGroup place
      if place < after then isTraitAlias after else none
    else
      isTraitAlias (place + 1)
termination_by tape.cells.length - place
decreasing_by all_goals omega

/-- The place behind a macro call at the top level. -/
def afterMacroCall (place : Nat) : Option Nat :=
  let place := if classAt tape.cells place = some .word then place + 1 else place
  if classAt tape.cells place = some .opening then
    (tape.afterGroup place).map fun after =>
      if !readsAt tape.cells "\x7b" place && readsAt tape.cells ";" after then after + 1 else after
  else
    some place

mutual

/-- The tree at a place, if there is one, and the place behind it. -/
def readTree (place : Nat) : Option (Option UseTree × Nat) :=
  if tape.cells.length ≤ place then
    some (none, place)
  else do
    let cell ← tape.cells[place]?
    if cell.reads "::" then
      match tape.cells[place + 1]? with
      | some next =>
        if next.token.cls = .word then
          readTreeAfterWord (':' :: ':' :: next.token.text) (place + 2)
        else
          readTree (place + 1)
      | none => readTree (place + 1)
    else if cell.reads "*" then
      some (some .glob, place + 1)
    else if cell.reads "\x7b" then
      let close ← tape.partner? place
      let members ← readMembers close (place + 1)
      return (some (.group members), close + 1)
    else if cell.token.cls = .word then
      readTreeAfterWord cell.token.text (place + 1)
    else
      some (none, place)
termination_by (tape.cells.length - place, 0)
decreasing_by all_goals exact Prod.Lex.left _ _ (by omega)

def readTreeAfterWord (text : List Char) (place : Nat) : Option (Option UseTree × Nat) :=
  let ident := String.ofList (plainName text)
  if readsAt tape.cells "::" place then do
    let (tail?, after) ← readTree (place + 1)
    return (tail?.map (.path ident), after)
  else if readsAt tape.cells "as" place then
    some ((nameAt? tape.cells (place + 1)).map fun newName => .rename ident (String.ofList newName),
      place + 2)
  else
    some (some (.name ident), place)
termination_by (tape.cells.length - place, 0)
decreasing_by
  have := lt_of_readsAt ‹_›
  omega

/-- The members of a group that closes at `close`, from a place on. A group that closes behind the
last token is a failure. -/
def readMembers (close place : Nat) : Option (List UseTree) :=
  if close ≤ place then
    some []
  else if tape.cells.length ≤ close then
    none
  else if readsAt tape.cells "," place then
    readMembers close (place + 1)
  else do
    let (member?, after) ← readTree place
    if place ≤ after then
      let following ← readMembers close (if after = place then place + 1 else after)
      return member?.toList ++ following
    else
      none
termination_by (tape.cells.length - place, 1)
decreasing_by
  · exact Prod.Lex.left _ _ (by omega)
  · exact Prod.Lex.right _ (by omega)
  · refine Prod.Lex.left _ _ ?_
    split <;> omega

end

/-- The node of the declaration whose keyword stands at a place, if there is one, and the place
behind the declaration. -/
def readKeyword (attributes : List Attribute) (visibility : Visibility) (place : Nat) :
    Option (Option Node × Nat) := do
  let keyword ← tape.cells[place]?
  let rest := tape.cells.drop (place + 1)
  if keyword.reads "fn" then
    let after ← tape.afterBody place
    return ((nameAt? tape.cells (place + 1)).bind (functionNode? attributes visibility), after)
  else
  match bodyItem? keyword rest with
  | some kind =>
    let isAlias ← if kind = .trait then tape.isTraitAlias (place + 2) else some false
    if isAlias then
      let after ← tape.afterSemicolon place
      return ((nameAt? tape.cells (place + 1)).map (declared .traitAlias visibility false), after)
    else
      let after ← tape.afterBody place
      return ((nameAt? tape.cells (place + 1)).map (declared kind visibility false), after)
  | none =>
  match valueItem? keyword with
  | some kind =>
    let offset := if kind = .staticItem && readsAt tape.cells "mut" (place + 1) then 2 else 1
    let name? := (nameAt? tape.cells (place + offset)).filter (· ≠ ['_'])
    let after ← tape.afterSemicolon place
    return (name?.map (declared kind visibility false), after)
  | none =>
  if keyword.reads "use" then
    let (tree?, behind) ← tape.readTree (place + 1)
    let after ← tape.afterSemicolon behind
    return (tree?.map fun tree => .use { tree, visibility }, after)
  else if keyword.reads "extern" && readsAt tape.cells "crate" (place + 1) then
    let after ← tape.afterSemicolon place
    return (crateAliasNode? visibility (tape.cells.drop place), after)
  else if keyword.reads "macro_rules" && readsAt tape.cells "!" (place + 1) then
    let exported := attributes.any fun attr => attr.name = "macro_export".toList
    let after ← tape.afterBody (place + 2)
    return ((nameAt? tape.cells (place + 2)).map (declared .textMacro visibility exported), after)
  else if keyword.reads "macro" && classAt tape.cells (place + 1) = some .word then
    let after ← tape.afterBody place
    return ((nameAt? tape.cells (place + 1)).map
      (declared .textMacro visibility visibility.isPublic), after)
  else if keyword.reads "impl" || keyword.reads "extern" then
    let after ← tape.afterBody place
    return (none, after)
  else if keyword.token.cls = .word && readsAt tape.cells "!" (place + 1) then
    let after ← tape.afterMacroCall (place + 2)
    return (none, after)
  else if keyword.token.cls = .opening then
    let after ← tape.afterGroup place
    return (none, after)
  else
    return (none, place + 1)

def before? : (place : Nat) → Option Cell
  | 0 => none
  | place + 1 => tape.cells[place]?

/-- The node of the declaration at a place, if there is one, and the place behind it. -/
def readItem (code : List Char) (place : Nat) : Option (Option Node × Nat) := do
  let first ← tape.cells[place]?
  let (attributes, behindAttributes) ← tape.readAttributes place
  let (visibility, behindVisibility) ← tape.readVisibility behindAttributes
  let keyword ← tape.keywordPlace behindVisibility
  if tape.cells.length ≤ keyword then
    return (none, keyword)
  else
    let (node?, after) ← tape.readKeyword attributes visibility keyword
    match node? with
    | none => return (none, after)
    | some node =>
      let last ← tape.before? after
      let span : Span := ⟨byteOffset code first.token.start, byteOffset code last.token.stop⟩
      return (some (node.withSpan span), after)

/-- Reads the outline from a place on. The answer also holds the place where the cursor stops. -/
def scan (code : List Char) (place : Nat) : Option (Outline × Nat) :=
  if tape.cells.length ≤ place then
    some ({}, place)
  else do
    let cell ← tape.cells[place]?
    if cell.token.cls = .innerDoc then
      let (outline, last) ← scan code (place + 1)
      return ({ outline with docs := cell.token.value.getD [] :: outline.docs }, last)
    else if cell.reads "#" && readsAt tape.cells "!" (place + 1) &&
        readsAt tape.cells "[" (place + 2) then
      let close ← tape.partner? (place + 2)
      let closing ← tape.cells[close]?
      let span : Span := ⟨byteOffset code cell.token.start, byteOffset code closing.token.stop⟩
      if place ≤ close then
        let (outline, last) ← scan code (close + 1)
        return (outline.addAttribute ((tape.cells.take close).drop (place + 3)) (some span), last)
      else
        none
    else
      let (node?, after) ← tape.readItem code place
      if place < after then
        let (outline, last) ← scan code after
        return ({ outline with nodes := node?.toList ++ outline.nodes }, last)
      else
        none
termination_by tape.cells.length - place
decreasing_by all_goals omega

end Tape

/-! ### The reader with a cursor does not fail -/

/-- The table of a tape gives the partner of every opening bracket, and what is written like an
opening bracket is one. -/
structure Tape.IsFaithful (tape : Tape) : Prop where
  partner : ∀ (place : Nat) (cell : Cell), tape.cells[place]? = some cell →
    cell.token.cls = .opening →
    tape.partner? place = some (place + cell.extent - 1) ∧ 2 ≤ cell.extent ∧
      place + cell.extent ≤ tape.cells.length
  opening : ∀ (place : Nat) (cell : Cell), tape.cells[place]? = some cell →
    (cell.reads "(" ∨ cell.reads "[" ∨ cell.reads "\x7b") → cell.token.cls = .opening

section Agreement

variable {tape : Tape} {place : Nat}

theorem readsAt_drop (cells : List Cell) (text : String) (place ahead : Nat) :
    readsAt (cells.drop place) text ahead = readsAt cells text (place + ahead) := by
  rw [readsAt, readsAt, List.getElem?_drop]

theorem classAt_drop (cells : List Cell) (place ahead : Nat) :
    classAt (cells.drop place) ahead = classAt cells (place + ahead) := by
  rw [classAt, classAt, List.getElem?_drop]

theorem nameAt?_drop (cells : List Cell) (place ahead : Nat) :
    nameAt? (cells.drop place) ahead = nameAt? cells (place + ahead) := by
  rw [nameAt?, nameAt?, List.getElem?_drop]

theorem readsAt_of_cell {cells : List Cell} {cell : Cell} {place : Nat} (text : String)
    (hcell : cells[place]? = some cell) : readsAt cells text place = cell.reads text := by
  rw [readsAt, hcell]

theorem drop_eq_cons_of_getElem? {α : Type} {items : List α} {item : α} {place : Nat}
    (hitem : items[place]? = some item) : items.drop place = item :: items.drop (place + 1) := by
  obtain ⟨hlt, heq⟩ := List.getElem?_eq_some_iff.mp hitem
  rw [List.drop_eq_getElem_cons hlt, heq]

theorem exists_cell_of_lt (hlt : place < tape.cells.length) :
    ∃ cell, tape.cells[place]? = some cell :=
  ⟨_, List.getElem?_eq_getElem hlt⟩

theorem lt_of_cell {cell : Cell} (hcell : tape.cells[place]? = some cell) :
    place < tape.cells.length :=
  (List.getElem?_eq_some_iff.mp hcell).1

namespace Tape

/-- The cursor goes on from a place to `after`, where the cells `rest` are left. -/
structure Reaches (tape : Tape) (place after : Nat) (rest : List Cell) : Prop where
  drop : tape.cells.drop after = rest
  le : place ≤ after
  inside : place ≤ tape.cells.length → after ≤ tape.cells.length

theorem Reaches.trans {middle after : Nat} {inner rest : List Cell}
    (hfirst : tape.Reaches place middle inner) (hlast : tape.Reaches middle after rest) :
    tape.Reaches place after rest where
  drop := hlast.drop
  le := Nat.le_trans hfirst.le hlast.le
  inside hinside := hlast.inside (hfirst.inside hinside)

theorem reaches_next {cell : Cell} (hcell : tape.cells[place]? = some cell) :
    tape.Reaches place (place + 1) (tape.cells.drop (place + 1)) where
  drop := rfl
  le := Nat.le_succ place
  inside _ := lt_of_cell hcell

theorem reaches_self (tape : Tape) (place : Nat) :
    tape.Reaches place place (tape.cells.drop place) where
  drop := rfl
  le := Nat.le_refl place
  inside := id

theorem afterGroup_eq (htape : tape.IsFaithful) {cell : Cell}
    (hcell : tape.cells[place]? = some cell) (hopening : cell.token.cls = .opening) :
    ∃ after, tape.afterGroup place = some after ∧ place < after ∧
      tape.Reaches place after (Source.afterGroup (tape.cells.drop place)) := by
  obtain ⟨hpartner, hextent, hinside⟩ := htape.partner place cell hcell hopening
  refine ⟨place + cell.extent, ?_, by omega, ?_, by omega, fun _ => hinside⟩
  · rw [afterGroup, hpartner, Option.map_some]
    congr 1
    omega
  · rw [drop_eq_cons_of_getElem? hcell, Source.afterGroup, List.drop_drop]
    congr 1
    omega

/-- Passing a semicolon on the tape is passing it in the cells. -/
theorem afterSemicolon_eq (htape : tape.IsFaithful) (place : Nat) :
    ∃ after, tape.afterSemicolon place = some after ∧
      tape.Reaches place after (Source.afterSemicolon (tape.cells.drop place)) := by
  induction hleft : tape.cells.length - place using Nat.strongRecOn generalizing place with
  | ind left ih =>
      rw [afterSemicolon]
      by_cases hend : tape.cells.length ≤ place
      · refine ⟨place, if_pos hend, ?_⟩
        have hreaches := tape.reaches_self place
        rw [List.drop_of_length_le hend] at hreaches ⊢
        rwa [Source.afterSemicolon]
      · obtain ⟨cell, hcell⟩ := exists_cell_of_lt (Nat.lt_of_not_le hend)
        rw [if_neg hend, hcell, Option.bind_eq_bind, Option.bind_some,
          drop_eq_cons_of_getElem? hcell, Source.afterSemicolon]
        by_cases hopening : cell.token.cls = .opening
        · obtain ⟨behind, hbehind, hlt, hgroup⟩ := afterGroup_eq htape hcell hopening
          obtain ⟨after, hafter, hreaches⟩ := ih _ (by omega) behind rfl
          rw [hgroup.drop, drop_eq_cons_of_getElem? hcell] at hreaches
          refine ⟨after, ?_, ?_⟩
          · rw [if_pos hopening, hbehind, Option.bind_eq_bind, Option.bind_some, if_pos hlt]
            exact hafter
          · rw [if_pos hopening]
            exact hgroup.trans hreaches
        · rw [if_neg hopening, if_neg hopening]
          by_cases hsemicolon : cell.reads ";"
          · rw [if_pos hsemicolon, if_pos hsemicolon]
            exact ⟨place + 1, rfl, reaches_next hcell⟩
          · rw [if_neg hsemicolon, if_neg hsemicolon]
            obtain ⟨after, hafter, hreaches⟩ := ih _ (by omega) (place + 1) rfl
            exact ⟨after, hafter, (reaches_next hcell).trans hreaches⟩

/-- Passing a body on the tape is passing it in the cells. -/
theorem afterBody_eq (htape : tape.IsFaithful) (place : Nat) :
    ∃ after, tape.afterBody place = some after ∧
      tape.Reaches place after (Source.afterBody (tape.cells.drop place)) := by
  induction hleft : tape.cells.length - place using Nat.strongRecOn generalizing place with
  | ind left ih =>
      rw [afterBody]
      by_cases hend : tape.cells.length ≤ place
      · refine ⟨place, if_pos hend, ?_⟩
        have hreaches := tape.reaches_self place
        rw [List.drop_of_length_le hend] at hreaches ⊢
        rwa [Source.afterBody]
      · obtain ⟨cell, hcell⟩ := exists_cell_of_lt (Nat.lt_of_not_le hend)
        rw [if_neg hend, hcell, Option.bind_eq_bind, Option.bind_some,
          drop_eq_cons_of_getElem? hcell, Source.afterBody]
        by_cases hbrace : cell.reads "\x7b"
        · have hopening := htape.opening place cell hcell (Or.inr (Or.inr hbrace))
          obtain ⟨behind, hbehind, -, hgroup⟩ := afterGroup_eq htape hcell hopening
          rw [if_pos hbrace, if_pos hbrace, ← drop_eq_cons_of_getElem? hcell]
          exact ⟨behind, hbehind, hgroup⟩
        rw [if_neg hbrace, if_neg hbrace]
        by_cases hopening : cell.token.cls = .opening
        · obtain ⟨behind, hbehind, hlt, hgroup⟩ := afterGroup_eq htape hcell hopening
          obtain ⟨after, hafter, hreaches⟩ := ih _ (by omega) behind rfl
          rw [hgroup.drop, drop_eq_cons_of_getElem? hcell] at hreaches
          refine ⟨after, ?_, ?_⟩
          · rw [if_pos hopening, hbehind, Option.bind_eq_bind, Option.bind_some, if_pos hlt]
            exact hafter
          · rw [if_pos hopening]
            exact hgroup.trans hreaches
        rw [if_neg hopening, if_neg hopening]
        by_cases hsemicolon : cell.reads ";"
        · rw [if_pos hsemicolon, if_pos hsemicolon]
          exact ⟨place + 1, rfl, reaches_next hcell⟩
        · rw [if_neg hsemicolon, if_neg hsemicolon]
          obtain ⟨after, hafter, hreaches⟩ := ih _ (by omega) (place + 1) rfl
          exact ⟨after, hafter, (reaches_next hcell).trans hreaches⟩

theorem take_drop_eq_groupBody (htape : tape.IsFaithful) {cell : Cell}
    (hcell : tape.cells[place]? = some cell) (hopening : cell.token.cls = .opening) :
    ∃ close, tape.partner? place = some close ∧ place < close ∧ close < tape.cells.length ∧
      (tape.cells.take close).drop (place + 1) = groupBody (tape.cells.drop place) ∧
      tape.Reaches place (close + 1) (Source.afterGroup (tape.cells.drop place)) := by
  obtain ⟨hpartner, hextent, hinside⟩ := htape.partner place cell hcell hopening
  obtain ⟨after, hafter, -, hreaches⟩ := afterGroup_eq htape hcell hopening
  rw [afterGroup, hpartner, Option.map_some, Option.some.injEq] at hafter
  refine ⟨place + cell.extent - 1, hpartner, by omega, by omega, ?_, hafter ▸ hreaches⟩
  rw [drop_eq_cons_of_getElem? hcell, groupBody, List.drop_take]
  congr 1
  omega

/-- Reading attributes from the tape is reading them from the cells. -/
theorem readAttributes_eq (htape : tape.IsFaithful) (place : Nat) :
    ∃ after, tape.readAttributes place =
        some ((Source.readAttributes (tape.cells.drop place)).1, after) ∧
      tape.Reaches place after (Source.readAttributes (tape.cells.drop place)).2 := by
  induction hleft : tape.cells.length - place using Nat.strongRecOn generalizing place with
  | ind left ih =>
      rw [readAttributes]
      by_cases hend : tape.cells.length ≤ place
      · have hreaches := tape.reaches_self place
        rw [List.drop_of_length_le hend] at hreaches ⊢
        rw [Source.readAttributes]
        exact ⟨place, if_pos hend, hreaches⟩
      · obtain ⟨cell, hcell⟩ := exists_cell_of_lt (Nat.lt_of_not_le hend)
        rw [if_neg hend, hcell, Option.bind_eq_bind, Option.bind_some,
          drop_eq_cons_of_getElem? hcell, Source.readAttributes]
        by_cases hdoc : cell.token.cls = .outerDoc
        · obtain ⟨after, hafter, hreaches⟩ := ih _ (by omega) (place + 1) rfl
          rw [if_pos hdoc, if_pos hdoc]
          exact ⟨after, hafter, (reaches_next hcell).trans hreaches⟩
        rw [if_neg hdoc, if_neg hdoc, readsAt_drop, Nat.add_zero]
        by_cases hattribute : (cell.reads "#" && readsAt tape.cells "[" (place + 1)) = true
        · rw [if_pos hattribute, if_pos hattribute]
          rw [Bool.and_eq_true] at hattribute
          obtain ⟨bracket, hbracket, hreads⟩ := exists_cell_of_readsAt hattribute.2
          have hopening := htape.opening _ bracket hbracket (Or.inr (Or.inl hreads))
          obtain ⟨close, hclose, hlt, -, hbody, hgroup⟩ :=
            take_drop_eq_groupBody htape hbracket hopening
          obtain ⟨after, hafter, hreaches⟩ := ih _ (by omega) (close + 1) rfl
          rw [hgroup.drop] at hafter hreaches
          rw [hclose, Option.bind_eq_bind, Option.bind_some, if_pos (by omega)]
          simp only [Option.bind_eq_bind, Option.bind_some, hafter, hbody]
          have hrest := ((reaches_next hcell).trans hgroup).trans hreaches
          cases groupBody (tape.cells.drop (place + 1)) with
          | nil => exact ⟨after, rfl, hrest⟩
          | cons first arguments => exact ⟨after, rfl, hrest⟩
        · rw [if_neg hattribute, if_neg hattribute, ← drop_eq_cons_of_getElem? hcell]
          exact ⟨place, rfl, tape.reaches_self place⟩

/-- Reading a visibility from the tape is reading it from the cells. -/
theorem readVisibility_eq (htape : tape.IsFaithful) (place : Nat) :
    ∃ after, tape.readVisibility place =
        some ((Source.readVisibility (tape.cells.drop place)).1, after) ∧
      tape.Reaches place after (Source.readVisibility (tape.cells.drop place)).2 := by
  rw [readVisibility]
  by_cases hpub : readsAt tape.cells "pub" place
  · obtain ⟨cell, hcell, hreads⟩ := exists_cell_of_readsAt hpub
    rw [if_pos hpub, drop_eq_cons_of_getElem? hcell, Source.readVisibility]
    simp only [hreads, if_true, readsAt_drop, Nat.add_zero]
    by_cases hparen : readsAt tape.cells "(" (place + 1)
    · obtain ⟨bracket, hbracket, hreads⟩ := exists_cell_of_readsAt hparen
      have hopening := htape.opening _ bracket hbracket (Or.inl hreads)
      obtain ⟨after, hafter, -, hgroup⟩ := afterGroup_eq htape hbracket hopening
      rw [if_pos hparen, if_pos hparen, hafter]
      exact ⟨after, rfl, (reaches_next hcell).trans hgroup⟩
    · rw [if_neg hparen, if_neg hparen]
      exact ⟨place + 1, rfl, reaches_next hcell⟩
  · rw [if_neg hpub]
    have hsame : Source.readVisibility (tape.cells.drop place) =
        (.inherited, tape.cells.drop place) := by
      cases hcells : tape.cells.drop place with
      | nil => rfl
      | cons cell rest =>
          have hcell : tape.cells[place]? = some cell := by
            rw [← List.head?_drop, hcells]
            rfl
          rw [readsAt_of_cell "pub" hcell] at hpub
          rw [Source.readVisibility, if_neg hpub]
    rw [hsame]
    exact ⟨place, rfl, tape.reaches_self place⟩

theorem afterQualifiers_eq (tape : Tape) (place : Nat) :
    ∃ after, tape.afterQualifiers place = some after ∧
      tape.Reaches place after ((tape.cells.drop place).dropWhile isQualifier) := by
  induction hleft : tape.cells.length - place using Nat.strongRecOn generalizing place with
  | ind left ih =>
      rw [afterQualifiers]
      by_cases hend : tape.cells.length ≤ place
      · have hreaches := tape.reaches_self place
        rw [List.drop_of_length_le hend] at hreaches ⊢
        exact ⟨place, if_pos hend, hreaches⟩
      · obtain ⟨cell, hcell⟩ := exists_cell_of_lt (Nat.lt_of_not_le hend)
        rw [if_neg hend, hcell, Option.bind_eq_bind, Option.bind_some,
          drop_eq_cons_of_getElem? hcell, List.dropWhile_cons]
        by_cases hqualifier : isQualifier cell
        · obtain ⟨after, hafter, hreaches⟩ := ih _ (by omega) (place + 1) rfl
          rw [if_pos hqualifier, if_pos hqualifier]
          exact ⟨after, hafter, (reaches_next hcell).trans hreaches⟩
        · rw [if_neg hqualifier, if_neg hqualifier, ← drop_eq_cons_of_getElem? hcell]
          exact ⟨place, rfl, tape.reaches_self place⟩

/-- The tape and the cells agree on trait aliases. -/
theorem isTraitAlias_eq (htape : tape.IsFaithful) (place : Nat) :
    tape.isTraitAlias place = some (Source.isTraitAlias (tape.cells.drop place)) := by
  induction hleft : tape.cells.length - place using Nat.strongRecOn generalizing place with
  | ind left ih =>
      rw [isTraitAlias]
      by_cases hend : tape.cells.length ≤ place
      · rw [if_pos hend, List.drop_of_length_le hend, Source.isTraitAlias]
      · obtain ⟨cell, hcell⟩ := exists_cell_of_lt (Nat.lt_of_not_le hend)
        rw [if_neg hend, hcell, Option.bind_eq_bind, Option.bind_some,
          drop_eq_cons_of_getElem? hcell, Source.isTraitAlias]
        by_cases hover : (cell.reads "\x7b" || cell.reads ";" || cell.reads "where") = true
        · rw [if_pos hover, if_pos hover]
        rw [if_neg hover, if_neg hover]
        by_cases hequals : cell.reads "="
        · rw [if_pos hequals, if_pos hequals]
        rw [if_neg hequals, if_neg hequals]
        by_cases hopening : cell.token.cls = .opening
        · obtain ⟨behind, hbehind, hlt, hgroup⟩ := afterGroup_eq htape hcell hopening
          rw [if_pos hopening, if_pos hopening, hbehind, Option.bind_eq_bind, Option.bind_some,
            if_pos hlt, ih _ (by omega) behind rfl, hgroup.drop, drop_eq_cons_of_getElem? hcell]
        · rw [if_neg hopening, if_neg hopening, ih _ (by omega) (place + 1) rfl]

theorem exists_cell_of_classAt {cells : List Cell} {cls : TokenClass}
    (hcls : classAt cells place = some cls) :
    ∃ cell, cells[place]? = some cell ∧ cell.token.cls = cls := by
  rw [classAt] at hcls
  exact Option.map_eq_some_iff.mp hcls

theorem afterFunctionQualifiers_eq (tape : Tape) (place : Nat) :
    ∃ after, tape.afterFunctionQualifiers place = some after ∧
      tape.Reaches place after (Source.afterFunctionQualifiers (tape.cells.drop place)) := by
  simp only [afterFunctionQualifiers, Source.afterFunctionQualifiers, readsAt_drop, Nat.add_zero,
    List.drop_drop]
  split
  · next hconst =>
    rw [Bool.and_eq_true] at hconst
    obtain ⟨cell, hcell, -⟩ := exists_cell_of_readsAt hconst.1
    obtain ⟨after, hafter, hreaches⟩ := tape.afterQualifiers_eq (place + 1)
    exact ⟨after, hafter, (reaches_next hcell).trans hreaches⟩
  · exact ⟨place, rfl, tape.reaches_self place⟩

theorem reaches_afterConvention (tape : Tape) (place : Nat) :
    tape.Reaches place (tape.afterConvention place)
      (Source.afterConvention (tape.cells.drop place)) := by
  simp only [afterConvention, Source.afterConvention, readsAt_drop, classAt_drop, Nat.add_zero,
    List.drop_drop]
  split
  · next hextern =>
    obtain ⟨cell, hcell, -⟩ := exists_cell_of_readsAt hextern
    split
    · next hcls =>
      obtain ⟨literal, hliteral, -⟩ := exists_cell_of_classAt hcls
      exact (reaches_next hcell).trans (reaches_next hliteral)
    · split
      · exact reaches_next hcell
      · exact tape.reaches_self place
  · exact tape.reaches_self place

theorem keywordPlace_eq (tape : Tape) (place : Nat) :
    ∃ after, tape.keywordPlace place = some after ∧
      tape.Reaches place after (fromKeyword (tape.cells.drop place)) := by
  obtain ⟨qualified, hqualified, hfirst⟩ := tape.afterQualifiers_eq place
  obtain ⟨function, hfunction, hmiddle⟩ := tape.afterFunctionQualifiers_eq qualified
  have hlast := tape.reaches_afterConvention function
  rw [hfirst.drop] at hmiddle
  rw [hmiddle.drop] at hlast
  refine ⟨tape.afterConvention function, ?_, (hfirst.trans hmiddle).trans hlast⟩
  simp only [keywordPlace, hqualified, hfunction, Option.bind_eq_bind, Option.bind_some,
    Option.pure_def]

/-- Passing a macro call on the tape is passing it in the cells. -/
theorem afterMacroCall_eq (htape : tape.IsFaithful) (place : Nat) :
    ∃ after, tape.afterMacroCall place = some after ∧
      tape.Reaches place after (Source.afterMacroCall (tape.cells.drop place)) := by
  have hword : tape.Reaches place
      (if classAt tape.cells place = some .word then place + 1 else place)
      (if classAt (tape.cells.drop place) 0 = some .word then (tape.cells.drop place).drop 1
        else tape.cells.drop place) := by
    simp only [classAt_drop, Nat.add_zero, List.drop_drop]
    split
    · next hcls =>
      obtain ⟨cell, hcell, -⟩ := exists_cell_of_classAt hcls
      exact reaches_next hcell
    · exact tape.reaches_self place
  rw [afterMacroCall, Source.afterMacroCall]
  simp only
  generalize (if classAt tape.cells place = some .word then place + 1 else place) = inner at *
  rw [← hword.drop, classAt_drop, Nat.add_zero]
  rw [← hword.drop] at hword
  split
  · next hcls =>
    obtain ⟨cell, hcell, hopening⟩ := exists_cell_of_classAt hcls
    obtain ⟨after, hafter, -, hgroup⟩ := afterGroup_eq htape hcell hopening
    rw [hafter, Option.map_some, ← hgroup.drop]
    simp only [readsAt_drop, Nat.add_zero, List.drop_drop]
    split
    · next hends =>
      rw [Bool.and_eq_true] at hends
      obtain ⟨semicolon, hsemicolon, -⟩ := exists_cell_of_readsAt hends.2
      exact ⟨after + 1, rfl, (hword.trans hgroup).trans (reaches_next hsemicolon)⟩
    · exact ⟨after, rfl, (hword.trans hgroup).trans (tape.reaches_self after)⟩
  · exact ⟨inner, rfl, hword⟩

/-- From a place on, the cursor finds what is found in the cells, and stops at `after`. It may stop
behind the last token, but not if something was found. -/
structure Finds {α : Type} (tape : Tape) (place : Nat) (found : Option α × List Cell)
    (after : Nat) : Prop where
  drop : tape.cells.drop after = found.2
  le : place ≤ after
  inside : found.1.isSome → place ≤ tape.cells.length → after ≤ tape.cells.length

theorem Finds.next {α : Type} {cell : Cell} {found : Option α × List Cell} {after : Nat}
    (hcell : tape.cells[place]? = some cell) (hfinds : tape.Finds (place + 1) found after) :
    tape.Finds place found after where
  drop := hfinds.drop
  le := Nat.le_trans (Nat.le_succ place) hfinds.le
  inside hsome _ := hfinds.inside hsome (lt_of_cell hcell)

/-- All three readers of trees agree with those on cells at a place. -/
structure AgreesAt (tape : Tape) (place : Nat) : Prop where
  tree : ∃ after, tape.readTree place = some ((UseTree.read (tape.cells.drop place)).1, after) ∧
    tape.Finds place (UseTree.read (tape.cells.drop place)) after
  afterWord : ∀ text, ∃ after, tape.readTreeAfterWord text place =
      some ((UseTree.readAfterWord text (tape.cells.drop place)).1, after) ∧
    tape.Finds place (UseTree.readAfterWord text (tape.cells.drop place)) after
  members : ∀ close < tape.cells.length, tape.readMembers close place =
    some (UseTree.readMembers (tape.cells.length - close) (tape.cells.drop place))

/-- Reading a use tree from the tape is reading it from the cells. -/
theorem readTree_eq (htape : tape.IsFaithful) {place : Nat}
    (hlater : ∀ later, place < tape.cells.length → place < later → tape.AgreesAt later) :
    ∃ after, tape.readTree place = some ((UseTree.read (tape.cells.drop place)).1, after) ∧
      tape.Finds place (UseTree.read (tape.cells.drop place)) after := by
  rw [readTree]
  by_cases hend : tape.cells.length ≤ place
  · rw [if_pos hend, List.drop_of_length_le hend, UseTree.read]
    exact ⟨place, rfl, List.drop_of_length_le hend, Nat.le_refl place, fun hsome => by cases hsome⟩
  · obtain ⟨cell, hcell⟩ := exists_cell_of_lt (Nat.lt_of_not_le hend)
    have hlt := lt_of_cell hcell
    rw [if_neg hend, hcell, Option.bind_eq_bind, Option.bind_some,
      drop_eq_cons_of_getElem? hcell, UseTree.read.eq_def]
    simp only
    by_cases hcolons : cell.reads "::"
    · rw [if_pos hcolons, if_pos hcolons]
      cases hnext : tape.cells[place + 1]? with
      | none =>
          have hend := List.getElem?_eq_none_iff.mp hnext
          obtain ⟨after, hafter, hfinds⟩ := (hlater (place + 1) hlt (Nat.lt_succ_self _)).tree
          rw [List.drop_of_length_le hend] at hafter hfinds ⊢
          rw [UseTree.read] at hafter hfinds
          exact ⟨after, hafter, hfinds.next hcell⟩
      | some next =>
          simp only
          by_cases hword : next.token.cls = .word
          · obtain ⟨after, hafter, hfinds⟩ :=
              (hlater (place + 2) hlt (by omega)).afterWord (':' :: ':' :: next.token.text)
            rw [drop_eq_cons_of_getElem? hnext]
            simp only [if_pos hword]
            exact ⟨after, hafter, (hfinds.next hnext).next hcell⟩
          · obtain ⟨after, hafter, hfinds⟩ := (hlater (place + 1) hlt (Nat.lt_succ_self _)).tree
            rw [drop_eq_cons_of_getElem? hnext] at hafter hfinds ⊢
            simp only [if_neg hword]
            exact ⟨after, hafter, hfinds.next hcell⟩
    rw [if_neg hcolons, if_neg hcolons]
    by_cases hstar : cell.reads "*"
    · rw [if_pos hstar, if_pos hstar]
      exact ⟨place + 1, rfl, rfl, Nat.le_succ place, fun _ _ => hlt⟩
    rw [if_neg hstar, if_neg hstar]
    by_cases hbrace : cell.reads "\x7b"
    · have hopening := htape.opening place cell hcell (Or.inr (Or.inr hbrace))
      obtain ⟨close, hclose, -, hinside, -, hgroup⟩ := take_drop_eq_groupBody htape hcell hopening
      have hmembers := (hlater (place + 1) hlt (Nat.lt_succ_self _)).members close hinside
      have houtside : (Source.afterGroup (cell :: tape.cells.drop (place + 1))).length + 1 =
          tape.cells.length - close := by
        rw [← drop_eq_cons_of_getElem? hcell, ← hgroup.drop, List.length_drop]
        omega
      rw [if_pos hbrace, if_pos hbrace, hclose]
      simp only [Option.bind_eq_bind, Option.bind_some, hmembers, Option.pure_def, houtside]
      refine ⟨close + 1, rfl, ?_, hgroup.le, fun _ => hgroup.inside⟩
      rw [hgroup.drop, drop_eq_cons_of_getElem? hcell]
    rw [if_neg hbrace, if_neg hbrace]
    by_cases hword : cell.token.cls = .word
    · obtain ⟨after, hafter, hfinds⟩ :=
        (hlater (place + 1) hlt (Nat.lt_succ_self _)).afterWord cell.token.text
      rw [if_pos hword, if_pos hword]
      exact ⟨after, hafter, hfinds.next hcell⟩
    · rw [if_neg hword, if_neg hword]
      exact ⟨place, rfl, drop_eq_cons_of_getElem? hcell, Nat.le_refl place, by simp⟩

theorem readTreeAfterWord_eq {place : Nat}
    (hlater : ∀ later, place < tape.cells.length → place < later → tape.AgreesAt later)
    (text : List Char) :
    ∃ after, tape.readTreeAfterWord text place =
        some ((UseTree.readAfterWord text (tape.cells.drop place)).1, after) ∧
      tape.Finds place (UseTree.readAfterWord text (tape.cells.drop place)) after := by
  rw [readTreeAfterWord]
  simp only
  cases hcell : tape.cells[place]? with
  | none =>
      have hreads (mark : String) : readsAt tape.cells mark place = false := by
        rw [readsAt, hcell]
      have hend := List.getElem?_eq_none_iff.mp hcell
      rw [List.drop_of_length_le hend, UseTree.readAfterWord]
      simp only [hreads]
      exact ⟨place, rfl, List.drop_of_length_le hend, Nat.le_refl place, fun _ => id⟩
  | some cell =>
      have hlt := lt_of_cell hcell
      rw [drop_eq_cons_of_getElem? hcell, UseTree.readAfterWord]
      simp only [readsAt_of_cell _ hcell]
      by_cases hcolons : cell.reads "::"
      · obtain ⟨after, hafter, hfinds⟩ := (hlater (place + 1) hlt (Nat.lt_succ_self _)).tree
        rw [if_pos hcolons, if_pos hcolons, hafter]
        exact ⟨after, rfl, hfinds.drop, Nat.le_trans (Nat.le_succ place) hfinds.le,
          fun hsome _ => hfinds.inside (by simpa using hsome) hlt⟩
      rw [if_neg hcolons, if_neg hcolons]
      by_cases has : cell.reads "as"
      · rw [if_pos has, if_pos has, nameAt?_drop]
        refine ⟨place + 2, rfl, ?_, by omega, fun hsome _ => ?_⟩
        · rw [List.drop_drop]
        simp only [Nat.add_zero, Option.isSome_map] at hsome
        rw [nameAt?] at hsome
        cases hname : tape.cells[place + 1]? with
        | none =>
            rw [hname] at hsome
            cases hsome
        | some name => exact lt_of_cell hname
      · rw [if_neg has, if_neg has]
        exact ⟨place, rfl, drop_eq_cons_of_getElem? hcell, Nat.le_refl place, fun _ => id⟩

theorem readMembers_eq {place : Nat}
    (htree : ∃ after, tape.readTree place =
        some ((UseTree.read (tape.cells.drop place)).1, after) ∧
      tape.Finds place (UseTree.read (tape.cells.drop place)) after)
    (hlater : ∀ later, place < tape.cells.length → place < later → tape.AgreesAt later)
    {close : Nat} (hclose : close < tape.cells.length) :
    tape.readMembers close place =
      some (UseTree.readMembers (tape.cells.length - close) (tape.cells.drop place)) := by
  rw [readMembers]
  by_cases hover : close ≤ place
  · rw [if_pos hover]
    cases hcells : tape.cells.drop place with
    | nil => rw [UseTree.readMembers]
    | cons cell rest =>
        have hlength := congrArg List.length hcells
        rw [List.length_drop, List.length_cons] at hlength
        rw [UseTree.readMembers, if_pos (by omega)]
  · obtain ⟨cell, hcell⟩ : ∃ cell, tape.cells[place]? = some cell := exists_cell_of_lt (by omega)
    have hlt := lt_of_cell hcell
    have hlength := List.length_drop (i := place + 1) (l := tape.cells)
    obtain ⟨after, hafter, hfinds⟩ := htree
    rw [drop_eq_cons_of_getElem? hcell] at hafter hfinds ⊢
    have hinside : ¬(tape.cells.drop (place + 1)).length + 1 ≤ tape.cells.length - close := by
      omega
    rw [if_neg hover, if_neg (Nat.not_le_of_lt hclose), UseTree.readMembers, if_neg hinside,
      readsAt_of_cell _ hcell]
    by_cases hcomma : cell.reads ","
    · rw [if_pos hcomma, if_pos hcomma]
      exact (hlater (place + 1) hlt (Nat.lt_succ_self _)).members close hclose
    · rw [if_neg hcomma, if_neg hcomma, hafter, Option.bind_eq_bind, Option.bind_some]
      have hle := hfinds.le
      have hbehind : (UseTree.read (cell :: tape.cells.drop (place + 1))).2.length =
          tape.cells.length - after := by
        rw [← hfinds.drop, List.length_drop]
      have hfollowing : tape.readMembers close (if after = place then place + 1 else after) =
          some (if (UseTree.read (cell :: tape.cells.drop (place + 1))).2.length <
              (tape.cells.drop (place + 1)).length + 1 then
            UseTree.readMembers (tape.cells.length - close)
              (UseTree.read (cell :: tape.cells.drop (place + 1))).2
          else
            UseTree.readMembers (tape.cells.length - close) (tape.cells.drop (place + 1))) := by
        by_cases hstays : after = place
        · rw [if_pos hstays, if_neg (by omega)]
          exact (hlater (place + 1) hlt (Nat.lt_succ_self _)).members close hclose
        · rw [if_neg hstays, if_pos (by omega), ← hfinds.drop]
          exact (hlater after hlt (by omega)).members close hclose
      simp only [if_pos hle, hfollowing, Option.pure_def]
      cases (UseTree.read (cell :: tape.cells.drop (place + 1))).1 with
      | none => rfl
      | some member => rfl

theorem agreesAt (htape : tape.IsFaithful) (place : Nat) : tape.AgreesAt place := by
  induction hleft : tape.cells.length - place using Nat.strongRecOn generalizing place with
  | ind left ih =>
      have hlater (later : Nat) (hlt : place < tape.cells.length) (hle : place < later) :
          tape.AgreesAt later :=
        ih _ (by omega) later rfl
      have htree := readTree_eq htape hlater
      exact ⟨htree, readTreeAfterWord_eq hlater, fun _ hclose => readMembers_eq htree hlater hclose⟩

theorem Reaches.finds {α : Type} {after : Nat} {rest : List Cell} (found : Option α)
    (hreaches : tape.Reaches place after rest) : tape.Finds place (found, rest) after where
  drop := hreaches.drop
  le := hreaches.le
  inside _ := hreaches.inside

theorem Finds.reaches {α β : Type} {middle after : Nat} {found : Option α × List Cell}
    {rest : List Cell} (change : α → β) (hfinds : tape.Finds place found middle)
    (hreaches : tape.Reaches middle after rest) :
    tape.Finds place (found.1.map change, rest) after where
  drop := hreaches.drop
  le := Nat.le_trans hfinds.le hreaches.le
  inside hsome hinside := by
    rw [Option.isSome_map] at hsome
    exact hreaches.inside (hfinds.inside hsome hinside)

/-- Reading a keyword and what follows it from the tape is reading it from the cells. -/
theorem readKeyword_eq (htape : tape.IsFaithful) {keyword : Cell}
    (hkeyword : tape.cells[place]? = some keyword) (attributes : List Attribute)
    (visibility : Visibility) :
    ∃ after, tape.readKeyword attributes visibility place =
        some ((Source.readKeyword attributes visibility keyword
          (tape.cells.drop (place + 1))).1, after) ∧
      tape.Finds place (Source.readKeyword attributes visibility keyword
        (tape.cells.drop (place + 1))) after := by
  have hcells := drop_eq_cons_of_getElem? hkeyword
  obtain ⟨semicolon, hsemicolon, hvalue⟩ := afterSemicolon_eq htape place
  obtain ⟨body, hbody, hblock⟩ := afterBody_eq htape place
  simp only [readKeyword, Source.readKeyword, hkeyword, ← hcells, nameAt?_drop, readsAt_drop,
    classAt_drop, List.drop_drop, Option.bind_eq_bind, Option.bind_some, Option.pure_def,
    hsemicolon, hbody]
  by_cases hfunction : keyword.reads "fn"
  · rw [if_pos hfunction, if_pos hfunction]
    exact ⟨body, rfl, hblock.finds _⟩
  rw [if_neg hfunction, if_neg hfunction]
  cases bodyItem? keyword (tape.cells.drop (place + 1)) with
  | some kind =>
    by_cases htrait : kind = .trait
    · simp only [htrait, if_true, isTraitAlias_eq htape, Option.bind_some, decide_true,
        Bool.true_and]
      split
      · exact ⟨semicolon, rfl, hvalue.finds _⟩
      · exact ⟨body, rfl, hblock.finds _⟩
    · simp only [htrait, if_false, decide_false, Bool.false_and, Bool.false_eq_true]
      exact ⟨body, rfl, hblock.finds _⟩
  | none =>
  simp only
  cases valueItem? keyword with
  | some kind => exact ⟨semicolon, rfl, hvalue.finds _⟩
  | none =>
  simp only
  by_cases huse : keyword.reads "use"
  · rw [if_pos huse, if_pos huse]
    obtain ⟨middle, hmiddle, htree⟩ := (agreesAt htape (place + 1)).tree
    obtain ⟨after, hafter, hreaches⟩ := afterSemicolon_eq htape middle
    rw [htree.drop] at hreaches
    rw [hmiddle]
    simp only [Option.bind_some, hafter]
    exact ⟨after, rfl, (htree.reaches _ hreaches).next hkeyword⟩
  rw [if_neg huse, if_neg huse]
  by_cases hcrate : keyword.reads "extern" && readsAt tape.cells "crate" (place + 1)
  · rw [if_pos hcrate, if_pos hcrate]
    exact ⟨semicolon, rfl, hvalue.finds _⟩
  rw [if_neg hcrate, if_neg hcrate]
  split
  · next hrules =>
    rw [Bool.and_eq_true] at hrules
    obtain ⟨mark, hmark, -⟩ := exists_cell_of_readsAt hrules.2
    obtain ⟨after, hafter, hreaches⟩ := afterBody_eq htape (place + 2)
    rw [hafter]
    have hnext := ((reaches_next hkeyword).trans (reaches_next hmark)).trans hreaches
    exact ⟨after, rfl, hnext.finds _⟩
  split
  · exact ⟨body, rfl, hblock.finds _⟩
  split
  · exact ⟨body, rfl, hblock.finds _⟩
  split
  · next hcall =>
    rw [Bool.and_eq_true] at hcall
    obtain ⟨mark, hmark, -⟩ := exists_cell_of_readsAt hcall.2
    obtain ⟨after, hafter, hreaches⟩ := afterMacroCall_eq htape (place + 2)
    rw [hafter]
    have hnext := ((reaches_next hkeyword).trans (reaches_next hmark)).trans hreaches
    exact ⟨after, rfl, hnext.finds _⟩
  split
  · next hopening =>
    obtain ⟨after, hafter, -, hgroup⟩ := afterGroup_eq htape hkeyword hopening
    rw [hafter]
    exact ⟨after, rfl, hgroup.finds _⟩
  · exact ⟨place + 1, rfl, (reaches_next hkeyword).finds _⟩

theorem spanUpTo_eq (code : List Char) {first last : Cell} {after : Nat}
    (hfirst : tape.cells[place]? = some first) (hlast : tape.cells[after]? = some last)
    (hle : place ≤ after) :
    spanUpTo code (tape.cells.drop place) (tape.cells.drop (after + 1)) =
      some ⟨byteOffset code first.token.start, byteOffset code last.token.stop⟩ := by
  have hlt := lt_of_cell hlast
  have hplace : place + ((tape.cells.drop place).length -
      (tape.cells.drop (after + 1)).length - 1) = after := by
    rw [List.length_drop, List.length_drop]
    omega
  simp only [spanUpTo, List.getElem?_drop, hplace, Nat.add_zero, hfirst, hlast, Option.bind_eq_bind,
    Option.bind_some, Option.pure_def]

/-- Reading an item from the tape is reading it from the cells, and it moves on. -/
theorem readItem_eq (htape : tape.IsFaithful) (code : List Char) {first : Cell}
    (hfirst : tape.cells[place]? = some first) :
    ∃ after, tape.readItem code place =
        some ((Source.readItem (tape.cells.drop place)).1.map (Node.withSpan
          (spanUpTo code (tape.cells.drop place) (tape.cells.drop after))), after) ∧
      tape.cells.drop after = (Source.readItem (tape.cells.drop place)).2 ∧ place < after := by
  obtain ⟨behindAttributes, hattributes, hfront⟩ := readAttributes_eq htape place
  obtain ⟨behindVisibility, hvisibility, hmiddle⟩ := readVisibility_eq htape behindAttributes
  obtain ⟨keyword, hkeyword, hback⟩ := tape.keywordPlace_eq behindVisibility
  rw [hfront.drop] at hvisibility hmiddle
  rw [hmiddle.drop] at hback
  have hlength := readItem_length_lt first (tape.cells.drop (place + 1))
  rw [← drop_eq_cons_of_getElem? hfirst, List.length_drop] at hlength
  have hlt := lt_of_cell hfirst
  simp only [readItem, hfirst, hattributes, hvisibility, hkeyword, Option.bind_eq_bind,
    Option.bind_some, Option.pure_def]
  rw [Source.readItem] at hlength ⊢
  simp only [← hback.drop] at hlength ⊢
  by_cases hend : tape.cells.length ≤ keyword
  · rw [if_pos hend, List.drop_of_length_le hend]
    exact ⟨keyword, rfl, List.drop_of_length_le hend, Nat.lt_of_lt_of_le hlt hend⟩
  · obtain ⟨cell, hcell⟩ := exists_cell_of_lt (Nat.lt_of_not_le hend)
    obtain ⟨after, hafter, hfinds⟩ := readKeyword_eq htape hcell
      (Source.readAttributes (tape.cells.drop place)).1
      (Source.readVisibility (Source.readAttributes (tape.cells.drop place)).2).1
    rw [if_neg hend, hafter]
    rw [drop_eq_cons_of_getElem? hcell] at hlength ⊢
    simp only at hlength ⊢
    rw [← hfinds.drop, List.length_drop] at hlength
    have hbehind : place < after := by omega
    refine ⟨after, ?_, hfinds.drop, hbehind⟩
    rw [Option.bind_some]
    have hinside := hfinds.inside
    generalize (Source.readKeyword _ _ cell _).1 = node? at hinside ⊢
    cases node? with
    | none => rfl
    | some node =>
        obtain ⟨last, rfl⟩ : ∃ last, after = last + 1 := ⟨after - 1, by omega⟩
        have hle := hinside rfl (Nat.le_of_not_le hend)
        obtain ⟨final, hfinal⟩ : ∃ final, tape.cells[last]? = some final := exists_cell_of_lt hle
        rw [spanUpTo_eq code hfirst hfinal (by omega)]
        simp only [before?, hfinal, Option.bind_some, Option.map_some]

/-- The reader with a cursor does not fail; it stops at or behind the end, with the outline of the
cells. -/
theorem scan_eq (htape : tape.IsFaithful) (code : List Char) (place : Nat) :
    ∃ last, tape.scan code place = some (Outline.ofCells code (tape.cells.drop place), last) ∧
      tape.cells.length ≤ last := by
  induction hleft : tape.cells.length - place using Nat.strongRecOn generalizing place with
  | ind left ih =>
      rw [scan]
      by_cases hend : tape.cells.length ≤ place
      · rw [if_pos hend, List.drop_of_length_le hend, Outline.ofCells]
        exact ⟨place, rfl, hend⟩
      obtain ⟨cell, hcell⟩ := exists_cell_of_lt (Nat.lt_of_not_le hend)
      rw [if_neg hend, hcell, Option.bind_eq_bind, Option.bind_some,
        drop_eq_cons_of_getElem? hcell, Outline.ofCells]
      by_cases hdoc : cell.token.cls = .innerDoc
      · obtain ⟨last, hlast, hle⟩ := ih _ (by omega) (place + 1) rfl
        rw [if_pos hdoc, if_pos hdoc, hlast]
        exact ⟨last, rfl, hle⟩
      rw [if_neg hdoc, if_neg hdoc]
      have htwo : place + 1 + 1 = place + 2 := rfl
      simp only [readsAt_drop, Nat.add_zero, List.drop_drop, htwo]
      by_cases hinner : (cell.reads "#" && readsAt tape.cells "!" (place + 1) &&
          readsAt tape.cells "[" (place + 2)) = true
      · rw [if_pos hinner, if_pos hinner]
        rw [Bool.and_eq_true] at hinner
        obtain ⟨bracket, hbracket, hreads⟩ := exists_cell_of_readsAt hinner.2
        have hopening := htape.opening _ bracket hbracket (Or.inr (Or.inl hreads))
        obtain ⟨close, hclose, hlt, hinside, hbody, hgroup⟩ :=
          take_drop_eq_groupBody htape hbracket hopening
        obtain ⟨closing, hclosing⟩ := exists_cell_of_lt hinside
        obtain ⟨last, hlast, hle⟩ := ih _ (by omega) (close + 1) rfl
        rw [hclose]
        have hforward : place ≤ close := by omega
        simp only [Option.bind_eq_bind, Option.bind_some, hclosing, if_pos hforward, hlast,
          Option.pure_def, hbody]
        refine ⟨last, ?_, hle⟩
        rw [← hgroup.drop, ← drop_eq_cons_of_getElem? hcell,
          spanUpTo_eq code hcell hclosing (by omega)]
      · rw [if_neg hinner, if_neg hinner]
        obtain ⟨after, hafter, hdrop, hlt⟩ := readItem_eq htape code hcell
        obtain ⟨last, hlast, hle⟩ := ih _ (by omega) after rfl
        rw [hdrop] at hafter hlast
        rw [drop_eq_cons_of_getElem? hcell] at hafter hlast
        rw [hafter]
        simp only [Option.bind_eq_bind, Option.bind_some, if_pos hlt, hlast, Option.pure_def]
        refine ⟨last, ?_, hle⟩
        cases (Source.readItem (cell :: tape.cells.drop (place + 1))).1 with
        | none => rfl
        | some node => rfl

end Tape

end Agreement

end CrateReadme.Source
