import CrateReadme.Proofs.Source.Spelling
import CrateReadme.Source.Outline

/-!
# The head of a declaration

Documentation, attributes and a visibility may stand in front of the keyword of a declaration. They
are passed over up to the keyword, whatever stands inside the brackets of an attribute or of a
visibility.
-/

namespace CrateReadme.Source

/-! ### Groups -/

section Groups

variable {opening closing : Token} {inner : List Token}

theorem cellsOf_group (hpairs : opening.Pairs closing) (hinner : Nested [] inner)
    (rest : List Token) :
    cellsOf (opening :: (inner ++ closing :: rest)) =
      ⟨opening, inner.length + 2⟩ :: (cellsOf inner ++ cellsOf (closing :: rest)) := by
  rw [hinner.hasOwnCells.cellsOf_group hpairs, cellsOf_closing hpairs.cls_closing]

theorem afterGroup_cellsOf (hpairs : opening.Pairs closing) (hinner : Nested [] inner)
    (rest : List Token) :
    afterGroup (cellsOf (opening :: (inner ++ closing :: rest))) = cellsOf rest := by
  rw [cellsOf_group hpairs hinner, cellsOf_closing hpairs.cls_closing, afterGroup]
  have hsize : inner.length + 2 - 1 = (cellsOf inner).length + 1 := by
    rw [length_cellsOf]
    omega
  rw [hsize, List.drop_append, List.drop_of_length_le (by omega)]
  simp

theorem groupBody_cellsOf (hpairs : opening.Pairs closing) (hinner : Nested [] inner)
    (rest : List Token) :
    groupBody (cellsOf (opening :: (inner ++ closing :: rest))) = cellsOf inner := by
  rw [cellsOf_group hpairs hinner, groupBody, Nat.add_sub_cancel, ← length_cellsOf inner,
    List.take_left]

theorem Token.pairs_of_faces {left right : Char}
    (hopening : opening.face = (.opening, [left], none))
    (hclosing : closing.face = (.closing, [right], none)) (hpartner : partner? left = some right) :
    opening.Pairs closing := by
  simp only [Token.face, Prod.mk.injEq] at hopening hclosing
  exact ⟨hopening.1, hclosing.1, left, right, hopening.2.1, hclosing.2.1, hpartner⟩

theorem exists_of_group_faces {left right : Char} {inside : List Face} {tokens : List Token}
    (htokens : tokens.map Token.face = Face.group left right inside) :
    ∃ opening inner closing, tokens = opening :: (inner ++ [closing]) ∧
      opening.face = (.opening, [left], none) ∧ inner.map Token.face = inside ∧
      closing.face = (.closing, [right], none) := by
  rw [Face.group, List.map_eq_cons_iff] at htokens
  obtain ⟨opening, behind, rfl, hopening, hbehind⟩ := htokens
  rw [List.map_eq_append_iff] at hbehind
  obtain ⟨inner, last, rfl, hinner, hlast⟩ := hbehind
  rw [List.map_eq_singleton_iff] at hlast
  obtain ⟨closing, rfl, hclosing⟩ := hlast
  exact ⟨opening, inner, closing, rfl, hopening, hinner, hclosing⟩

end Groups

theorem afterSemicolon_of_mark {token : Token} (hface : token.face = .mark [';'])
    (rest : List Token) : afterSemicolon (cellsOf (token :: rest)) = cellsOf rest := by
  have hsemicolon : Cell.reads ⟨token, 1⟩ ";" = true := Token.reads_of_face hface ";"
  have hcls : token.cls ≠ .opening := by
    rw [show token.cls = .punctuation from congrArg Prod.fst hface]
    decide
  rw [Token.cellsOf_of_face hface (by decide), afterSemicolon, if_neg hcls, if_pos hsemicolon]

/-! ### Attributes -/

/-- The tokens are documentation and attributes; the first tokens inside the brackets of the
attributes are the given names. -/
inductive Decorates : (names : List (List Char)) → List Token → Prop
  | nil : Decorates [] []
  | doc {names : List (List Char)} {token : Token} {rest : List Token}
      (hcls : token.cls = .outerDoc) (hhash : token.reads "#" = false)
      (hrest : Decorates names rest) :
      Decorates names (token :: rest)
  | brackets {names : List (List Char)} {hash opening closing : Token} {inner rest : List Token}
      (hhash : hash.face = .mark ['#']) (hopening : opening.face = (.opening, ['['], none))
      (hinner : Nested [] inner) (hclosing : closing.face = (.closing, [']'], none))
      (hrest : Decorates names rest) :
      Decorates ((inner.head?.map Token.text).toList ++ names)
        (hash :: opening :: (inner ++ closing :: rest))

theorem readAttributes_of_plain {cell : Cell} (hdoc : cell.token.cls ≠ .outerDoc)
    (hhash : cell.reads "#" = false) (rest : List Cell) :
    readAttributes (cell :: rest) = ([], cell :: rest) := by
  rw [readAttributes, if_neg hdoc, hhash, Bool.false_and, if_neg Bool.false_ne_true]

theorem readAttributes_of_doc {cell : Cell} (hdoc : cell.token.cls = .outerDoc)
    (rest : List Cell) : readAttributes (cell :: rest) = readAttributes rest := by
  rw [readAttributes, if_pos hdoc]

/-- Reading decorations gives the attributes with their names. -/
theorem Decorates.readAttributes_eq {names : List (List Char)} {tokens rest : List Token}
    {keyword : Token} (hdecorates : Decorates names tokens) (hdoc : keyword.cls ≠ .outerDoc)
    (hopening : keyword.cls ≠ .opening) (hclosing : keyword.cls ≠ .closing)
    (hhash : keyword.reads "#" = false) :
    ∃ attributes : List Attribute, attributes.map Attribute.name = names ∧
      readAttributes (cellsOf (tokens ++ keyword :: rest)) =
        (attributes, cellsOf (keyword :: rest)) := by
  induction hdecorates with
  | nil =>
      refine ⟨[], rfl, ?_⟩
      rw [List.nil_append, cellsOf_plain hopening hclosing]
      have hplain : (Cell.mk keyword 1).token.cls ≠ .outerDoc := hdoc
      exact readAttributes_of_plain hplain hhash _
  | doc hcls _ _ ih =>
      obtain ⟨attributes, hnames, hread⟩ := ih
      refine ⟨attributes, hnames, ?_⟩
      rw [List.cons_append, cellsOf_plain (by rw [hcls]; decide) (by rw [hcls]; decide),
        readAttributes_of_doc hcls]
      exact hread
  | @brackets names hash opening closing inner back hhash hopening hinner hclosing _ ih =>
      obtain ⟨attributes, hnames, hread⟩ := ih
      have hmark : Cell.reads ⟨hash, 1⟩ "#" = true := Token.reads_of_face hhash "#"
      have hcls : hash.cls ≠ .outerDoc := by
        rw [show hash.cls = .punctuation from congrArg Prod.fst hhash]
        decide
      have hpairs := Token.pairs_of_faces hopening hclosing rfl
      have hafter := afterGroup_cellsOf hpairs hinner (back ++ keyword :: rest)
      have hbody := groupBody_cellsOf hpairs hinner (back ++ keyword :: rest)
      have hbracket : readsAt
          (cellsOf (opening :: (inner ++ closing :: (back ++ keyword :: rest)))) "[" 0 = true := by
        rw [cellsOf_group hpairs hinner]
        obtain ⟨start, stop, rfl⟩ := Token.eq_of_face hopening
        rfl
      simp only [List.cons_append, List.append_assoc]
      rw [Token.cellsOf_of_face hhash (by decide), readAttributes, if_neg hcls, hmark, hbracket,
        if_pos (Bool.and_self true), hafter, hread, hbody]
      simp only
      cases hcells : cellsOf inner with
      | nil =>
          have hempty : inner = [] := by
            rw [← map_token_cellsOf inner, hcells, List.map_nil]
          rw [hempty]
          exact ⟨attributes, hnames, rfl⟩
      | cons first arguments =>
          refine ⟨⟨first.token.text, arguments⟩ :: attributes, ?_, rfl⟩
          rw [← map_token_cellsOf inner, hcells, List.map_cons, hnames]
          rfl

/-! ### Visibility -/

inductive Shows : Visibility → List Token → Prop
  | inherited : Shows .inherited []
  | everywhere {token : Token} (hpub : token.face = .word ['p', 'u', 'b']) :
      Shows .everywhere [token]
  | restricted {token opening closing : Token} {inner : List Token}
      (hpub : token.face = .word ['p', 'u', 'b'])
      (hopening : opening.face = (.opening, ['('], none)) (hinner : Nested [] inner)
      (hclosing : closing.face = (.closing, [')'], none)) :
      Shows .restricted (token :: opening :: (inner ++ [closing]))

/-- The visibility that is shown in front of a keyword is read. -/
theorem Shows.readVisibility_eq {visibility : Visibility} {tokens rest : List Token}
    {keyword : Token} (hshows : Shows visibility tokens) (hopening : keyword.cls ≠ .opening)
    (hclosing : keyword.cls ≠ .closing) (hpub : keyword.reads "pub" = false)
    (hparen : keyword.reads "(" = false) :
    readVisibility (cellsOf (tokens ++ keyword :: rest)) =
      (visibility, cellsOf (keyword :: rest)) := by
  have hcells := cellsOf_plain hopening hclosing rest
  cases hshows with
  | inherited =>
      rw [List.nil_append, hcells, readVisibility, Cell.reads, hpub, if_neg Bool.false_ne_true]
  | @everywhere token hface =>
      have hmark : Cell.reads ⟨token, 1⟩ "pub" = true := Token.reads_of_face hface "pub"
      rw [List.singleton_append, Token.cellsOf_of_face hface (by decide), readVisibility,
        if_pos hmark, hcells]
      simp only [readsAt, List.getElem?_cons_zero, Cell.reads, hparen, Bool.false_eq_true, if_false]
  | @restricted token opening closing inner hface hleft hinner hright =>
      have hmark : Cell.reads ⟨token, 1⟩ "pub" = true := Token.reads_of_face hface "pub"
      have hpairs := Token.pairs_of_faces hleft hright rfl
      have hafter := afterGroup_cellsOf hpairs hinner (keyword :: rest)
      have hbracket :
          readsAt (cellsOf (opening :: (inner ++ closing :: keyword :: rest))) "(" 0 = true := by
        rw [cellsOf_group hpairs hinner]
        obtain ⟨start, stop, rfl⟩ := Token.eq_of_face hleft
        rfl
      simp only [List.cons_append, List.append_assoc, List.nil_append]
      rw [Token.cellsOf_of_face hface (by decide), readVisibility, if_pos hmark, hbracket,
        if_pos rfl, hafter]

/-! ### Keywords -/

/-- What is passed over, or read in another way, in front of a keyword. -/
def headTexts : List String :=
  ["#", "pub", "(", "default", "unsafe", "async", "auto", "safe", "extern"]

/-- A declaration starts at the token; it is not passed over, and it does not change how the tokens
behind it are read. -/
structure Token.Leads (keyword : Token) (rest : List Token) : Prop where
  cls : keyword.cls = .word
  passed : ∀ text ∈ headTexts, keyword.reads text = false
  const : keyword.reads "const" → ∀ text ∈ ["fn", "unsafe", "async", "extern"],
    readsAt (cellsOf rest) text 0 = false

theorem Token.leads_of_face {keyword : Token} {rest : List Token} {text : List Char}
    (hface : keyword.face = .word text) (hpassed : ∀ head ∈ headTexts, text ≠ head.toList)
    (hconst : text = ['c', 'o', 'n', 's', 't'] → ∀ text ∈ ["fn", "unsafe", "async", "extern"],
      readsAt (cellsOf rest) text 0 = false) :
    keyword.Leads rest where
  cls := congrArg Prod.fst hface
  passed head hhead := by
    rw [Token.reads_of_face hface, decide_eq_false_iff_not]
    exact hpassed head hhead
  const hreads := by
    rw [Token.reads_of_face hface, decide_eq_true_eq] at hreads
    exact hconst hreads

/-- Nothing is passed over in front of a keyword that leads an item. -/
theorem Token.Leads.fromKeyword_eq {keyword : Token} {rest : List Token}
    (hleads : keyword.Leads rest) :
    fromKeyword (cellsOf (keyword :: rest)) = cellsOf (keyword :: rest) := by
  have hreads := hleads.passed
  simp only [headTexts, List.forall_mem_cons] at hreads
  obtain ⟨-, -, -, hdefault, hunsafe, hasync, hauto, hsafe, hextern, -⟩ := hreads
  have hcells : cellsOf (keyword :: rest) = ⟨keyword, 1⟩ :: cellsOf rest :=
    cellsOf_plain (by rw [hleads.cls]; decide) (by rw [hleads.cls]; decide) rest
  have hqualifier : isQualifier ⟨keyword, 1⟩ = false := by
    simp only [isQualifier, List.any_cons, List.any_nil, Cell.reads, hdefault, hunsafe, hasync,
      hauto, hsafe, Bool.or_false]
  have hfunction : afterFunctionQualifiers (cellsOf (keyword :: rest)) =
      cellsOf (keyword :: rest) := by
    rw [afterFunctionQualifiers, if_neg]
    rw [hcells, Bool.and_eq_true, List.any_eq_true]
    rintro ⟨hconst, text, htext, hnext⟩
    have hnone := hleads.const hconst text htext
    rw [readsAt] at hnext hnone
    rw [List.getElem?_cons_succ, hnone] at hnext
    exact Bool.false_ne_true hnext
  rw [fromKeyword, hcells, List.dropWhile_cons, hqualifier, if_neg Bool.false_ne_true, ← hcells,
    hfunction, afterConvention, hcells, readsAt, List.getElem?_cons_zero]
  simp only [Cell.reads, hextern, Bool.false_eq_true, if_false]

/-- A declaration is read from its keyword on, with the attributes and the visibility in front. -/
theorem readItem_of_head {names : List (List Char)} {visibility : Visibility}
    {front middle rest : List Token} {keyword : Token} (hdecorates : Decorates names front)
    (hshows : Shows visibility middle) (hleads : keyword.Leads rest) :
    ∃ attributes : List Attribute, attributes.map Attribute.name = names ∧
      readItem (cellsOf (front ++ (middle ++ keyword :: rest))) =
        readKeyword attributes visibility ⟨keyword, 1⟩ (cellsOf rest) := by
  have hopening : keyword.cls ≠ .opening := by
    rw [hleads.cls]
    decide
  have hclosing : keyword.cls ≠ .closing := by
    rw [hleads.cls]
    decide
  have hvisibility : readVisibility (cellsOf (middle ++ keyword :: rest)) =
      (visibility, cellsOf (keyword :: rest)) :=
    hshows.readVisibility_eq hopening hclosing (hleads.passed "pub" (by decide))
      (hleads.passed "(" (by decide))
  have hattributes : ∃ attributes : List Attribute, attributes.map Attribute.name = names ∧
      readAttributes (cellsOf (front ++ (middle ++ keyword :: rest))) =
        (attributes, cellsOf (middle ++ keyword :: rest)) := by
    have hpub {token : Token} (hface : token.face = .word ['p', 'u', 'b']) (more : List Token) :
        ∃ attributes : List Attribute, attributes.map Attribute.name = names ∧
          readAttributes (cellsOf (front ++ token :: more)) =
            (attributes, cellsOf (token :: more)) := by
      obtain ⟨start, stop, rfl⟩ := Token.eq_of_face hface
      exact hdecorates.readAttributes_eq (by simp) (by simp) (by simp) rfl
    cases hshows with
    | inherited =>
        exact hdecorates.readAttributes_eq (by rw [hleads.cls]; decide) hopening hclosing
          (hleads.passed "#" (by decide))
    | everywhere hface => exact hpub hface _
    | restricted hface _ _ _ => exact hpub hface _
  obtain ⟨attributes, hnames, hread⟩ := hattributes
  refine ⟨attributes, hnames, ?_⟩
  rw [readItem, hread]
  simp only
  rw [hvisibility]
  simp only
  rw [hleads.fromKeyword_eq, cellsOf_plain hopening hclosing]

/-! ### Declarations in a row -/

theorem exists_spanUpTo (code : List Char) (cell : Cell) {rest after : List Cell}
    (hafter : after.length ≤ rest.length) :
    ∃ span, spanUpTo code (cell :: rest) after = some span := by
  have hplace : (cell :: rest).length - after.length - 1 < (cell :: rest).length := by
    rw [List.length_cons]
    omega
  simp only [spanUpTo, List.getElem?_cons_zero, List.getElem?_eq_getElem hplace,
    Option.bind_eq_bind, Option.bind_some, Option.pure_def]
  exact ⟨_, rfl⟩

/-- A declaration does not start like documentation of the crate or an attribute of it. -/
theorem exists_first_of_head {names : List (List Char)} {visibility : Visibility}
    {front middle rest : List Token} {keyword : Token} (hdecorates : Decorates names front)
    (hshows : Shows visibility middle) (hleads : keyword.Leads rest) :
    ∃ cell behind, cellsOf (front ++ (middle ++ keyword :: rest)) = cell :: behind ∧
      cell.token.cls ≠ .innerDoc ∧ (cell.reads "#" && readsAt behind "!" 0) = false := by
  have hplain {token : Token} (hcls : token.cls = .word ∨ token.cls = .outerDoc)
      (hhash : token.reads "#" = false) (tokens : List Token) :
      ∃ cell behind, cellsOf (token :: tokens) = cell :: behind ∧
        cell.token.cls ≠ .innerDoc ∧ (cell.reads "#" && readsAt behind "!" 0) = false := by
    refine ⟨⟨token, 1⟩, cellsOf tokens, cellsOf_plain ?_ ?_ tokens, ?_, ?_⟩
    · rcases hcls with hcls | hcls <;> rw [hcls] <;> decide
    · rcases hcls with hcls | hcls <;> rw [hcls] <;> decide
    · rcases hcls with hcls | hcls <;> rw [hcls] <;> decide
    · rw [Cell.reads, hhash, Bool.false_and]
  cases hdecorates with
  | nil =>
      cases hshows with
      | inherited => exact hplain (.inl hleads.cls) (hleads.passed "#" (by decide)) rest
      | everywhere hface =>
          exact hplain (.inl (congrArg Prod.fst hface)) (Token.reads_of_face hface "#") _
      | restricted hface _ _ _ =>
          exact hplain (.inl (congrArg Prod.fst hface)) (Token.reads_of_face hface "#") _
  | doc hcls hhash _ => exact hplain (.inr hcls) hhash _
  | @brackets _ hash opening closing inner back hhash hopening hinner hclosing _ =>
      have hpairs := Token.pairs_of_faces hopening hclosing rfl
      refine ⟨_, _, Token.cellsOf_of_face hhash (by decide) _, ?_, ?_⟩
      · rw [show hash.cls = .punctuation from congrArg Prod.fst hhash]
        decide
      · simp only [List.append_eq, List.append_assoc, List.cons_append]
        rw [cellsOf_group hpairs hinner, readsAt, List.getElem?_cons_zero]
        simp only
        rw [Cell.reads, Cell.reads, Token.reads_of_face hopening, Bool.and_eq_false_iff]
        exact Or.inr rfl

/-- What is declared first comes first in the outline. -/
theorem ofCells_of_readItem (code : List Char) {names : List (List Char)}
    {visibility : Visibility} {front middle rest : List Token} {keyword : Token}
    (hdecorates : Decorates names front) (hshows : Shows visibility middle)
    (hleads : keyword.Leads rest) {after : List Cell} {node? : Option Node}
    (hitem : readItem (cellsOf (front ++ (middle ++ keyword :: rest))) = (node?, after)) :
    ∃ span, Outline.ofCells code (cellsOf (front ++ (middle ++ keyword :: rest))) =
      { Outline.ofCells code after with
        nodes := (node?.map (Node.withSpan (some span))).toList ++
          (Outline.ofCells code after).nodes } := by
  obtain ⟨cell, behind, hcells, hdoc, hinner⟩ := exists_first_of_head hdecorates hshows hleads
  rw [hcells] at hitem ⊢
  have hlength := readItem_length_lt cell behind
  rw [hitem] at hlength
  obtain ⟨span, hspan⟩ := exists_spanUpTo code cell hlength
  refine ⟨span, ?_⟩
  rw [Outline.ofCells, if_neg hdoc, hinner, Bool.false_and, if_neg Bool.false_ne_true, hitem]
  cases node? with
  | none => rfl
  | some node =>
      simp only
      rw [hspan]
      rfl

end CrateReadme.Source
