import CrateReadme.Proofs.Source.Items

/-!
# Reading items

The tokens of a written item are taken as a whole: what stands in front of the keyword is passed
over, the name is the word behind the keyword, and the end of the item is found behind whatever
stands in its bodies.
-/

namespace CrateReadme.Source

/-! ### Ends of items -/

section Ends

variable {token : Token} {front rest : List Token}

theorem afterBody_of_mark (hface : token.face = .mark [';']) (rest : List Token) :
    afterBody (cellsOf (token :: rest)) = cellsOf rest := by
  have hbrace : Cell.reads ⟨token, 1⟩ "\x7b" = false := Token.reads_of_face hface "\x7b"
  have hsemicolon : Cell.reads ⟨token, 1⟩ ";" = true := Token.reads_of_face hface ";"
  have hcls : token.cls ≠ .opening := by
    rw [show token.cls = .punctuation from congrArg Prod.fst hface]
    decide
  rw [Token.cellsOf_of_face hface (by decide), afterBody, hbrace, if_neg Bool.false_ne_true,
    if_neg hcls, if_pos hsemicolon]

theorem afterBody_of_braces {opening closing : Token} {inner : List Token}
    (hopening : opening.face = (.opening, ['\x7b'], none)) (hinner : Nested [] inner)
    (hclosing : closing.face = (.closing, ['\x7d'], none)) (rest : List Token) :
    afterBody (cellsOf (opening :: (inner ++ closing :: rest))) = cellsOf rest := by
  have hpairs := Token.pairs_of_faces hopening hclosing rfl
  have hafter := afterGroup_cellsOf hpairs hinner rest
  rw [cellsOf_group hpairs hinner] at hafter ⊢
  rw [afterBody, if_pos (show Cell.reads ⟨opening, _⟩ "\x7b" = true from
    Token.reads_of_face hopening "\x7b"), hafter]

/-- A semicolon is looked for behind everything that holds none outside brackets. -/
theorem afterSemicolon_of_nested (hfront : Nested [";"] front) (rest : List Token) :
    afterSemicolon (cellsOf (front ++ rest)) = afterSemicolon (cellsOf rest) := by
  generalize hstops : [";"] = stops at hfront
  induction hfront with
  | nil => rfl
  | @plain _ token back hopening hclosing hclear _ ih =>
      have hsemicolon : Cell.reads ⟨token, 1⟩ ";" = false := hclear ";" (by rw [← hstops]; decide)
      rw [List.cons_append, cellsOf_plain hopening hclosing, afterSemicolon, if_neg hopening,
        hsemicolon, if_neg Bool.false_ne_true, ih hstops]
  | @group _ opening closing inner back hpairs hclear hinner _ _ ih =>
      have hafter := afterGroup_cellsOf hpairs hinner (back ++ rest)
      rw [List.cons_append, List.append_assoc, List.cons_append]
      rw [cellsOf_group hpairs hinner] at hafter ⊢
      rw [afterSemicolon, if_pos hpairs.cls_opening, hafter, ih hstops]

/-- A body is looked for behind everything that holds neither a semicolon nor a brace outside
brackets. -/
theorem afterBody_of_nested (hfront : Nested ["\x7b", ";"] front) (rest : List Token) :
    afterBody (cellsOf (front ++ rest)) = afterBody (cellsOf rest) := by
  generalize hstops : ["\x7b", ";"] = stops at hfront
  induction hfront with
  | nil => rfl
  | @plain _ token back hopening hclosing hclear _ ih =>
      have hbrace : Cell.reads ⟨token, 1⟩ "\x7b" = false :=
        hclear "\x7b" (by rw [← hstops]; decide)
      have hsemicolon : Cell.reads ⟨token, 1⟩ ";" = false := hclear ";" (by rw [← hstops]; decide)
      rw [List.cons_append, cellsOf_plain hopening hclosing, afterBody, hbrace,
        if_neg Bool.false_ne_true, if_neg hopening, hsemicolon, if_neg Bool.false_ne_true,
        ih hstops]
  | @group _ opening closing inner back hpairs hclear hinner _ _ ih =>
      have hbrace (extent : Nat) : Cell.reads ⟨opening, extent⟩ "\x7b" = false :=
        hclear "\x7b" (by rw [← hstops]; decide)
      have hafter := afterGroup_cellsOf hpairs hinner (back ++ rest)
      rw [List.cons_append, List.append_assoc, List.cons_append]
      rw [cellsOf_group hpairs hinner] at hafter ⊢
      rw [afterBody, hbrace, if_neg Bool.false_ne_true, if_pos hpairs.cls_opening, hafter,
        ih hstops]

end Ends

/-! ### Decorations and visibilities -/

/-- Documentation is not written like the mark of an attribute. -/
theorem reads_hash_of_outerDoc {after before : Position} {tokens : List Token}
    (hreads : Reads after before tokens) {token : Token} (htoken : token ∈ tokens)
    (hcls : token.cls = .outerDoc) : token.reads "#" = false := by
  rw [Token.reads, decide_eq_false_iff_not]
  intro htext
  have hmark := hreads.cls_of_text htoken htext fun _ _ => rfl
  rw [hmark] at hcls
  cases hcls

theorem Fragment.nested_of_faces {stops : List String} (body : Fragment stops)
    {tokens : List Token} (htokens : tokens.map Token.face = body.tokens.map Token.face) :
    Nested stops tokens :=
  body.clear.of_faces_eq htokens

theorem attributeName?_of_faces {tokens others : List Token}
    (hfaces : tokens.map Token.face = others.map Token.face) :
    attributeName? tokens = attributeName? others := by
  have htext (token? : Option Token) :
      token?.map Token.text = (token?.map Token.face).map fun face => face.2.1 := by
    cases token? <;> rfl
  rw [attributeName?, attributeName?, htext, htext, ← List.head?_map, hfaces, List.head?_map]

/-- The tokens of written decorations. -/
theorem decorates_of_faces (decorations : List Decoration) {tokens : List Token}
    (htokens : tokens.map Token.face =
      (decorations.flatMap Decoration.pieces).flatMap Piece.faces) :
    Decorates (decorations.filterMap Decoration.name?) tokens := by
  induction decorations generalizing tokens with
  | nil =>
      rw [List.flatMap_nil, List.flatMap_nil, List.map_eq_nil_iff] at htokens
      rw [htokens]
      exact .nil
  | cons decoration decorations ih =>
      rw [List.flatMap_cons, List.flatMap_append, List.map_eq_append_iff] at htokens
      obtain ⟨front, back, rfl, hfront, hback⟩ := htokens
      cases decoration with
      | doc comment hcomment =>
          obtain ⟨token, hsingle, hcls⟩ := hcomment
          have hhash := reads_hash_of_outerDoc (reads_of_tokensFrom comment.accepted)
            (hsingle ▸ List.mem_singleton_self token) hcls
          simp only [Decoration.pieces, List.flatMap_cons, List.flatMap_nil, List.append_nil,
            Piece.faces, hsingle, List.map_cons, List.map_nil, List.map_eq_singleton_iff] at hfront
          obtain ⟨copy, rfl, hface⟩ := hfront
          rw [List.filterMap_cons_none rfl]
          refine .doc ?_ ?_ (ih hback)
          · rw [← hcls]
            exact congrArg Prod.fst hface
          · rw [Token.reads_of_face_eq hface]
            exact hhash
      | brackets body hbody =>
          simp only [Decoration.pieces, List.flatMap_cons, List.flatMap_nil, List.append_nil,
            Piece.faces, List.singleton_append, List.map_eq_cons_iff] at hfront
          obtain ⟨hash, group, rfl, hhash, hgroup⟩ := hfront
          obtain ⟨opening, inner, closing, rfl, hopening, hinner, hclosing⟩ :=
            exists_of_group_faces hgroup
          have hnames : (Decoration.brackets body hbody :: decorations).filterMap
              Decoration.name? =
                (attributeName? inner).toList ++ decorations.filterMap Decoration.name? := by
            rw [List.filterMap_cons, attributeName?_of_faces hinner, Decoration.name?]
            cases attributeName? body.tokens with
            | none => rfl
            | some name => rfl
          rw [hnames]
          simp only [List.cons_append, List.append_assoc, List.nil_append]
          exact .brackets hhash hopening (body.nested_of_faces hinner) hclosing (ih hback)

/-- The tokens of a written visibility. -/
theorem shows_of_faces (access : Access) {tokens : List Token}
    (htokens : tokens.map Token.face = access.pieces.flatMap Piece.faces) :
    Shows access.visibility tokens := by
  cases access with
  | inherited =>
      rw [Access.pieces, List.flatMap_nil, List.map_eq_nil_iff] at htokens
      rw [htokens]
      exact .inherited
  | everywhere =>
      simp only [Access.pieces, List.flatMap_cons, List.flatMap_nil, List.append_nil, Piece.faces,
        List.map_eq_singleton_iff] at htokens
      obtain ⟨token, rfl, hface⟩ := htokens
      exact .everywhere hface
  | restricted scope =>
      simp only [Access.pieces, List.flatMap_cons, List.flatMap_nil, List.append_nil, Piece.faces,
        List.singleton_append, parentheses, List.map_eq_cons_iff] at htokens
      obtain ⟨token, group, rfl, hface, hgroup⟩ := htokens
      obtain ⟨opening, inner, closing, rfl, hopening, hinner, hclosing⟩ :=
        exists_of_group_faces hgroup
      exact .restricted hface hopening (scope.nested_of_faces hinner) hclosing

/-! ### Words in front of a body -/

theorem ne_mark_of_isWordText {text : List Char} {c : Char} (hword : isWordText text)
    (hc : isWordStart c = false) : text ≠ [c] := by
  rintro rfl
  have hsingle : isWordText [c] = (isWordStart c && true) := by
    rw [isWordText]
    · rfl
    · simp
  rw [hsingle, hc] at hword
  cases hword

theorem Nested.word {stops : List String} {token : Token} {text : List Char} {rest : List Token}
    (hstops : ∀ stop ∈ stops, stop ∈ ["\x7b", ";"]) (hface : token.face = .word text)
    (hword : isWordText text) (hrest : Nested stops rest) : Nested stops (token :: rest) := by
  have hcls : token.cls = .word := congrArg Prod.fst hface
  refine .plain (by rw [hcls]; decide) (by rw [hcls]; decide) (fun stop hstop => ?_) hrest
  have hmark := hstops stop hstop
  simp only [List.mem_cons, List.not_mem_nil, or_false] at hmark
  rw [Token.reads_of_face hface, decide_eq_false_iff_not]
  rcases hmark with rfl | rfl
  · exact ne_mark_of_isWordText hword (by decide)
  · exact ne_mark_of_isWordText hword (by decide)

/-- The tokens of the parentheses that may follow a name. -/
theorem nested_of_arguments {arguments? : Option (Fragment [])} {tokens : List Token}
    (htokens : tokens.map Token.face =
      (arguments?.map parentheses).toList.flatMap Piece.faces) :
    Nested ["\x7b", ";"] tokens ∧ ∀ rest,
      isTraitAlias (cellsOf (tokens ++ rest)) = isTraitAlias (cellsOf rest) := by
  cases arguments? with
  | none =>
      rw [Option.map_none, Option.toList_none, List.flatMap_nil, List.map_eq_nil_iff] at htokens
      rw [htokens]
      exact ⟨.nil, fun _ => rfl⟩
  | some arguments =>
      rw [Option.map_some, Option.toList_some, List.flatMap_singleton] at htokens
      obtain ⟨opening, inner, closing, rfl, hopening, hinner, hclosing⟩ :=
        exists_of_group_faces htokens
      have hpairs := Token.pairs_of_faces hopening hclosing rfl
      have hnested := arguments.nested_of_faces hinner
      refine ⟨.group hpairs (fun stop hstop => ?_) hnested .nil, fun rest => ?_⟩
      · rw [Token.reads_of_face hopening]
        revert stop
        decide
      · have hafter := afterGroup_cellsOf hpairs hnested rest
        have hreads (text : String) (extent : Nat) :
            Cell.reads ⟨opening, extent⟩ text = decide (['('] = text.toList) :=
          Token.reads_of_face hopening text
        simp only [List.cons_append, List.append_assoc, List.nil_append]
        rw [cellsOf_group hpairs hnested] at hafter ⊢
        rw [isTraitAlias, hreads, hreads, hreads, hreads, if_neg (by decide), if_neg (by decide),
          if_pos hpairs.cls_opening, hafter]

/-- The tokens of the end of an item: a body in braces or a semicolon. -/
theorem afterBody_of_end {body? : Option (Fragment [])} {tokens : List Token}
    (htokens : tokens.map Token.face =
      ((body?.map braces).getD (.mark ';' (by decide))).faces) (rest : List Token) :
    afterBody (cellsOf (tokens ++ rest)) = cellsOf rest ∧
      isTraitAlias (cellsOf (tokens ++ rest)) = false := by
  cases body? with
  | none =>
      rw [Option.map_none, Option.getD_none, Piece.faces, List.map_eq_singleton_iff] at htokens
      obtain ⟨semicolon, rfl, hface⟩ := htokens
      refine ⟨afterBody_of_mark hface rest, ?_⟩
      have hreads (text : String) :
          Cell.reads ⟨semicolon, 1⟩ text = decide ([';'] = text.toList) :=
        Token.reads_of_face hface text
      rw [List.singleton_append, Token.cellsOf_of_face hface (by decide), isTraitAlias, hreads,
        hreads, hreads, if_pos (by decide)]
  | some body =>
      rw [Option.map_some, Option.getD_some] at htokens
      obtain ⟨opening, inner, closing, rfl, hopening, hinner, hclosing⟩ :=
        exists_of_group_faces htokens
      have hnested := body.nested_of_faces hinner
      have hreads (text : String) (extent : Nat) :
          Cell.reads ⟨opening, extent⟩ text = decide (['\x7b'] = text.toList) :=
        Token.reads_of_face hopening text
      simp only [List.cons_append, List.append_assoc, List.nil_append]
      refine ⟨afterBody_of_braces hopening hnested hclosing rest, ?_⟩
      rw [cellsOf_group (Token.pairs_of_faces hopening hclosing rfl) hnested, isTraitAlias, hreads,
        hreads, hreads, if_pos (by decide)]

/-! ### Keywords -/

/-- Without an attribute that makes it a macro, a function is a function. -/
theorem functionNode?_of_plain {attributes : List Attribute}
    (hplain : ∀ attr ∈ attributes, ∀ text ∈ macroAttributes, attr.name ≠ text.toList)
    (visibility : Visibility) (name : List Char) :
    functionNode? attributes visibility name =
      some (declared .function visibility false name) := by
  have hnone (text : String) (htext : text ∈ macroAttributes) :
      (attributes.reverse.find? fun attr => attr.name = text.toList) = none := by
    rw [List.find?_eq_none]
    intro attr hattr
    rw [decide_eq_true_eq]
    exact hplain attr (List.mem_reverse.mp hattr) text htext
  simp only [functionNode?, hnone "proc_macro" (by decide),
    hnone "proc_macro_attribute" (by decide), hnone "proc_macro_derive" (by decide),
    Option.isSome_none, Bool.false_eq_true, if_false]

section Keywords

variable {token name : Token} {text : List Char} (attributes : List Attribute)
  (visibility : Visibility)

/-- A block keyword and a name declare an item of its kind. -/
theorem readKeyword_block {keyword : BlockKeyword} (hface : token.face = .word keyword.text)
    (hname : name.face = .word text)
    (hplain : ∀ attr ∈ attributes, ∀ text ∈ macroAttributes, attr.name ≠ text.toList)
    {cells : List Cell} (halias : isTraitAlias cells = false) :
    readKeyword attributes visibility ⟨token, 1⟩ (⟨name, 1⟩ :: cells) =
      (some (declared keyword.kind visibility false (plainName text)),
        afterBody (⟨token, 1⟩ :: ⟨name, 1⟩ :: cells)) := by
  obtain ⟨start, stop, rfl⟩ := Token.eq_of_face hface
  obtain ⟨nameStart, nameStop, rfl⟩ := Token.eq_of_face hname
  cases keyword with
  | function => exact Prod.ext (functionNode?_of_plain hplain visibility (plainName text)) rfl
  | trait =>
      have hthird (first second : Cell) :
          isTraitAlias ((first :: second :: cells).drop 2) = false := halias
      have hbody (first : Cell) (rest : List Cell) (hcell : first.reads "fn" = false)
          (hkind : bodyItem? first rest = some .trait)
          (hrest : isTraitAlias ((first :: rest).drop 2) = false) :
          readKeyword attributes visibility first rest =
            ((nameAt? (first :: rest) 1).map (declared .trait visibility false),
              afterBody (first :: rest)) := by
        simp only [readKeyword, hcell, hkind, hrest, Bool.false_eq_true, if_false, Bool.and_false]
      exact hbody _ _ rfl rfl (hthird _ _)
  | _ => rfl

theorem readKeyword_macroRules {mark : Token} (hface : token.face = .word "macro_rules".toList)
    (hmark : mark.face = .mark ['!']) (hname : name.face = .word text) (cells : List Cell) :
    readKeyword attributes visibility ⟨token, 1⟩ (⟨mark, 1⟩ :: ⟨name, 1⟩ :: cells) =
      (some (declared .textMacro visibility
          (attributes.any fun attr => attr.name = "macro_export".toList) (plainName text)),
        afterBody (⟨name, 1⟩ :: cells)) := by
  obtain ⟨start, stop, rfl⟩ := Token.eq_of_face hface
  obtain ⟨markStart, markStop, rfl⟩ := Token.eq_of_face hmark
  obtain ⟨nameStart, nameStop, rfl⟩ := Token.eq_of_face hname
  rfl

theorem readKeyword_implementation (hface : token.face = .word ['i', 'm', 'p', 'l'])
    (cells : List Cell) :
    readKeyword attributes visibility ⟨token, 1⟩ cells =
      (none, afterBody (⟨token, 1⟩ :: cells)) := by
  obtain ⟨start, stop, rfl⟩ := Token.eq_of_face hface
  rfl

/-- A keyword of a value, with its qualifiers and a name, declares an item of its kind. -/
theorem readKeyword_value {keyword : ValueKeyword} (hface : token.face = .word keyword.text)
    {qualifiers : List Token}
    (hqualifiers : qualifiers.map Token.face = keyword.qualifiers.flatMap Piece.faces)
    (hname : name.face = .word text) (hmut : text ≠ ['m', 'u', 't'])
    (hvisible : plainName text ≠ ['_']) (rest : List Token) :
    readKeyword attributes visibility ⟨token, 1⟩ (cellsOf (qualifiers ++ name :: rest)) =
      (some (declared keyword.kind visibility false (plainName text)),
        afterSemicolon (cellsOf (token :: (qualifiers ++ name :: rest)))) := by
  have hread (kind : SymbolKind) (place : Nat) (first : Cell) (cells : List Cell)
      (hbody : first.reads "fn" = false ∧ bodyItem? first cells = none)
      (hkind : valueItem? first = some kind)
      (hplace : (if kind = .staticItem && readsAt (first :: cells) "mut" 1 then 2 else 1) = place)
      (hfound : nameAt? (first :: cells) place = some (plainName text)) :
      readKeyword attributes visibility first cells =
        (some (declared kind visibility false (plainName text)),
          afterSemicolon (first :: cells)) := by
    simp only [readKeyword, hbody.1, hbody.2, hkind, hplace, hfound, Bool.false_eq_true, if_false,
      Option.filter_some, hvisible, ne_eq, not_false_eq_true, decide_true, if_true, Option.map_some]
  rw [Token.cellsOf_of_face hface (by decide)]
  obtain ⟨start, stop, rfl⟩ := Token.eq_of_face hface
  obtain ⟨nameStart, nameStop, rfl⟩ := Token.eq_of_face hname
  cases keyword with
  | mutableStatic =>
      obtain ⟨mutable, rfl, hmutable⟩ := List.map_eq_singleton_iff.mp hqualifiers
      obtain ⟨mutStart, mutStop, rfl⟩ := Token.eq_of_face hmutable
      rw [List.singleton_append, Token.cellsOf_of_face hmutable (by decide),
        Token.cellsOf_of_face hname (by decide)]
      exact hread .staticItem 2 _ _ ⟨rfl, rfl⟩ rfl rfl rfl
  | staticItem =>
      have hplain : decide (text = "mut".toList) = false := decide_eq_false hmut
      rw [List.map_eq_nil_iff.mp hqualifiers, List.nil_append,
        Token.cellsOf_of_face hname (by decide)]
      refine hread .staticItem 1 _ _ ⟨rfl, rfl⟩ rfl ?_ rfl
      simp only [readsAt, List.getElem?_cons_succ, List.getElem?_cons_zero, Cell.reads, Token.reads,
        hplain, Bool.and_false, Bool.false_eq_true, if_false]
  | constant =>
      rw [List.map_eq_nil_iff.mp hqualifiers, List.nil_append,
        Token.cellsOf_of_face hname (by decide)]
      exact hread .constant 1 _ _ ⟨rfl, rfl⟩ rfl rfl rfl
  | typeAlias =>
      rw [List.map_eq_nil_iff.mp hqualifiers, List.nil_append,
        Token.cellsOf_of_face hname (by decide)]
      exact hread .typeAlias 1 _ _ ⟨rfl, rfl⟩ rfl rfl rfl

end Keywords

/-! ### Forms -/

/-- The tokens of the type that may stand behind a name. -/
theorem nested_of_type {type? : Option (Fragment [";"])} {tokens : List Token}
    (htokens : tokens.map Token.face =
      ((type?.map fun type => [Piece.mark ':' (by decide), .run type]).getD []).flatMap
        Piece.faces) : Nested [";"] tokens := by
  cases type? with
  | none =>
      rw [List.map_eq_nil_iff.mp htokens]
      exact .nil
  | some type =>
      simp only [Option.map_some, Option.getD_some, List.flatMap_cons, List.flatMap_nil,
        List.append_nil, Piece.faces, List.singleton_append, List.map_eq_cons_iff] at htokens
      obtain ⟨colon, behind, rfl, hcolon, hbehind⟩ := htokens
      have hcls : colon.cls = .punctuation := congrArg Prod.fst hcolon
      refine .plain (by rw [hcls]; decide) (by rw [hcls]; decide) (fun stop hstop => ?_)
        (type.nested_of_faces hbehind)
      rw [Token.reads_of_face hcolon]
      revert stop
      decide

theorem nested_of_qualifiers {keyword : ValueKeyword} {tokens : List Token}
    (htokens : tokens.map Token.face = keyword.qualifiers.flatMap Piece.faces) :
    Nested [";"] tokens := by
  cases keyword with
  | mutableStatic =>
      obtain ⟨mutable, rfl, hmutable⟩ := List.map_eq_singleton_iff.mp htokens
      exact .word (by decide) hmutable rfl .nil
  | _ =>
      rw [List.map_eq_nil_iff.mp htokens]
      exact .nil

/-- The tokens of a form, from the keyword on, are read as the node of the form, up to the end. -/
theorem Form.readKeyword_eq (form : Form) {tokens : List Token}
    (htokens : tokens.map Token.face = form.pieces.flatMap Piece.faces) (rest : List Token) :
    ∃ keyword behind, tokens = keyword :: behind ∧ keyword.Leads (behind ++ rest) ∧
      ∀ (attributes : List Attribute) (visibility : Visibility),
        (∀ attr ∈ attributes, ∀ text ∈ macroAttributes, attr.name ≠ text.toList) →
        readKeyword attributes visibility ⟨keyword, 1⟩ (cellsOf (behind ++ rest)) =
          (form.node? visibility (attributes.map Attribute.name), cellsOf rest) := by
  cases form with
  | block keyword name arguments? body? =>
      rw [pieces, List.flatMap_cons, List.flatMap_cons, Piece.faces, Name.piece, Piece.faces,
        List.flatMap_append, List.singleton_append, List.singleton_append, List.flatMap_singleton,
        List.map_eq_cons_iff] at htokens
      obtain ⟨token, behind, rfl, hface, hbehind⟩ := htokens
      rw [List.map_eq_cons_iff] at hbehind
      obtain ⟨named, tail, rfl, hname, htail⟩ := hbehind
      rw [List.map_eq_append_iff] at htail
      obtain ⟨arguments, final, rfl, harguments, hfinal⟩ := htail
      obtain ⟨hnested, halias⟩ := nested_of_arguments harguments
      obtain ⟨hend, hnone⟩ := afterBody_of_end hfinal rest
      have hfront : Nested ["\x7b", ";"] (token :: named :: arguments) :=
        .word (fun _ => id) hface keyword.isWordText_text
          (.word (fun _ => id) hname name.isWord hnested)
      have hbody := afterBody_of_nested hfront (final ++ rest)
      refine ⟨token, named :: (arguments ++ final), rfl, ?_, fun attributes visibility hplain => ?_⟩
      · refine Token.leads_of_face hface ?_ ?_
        · cases keyword <;> decide
        · exact fun hconst => absurd hconst (by cases keyword <;> decide)
      · rw [List.cons_append, List.cons_append, Token.cellsOf_of_face hface (by decide),
          Token.cellsOf_of_face hname (by decide), hend] at hbody
        rw [List.cons_append, List.append_assoc, Token.cellsOf_of_face hname (by decide),
          readKeyword_block attributes visibility hface hname hplain ((halias _).trans hnone),
          hbody]
        rfl
  | value keyword name type? content =>
      rw [pieces, List.flatMap_cons, Piece.faces, List.singleton_append, List.map_eq_cons_iff]
        at htokens
      obtain ⟨token, behind, rfl, hface, hbehind⟩ := htokens
      rw [List.flatMap_append, List.map_eq_append_iff] at hbehind
      obtain ⟨qualifiers, tail, rfl, hqualifiers, htail⟩ := hbehind
      rw [List.flatMap_cons, Name.piece, Piece.faces, List.singleton_append, List.map_eq_cons_iff]
        at htail
      obtain ⟨named, tail, rfl, hname, htail⟩ := htail
      rw [List.flatMap_append, List.map_eq_append_iff] at htail
      obtain ⟨type, tail, rfl, htype, htail⟩ := htail
      simp only [List.flatMap_cons, List.flatMap_nil, List.append_nil, Piece.faces,
        List.singleton_append, List.map_eq_cons_iff, List.map_eq_append_iff,
        List.map_eq_nil_iff] at htail
      obtain ⟨equals, _, rfl, hequals, value, _, rfl, hvalue, semicolon, _, rfl, hsemicolon, rfl⟩ :=
        htail
      have hcls : equals.cls = .punctuation := congrArg Prod.fst hequals
      have hcontent : Nested [";"] (equals :: value) := by
        refine .plain (by rw [hcls]; decide) (by rw [hcls]; decide) (fun stop hstop => ?_)
          (content.nested_of_faces hvalue)
        rw [Token.reads_of_face hequals]
        revert stop
        decide
      have hfront : Nested [";"] (token :: (qualifiers ++ named :: (type ++ equals :: value))) :=
        .word (by decide) hface keyword.isWordText_text ((nested_of_qualifiers hqualifiers).append
          (.word (by decide) hname name.isWord ((nested_of_type htype).append hcontent)))
      have hend := (afterSemicolon_of_nested hfront (semicolon :: rest)).trans
        (afterSemicolon_of_mark hsemicolon rest)
      refine ⟨token, _, rfl, ?_, fun attributes visibility _ => ?_⟩
      · refine Token.leads_of_face hface ?_ ?_
        · cases keyword <;> decide
        · intro hconst text htext
          have hnone : qualifiers = [] := by
            cases keyword with
            | mutableStatic => cases hconst
            | _ => exact List.map_eq_nil_iff.mp hqualifiers
          have hname' : text ∈ misreadNames := List.mem_cons_of_mem _ htext
          simp only [hnone, List.nil_append, List.cons_append]
          rw [Token.cellsOf_of_face hname (by decide), readsAt, List.getElem?_cons_zero]
          simp only
          rw [Cell.reads, Token.reads_of_face hname, decide_eq_false_iff_not]
          exact name.plain text hname'
      · simp only [List.cons_append, List.append_assoc, List.nil_append] at hend ⊢
        rw [readKeyword_value attributes visibility hface hqualifiers hname
          (name.plain "mut" (by decide)) name.visible, hend]
        rfl
  | macroRules name body =>
      simp only [pieces, List.flatMap_cons, List.flatMap_nil, List.append_nil, Name.piece,
        Piece.faces, List.singleton_append, List.map_eq_cons_iff] at htokens
      obtain ⟨token, _, rfl, hface, mark, _, rfl, hmark, named, group, rfl, hname, hgroup⟩ :=
        htokens
      obtain ⟨opening, inner, closing, rfl, hopening, hinner, hclosing⟩ :=
        exists_of_group_faces hgroup
      have hend := afterBody_of_braces hopening (body.nested_of_faces hinner) hclosing rest
      have hfront : Nested ["\x7b", ";"] [named] := .word (fun _ => id) hname name.isWord .nil
      have hbody := afterBody_of_nested hfront (opening :: (inner ++ closing :: rest))
      refine ⟨token, _, rfl, Token.leads_of_face hface (by decide)
        (fun hconst => absurd hconst (by decide)),
        fun attributes visibility hplain => ?_⟩
      rw [List.singleton_append, Token.cellsOf_of_face hname (by decide), hend] at hbody
      simp only [List.cons_append, List.append_assoc, List.nil_append]
      rw [Token.cellsOf_of_face hmark (by decide), Token.cellsOf_of_face hname (by decide),
        readKeyword_macroRules attributes visibility hface hmark hname, hbody, node?, List.any_map]
      rfl
  | implementation head body =>
      simp only [pieces, List.flatMap_cons, List.flatMap_nil, List.append_nil, Piece.faces,
        List.singleton_append, List.map_eq_cons_iff, List.map_eq_append_iff] at htokens
      obtain ⟨token, _, rfl, hface, target, group, rfl, htarget, hgroup⟩ := htokens
      obtain ⟨opening, inner, closing, rfl, hopening, hinner, hclosing⟩ :=
        exists_of_group_faces hgroup
      have hend := afterBody_of_braces hopening (body.nested_of_faces hinner) hclosing rest
      have hfront : Nested ["\x7b", ";"] (token :: target) :=
        .word (fun _ => id) hface rfl (head.nested_of_faces htarget)
      have hbody := afterBody_of_nested hfront (opening :: (inner ++ closing :: rest))
      refine ⟨token, _, rfl, Token.leads_of_face hface (by decide)
        (fun hconst => absurd hconst (by decide)),
        fun attributes visibility hplain => ?_⟩
      rw [List.cons_append, Token.cellsOf_of_face hface (by decide), hend] at hbody
      simp only [List.cons_append, List.append_assoc, List.nil_append]
      rw [readKeyword_implementation attributes visibility hface, hbody]
      rfl

/-! ### Items in a row -/

/-- An attribute of an item does not make a function a macro. -/
theorem name_ne_of_decorations {decorations : List Decoration} {name : List Char}
    (hname : name ∈ decorations.filterMap Decoration.name?) :
    ∀ text ∈ macroAttributes, name ≠ text.toList := by
  obtain ⟨decoration, -, hdecoration⟩ := List.mem_filterMap.mp hname
  cases decoration with
  | doc => cases hdecoration
  | brackets body hbody => exact hbody name hdecoration

/-- The node of an item has no place until it is read. -/
theorem Item.map_withSpan_node? (item : Item) (span : Option Span) :
    (item.node?.map (Node.withSpan span)).map (Node.withSpan none) = item.node? := by
  rw [Item.node?]
  cases item.form <;> rfl

/-- The outline of the tokens of some items. -/
theorem exists_nodes_of_faces (code : List Char) (items : List Item) {tokens : List Token}
    (htokens : tokens.map Token.face = items.flatMap Item.faces) :
    ∃ nodes, Outline.ofCells code (cellsOf tokens) = { nodes } ∧
      nodes.map (Node.withSpan none) = items.filterMap Item.node? := by
  induction items generalizing tokens with
  | nil =>
      rw [List.flatMap_nil, List.map_eq_nil_iff] at htokens
      rw [htokens, show cellsOf [] = [] from rfl, Outline.ofCells]
      exact ⟨[], rfl, rfl⟩
  | cons item items ih =>
      rw [List.flatMap_cons, Item.faces, Item.pieces, List.flatMap_append, List.flatMap_append,
        List.append_assoc, List.append_assoc, List.map_eq_append_iff] at htokens
      obtain ⟨front, _, rfl, hfront, htokens⟩ := htokens
      rw [List.map_eq_append_iff] at htokens
      obtain ⟨middle, _, rfl, hmiddle, htokens⟩ := htokens
      rw [List.map_eq_append_iff] at htokens
      obtain ⟨body, back, rfl, hbody, hback⟩ := htokens
      obtain ⟨nodes, houtline, hnodes⟩ := ih hback
      obtain ⟨keyword, behind, rfl, hleads, hread⟩ := item.form.readKeyword_eq hbody back
      have hdecorates := decorates_of_faces item.decorations hfront
      have hshows := shows_of_faces item.access hmiddle
      obtain ⟨attributes, hnames, hitem⟩ := readItem_of_head hdecorates hshows hleads
      have hplain : ∀ attr ∈ attributes, ∀ text ∈ macroAttributes, attr.name ≠ text.toList := by
        intro attr hattr
        have hname : attr.name ∈ item.decorations.filterMap Decoration.name? := by
          rw [← hnames]
          exact List.mem_map_of_mem hattr
        exact name_ne_of_decorations hname
      rw [hread attributes item.access.visibility hplain, hnames,
        show item.form.node? _ _ = item.node? from rfl] at hitem
      obtain ⟨span, hcells⟩ := ofCells_of_readItem code hdecorates hshows hleads hitem
      rw [houtline] at hcells
      rw [List.cons_append, hcells]
      refine ⟨_, rfl, ?_⟩
      have hnode := item.map_withSpan_node? (some span)
      rw [List.map_append, ← Option.toList_map, hnode, hnodes]
      cases hitem : item.node? with
      | none => rw [List.filterMap_cons_none hitem, Option.toList_none, List.nil_append]
      | some node => rw [List.filterMap_cons_some hitem, Option.toList_some, List.singleton_append]

/-- Items can be written one after the other, and whatever writing of them is read gives the nodes
of the items that declare something, in their order, with the kinds, names and visibilities that are
written, and nothing else. -/
theorem read_of_isWriting (items : List Item) :
    IsWriting items (String.ofList (writeItems items)) ∧
      ∀ code, IsWriting items code →
        ∃ nodes, read code = .ok { docs := "", nodes, unexpanded := [] } ∧
          nodes.map (Node.withSpan none) = items.filterMap Item.node? := by
  refine ⟨isWriting_writeItems items, fun code hcode => ?_⟩
  obtain ⟨tokens, htokens, hfaces⟩ := hcode
  obtain ⟨nodes, houtline, hnodes⟩ := exists_nodes_of_faces code.toList items hfaces
  refine ⟨nodes, ?_, hnodes⟩
  rw [read, htokens]
  simp only [bind, Except.bind, pure, Except.pure, houtline]
  rfl

/-- An exported macro and a module; the items inside their bodies do not show. -/
theorem read_of_isWriting_macro_and_module :
    ∃ nodes, read (
        "/// A macro.\n#[macro_export] macro_rules! m \x7b () => \x7b pub fn f(); \x7d \x7d\n" ++
        "pub(crate) mod r#type \x7b pub struct Hidden; \x7d") =
          .ok { docs := "", nodes, unexpanded := [] } ∧
      nodes.map (Node.withSpan none) =
        [.item { kind := .textMacro, ident := "m", exported := true },
          .item { kind := .moduleItem, ident := "type", visibility := .restricted }] := by
  let decorations : List Decoration :=
    [.doc (.ofText "/// A macro.".toList (by decide +kernel))
        ⟨⟨.outerDoc, "/// A macro.".toList, 0, 12, some " A macro.".toList⟩, by decide +kernel,
          rfl⟩,
      .brackets (.ofText "macro_export".toList (by decide +kernel)) (by decide +kernel)]
  let items : List Item :=
    [⟨decorations, .inherited, .macroRules ⟨['m'], rfl, by decide, by decide⟩
        (.ofText "() => \x7b pub fn f(); \x7d".toList (by decide +kernel))⟩,
      ⟨[], .restricted (.ofText "crate".toList (by decide +kernel)),
        .block .moduleItem ⟨"r#type".toList, by decide +kernel, by decide, by decide⟩ none
          (some (.ofText "pub struct Hidden;".toList (by decide +kernel)))⟩]
  have hwriting : IsWriting items (
      "/// A macro.\n#[macro_export] macro_rules! m \x7b () => \x7b pub fn f(); \x7d \x7d\n" ++
        "pub(crate) mod r#type \x7b pub struct Hidden; \x7d") := by
    rw [IsWriting, String.toList_append]
    -- The texts are spelled out: decoding them would take the kernel longer than cutting them.
    repeat rw [String.toList_ofList]
    exact ⟨_, eq_ok_of_isSome (by decide +kernel), by decide +kernel⟩
  have hexported : ((decorations.filterMap Decoration.name?).any fun name =>
      name = "macro_export".toList) = true := by
    decide +kernel
  obtain ⟨nodes, hread, hnodes⟩ := (read_of_isWriting items).2 _ hwriting
  refine ⟨nodes, hread, hnodes.trans ?_⟩
  rw [← hexported]
  rfl

end CrateReadme.Source
