import CrateReadme.Proofs.Source.Cursor

/-!
# Reading an accepted source is safe

Once a source has been cut into tokens, nothing can go wrong any more. Its brackets are well nested,
so the table of their partners is complete and the reader with a cursor runs to the end of the
tokens. What it declares stands in the source in order: the spans of the nodes are ranges of whole
characters that do not overlap.
-/

namespace CrateReadme.Source

/-! ### The table of partners -/

/-- The table `after` adds to the table `before` the partners of the brackets among `tokens`, the
first of which has the place `index`. -/
structure Extends (index : Nat) (tokens : List Token) (before after : Nat → Option Nat) : Prop where
  outside : ∀ place, place < index ∨ index + tokens.length ≤ place → after place = before place
  inside : ∀ (offset : Nat) (cell : Cell), (cellsOf tokens)[offset]? = some cell →
    cell.token.cls = .opening →
    after (index + offset) = some (index + offset + cell.extent - 1) ∧ 2 ≤ cell.extent ∧
      offset + cell.extent ≤ tokens.length

namespace Extends

variable {index : Nat} {before middle after : Nat → Option Nat}

theorem nil (index : Nat) (found : Nat → Option Nat) : Extends index [] found found where
  outside _ _ := rfl
  inside _ _ hcell := by cases hcell

theorem plain {token : Token} (hopening : token.cls ≠ .opening) (hclosing : token.cls ≠ .closing)
    (index : Nat) (found : Nat → Option Nat) : Extends index [token] found found where
  outside _ _ := rfl
  inside offset cell hcell hcls := by
    rw [cellsOf_plain hopening hclosing] at hcell
    cases offset with
    | zero =>
        cases hcell
        exact absurd hcls hopening
    | succ offset => cases hcell

/-- Around a group the opening bracket gets its partner, and the partners within stay. -/
theorem group {opening closing : Token} {inner : List Token} (hpairs : opening.Pairs closing)
    (hown : HasOwnCells inner) (hinner : Extends (index + 1) inner before after) :
    Extends index (opening :: (inner ++ [closing])) before
      (fun place => if place = index then some (index + 1 + inner.length) else after place) where
  outside place hplace := by
    simp only [List.length_cons, List.length_append, List.length_nil] at hplace
    rw [if_neg (by omega)]
    exact hinner.outside place (by omega)
  inside offset cell hcell hcls := by
    rw [hown.cellsOf_group hpairs] at hcell
    simp only [List.length_cons, List.length_append, List.length_nil]
    cases offset with
    | zero =>
        cases hcell
        simp only [if_true, Nat.add_zero]
        exact ⟨congrArg some (by omega), by omega, by omega⟩
    | succ offset =>
        rw [List.getElem?_cons_succ, List.getElem?_append] at hcell
        split at hcell
        · obtain ⟨hafter, hextent, hinside⟩ := hinner.inside offset cell hcell hcls
          have hplace : index + 1 + offset = index + (offset + 1) := by omega
          rw [hplace] at hafter
          rw [if_neg (by omega)]
          exact ⟨hafter, hextent, by omega⟩
        · have hlast := List.mem_of_getElem? hcell
          rw [show cellsOf [] = [] from rfl, List.mem_singleton] at hlast
          rw [hlast] at hcls
          exact absurd (hcls.symm.trans hpairs.cls_closing) (by decide)

/-- Partners are found in one stretch after the other. -/
theorem append {front back : List Token} (hown : HasOwnCells front)
    (hfront : Extends index front before middle)
    (hback : Extends (index + front.length) back middle after) :
    Extends index (front ++ back) before after where
  outside place hplace := by
    rw [List.length_append] at hplace
    rw [hback.outside place (by omega), hfront.outside place (by omega)]
  inside offset cell hcell hcls := by
    rw [hown.cellsOf_append, List.getElem?_append, length_cellsOf] at hcell
    rw [List.length_append]
    split at hcell
    · obtain ⟨hafter, hextent, hinside⟩ := hfront.inside offset cell hcell hcls
      rw [hback.outside _ (by omega)]
      exact ⟨hafter, hextent, by omega⟩
    · obtain ⟨hafter, hextent, hinside⟩ := hback.inside _ cell hcell hcls
      have hplace : index + front.length + (offset - front.length) = index + offset := by omega
      rw [hplace] at hafter
      exact ⟨hafter, hextent, by omega⟩

end Extends

section Steps

variable {index : Nat} {unclosed : List Nat} {found : Nat → Option Nat} {token : Token}

theorem partnersFrom_nil : partnersFrom index unclosed found [] = some found := by
  rw [partnersFrom.eq_def]

theorem partnersFrom_opening (hopening : token.cls = .opening) (tokens : List Token) :
    partnersFrom index unclosed found (token :: tokens) =
      partnersFrom (index + 1) (index :: unclosed) found tokens := by
  rw [partnersFrom.eq_def]
  simp only [hopening, if_true]

theorem partnersFrom_closing (hclosing : token.cls = .closing) (opening : Nat)
    (tokens : List Token) :
    partnersFrom index (opening :: unclosed) found (token :: tokens) =
      partnersFrom (index + 1) unclosed
        (fun place => if place = opening then some index else found place) tokens := by
  rw [partnersFrom.eq_def]
  simp only [hclosing, if_true, reduceCtorEq, if_false]

theorem partnersFrom_plain (hopening : token.cls ≠ .opening) (hclosing : token.cls ≠ .closing)
    (tokens : List Token) :
    partnersFrom index unclosed found (token :: tokens) =
      partnersFrom (index + 1) unclosed found tokens := by
  rw [partnersFrom.eq_def]
  simp only [hopening, hclosing, if_false]

end Steps

/-- Well nested tokens leave the open brackets in front of them open. -/
theorem exists_extends_of_nested {stops : List String} {front : List Token}
    (hfront : Nested stops front) (index : Nat) (unclosed : List Nat) (found : Nat → Option Nat)
    (rest : List Token) :
    ∃ after, partnersFrom index unclosed found (front ++ rest) =
        partnersFrom (index + front.length) unclosed after rest ∧
      Extends index front found after := by
  induction hfront generalizing index unclosed found rest with
  | nil => exact ⟨found, rfl, .nil index found⟩
  | @plain stops token back hopening hclosing _ _ ih =>
      obtain ⟨after, heq, hextends⟩ := ih (index + 1) unclosed found rest
      refine ⟨after, ?_, ?_⟩
      · rw [List.cons_append, partnersFrom_plain hopening hclosing, heq, List.length_cons]
        congr 1
        omega
      · have hnested : Nested [] [token] := .plain hopening hclosing (by simp) .nil
        exact .append hnested.hasOwnCells (.plain hopening hclosing index found) hextends
  | @group stops opening closing inner back hpairs _ hinner _ ihinner ihback =>
      obtain ⟨middle, hmiddle, hextends⟩ :=
        ihinner (index + 1) (index :: unclosed) found (closing :: (back ++ rest))
      obtain ⟨after, hafter, hback⟩ := ihback (index + 1 + inner.length + 1) unclosed
        (fun place => if place = index then some (index + 1 + inner.length) else middle place) rest
      have hsize : (opening :: (inner ++ [closing])).length = inner.length + 2 := by simp
      have hplace : index + (inner.length + 2) = index + 1 + inner.length + 1 := by omega
      refine ⟨after, ?_, ?_⟩
      · rw [List.cons_append, List.append_assoc, List.cons_append,
          partnersFrom_opening hpairs.cls_opening, hmiddle,
          partnersFrom_closing hpairs.cls_closing, hafter]
        congr 1
        simp only [List.length_cons, List.length_append]
        omega
      · have hgroup := Extends.group hpairs hinner.hasOwnCells hextends
        have hnested : Nested [] (opening :: (inner ++ [closing])) :=
          .group hpairs (by simp) hinner .nil
        rw [← hplace, ← hsize] at hback
        have happend := Extends.append hnested.hasOwnCells hgroup hback
        rwa [List.cons_append, List.append_assoc, List.singleton_append] at happend

/-- The tokens of an accepted source have a tape, and it can be relied on. -/
theorem exists_tape_of_reads {last index : Nat} {input : List Char} {tokens : List Token}
    (hreads : Reads ⟨last, [], []⟩ ⟨index, [], input⟩ tokens) (hnested : Nested [] tokens) :
    ∃ tape, Tape.ofTokens? tokens = some tape ∧ tape.cells = cellsOf tokens ∧
      tape.IsFaithful := by
  obtain ⟨found, hfound, hextends⟩ := exists_extends_of_nested hnested 0 [] (fun _ => none) []
  rw [List.append_nil, partnersFrom_nil] at hfound
  refine ⟨⟨cellsOf tokens, found⟩, by rw [Tape.ofTokens?, hfound, Option.map_some], rfl, ?_, ?_⟩
  · intro place cell hcell hcls
    obtain ⟨hpartner, hextent, hinside⟩ := hextends.inside place cell hcell hcls
    rw [Nat.zero_add] at hpartner
    rw [length_cellsOf]
    exact ⟨hpartner, hextent, hinside⟩
  · intro place cell hcell hbracket
    have hmem : cell.token ∈ tokens := by
      rw [← map_token_cellsOf tokens]
      exact List.mem_map_of_mem (List.mem_of_getElem? hcell)
    simp only [Cell.reads, Token.reads, decide_eq_true_eq] at hbracket
    rcases hbracket with htext | htext | htext
    · exact hreads.cls_of_text hmem htext fun _ rest => nextStretch_opening rest rfl
    · exact hreads.cls_of_text hmem htext fun _ rest => nextStretch_opening rest rfl
    · exact hreads.cls_of_text hmem htext fun _ rest => nextStretch_opening rest rfl

/-! ### The places of nodes -/

def Node.span? : Node → Option Span
  | .item declaration => declaration.span
  | .use declaration => declaration.span

@[simp]
theorem Node.span?_withSpan (span : Option Span) (node : Node) :
    (node.withSpan span).span? = span := by
  cases node with
  | item => rfl
  | use => rfl

theorem Outline.nodes_addAttribute (body : List Cell) (span : Option Span) (outline : Outline) :
    (outline.addAttribute body span).nodes = outline.nodes := by
  unfold addAttribute
  split
  · split
    · split <;> rfl
    · rfl
  · rfl

/-- The nodes cover characters of the source each and stand in order from `first` up to `last`. -/
inductive Covered (code : List Char) (last : Nat) : (first : Nat) → List Node → Prop
  | nil {first : Nat} (hlast : first ≤ last) : Covered code last first []
  | cons {first start stop : Nat} {node : Node} {nodes : List Node} (hfirst : first ≤ start)
      (hcovers : start < stop)
      (hspan : node.span? = some ⟨byteOffset code start, byteOffset code stop⟩)
      (hrest : Covered code last stop nodes) : Covered code last first (node :: nodes)

/-- A token stands within the text, and the ones behind it stand behind it. -/
theorem Placed.getElem? {first last place : Nat} {tokens : List Token} {token : Token}
    (hplaced : Placed last first tokens) (htoken : tokens[place]? = some token) :
    first ≤ token.start ∧ token.start < token.stop ∧
      Placed last token.stop (tokens.drop (place + 1)) := by
  induction hplaced generalizing place with
  | nil => cases htoken
  | cons hfirst hcovers hrest ih =>
      cases place with
      | zero =>
          cases htoken
          exact ⟨hfirst, hcovers, hrest⟩
      | succ place =>
          obtain ⟨hstart, hcovered, hbehind⟩ := ih htoken
          exact ⟨by omega, hcovered, hbehind⟩

/-- Tokens that are taken from the front of a placed list leave a placed list. -/
theorem Placed.take_from {first last place stop : Nat} {tokens : List Token}
    {opening closing : Token} (hplaced : Placed last first (tokens.drop place))
    (hopening : tokens[place]? = some opening) (hclosing : tokens[stop]? = some closing)
    (hle : place ≤ stop) :
    first ≤ opening.start ∧ opening.start < closing.stop ∧
      Placed last closing.stop (tokens.drop (stop + 1)) := by
  obtain ⟨ahead, rfl⟩ : ∃ ahead, stop = place + ahead := ⟨stop - place, by omega⟩
  rw [← List.getElem?_drop] at hclosing
  have hhead : (tokens.drop place)[0]? = some opening := by
    rw [List.getElem?_drop]
    exact hopening
  obtain ⟨hstart, hcovers, hrest⟩ := hplaced.getElem? hhead
  have hbehind := (hplaced.getElem? hclosing).2.2
  rw [List.drop_drop] at hbehind
  refine ⟨hstart, ?_, hbehind⟩
  cases ahead with
  | zero =>
      rw [hhead] at hclosing
      cases hclosing
      exact hcovers
  | succ ahead =>
      rw [← List.getElem?_drop] at hclosing
      have := hrest.mem (List.mem_of_getElem? (i := ahead) (by
        rw [List.getElem?_drop, Nat.zero_add, Nat.add_comm 1 ahead, ← List.getElem?_drop]
        exact hclosing))
      omega

namespace Tape

variable {tape : Tape} {place : Nat}

/-- A declaration takes the tokens up to a last one, and its span is theirs. -/
theorem exists_last_of_readItem (htape : tape.IsFaithful) (code : List Char) {cell : Cell}
    (hcell : tape.cells[place]? = some cell) :
    ∃ stop final, tape.cells[stop]? = some final ∧ place ≤ stop ∧
      (Source.readItem (tape.cells.drop place)).2 = tape.cells.drop (stop + 1) ∧
      spanUpTo code (tape.cells.drop place) (Source.readItem (tape.cells.drop place)).2 =
        some ⟨byteOffset code cell.token.start, byteOffset code final.token.stop⟩ := by
  obtain ⟨after, -, hdrop, hlt⟩ := readItem_eq htape code hcell
  have hinside := lt_of_cell hcell
  -- A reader that ran over the end has taken the last token.
  obtain ⟨stop, hstop, hle, hsame⟩ : ∃ stop, stop < tape.cells.length ∧ place ≤ stop ∧
      tape.cells.drop after = tape.cells.drop (stop + 1) := by
    by_cases hover : tape.cells.length ≤ after
    · refine ⟨tape.cells.length - 1, by omega, by omega, ?_⟩
      rw [List.drop_of_length_le hover, List.drop_of_length_le (by omega)]
    · refine ⟨after - 1, by omega, by omega, ?_⟩
      rw [Nat.sub_add_cancel (by omega)]
  obtain ⟨final, hfinal⟩ := exists_cell_of_lt hstop
  rw [← hdrop, hsame]
  exact ⟨stop, final, hfinal, hle, rfl, spanUpTo_eq code hcell hfinal hle⟩

/-- What the outline declares stands in order where the tokens do. -/
theorem covered_nodes (htape : tape.IsFaithful) (code : List Char) {last first : Nat}
    (hplaced : Placed last first ((tape.cells.map Cell.token).drop place)) :
    Covered code last first (Outline.ofCells code (tape.cells.drop place)).nodes := by
  induction hleft : tape.cells.length - place using Nat.strongRecOn
    generalizing place first with
  | ind left ih =>
      by_cases hend : tape.cells.length ≤ place
      · rw [List.drop_of_length_le hend, Outline.ofCells]
        exact .nil hplaced.first_le
      obtain ⟨cell, hcell⟩ := exists_cell_of_lt (Nat.lt_of_not_le hend)
      have hbehind (later : Nat) (hlater : place ≤ later) :
          Placed last first ((tape.cells.map Cell.token).drop later) := by
        have hdrop := hplaced.drop (later - place)
        rwa [List.drop_drop, Nat.add_sub_cancel' hlater] at hdrop
      have htoken {index : Nat} {found : Cell} (hfound : tape.cells[index]? = some found) :
          (tape.cells.map Cell.token)[index]? = some found.token := by
        rw [List.getElem?_map, hfound, Option.map_some]
      obtain ⟨stop, final, hfinal, hle, hdrop, hspan⟩ := exists_last_of_readItem htape code hcell
      rw [drop_eq_cons_of_getElem? hcell] at hdrop hspan ⊢
      rw [Outline.ofCells]
      by_cases hdoc : cell.token.cls = .innerDoc
      · rw [if_pos hdoc]
        exact ih _ (by omega) (hbehind (place + 1) (by omega)) rfl
      rw [if_neg hdoc]
      have htwo : place + 1 + 1 = place + 2 := rfl
      simp only [readsAt_drop, Nat.add_zero, List.drop_drop, htwo]
      by_cases hinner : (cell.reads "#" && readsAt tape.cells "!" (place + 1) &&
          readsAt tape.cells "[" (place + 2)) = true
      · rw [if_pos hinner, Outline.nodes_addAttribute]
        rw [Bool.and_eq_true] at hinner
        obtain ⟨bracket, hbracket, hreads⟩ := exists_cell_of_readsAt hinner.2
        have hopening := htape.opening _ bracket hbracket (Or.inr (Or.inl hreads))
        obtain ⟨after, -, hlt, hgroup⟩ := afterGroup_eq htape hbracket hopening
        rw [← hgroup.drop]
        exact ih _ (by omega) (hbehind after (by omega)) rfl
      rw [if_neg hinner, hspan, hdrop]
      cases (Source.readItem (cell :: tape.cells.drop (place + 1))).1 with
      | none => exact ih _ (by omega) (hbehind (stop + 1) (by omega)) rfl
      | some node =>
          obtain ⟨hstart, hcovers, hrest⟩ := hplaced.take_from (htoken hcell) (htoken hfinal) hle
          exact .cons hstart hcovers (Node.span?_withSpan _ node) (ih _ (by omega) hrest rfl)

end Tape

/-! ### Byte ranges -/

theorem byteOffset_eq_utf8ByteSize (code : List Char) (index : Nat) :
    byteOffset code index = (String.ofList (code.take index)).utf8ByteSize := by
  induction code generalizing index with
  | nil => simp [byteOffset]
  | cons c code ih =>
      cases index with
      | zero => simp [byteOffset]
      | succ index =>
          rw [byteOffset, ih, List.take_succ_cons, String.ofList_cons, String.utf8ByteSize_append,
            String.utf8ByteSize_singleton]

theorem byteOffset_add (code : List Char) (index count : Nat) :
    byteOffset code (index + count) =
      byteOffset code index + (String.ofList ((code.drop index).take count)).utf8ByteSize := by
  rw [byteOffset_eq_utf8ByteSize, byteOffset_eq_utf8ByteSize, List.take_add, String.ofList_append,
    String.utf8ByteSize_append]

theorem byteOffset_mono (code : List Char) {index other : Nat} (hle : index ≤ other) :
    byteOffset code index ≤ byteOffset code other := by
  rw [← Nat.add_sub_cancel' hle, byteOffset_add]
  exact Nat.le_add_right _ _

theorem Covered.first_le {code : List Char} {last first : Nat} {nodes : List Node}
    (hcovered : Covered code last first nodes) : first ≤ last := by
  induction hcovered with
  | nil hlast => exact hlast
  | cons hfirst hcovers _ _ ih => omega

/-- The bytes of a span are those of some characters of a source. -/
def CoversText (code : String) (span : Span) : Prop :=
  ∃ before text after : String, code = before ++ text ++ after ∧ text ≠ "" ∧
    span.start = before.utf8ByteSize ∧ span.stop = before.utf8ByteSize + text.utf8ByteSize

/-- Two places, one behind the other, cover text in bytes too. -/
theorem coversText_byteOffset {code : String} {start stop : Nat} (hcovers : start < stop)
    (hstop : stop ≤ code.toList.length) :
    CoversText code ⟨byteOffset code.toList start, byteOffset code.toList stop⟩ := by
  obtain ⟨size, rfl⟩ : ∃ size, stop = start + size := ⟨stop - start, by omega⟩
  refine ⟨String.ofList (code.toList.take start),
    String.ofList ((code.toList.drop start).take size),
    String.ofList (code.toList.drop (start + size)), ?_, ?_, ?_, ?_⟩
  · rw [← String.ofList_append, ← String.ofList_append, ← List.take_add, List.take_append_drop,
      String.ofList_toList]
  · intro hempty
    have hlength := congrArg (fun text : String => text.toList.length) hempty
    simp only [String.toList_ofList, List.length_take, List.length_drop, String.toList_empty,
      List.length_nil] at hlength
    omega
  · rw [byteOffset_eq_utf8ByteSize]
  · simp only [byteOffset_add, ← byteOffset_eq_utf8ByteSize]
    exact Int.natCast_add _ _

theorem bounds_of_coversText {code : String} {span : Span} (hcovers : CoversText code span) :
    0 ≤ span.start ∧ span.start < span.stop ∧ span.stop ≤ code.utf8ByteSize := by
  obtain ⟨before, text, after, rfl, htext, hstart, hstop⟩ := hcovers
  have hsize : text.utf8ByteSize ≠ 0 :=
    fun hzero => htext (String.utf8ByteSize_eq_zero_iff.mp hzero)
  rw [String.utf8ByteSize_append, String.utf8ByteSize_append]
  omega

/-- Nodes that cover characters in order have spans, and the spans do not overlap. -/
theorem Covered.exists_spans {code : String} {first : Nat} {nodes : List Node}
    (hcovered : Covered code.toList code.toList.length first nodes) :
    ∃ spans : List Span, nodes.map Node.span? = spans.map some ∧
      (∀ span ∈ spans, CoversText code span ∧ (byteOffset code.toList first : Int) ≤ span.start) ∧
      spans.Pairwise fun earlier later => earlier.stop ≤ later.start := by
  induction hcovered with
  | nil => exact ⟨[], rfl, by simp, .nil⟩
  | @cons first start stop node nodes hfirst hcovers hspan hrest ih =>
      obtain ⟨spans, heq, hspans, hpairwise⟩ := ih
      have hstart := byteOffset_mono code.toList hfirst
      refine ⟨⟨byteOffset code.toList start, byteOffset code.toList stop⟩ :: spans, ?_, ?_, ?_⟩
      · rw [List.map_cons, List.map_cons, hspan, heq]
      · intro span hmem
        rcases List.mem_cons.mp hmem with rfl | hmem
        · exact ⟨coversText_byteOffset hcovers hrest.first_le, Int.ofNat_le.mpr hstart⟩
        · have hstop := byteOffset_mono code.toList (Nat.le_of_lt hcovers)
          obtain ⟨htext, hle⟩ := hspans span hmem
          exact ⟨htext, by omega⟩
      · exact .cons (fun span hmem => (hspans span hmem).2) hpairwise

/-! ### Safety -/

/-- On a source that can be cut into tokens, the brackets are well nested; the reader with a cursor
finds every token and every partner that it looks up, stops at or behind the end, and has the
outline that reading gives; and the nodes cover ranges of whole characters in order. -/
theorem read_safe_of_tokenize {code : String} {tokens : List Token}
    (htokens : tokenize code.toList = .ok tokens) :
    Nested [] tokens ∧
      ∃ (tape : Tape) (outline : Outline) (cursor : Nat) (spans : List Span),
        Tape.ofTokens? tokens = some tape ∧ tape.cells.map Cell.token = tokens ∧
        tape.scan code.toList 0 = some (outline, cursor) ∧ tokens.length ≤ cursor ∧
        read code = .ok {
          docs := String.ofList (unindent (Text.unlines outline.docs))
          nodes := outline.nodes
          unexpanded := outline.unexpanded } ∧
        outline.nodes.map Node.span? = spans.map some ∧
        (∀ span ∈ spans, CoversText code span ∧
          0 ≤ span.start ∧ span.start < span.stop ∧ span.stop ≤ code.utf8ByteSize) ∧
        spans.Pairwise fun earlier later => earlier.stop ≤ later.start := by
  have hreads := reads_of_tokensFrom htokens
  have hlast : shebangSize code.toList + (code.toList.drop (shebangSize code.toList)).length =
      code.toList.length := by
    rw [List.length_drop]
    exact Nat.add_sub_cancel' (shebangSize_le code.toList)
  rw [hlast] at hreads
  have hnested : Nested [] tokens := by
    cases hreads.closes with
    | done hnested => exact hnested
  obtain ⟨tape, htape, hcells, hfaithful⟩ := exists_tape_of_reads hreads hnested
  obtain ⟨cursor, hscan, hcursor⟩ := Tape.scan_eq hfaithful code.toList 0
  have hmap : tape.cells.map Cell.token = tokens := by
    rw [hcells, map_token_cellsOf]
  have hplaced : Placed code.toList.length (shebangSize code.toList)
      ((tape.cells.map Cell.token).drop 0) := by
    rw [hmap]
    exact hreads.placed
  obtain ⟨spans, hspans, htext, hpairwise⟩ :=
    (Tape.covered_nodes hfaithful code.toList hplaced).exists_spans
  rw [List.drop_zero] at hscan hspans
  rw [hcells, length_cellsOf] at hcursor
  refine ⟨hnested, tape, _, cursor, spans, htape, hmap, hscan, hcursor, ?_, hspans, ?_, hpairwise⟩
  · rw [read, htokens, hcells]
    rfl
  · intro span hmem
    have hcovers := (htext span hmem).1
    exact ⟨hcovers, bounds_of_coversText hcovers⟩

/-- The word `as` steps over a bracket here, and the reader still comes to the end. -/
theorem read_safe_of_tokenize_rename_of_group :
    ∃ (tokens : List Token) (tape : Tape) (outline : Outline) (cursor : Nat),
      tokenize "use a as \x7bb\x7d; pub mod é;".toList = .ok tokens ∧ tokens.length = 11 ∧
      Tape.ofTokens? tokens = some tape ∧
      tape.scan "use a as \x7bb\x7d; pub mod é;".toList 0 = some (outline, cursor) ∧
      11 ≤ cursor := by
  have hlength : (tokenize "use a as \x7bb\x7d; pub mod é;".toList).toOption.map List.length =
      some 11 := by
    decide +kernel
  cases htokens : tokenize "use a as \x7bb\x7d; pub mod é;".toList with
  | error fault =>
      rw [htokens] at hlength
      cases hlength
  | ok tokens =>
      rw [htokens] at hlength
      obtain ⟨-, tape, outline, cursor, -, htape, -, hscan, hcursor, -⟩ :=
        read_safe_of_tokenize htokens
      have heleven : tokens.length = 11 := Option.some.inj hlength
      exact ⟨tokens, tape, outline, cursor, rfl, heleven, htape, hscan, heleven ▸ hcursor⟩

end CrateReadme.Source
