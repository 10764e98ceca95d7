import CrateReadme.Proofs.Markdown.Readable

/-!
# Passing over blocks

Blocks that keep to their lines and hold no others are read from their first line to their last one,
whatever stands behind them.
-/

namespace CrateReadme.Markdown

namespace BlockReader

section Edges

variable {region : Region} {stop index last : Nat}

/-- A line where a block starts that text does not run over, seen from inside the blocks in front of
it. -/
structure Opens (region : Region) (index : Nat) : Prop where
  isSolid : (region.line index).isEmpty = false
  nonneg : 0 ≤ (region.line index).indent
  indent_le : (region.line index).indent ≤ region.margin + 3
  isFree : region.isOutdented index → region.IsFree index
  opens : opens false (region.line index).content

theorem Opens.isCode_eq_false (hopens : Opens region index) : region.isCode index = false := by
  have hle := hopens.indent_le
  rw [Region.isCode, decide_eq_false_iff_not]
  omega

/-- Blocks come to an end in front of the line `last`, and text in them does too. -/
structure Closed (region : Region) (stop last : Nat) : Prop where
  ends : Ends region stop last
  border : region.limit ≤ last ∨ (region.line last).isEmpty ∨ (last < stop ∧ Opens region last)

theorem Closed.cases (hclosed : Closed region stop last) (hstop : stop ≤ region.limit) :
    (region.limit ≤ last ∧ stop ≤ last) ∨ (region.line last).isEmpty ∨
      (region.isOutdented last ∧ Opens region last) := by
  rcases hclosed.border with hlimit | hempty | ⟨hlt, hopens⟩
  · exact .inl ⟨hlimit, Nat.le_trans hstop hlimit⟩
  · exact .inr (.inl hempty)
  · refine .inr (.inr ⟨?_, hopens⟩)
    have hends := hclosed.ends
    rw [Ends, firstLine_of_solid hopens.isSolid] at hends
    exact hends.resolve_left (Nat.not_le_of_lt hlt)

theorem Closed.barrier (hclosed : Closed region stop last) (hstop : stop ≤ region.limit) :
    Barrier region last := by
  rcases hclosed.cases hstop with ⟨hlimit, -⟩ | hempty | ⟨hout, hopens⟩
  · exact .beyond hlimit
  · exact .blank hempty
  · refine .start hopens.nonneg hopens.isCode_eq_false ?_ (.inl hout)
    rw [interruptsQuote_eq hopens.isCode_eq_false hopens.isFree, hout]
    exact hopens.opens

/-- What stands behind a block: nothing that belongs to the same blocks, or the first line of
another block, apart or right behind it. -/
inductive Edge (region : Region) (stop last : Nat) (lines : List (List Char)) (block : RawBlock) :
    Prop
  | closed (hclosed : Closed region stop last)
  | apart (next : List Char) (hempty : (region.line last).isEmpty) (hlt : last + 1 < stop)
    (hshows : (region.line (last + 1)).Shows region.margin next) (hflush : isFlush next)
    (hgoes : Printer.goesWith false lines next block)
  | right (next : List Char) (hlt : last < stop)
    (hshows : (region.line last).Shows region.margin next) (hflush : isFlush next)
    (hgoes : Printer.goesWith true lines next block)

variable {lines : List (List Char)} {block : RawBlock}

/-- The last line of a block is no head of a table. -/
theorem Edge.tableStart?_eq_none (hedge : Edge region stop (index + 1) lines block)
    (hstop : stop ≤ region.limit) {line : List Char} (hline : lines.getLast? = some line)
    (hcontent : (region.line index).content = stripped line) :
    tableStart? region index stop = none := by
  have hblank (hempty : (region.line (index + 1)).isEmpty) :
      tableStart? region index stop = none := by
    have hnil : (region.line (index + 1)).content = [] := List.isEmpty_iff.mp hempty
    exact tableStart?_eq_none_of_headsTable stop (by rw [hnil]; rfl)
  cases hedge with
  | closed hclosed =>
    rcases hclosed.cases hstop with ⟨-, hover⟩ | hempty | ⟨hout, -⟩
    · have hlt : index + 2 > stop := Nat.lt_succ_of_le hover
      simp [tableStart?, hlt]
    · exact hblank hempty
    · simp [tableStart?, hout]
  | apart _ hempty => exact hblank hempty
  | right next _ hshows _ hgoes =>
    simp only [Printer.goesWith, if_true, Bool.and_eq_true, hline, Option.all_some,
      Bool.not_eq_true'] at hgoes
    refine tableStart?_eq_none_of_headsTable stop ?_
    rw [hcontent, hshows.content]
    exact hgoes.2

/-- The first line of a block that does not begin a table is no head of one. -/
theorem tableStart?_eq_none_of_stands {first : List Char} {rest : List (List Char)}
    (hstands : region.Stands index (first :: rest))
    (hbegins : Printer.beginsTable (first :: rest) = false)
    (hedge : Edge region stop (index + (first :: rest).length) (first :: rest) block)
    (hstop : stop ≤ region.limit) : tableStart? region index stop = none := by
  cases rest with
  | nil => exact hedge.tableStart?_eq_none hstop rfl hstands.1.content
  | cons second rest =>
    refine tableStart?_eq_none_of_headsTable stop ?_
    rw [hstands.1.content, hstands.2.1.content]
    exact hbegins

end Edges

/-! ### Blocks without blocks in them -/

/-- The readers do not come to their limits before the lines run out. -/
structure Framed (region : Region) (stop : Nat) : Prop where
  le_limit : stop ≤ region.limit
  le_size : stop ≤ region.lines.size

section Leaves

variable {region : Region} {stop index last : Nat} {lines : List (List Char)} {block : RawBlock}

/-- The edge of a block that ends like a paragraph is a barrier. -/
theorem Edge.barrier_of_text (hedge : Edge region stop last lines block)
    (hstop : stop ≤ region.limit) (hblock : ∀ next, Printer.endsBefore lines next block =
      Printer.endsBefore lines next (.paragraph [])) : Barrier region last := by
  cases hedge with
  | closed hclosed => exact hclosed.barrier hstop
  | apart _ hempty => exact .blank hempty
  | right next _ hshows hflush hgoes =>
    obtain ⟨hopens, hunder, -⟩ := Printer.of_endsBefore_text hblock hgoes
    obtain ⟨-, hinside, hcode⟩ := Region.isFlush_of_shows hshows hflush
    have hnonneg := (hshows.indent_of_isFlush hflush).1
    rw [← hshows.content] at hopens hunder
    refine .start (Int.le_trans (Int.natCast_nonneg _) hnonneg) hcode ?_ (.inr hunder)
    rw [interruptsQuote_eq hcode (fun hout => absurd hout (by simp [hinside])), hinside]
    exact hopens

theorem isQuiet_of_shows {line : List Char}
    (hshows : (region.line index).Shows region.margin line) (hquiet : Printer.isQuietLine line) :
    IsQuiet region index := by
  rw [Printer.isQuietLine, Bool.and_eq_true, Bool.not_eq_true'] at hquiet
  obtain ⟨hsolid, hinside, hcode⟩ := Region.isFlush_of_shows hshows hquiet.1
  exact ⟨hsolid, hinside, hcode, hshows.content ▸ hquiet.2⟩

/-- Text holds no headings. -/
theorem passes_text (readQuote readItem : Reader) (hframed : Framed region stop)
    (htext : Printer.isText lines)
    (hstands : region.Stands index lines) (hlast : index + lines.length ≤ stop)
    (hedge : Edge region stop (index + lines.length) lines block)
    (hblock : ∀ next, Printer.endsBefore lines next block =
      Printer.endsBefore lines next (.paragraph [])) :
    Passes region readQuote readItem stop index [] (index + lines.length) := by
  obtain ⟨hne, hquiet, hunder⟩ := Printer.forall_of_isText htext
  have hpos := List.length_pos_iff.mpr hne
  have hshows (line : Nat) (hle : index ≤ line) (hlt : line < index + lines.length) :
      ∃ text ∈ lines, (region.line line).Shows region.margin text ∧
        (index < line → text ∈ lines.tail) := by
    have hline := hstands.shows (show line - index < lines.length by omega)
    rw [Nat.add_sub_of_le hle] at hline
    refine ⟨_, List.getElem_mem _, hline, fun hbehind => ?_⟩
    rw [← List.drop_one]
    exact List.mem_drop_iff_getElem.mpr ⟨line - index - 1, by omega, by congr 1; omega⟩
  refine passes_of_isQuiet (hedge.barrier_of_text hframed.le_limit hblock) hframed.le_limit hlast
    (fun line hle hlt => ?_) (fun line hbehind hlt => ?_) (fun line hline => ?_)
    (fun line kind hle hlt hkind => ?_) (Nat.le_refl index) (by omega)
  · obtain ⟨text, hmem, hline, -⟩ := hshows line hle hlt
    exact isQuiet_of_shows hline (hquiet text hmem)
  · obtain ⟨text, -, hline, hmem⟩ := hshows line (Nat.le_of_lt hbehind) hlt
    rw [hline.content]
    exact hunder text (hmem hbehind)
  · have hcontent := (hstands.shows (show lines.length - 1 < lines.length by omega)).content
    have hline' : index + (lines.length - 1) = line := by omega
    rw [hline'] at hcontent
    rw [← hline] at hedge
    exact hedge.tableStart?_eq_none hframed.le_limit (List.getLast?_eq_getElem?.trans
      (List.getElem?_eq_getElem (by omega))) hcontent
  · obtain ⟨text, hmem, hline, -⟩ := hshows line hle hlt
    cases hedge with
    | closed hclosed =>
      rcases hclosed.cases hframed.le_limit with ⟨-, hstop⟩ | hempty | ⟨hout, hopens⟩
      · exact .inl hstop
      · exact .inr (.inl hempty)
      · exact .inr (.inr ⟨hopens.isSolid, hout⟩)
    | apart _ hempty => exact .inr (.inl hempty)
    | right next _ _ _ hgoes =>
      have hnone := (Printer.of_endsBefore_text hblock hgoes).2.2 text hmem
      rw [hline.content, hnone] at hkind
      cases hkind

/-- A line that shows something right at the margin. -/
theorem atMargin_of_shows {c : Char} {rest : List Char}
    (hshows : (region.line index).Shows region.margin (c :: rest)) (hc : isSpace c = false) :
    (region.line index).content = c :: rest ∧ (region.line index).indent = region.margin ∧
      (region.line index).isEmpty = false ∧ region.isOutdented index = false ∧
      region.isCode index = false := by
  obtain ⟨hcontent, hindent⟩ := hshows.of_cons hc
  refine ⟨hcontent, hindent, ?_, ?_, ?_⟩
  · rw [Line.isEmpty, hcontent]
    rfl
  · rw [Region.isOutdented, hindent, decide_eq_false_iff_not]
    exact Int.lt_irrefl _
  · rw [Region.isCode, hindent, decide_eq_false_iff_not]
    omega

theorem passes_of_readBlock {readQuote readItem : Reader} (hstop : stop ≤ region.limit)
    (hindex : index < stop) (hsolid : (region.line index).isEmpty = false)
    (hinside : region.isOutdented index = false) {found : List (Nat × List Char)}
    (hstep : ∀ definitions,
      let step := readBlock region readQuote readItem index stop definitions
      index < step.next ∧ Block.headingsAll step.block.toList = found ∧ last ≤ step.next ∧
        step.next ≤ firstLine region last) :
    Passes region readQuote readItem stop index found last := by
  intro more final hrest
  refine reads_of_step hindex hsolid hinside fun definitions => ?_
  obtain ⟨hlt, hfound, hle, hnext⟩ := hstep definitions
  obtain ⟨hge, hbehind⟩ := lineBehind_bounds hstop hle hnext
  exact ⟨hlt, hfound, hrest _ hge hbehind⟩

theorem listStart?_eq_none {inParagraph : Bool}
    (hitem : ListMarker.ofContent? (region.line index).content = none) :
    listStart? region index inParagraph = none := by
  simp [listStart?, hitem]

/-- A heading that is marked by number signs is read as one. -/
theorem passes_heading (readQuote readItem : Reader) (hframed : Framed region stop) {level : Nat}
    {text : List Char} (hline : Printer.isHeadline level text lines)
    (hstands : region.Stands index lines) (hlast : index + lines.length ≤ stop)
    (hedge : Edge region stop (index + lines.length) lines block) :
    Passes region readQuote readItem stop index [(level, text)] (index + lines.length) := by
  obtain ⟨line, rfl, hheading⟩ := Printer.exists_of_isHeadline hline
  obtain ⟨rest, rfl⟩ := exists_of_heading? hheading
  obtain ⟨hcontent, -, hsolid, hinside, hcode⟩ := atMargin_of_shows hstands.1 rfl
  have htable : tableStart? region index stop = none :=
    tableStart?_eq_none_of_stands hstands rfl hedge hframed.le_limit
  have hfence : fenceStart? ('#' :: rest) = none := by simp [fenceStart?]
  have hrule : isRule ('#' :: rest) = false := by simp [isRule]
  have hitem : ListMarker.ofContent? ('#' :: rest) = none := by
    simp [ListMarker.ofContent?]
  have hkind : Html.blockKind? ('#' :: rest) = none := by simp [Html.blockKind?]
  have hlist : listStart? region index false = none := listStart?_eq_none (hcontent ▸ hitem)
  have hread : DefinitionReader.read? region index = none :=
    read?_eq_none (by rw [hcontent]; simp)
  refine passes_of_readBlock hframed.le_limit hlast hsolid hinside fun definitions => ?_
  have hstep : readBlock region readQuote readItem index stop definitions =
      ⟨some (.heading level text), index + 1, definitions⟩ := by
    simp only [readBlock, htable, hcode, hcontent, hfence, hrule, hlist, hread, hkind, hheading,
      List.head?_cons, Option.some.injEq, Bool.false_eq_true, if_false]
    rw [if_neg (by decide)]
  rw [hstep]
  exact ⟨Nat.lt_succ_self index, rfl, Nat.le_refl _, le_firstLine region (index + 1)⟩

/-- A thematic break is read as one. -/
theorem passes_rule (readQuote readItem : Reader) (hframed : Framed region stop)
    (hstands : region.Stands index ["---".toList]) (hlast : index < stop) :
    Passes region readQuote readItem stop index [] (index + 1) := by
  obtain ⟨hcontent, -, hsolid, hinside, hcode⟩ :=
    @atMargin_of_shows region index '-' ['-', '-'] hstands.1 rfl
  have htable : tableStart? region index stop = none :=
    tableStart?_eq_none_of_not_mem (by rw [hcontent]; decide) stop
  have hfence : fenceStart? ['-', '-', '-'] = none := by decide
  have hrule : isRule ['-', '-', '-'] := by decide
  refine passes_of_readBlock hframed.le_limit hlast hsolid hinside fun definitions => ?_
  have hstep : readBlock region readQuote readItem index stop definitions =
      ⟨some .rule, index + 1, definitions⟩ := by
    simp only [readBlock, htable, hcode, hcontent, hfence, hrule, List.head?_cons,
      Option.some.injEq, Bool.false_eq_true, if_false, if_true]
    rw [if_neg (by decide)]
  rw [hstep]
  exact ⟨Nat.lt_succ_self index, rfl, Nat.le_refl _, le_firstLine region (index + 1)⟩

/-- A code block is read up to its last line, and nothing in it is a heading. -/
theorem passes_code (readQuote readItem : Reader) (hframed : Framed region stop)
    {words code : List Char} (hcode : Printer.isCodeBlock words lines)
    (hlines : lines = Text.lines (CodeBlock.render (.ofText words) code))
    (hstands : region.Stands index lines) (hlast : index + lines.length ≤ stop)
    (hedge : Edge region stop (index + lines.length) lines block) :
    Passes region readQuote readItem stop index [] (index + lines.length) := by
  obtain ⟨length, codeLines, hlength, hopen, hrender⟩ := Printer.exists_lines_render words code
  rw [hrender] at hlines
  subst hlines
  simp only [Printer.isCodeBlock, Bool.and_eq_true, decide_eq_true_eq, Bool.not_eq_true'] at hcode
  obtain ⟨more, rfl⟩ := Nat.exists_eq_add_of_le' hlength
  obtain ⟨hcontent, -, hsolid, hinside, hflush⟩ :=
    @atMargin_of_shows region index '`' _ hstands.1 rfl
  have htable : tableStart? region index stop = none :=
    tableStart?_eq_none_of_stands hstands hcode.2 hedge hframed.le_limit
  have hfence := fenceStart?_replicate hlength hcode.1
  have hsize := hstands.le_size (List.cons_ne_nil _ _)
  obtain ⟨-, hinner⟩ := hstands
  obtain ⟨hinner, hclosing, -⟩ := Region.stands_append.mp hinner
  obtain ⟨hlastContent, -, hlastSolid, hlastInside, hlastFlush⟩ :=
    @atMargin_of_shows region _ '`' _ hclosing rfl
  simp only [List.length_cons, List.length_append, List.length_nil] at hlast hsize ⊢
  have hshows (line : Nat) (hle : index + 1 ≤ line) (hlt : line < index + 1 + codeLines.length) :
      ∃ text ∈ codeLines, (region.line line).Shows region.margin text := by
    have hline := hinner.shows (show line - (index + 1) < codeLines.length by omega)
    rw [Nat.add_sub_of_le hle] at hline
    exact ⟨_, List.getElem_mem _, hline⟩
  have hends : fenceEnd region '`' (more + 3) stop (region.lines.size + 1) (index + 1) =
      (index + 1 + codeLines.length, index + 1 + codeLines.length + 1) := by
    refine fenceEnd_eq (by omega) (fun line hle hlt hsolidLine => ?_) (fun line hle hlt => ?_)
      hlastSolid hlastFlush ?_ _ (by omega) (by omega)
    · rcases Nat.eq_or_lt_of_le hlt with rfl | hlt
      · exact hlastInside
      · obtain ⟨text, -, hline⟩ := hshows line hle hlt
        rw [Region.isOutdented, decide_eq_false_iff_not]
        refine Int.not_lt.mpr (hline.margin_le fun hnil => ?_)
        rw [hline.isEmpty_eq, hnil] at hsolidLine
        cases hsolidLine
    · obtain ⟨text, hmem, hline⟩ := hshows line hle hlt
      rw [hline.content]
      exact ⟨hline.isEnded, hopen text hmem⟩
    · rw [hlastContent, ← List.replicate_succ, closesFence]
      simp
  refine passes_of_readBlock hframed.le_limit (by omega) hsolid hinside fun definitions => ?_
  rw [readBlock_of_fenceStart? readQuote readItem definitions htable hflush
    ((congrArg fenceStart? hcontent).trans hfence) hends]
  have hnext : index + 1 + codeLines.length + 1 = index + (codeLines.length + (0 + 1) + 1) := by
    omega
  simp only [hnext]
  exact ⟨by omega, rfl, Nat.le_refl _, le_firstLine region _⟩

/-- An open HTML block goes on over lines that do not end it. -/
theorem htmlEnd_add {kind : Html.BlockKind} {count : Nat} (hopen : ∀ line, index ≤ line →
      line < index + count → line < stop ∧
        ((region.line line).isEmpty = false → region.isOutdented line = false) ∧
        kind.endsAt (region.line line).content = false) (left : Nat) :
    htmlEnd region kind stop (left + count) index =
      htmlEnd region kind stop left (index + count) := by
  induction count generalizing index with
  | zero => rfl
  | succ count ih =>
    obtain ⟨hlt, hinside, hends⟩ := hopen index (Nat.le_refl index) (by omega)
    have hmore := @ih (index + 1) fun line hle hline => hopen line (by omega) (by omega)
    have hnot : (!(region.line index).content.isEmpty && region.isOutdented index) = false := by
      cases hempty : (region.line index).content.isEmpty with
      | true => rfl
      | false => rw [hinside hempty, Bool.and_false]
    rw [← Nat.add_assoc, htmlEnd]
    simp only [Nat.not_le_of_lt hlt, decide_false, hnot, hends, Bool.or_self, Bool.false_eq_true,
      if_false, hmore]
    congr 1
    omega

/-- Lines that do not end a piece of HTML are passed over. -/
theorem htmlEnd_add_of_stands {kind : Html.BlockKind} {texts : List (List Char)} {count : Nat}
    (hstands : region.Stands index texts) (hlast : index + texts.length ≤ stop)
    (hcount : count ≤ texts.length)
    (hopen : ∀ offset (hoffset : offset < texts.length), offset < count →
      kind.endsAt (stripped texts[offset]) = false) (left : Nat) :
    htmlEnd region kind stop (left + count) index =
      htmlEnd region kind stop left (index + count) := by
  refine htmlEnd_add (fun line hle hlt => ?_) left
  obtain ⟨offset, rfl⟩ := Nat.exists_eq_add_of_le hle
  have hshows := hstands.shows (show offset < texts.length by omega)
  refine ⟨by omega, fun hsolid => ?_, ?_⟩
  · rw [Region.isOutdented, decide_eq_false_iff_not]
    refine Int.not_lt.mpr (hshows.margin_le fun hnil => ?_)
    rw [hshows.isEmpty_eq, hnil] at hsolid
    cases hsolid
  · rw [hshows.content]
    exact hopen offset (by omega) (by omega)

/-- Where a piece of HTML does not end with its last line nothing follows that belongs to the same
blocks, or a blank line ends it. -/
theorem Edge.of_html {source first final : List Char} {kind : Html.BlockKind}
    (hedge : Edge region stop last lines (.html source)) (hfirst : lines.head? = some first)
    (hkind : Html.blockKind? (stripped first) = some kind) (hfinal : lines.getLast? = some final)
    (hopen : kind.endsAt (stripped final) = false) :
    Ends region stop last ∨ ((region.line last).isEmpty ∧ kind.endsAt []) := by
  have hpiece : Printer.endsPiece lines = false := by
    simp [Printer.endsPiece, hfirst, hkind, hfinal, hopen]
  cases hedge with
  | closed hclosed => exact .inl hclosed.ends
  | apart _ hempty _ _ _ hgoes =>
    simp only [Printer.goesWith, Printer.endsApart, hpiece, Printer.endsAtBlank, hfirst, hkind,
      Bool.false_or, Bool.false_eq_true, if_false, Option.bind_some, Option.all_some] at hgoes
    exact .inr ⟨hempty, hgoes⟩
  | right _ _ _ _ hgoes =>
    simp [Printer.goesWith, Printer.endsBefore, hpiece] at hgoes

/-- HTML that does not end on its lines goes on to the last of them, perhaps over blank lines behind
it. -/
theorem htmlEnd_of_open {kind : Html.BlockKind} {texts : List (List Char)}
    (hframed : Framed region stop) (hstands : region.Stands index texts)
    (hlast : index + texts.length = last) (hle : last ≤ stop)
    (hopen : ∀ line ∈ texts, kind.endsAt (stripped line) = false)
    (hends : Ends region stop last ∨ ((region.line last).isEmpty ∧ kind.endsAt [])) (left : Nat) :
    let next := htmlEnd region kind stop (left + texts.length) index
    last ≤ next ∧ next ≤ firstLine region last := by
  subst hlast
  simp only
  rw [htmlEnd_add_of_stands hstands hle (Nat.le_refl _)
    fun offset hoffset _ => hopen _ (List.getElem_mem hoffset)]
  refine ⟨le_htmlEnd _ _ _ _ _, ?_⟩
  rcases hends with hends | hblank
  · exact htmlEnd_le_firstLine kind hframed.le_limit hends left (le_firstLine region _)
  · exact Nat.le_trans (htmlEnd_le_of_edge (.inr (.inr hblank)) left (Nat.le_refl _))
      (le_firstLine region _)

/-- HTML whose kind waits for a mark goes on to the line with the mark. -/
theorem htmlEnd_of_endsAt_last {kind : Html.BlockKind} {texts : List (List Char)}
    {final : List Char} (hstands : region.Stands index (texts ++ [final]))
    (hle : index + (texts.length + 1) ≤ stop) (hblank : kind.endsAt [] = false)
    (hopen : ∀ line ∈ texts, kind.endsAt (stripped line) = false)
    (hends : kind.endsAt (stripped final)) (left : Nat) :
    htmlEnd region kind stop (left + 1 + texts.length) index = index + (texts.length + 1) := by
  obtain ⟨hfront, hfinal, -⟩ := Region.stands_append.mp hstands
  have hne : stripped final ≠ [] := by
    intro hnil
    rw [hnil, hblank] at hends
    cases hends
  have hinside : region.isOutdented (index + texts.length) = false := by
    rw [Region.isOutdented, decide_eq_false_iff_not]
    exact Int.not_lt.mpr (hfinal.margin_le hne)
  have hgoes : ¬stop ≤ index + texts.length := by omega
  rw [htmlEnd_add_of_stands hfront (by omega) (Nat.le_refl _)
    fun offset hoffset _ => hopen _ (List.getElem_mem hoffset), htmlEnd]
  simp only [hgoes, hinside, hfinal.content, hends, List.isEmpty_eq_false_iff.mpr hne, decide_false,
    Bool.and_false, Bool.or_self, Bool.false_eq_true, if_false, if_true, Nat.add_assoc]

/-- HTML ends with its last line or behind it, if its kind ends at a blank line or nothing
follows. -/
theorem htmlEnd_of_stands (hframed : Framed region stop) {kind : Html.BlockKind}
    {first final source : List Char} {rest : List (List Char)}
    (hstands : region.Stands index (first :: rest))
    (hlast : index + (first :: rest).length = last) (hle : last ≤ stop)
    (hopen : ∀ line ∈ (first :: rest).dropLast, kind.endsAt (stripped line) = false)
    (hfinal : (first :: rest).getLast? = some final)
    (hends : kind.endsAt (stripped final) → kind.endsAt [] = false)
    (hedge : Edge region stop last (first :: rest) (.html source))
    (hkind : Html.blockKind? (stripped first) = some kind) :
    let next := if kind.endsAt (stripped first) then index + 1
      else htmlEnd region kind stop (region.lines.size + 1) (index + 1)
    last ≤ next ∧ next ≤ firstLine region last := by
  have hsize := hstands.le_size (List.cons_ne_nil first rest)
  rw [List.length_cons] at hlast hsize
  cases hmark : kind.endsAt (stripped final) with
  | false =>
    have hall : ∀ line ∈ first :: rest, kind.endsAt (stripped line) = false := by
      intro line hmem
      rw [← List.dropLast_append_getLast? final hfinal] at hmem
      rcases List.mem_append.mp hmem with hmem | hmem
      · exact hopen line hmem
      · rwa [List.mem_singleton.mp hmem]
    obtain ⟨hfirst, hrest⟩ := List.forall_mem_cons.mp hall
    have hgoes := htmlEnd_of_open hframed hstands.2 (show index + 1 + rest.length = last by omega) hle
      hrest (hedge.of_html rfl hkind hfinal hmark) (region.lines.size + 1 - rest.length)
    rw [Nat.sub_add_cancel (by omega)] at hgoes
    simpa only [hfirst, Bool.false_eq_true, if_false] using hgoes
  | true =>
    rcases List.eq_nil_or_concat rest with rfl | ⟨front, final', rfl⟩
    · obtain rfl : first = final := Option.some.inj hfinal
      subst hlast
      simp only [hmark, if_true]
      exact ⟨Nat.le_refl _, le_firstLine region _⟩
    · rw [List.concat_eq_append] at *
      rw [← List.cons_append, List.getLast?_concat] at hfinal
      obtain rfl := Option.some.inj hfinal
      rw [← List.cons_append, List.dropLast_concat] at hopen
      obtain ⟨hfirst, hfront⟩ := List.forall_mem_cons.mp hopen
      rw [List.length_append, List.length_singleton] at hlast hsize
      have hgoes := htmlEnd_of_endsAt_last hstands.2
        (show index + 1 + (front.length + 1) ≤ stop by omega) (hends hmark) hfront hmark
        (region.lines.size - front.length)
      have hleft : region.lines.size - front.length + 1 + front.length =
          region.lines.size + 1 := by
        omega
      rw [hleft] at hgoes
      have hsame : index + 1 + (front.length + 1) = last := by omega
      simp only [hfirst, hgoes, hsame, Bool.false_eq_true, if_false]
      exact ⟨Nat.le_refl last, le_firstLine region last⟩

/-- A piece of HTML is read up to its last line. -/
theorem passes_piece (readQuote readItem : Reader) (hframed : Framed region stop)
    (hpiece : Printer.isPiece lines) (hstands : region.Stands index lines)
    (hlast : index + lines.length = last) (hle : last ≤ stop) {source : List Char}
    (hedge : Edge region stop last lines (.html source)) :
    Passes region readQuote readItem stop index [] last := by
  obtain ⟨first, rest, kind, rfl, hflush, htable, hkind, hopen, final, hfinal, -, hends⟩ :=
    Printer.exists_of_isPiece hpiece
  have hindex : index < last := by
    rw [List.length_cons] at hlast
    omega
  obtain ⟨hge, hnext⟩ :=
    htmlEnd_of_stands hframed hstands hlast hle hopen hfinal hends hedge hkind
  have hstart := tableStart?_eq_none_of_stands hstands htable (hlast ▸ hedge) hframed.le_limit
  obtain ⟨hsolid, hinside, hcode⟩ := Region.isFlush_of_shows hstands.1 hflush
  have hcontent := hstands.1.content
  obtain ⟨text, htext⟩ := exists_of_blockKind? hkind
  rw [htext] at hcontent hkind hge hnext
  have hfence : fenceStart? ('<' :: text) = none := by simp [fenceStart?]
  have hrule : isRule ('<' :: text) = false := by simp [isRule]
  have hitem : ListMarker.ofContent? ('<' :: text) = none := by simp [ListMarker.ofContent?]
  have hlist : listStart? region index false = none := listStart?_eq_none (hcontent ▸ hitem)
  have hread : DefinitionReader.read? region index = none := read?_eq_none (by rw [hcontent]; simp)
  refine passes_of_readBlock hframed.le_limit (Nat.lt_of_lt_of_le hindex hle) hsolid hinside
    fun definitions => ?_
  simp only [readBlock, hstart, hcode, hcontent, hfence, hrule, hlist, hread, hkind, List.head?_cons,
    Option.some.injEq, Bool.false_eq_true, if_false]
  rw [if_neg (by decide)]
  exact ⟨Nat.lt_of_lt_of_le hindex hge, rfl, hge, hnext⟩

end Leaves

end BlockReader

end CrateReadme.Markdown
