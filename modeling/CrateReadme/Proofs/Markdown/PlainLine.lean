import CrateReadme.Markdown.Printer
import CrateReadme.Proofs.Markdown.PlainText

/-!
# A line of plain text is read as a paragraph

The first character of escaped text starts no block, with one exception: two dashes that touch are
left as they are, and with nothing but dashes and spaces behind them they make a thematic break.
-/

namespace CrateReadme.Markdown

open Escape (Glyph written shown AreQuiet)

/-! ### The start of a block -/

theorem isBreak_of_isSpace {text : List Char} (htext : text.head?.all isSpace) :
    Escape.isBreak text := by
  cases text with
  | nil => rfl
  | cons c text =>
    have hc : isSpace c := htext
    simp only [isSpace, Bool.or_eq_true, decide_eq_true_eq] at hc
    rcases hc with rfl | rfl <;> rfl

/-- A heading mark starts a block. -/
theorem startsBlock_of_heading? {text : List Char} {found : Nat × List Char}
    (hheading : heading? text = some found) : Escape.startsBlock text := by
  simp only [heading?] at hheading
  split at hheading
  next hlevel =>
    simp only [Bool.and_eq_true, decide_eq_true_eq] at hlevel
    obtain ⟨⟨hone, hsix⟩, hspace⟩ := hlevel
    cases text with
    | nil => cases hone
    | cons c text =>
      have hc : c = '#' := by
        by_contra hne
        rw [List.takeWhile_cons_of_neg (by simpa using hne)] at hone
        cases hone
      subst hc
      simp only [Escape.startsBlock, hsix, isBreak_of_isSpace hspace, decide_true, Bool.and_self,
        Bool.or_true, Bool.true_or]
  next => cases hheading

/-- A bullet in front of white space starts a list. -/
theorem startsBlock_of_isBreak {mark : Char} (hmark : mark ∈ ['-', '+', '*']) {text : List Char}
    (hbreak : Escape.isBreak text) : Escape.startsBlock (mark :: text) := by
  simp only [Escape.startsBlock, hmark, hbreak, decide_true, Bool.and_self, Bool.or_true,
    Bool.true_or]

/-- A list mark starts a block. -/
theorem startsBlock_of_ofContent? {text : List Char} {found : ListMarker × Nat}
    (hitem : ListMarker.ofContent? text = some found) : Escape.startsBlock text := by
  simp only [ListMarker.ofContent?] at hitem
  split at hitem
  next mark rest hdigits hdrop =>
    rw [hdigits] at hdrop
    obtain rfl : text = mark :: rest := hdrop
    split at hitem
    next hmark =>
      have hbullet : mark ∈ ['-', '+', '*'] := by
        have hmem := hmark.1
        simp only [List.mem_cons, List.not_mem_nil, or_false] at hmem ⊢
        tauto
      exact startsBlock_of_isBreak hbullet (isBreak_of_isSpace hmark.2)
    next => cases hitem
  next mark rest hdrop hne =>
    split at hitem
    next hmark =>
      obtain ⟨hnine, hmark, hspace⟩ := hmark
      have htext : text.takeWhile Char.isDigit ++ mark :: rest = text := by
        rw [← hdrop]
        exact List.prefix_iff_eq_append.mp (List.takeWhile_prefix Char.isDigit)
      have hdigits : text.takeWhile Text.isDecimal = text.takeWhile Char.isDigit := by
        have hapart : ∀ c ∈ (mark :: rest).head?, Text.isDecimal c = false := by
          intro c hmem
          cases hmem
          rcases hmark with rfl | rfl <;> decide
        rw [← htext, (Text.takeWhile_append_of_head? (fun c hmem =>
          isDecimal_of_isDigit (List.mem_takeWhile_imp hmem)) hapart).1, htext]
      cases text with
      | nil => exact absurd rfl hne
      | cons c text =>
        have hone : 1 ≤ ((c :: text).takeWhile Char.isDigit).length := List.length_pos_iff.mpr hne
        have hmark : (decide (mark = '.') || decide (mark = ')')) = true := by simpa using hmark
        simp only [Escape.startsBlock, hdigits, hone, hnine, hdrop, isBreak_of_isSpace hspace,
          hmark, decide_true, Bool.and_self, Bool.or_true]
    next => cases hitem
  next => cases hitem

section Quiet

variable {glyphs : List Glyph} (hquiet : AreQuiet none glyphs)

include hquiet

/-- The first character of escaped text is a backslash or none of those that are always escaped. -/
theorem isSpecial_of_head?_written {c : Char} (hc : (written glyphs).head? = some c)
    (hslash : c ≠ '\\') : Escape.isSpecial c = false := by
  obtain ⟨-, rest, rfl⟩ := Reader.head?_written hslash hc
  exact (hquiet.1.ordinary Bool.false_ne_true).1

/-- Written glyphs open no fence. -/
theorem fenceStart?_written : fenceStart? (written glyphs) = none := by
  cases hline : written glyphs with
  | nil => rfl
  | cons c text =>
    have hhead : (written glyphs).head? = some c := by rw [hline]; rfl
    rw [fenceStart?]
    split
    next hfence =>
      obtain ⟨rfl | rfl, hlength, -⟩ := hfence
      · exact absurd (isSpecial_of_head?_written hquiet hhead (by decide)) (by decide)
      · -- a tilde that is not escaped stands alone
        obtain ⟨-, rest, rfl⟩ := Reader.head?_written (by decide) hhead
        obtain ⟨-, hnext⟩ := hquiet.1.tilde Bool.false_ne_true rfl
        have hrest : ¬(written rest).head?.any (· = '~') := by
          intro hany
          obtain ⟨d, hd, heq⟩ := (Option.any_eq_true _ _).mp hany
          obtain rfl := of_decide_eq_true heq
          exact hnext (Reader.head?_written (by decide) hd).1
        rw [← hline, Escape.written_cons_raw, List.takeWhile_cons_of_pos (by simp),
          (Text.takeWhile_eq_nil_of_head? hrest).1] at hlength
        exact absurd hlength (by decide)
    next => rfl

theorem blockKind?_written : Html.blockKind? (written glyphs) = none := by
  rw [Html.blockKind?.eq_def]
  split
  next text hline =>
    have hhead : (written glyphs).head? = some '<' := by rw [hline]; rfl
    exact absurd (isSpecial_of_head?_written hquiet hhead (by decide)) (by decide)
  next => rfl

/-- A line of escaped text that starts no block is plain. -/
theorem isPlain_written (hstarts : Escape.startsBlock (written glyphs) = false) {line : Line}
    (hline : line.content = written glyphs) : line.IsPlain where
  noFence := hline ▸ fenceStart?_written hquiet
  noQuote := by
    rw [hline]
    intro hhead
    obtain ⟨rest, hrest⟩ := List.head?_eq_some_iff.mp hhead
    rw [hrest] at hstarts
    cases hstarts
  noBracket := by
    rw [hline]
    intro hhead
    exact absurd (isSpecial_of_head?_written hquiet hhead (by decide)) (by decide)
  noItem := by
    rw [hline, Option.eq_none_iff_forall_ne_some]
    intro found hitem
    exact Bool.eq_false_iff.mp hstarts (startsBlock_of_ofContent? hitem)
  noHtml := hline ▸ blockKind?_written hquiet

end Quiet

/-! ### A document of one line -/

section Line

variable {text : List Char} {c : Char} (hline : IsOneLine text) (hhead : text.head? = some c)
  (hc : isSpace c = false)

include hline in
/-- A line with its line end is the only line of a document. -/
theorem lines_regionOf_singleton :
    (Document.regionOf (text ++ ['\n'])).lines = #[Line.ofText text true] := by
  have hclean : clean (text ++ ['\n']) = text ++ ['\n'] := by
    refine clean_eq_self fun d hmem => ?_
    rcases List.mem_append.mp hmem with hmem | hmem
    · have hd := hline d hmem
      simp_all
    · rw [List.mem_singleton.mp hmem]
      decide
  have hbreak : '\n' ∉ text := fun hmem => absurd (hline '\n' hmem) (by decide)
  have hlines : Text.lines (text ++ ['\n']) = [text, []] := by
    rw [Text.lines_append, Text.lines_of_not_mem hbreak]
    rfl
  rw [Document.regionOf, hclean, linesOf, hlines]
  rfl

include hline hhead hc

theorem line_zero_singleton :
    let line := (Document.regionOf (text ++ ['\n'])).line 0
    line = Line.ofText text true ∧ line.content = text ∧ line.indent = 0 := by
  have hzero : (Document.regionOf (text ++ ['\n'])).line 0 = Line.ofText text true := by
    rw [Region.line, lines_regionOf_singleton hline]
    rfl
  exact ⟨hzero, hzero ▸ content_of_head hhead hc true⟩

/-- A document of one line holds what is read of this line. -/
theorem read_singleton {block : Block (List Char)}
    (hblock : BlockReader.readBlock (Document.regionOf (text ++ ['\n']))
      (BlockReader.readAt (maxBlockDepth - 1)) (BlockReader.readAt (maxBlockDepth - 2)) 0 1 [] =
        ⟨some block, 1, []⟩) (isOpen : Bool) :
    Document.read isOpen (text ++ ['\n']) =
      ⟨[block.map (readInline ⟨[], isOpen⟩)], []⟩ := by
  obtain ⟨-, hcontent, -⟩ := line_zero_singleton hline hhead hc
  have hsize : (Document.regionOf (text ++ ['\n'])).lines.size = 1 := by
    rw [lines_regionOf_singleton hline]
    rfl
  have hsolid : ((Document.regionOf (text ++ ['\n'])).line 0).isEmpty = false := by
    obtain ⟨rest, rfl⟩ := List.head?_eq_some_iff.mp hhead
    rw [Line.isEmpty, hcontent]
    rfl
  obtain ⟨rest, hblocks, hdefinitions, hends⟩ := BlockReader.exists_rest_of_readLoop
    (BlockReader.readAt (maxBlockDepth - 1)) (BlockReader.readAt (maxBlockDepth - 2)) []
    (Nat.succ_pos 0) hsolid (Document.isOutdented_regionOf _ 0) 1 false true
  rw [hblock] at hblocks hends
  obtain ⟨hnil, hnone⟩ := hends rfl
  rw [hnil] at hblocks
  rw [hnone] at hdefinitions
  rw [Document.read_eq, Document.readingOf, hsize, hblocks, hdefinitions]
  rfl

/-- A plain line alone is a thematic break or a paragraph. -/
theorem readBlock_singleton (hplain : ((Document.regionOf (text ++ ['\n'])).line 0).IsPlain)
    (hheading : heading? text = none) (readQuote readItem : BlockReader.Reader) :
    BlockReader.readBlock (Document.regionOf (text ++ ['\n'])) readQuote readItem 0 1 [] =
      ⟨some (if isRule text then .rule else .paragraph (trimWhite text)), 1, []⟩ := by
  obtain ⟨hzero, hcontent, hindent⟩ := line_zero_singleton hline hhead hc
  have hcode : (Document.regionOf (text ++ ['\n'])).isCode 0 = false := by
    rw [Region.isCode, hindent]
    rfl
  have hcut : BlockReader.cut (Document.regionOf (text ++ ['\n'])) 0 1 0 false = text := by
    simp only [BlockReader.cut, Nat.sub_zero, List.range'_one, List.flatMap_singleton, hzero,
      unindented_zero]
    simp
  have htable : tableStart? (Document.regionOf (text ++ ['\n'])) 0 1 = none := rfl
  have hlimit : (Document.regionOf (text ++ ['\n'])).limit = 1 := by
    have hlimit : (Document.regionOf (text ++ ['\n'])).limit =
        (Document.regionOf (text ++ ['\n'])).lines.size := rfl
    rw [hlimit, lines_regionOf_singleton hline]
    rfl
  have hunderline (left : Nat) :
      BlockReader.underlineAt? (Document.regionOf (text ++ ['\n'])) 1 left 1 = none := by
    cases left with
    | zero => rfl
    | succ left => rw [BlockReader.underlineAt?, if_pos (by simp)]
  have hend (left : Nat) :
      BlockReader.paragraphEnd (Document.regionOf (text ++ ['\n'])) left 1 = 1 := by
    cases left with
    | zero => rfl
    | succ left => rw [BlockReader.paragraphEnd, if_pos (by simp [hlimit])]
  have hnoQuote := hplain.noQuote
  have hnoFence := hplain.noFence
  have hnoHtml := hplain.noHtml
  rw [hcontent] at hnoQuote hnoFence hnoHtml
  simp only [BlockReader.readBlock, htable, hcode, hcontent, hnoFence, hnoQuote, hnoHtml, hheading,
    BlockReader.listStart?_of_isPlain hplain, BlockReader.read?_eq_none hplain.noBracket,
    Bool.false_eq_true, if_false, Nat.zero_add, hunderline, hend]
  have hmargin : (Document.regionOf (text ++ ['\n'])).margin = 0 := rfl
  split
  next => rfl
  next => rw [hmargin, hcut]

end Line

/-! ### Plain text on a line of its own -/

theorem mem_of_mem_written {glyphs : List Glyph} {c : Char} (hmem : c ∈ written glyphs) :
    c ∈ shown glyphs ∨ c = '\\' := by
  obtain ⟨⟨isEscaped, d⟩, hglyph, hc⟩ := List.mem_flatMap.mp hmem
  have hshown : d ∈ shown glyphs := List.mem_map.mpr ⟨_, hglyph, rfl⟩
  cases isEscaped with
  | false => exact .inl (List.mem_singleton.mp hc ▸ hshown)
  | true =>
    rcases List.mem_cons.mp hc with rfl | hc
    · exact .inr rfl
    · exact .inl (List.mem_singleton.mp hc ▸ hshown)

/-- The first character of escaped text is the one that is meant, or a backslash. -/
theorem exists_head?_written {glyphs : List Glyph} (hne : glyphs ≠ []) :
    ∃ c, (written glyphs).head? = some c ∧ ((shown glyphs).head? = some c ∨ c = '\\') := by
  obtain ⟨⟨isEscaped, c⟩, glyphs, rfl⟩ := List.exists_cons_of_ne_nil hne
  cases isEscaped with
  | false => exact ⟨c, rfl, .inl rfl⟩
  | true => exact ⟨'\\', rfl, .inr rfl⟩

/-- Two dashes that touch, with only dashes and spaces behind them. -/
def isDashes (text : List Char) : Bool :=
  ['-', '-'] <+: text && isRule text

theorem isBlank_of_isSpace {c : Char} (hc : isSpace c) : Text.isBlank c := by
  simp only [isSpace, Bool.or_eq_true, decide_eq_true_eq] at hc
  rcases hc with rfl | rfl <;> rfl

/-- A text without backslashes is written as it is meant. -/
theorem written_eq_shown {glyphs : List Glyph} (hslash : '\\' ∉ written glyphs) :
    written glyphs = shown glyphs := by
  induction glyphs with
  | nil => rfl
  | cons glyph glyphs ih =>
    obtain ⟨isEscaped, c⟩ := glyph
    cases isEscaped with
    | true => exact absurd List.mem_cons_self hslash
    | false => exact congrArg (c :: ·) (ih fun hmem => hslash (List.mem_cons_of_mem c hmem))

theorem isRule_cons {c : Char} {text : List Char} (hrule : isRule (c :: text)) :
    c ∈ ['*', '-', '_'] ∧ (∀ d ∈ text, d = c ∨ isSpace d) := by
  simp only [isRule, Bool.and_eq_true, decide_eq_true_eq, List.all_eq_true,
    Bool.or_eq_true] at hrule
  exact hrule.1

theorem chars_dashes {text : List Char} (htext : ∀ c ∈ text, c = '-' ∨ isSpace c)
    (before : Option Char) : Escape.chars false before text = text := by
  induction text generalizing before with
  | nil => rfl
  | cons c text ih =>
    obtain ⟨hc, hmore⟩ := List.forall_mem_cons.mp htext
    rw [Escape.chars, ih hmore]
    simp only [isSpace, Bool.or_eq_true, decide_eq_true_eq] at hc
    rcases hc with rfl | rfl | rfl <;> rfl

/-- Escaped text is a thematic break only if it was left as it is and starts with two dashes. -/
theorem isRule_text_iff {text : List Char} (hline : '\n' ∉ text) :
    isRule (Escape.text false true text) ↔ isDashes text := by
  rw [isDashes, Bool.and_eq_true, decide_eq_true_eq]
  constructor
  · intro hrule
    obtain ⟨glyphs, hwritten, rfl, hquiet, hstarts⟩ := Escape.exists_areQuiet_text hline
    rw [hwritten] at hrule
    cases hglyphs : written glyphs with
    | nil =>
      rw [hglyphs] at hrule
      cases hrule
    | cons c rest =>
      rw [hglyphs] at hrule hstarts
      obtain ⟨hc, hrest⟩ := isRule_cons hrule
      have hslash : '\\' ∉ written glyphs := by
        rw [hglyphs]
        intro hmem
        rcases List.mem_cons.mp hmem with rfl | hmem
        · exact absurd hc (by decide)
        · rcases hrest _ hmem with rfl | hspace
          · exact absurd hc (by decide)
          · exact absurd hspace (by decide)
      have hshown := written_eq_shown hslash
      have hhead : (written glyphs).head? = some c := by rw [hglyphs]; rfl
      rw [← hshown, hglyphs]
      simp only [List.mem_cons, List.not_mem_nil, or_false] at hc
      rcases hc with rfl | rfl | rfl
      · exact absurd (isSpecial_of_head?_written hquiet hhead (by decide)) (by decide)
      · cases rest with
        | nil => cases hstarts
        | cons d rest =>
          rcases hrest d List.mem_cons_self with rfl | hspace
          · exact ⟨⟨rest, rfl⟩, hrule⟩
          · have hbreak : Escape.isBreak (d :: rest) := isBlank_of_isSpace hspace
            rw [startsBlock_of_isBreak (by decide) hbreak] at hstarts
            cases hstarts
      · obtain ⟨-, more, rfl⟩ := Reader.head?_written (by decide) hhead
        exact absurd (hquiet.1.score Bool.false_ne_true rfl).1 Bool.false_ne_true
  · rintro ⟨⟨rest, rfl⟩, hrule⟩
    have hdashes : ∀ c ∈ ['-', '-'] ++ rest, c = '-' ∨ isSpace c :=
      List.forall_mem_cons.mpr ⟨.inl rfl, (isRule_cons hrule).2⟩
    have hstarts : Escape.startsBlock (['-', '-'] ++ rest) = false := by
      have hdecimal : ¬Text.isDecimal '-' := by decide
      have hblank : Text.isBlank '-' = false := by decide
      simp [Escape.startsBlock, Escape.isBreak, hdecimal, hblank]
    rw [Escape.text, chars_dashes hdashes, hstarts]
    exact hrule

def plainLine (text : List Char) : List Char :=
  Escape.text false true text

theorem not_mem_plainLine {text : List Char} (hline : '\n' ∉ text) : '\n' ∉ plainLine text := by
  obtain ⟨glyphs, hwritten, rfl, -⟩ := Escape.exists_areQuiet_text hline
  rw [plainLine, hwritten]
  intro hmem
  rcases mem_of_mem_written hmem with hmem | hslash
  · exact hline hmem
  · cases hslash

theorem render_text {text : List Char} (hline : '\n' ∉ text) :
    Document.render ⟨[.paragraph [.text text]], []⟩ = ⟨plainLine text ++ ['\n'], []⟩ := by
  have hrender : Document.render ⟨[.paragraph [.text text]], []⟩ =
      ⟨Text.trimEnd (· = '\n') (plainLine text ++ []) ++ ['\n'], []⟩ := rfl
  have htrim : Text.trimEnd (· = '\n') (plainLine text) = plainLine text := by
    refine List.rdropWhile_eq_self_iff.mpr fun hne hlast =>
      not_mem_plainLine hline ?_
    exact of_decide_eq_true hlast ▸ List.getLast_mem hne
  rw [hrender, List.append_nil, htrim]

/-- A line of plain text is read as one paragraph, or as a rule if it consists of dashes. -/
theorem read_plainLine {text : List Char} (hne : text ≠ []) (hline : IsOneLine text)
    (hstart : ¬text.head?.any Text.isBlank) (isOpen : Bool) :
    Document.read isOpen (plainLine text ++ ['\n']) =
      ⟨[if isDashes text then .rule else .paragraph (textContent (trimWhite text))], []⟩ := by
  have hbreak : '\n' ∉ text := fun hmem => absurd (hline '\n' hmem) (by decide)
  have hdashes := isRule_text_iff hbreak
  obtain ⟨glyphs, hwritten, hshown, hquiet, hstarts⟩ := Escape.exists_areQuiet_text hbreak
  rw [hwritten] at hdashes
  rw [plainLine, hwritten]
  have hglyphs : glyphs ≠ [] := by
    rintro rfl
    exact hne hshown.symm
  have hwrittenLine : IsOneLine (written glyphs) := by
    intro c hmem
    rcases mem_of_mem_written hmem with hmem | rfl
    · exact hline c (hshown ▸ hmem)
    · decide
  obtain ⟨c, hhead, hc⟩ := exists_head?_written hglyphs
  have hspace : isSpace c = false := by
    rcases hc with hc | rfl
    · rw [hshown] at hc
      rw [Bool.eq_false_iff]
      intro hspace
      exact hstart (hc ▸ isBlank_of_isSpace hspace)
    · rfl
  have hcontent := (line_zero_singleton hwrittenLine hhead hspace).2.1
  have hheading : heading? (written glyphs) = none := by
    rw [Option.eq_none_iff_forall_ne_some]
    intro found hfound
    exact Bool.eq_false_iff.mp hstarts (startsBlock_of_heading? hfound)
  have hblock := readBlock_singleton hwrittenLine hhead hspace
    (isPlain_written hquiet hstarts hcontent) hheading
    (BlockReader.readAt (maxBlockDepth - 1)) (BlockReader.readAt (maxBlockDepth - 2))
  rw [read_singleton hwrittenLine hhead hspace hblock isOpen]
  obtain ⟨trimmed, htrimmed, hmeant, htrimmedQuiet⟩ := Escape.exists_trimWhite_written hquiet
  rw [hshown] at hmeant
  by_cases hrule : isRule (written glyphs)
  · rw [if_pos hrule, if_pos (hdashes.mp hrule)]
    rfl
  · rw [if_neg hrule, if_neg (mt hdashes.mpr hrule), htrimmed, Block.map,
      readInline_written _ htrimmedQuiet, hmeant]

/-- White space of the reader that is none otherwise: the mark of the byte order. -/
theorem eq_of_isWhite_of_not_isBlank {c : Char} (hwhite : isWhite c) (hblank : ¬Text.isBlank c) :
    c = '\ufeff' := by
  by_contra hne
  refine hblank (Text.Ranges.holds_iff.mpr ?_)
  have hcode : c.toNat ≠ 0xfeff := fun heq => hne (Char.toNat_inj.mp heq)
  simp only [isWhite, isGap, Bool.or_eq_true, Bool.and_eq_true, decide_eq_true_eq, List.mem_cons,
    List.not_mem_nil, or_false, hcode] at hwhite
  simp only [Text.blankRanges, List.mem_cons, List.not_mem_nil, or_false, exists_eq_or_imp,
    exists_eq_left]
  omega

theorem any_isWhite_iff {c? : Option Char} (hblank : ¬c?.any Text.isBlank) :
    c?.any isWhite ↔ c? = some '\ufeff' := by
  cases c? with
  | none => exact iff_of_false Bool.false_ne_true nofun
  | some c =>
    refine ⟨fun hwhite => congrArg some (eq_of_isWhite_of_not_isBlank hwhite hblank), ?_⟩
    rintro ⟨⟩
    rfl

/-- Nothing is trimmed from a text if and only if it has no white space at its ends. -/
theorem trimWhite_eq_self_iff (text : List Char) :
    trimWhite text = text ↔ ¬text.head?.any isWhite ∧ ¬text.getLast?.any isWhite := by
  constructor
  · intro heq
    have hdrop : text.dropWhile isWhite = text := by
      refine (List.dropWhile_suffix isWhite).eq_of_length_le ?_
      have hle := (List.rdropWhile_prefix isWhite (l := text.dropWhile isWhite)).length_le
      have hlength : (trimWhite text).length = text.length := congrArg List.length heq
      exact hlength.symm.le.trans hle
    have hend : text.rdropWhile isWhite = text := by
      have htrim : trimWhite text = (text.dropWhile isWhite).rdropWhile isWhite := rfl
      rw [← hdrop, ← htrim, heq, hdrop]
    constructor
    · intro hany
      cases text with
      | nil => cases hany
      | cons c text =>
        have hwhite : isWhite c := hany
        rw [List.dropWhile_cons_of_pos hwhite] at hdrop
        have hlength := congrArg List.length hdrop
        have hle := (List.dropWhile_suffix isWhite (l := text)).length_le
        rw [List.length_cons] at hlength
        omega
    · intro hany
      rcases List.eq_nil_or_concat text with rfl | ⟨front, c, rfl⟩
      · cases hany
      · rw [List.concat_eq_append] at hany hend
        rw [List.getLast?_concat] at hany
        exact List.rdropWhile_eq_self_iff.mp hend (by simp) (by simpa using hany)
  · rintro ⟨hhead, hlast⟩
    have hdrop : text.dropWhile isWhite = text := (Text.takeWhile_eq_nil_of_head? hhead).2
    have htrim : trimWhite text = (text.dropWhile isWhite).rdropWhile isWhite := rfl
    rw [htrim, hdrop]
    refine List.rdropWhile_eq_self_iff.mpr fun hne hwhite => hlast ?_
    rw [List.getLast?_eq_some_getLast hne]
    exact hwhite

/-- A paragraph of plain text without white space at its ends is written on one line. Read again, it
is the same paragraph, unless two dashes that touch start it and all behind them are dashes and
spaces, or an end of it is the mark of the byte order, which the reader takes for white space. -/
theorem read_render_text {text : List Char} (hne : text ≠ []) (hline : IsOneLine text)
    (hstart : ¬text.head?.any Text.isBlank) (hend : ¬text.getLast?.any Text.isBlank)
    (isOpen : Bool) :
    let document : Document := ⟨[.paragraph [.text text]], []⟩
    (document.render = ⟨plainLine text ++ ['\n'], []⟩ ∧ '\n' ∉ plainLine text) ∧
      Document.read isOpen document.render.text =
        ⟨[if isDashes text then .rule else .paragraph (textContent (trimWhite text))], []⟩ ∧
      (Document.read isOpen document.render.text = document ↔
        ¬isDashes text ∧ text.head? ≠ some '\ufeff' ∧ text.getLast? ≠ some '\ufeff') := by
  intro document
  have hbreak : '\n' ∉ text := fun hmem => absurd (hline '\n' hmem) (by decide)
  have hrender : document.render = ⟨plainLine text ++ ['\n'], []⟩ := render_text hbreak
  have hread := read_plainLine hne hline hstart isOpen
  rw [hrender]
  refine ⟨⟨rfl, not_mem_plainLine hbreak⟩, hread, ?_⟩
  have htrimmed : textContent (trimWhite text) = [.text text] ↔ trimWhite text = text := by
    rw [textContent]
    split
    next hnil => exact iff_of_false (List.cons_ne_nil _ _).symm fun heq => hne (heq.symm.trans hnil)
    next => simp
  rw [hread, Document.mk.injEq, and_iff_left rfl, List.cons.injEq, and_iff_left rfl, Ne, Ne,
    ← any_isWhite_iff hstart, ← any_isWhite_iff hend, ← trimWhite_eq_self_iff, ← htrimmed]
  split
  next hdashes => exact iff_of_false (fun heq => by cases heq) fun hnot => hnot.1 hdashes
  next hdashes => rw [Block.paragraph.injEq, and_iff_right hdashes]

/-- A text with many of the marks that must be escaped. -/
theorem read_render_text_marks :
    Document.read true (Document.render ⟨[.paragraph [.text "1. _a_b_ ~~c &lt; <d> !`e`".toList]],
      []⟩).text = ⟨[.paragraph [.text "1. _a_b_ ~~c &lt; <d> !`e`".toList]], []⟩ :=
  (@read_render_text "1. _a_b_ ~~c &lt; <d> !`e`".toList (by decide) (by decide)
    (by decide +kernel) (by decide +kernel) true).2.2.mpr (by decide +kernel)

/-- Three dashes are written as they are and read as a thematic break. -/
theorem read_render_text_dashes :
    let document : Document := ⟨[.paragraph [.text "---".toList]], []⟩
    document.render.text = "---\n".toList ∧
      Document.read true document.render.text = ⟨[.rule], []⟩ ∧
      Document.read true document.render.text ≠ document := by
  intro document
  have hrender : document.render.text = plainLine "---".toList ++ ['\n'] := by decide +kernel
  have hread :=
    @read_plainLine "---".toList (by decide) (by decide) (by decide +kernel) true
  rw [if_pos (by decide +kernel)] at hread
  rw [hrender, hread]
  refine ⟨by decide +kernel, rfl, fun hsame => ?_⟩
  cases congrArg Document.blocks hsame

end CrateReadme.Markdown
