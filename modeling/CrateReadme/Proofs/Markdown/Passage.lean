import CrateReadme.Proofs.Markdown.Layout

/-!
# Passing over lines

A reader that meets known lines inside quotes and list items: what each of them shows behind the
margin, which lines text does not run over, and where reading goes on behind a block.
-/

namespace CrateReadme.Markdown

/-- What stands on a line behind its indentation. -/
def stripped (line : List Char) : List Char :=
  line.dropWhile isSpace

/-- Whether something stands on a line, behind three spaces at most. -/
def isFlush (line : List Char) : Bool :=
  let white := line.takeWhile isSpace
  white.length ≤ 3 && white.all (· = ' ') && stripped line ≠ []

theorem takeWhile_isSpace_append (width : Nat) (rest : List Char) :
    (List.replicate width ' ' ++ rest).takeWhile isSpace =
      List.replicate width ' ' ++ rest.takeWhile isSpace :=
  List.takeWhile_append_of_pos fun c hmem => by rw [List.eq_of_mem_replicate hmem]; rfl

theorem stripped_append (width : Nat) (rest : List Char) :
    stripped (List.replicate width ' ' ++ rest) = stripped rest :=
  List.dropWhile_append_of_pos fun c hmem => by rw [List.eq_of_mem_replicate hmem]; rfl

theorem stripped_cons {c : Char} (hc : isSpace c = false) (rest : List Char) :
    stripped (c :: rest) = c :: rest :=
  List.dropWhile_cons_of_neg (by simp [hc])

theorem drop_takeWhile_isSpace (text : List Char) :
    text.drop (text.takeWhile isSpace).length = stripped text := by
  calc text.drop (text.takeWhile isSpace).length
      = (text.takeWhile isSpace ++ stripped text).drop (text.takeWhile isSpace).length := by
        rw [stripped, List.takeWhile_append_dropWhile]
    _ = stripped text := List.drop_left

/-- A flush line has at most three blanks in front of its first character. -/
theorem exists_of_isFlush {line : List Char} (hflush : isFlush line) :
    ∃ width c rest, line = List.replicate width ' ' ++ c :: rest ∧ width ≤ 3 ∧
      isSpace c = false ∧ stripped line = c :: rest := by
  simp only [isFlush, Bool.and_eq_true, decide_eq_true_eq, List.all_eq_true] at hflush
  obtain ⟨⟨hwidth, hspaces⟩, hne⟩ := hflush
  obtain ⟨c, rest, hrest⟩ := List.exists_cons_of_ne_nil hne
  have hwhite : line.takeWhile isSpace =
      List.replicate (line.takeWhile isSpace).length ' ' :=
    List.eq_replicate_iff.mpr ⟨rfl, hspaces⟩
  have hsplit : line.takeWhile isSpace ++ stripped line = line := List.takeWhile_append_dropWhile
  refine ⟨(line.takeWhile isSpace).length, c, rest, ?_, hwidth, ?_, hrest⟩
  · rw [← hwhite, ← hrest, hsplit]
  · have hhead := List.head?_dropWhile_not isSpace line
    rw [← stripped, hrest] at hhead
    simpa using hhead

theorem columnAfter_append (base column width : Nat) (rest : List Char) :
    columnAfter base column (List.replicate width ' ' ++ rest) =
      columnAfter base (column + width) rest := by
  induction width generalizing column with
  | zero => rfl
  | succ width ih =>
    rw [List.replicate_succ, List.cons_append, columnAfter, if_neg (by decide), ih,
      Nat.add_right_comm, Nat.add_assoc]

/-! ### Lines that show a text -/

/-- A line that shows a text behind a margin: the same stands on it, and no tab or the like makes it
start elsewhere. -/
structure Line.Shows (line : Line) (margin : Nat) (text : List Char) : Prop where
  isEnded : line.isEnded
  content : line.content = stripped text
  le_indent : stripped text ≠ [] → ∀ width rest, text = List.replicate width ' ' ++ rest →
    ((margin + width : Nat) : Int) ≤ line.indent
  indent_eq : ∀ width c rest, text = List.replicate width ' ' ++ c :: rest → isSpace c = false →
    line.indent = (margin + width : Nat)

namespace Line.Shows

variable {line : Line} {margin : Nat} {text : List Char}

/-- Behind some of the spaces the rest stands behind a wider margin. -/
theorem behind {width : Nat} {rest : List Char}
    (hshows : line.Shows margin (List.replicate width ' ' ++ rest)) :
    line.Shows (margin + width) rest where
  isEnded := hshows.isEnded
  content := hshows.content.trans (stripped_append width rest)
  le_indent hne more rest' hrest := by
    have hle := hshows.le_indent (by rwa [stripped_append]) (width + more) rest'
      (by rw [hrest, List.replicate_add, List.append_assoc])
    rwa [← Nat.add_assoc] at hle
  indent_eq more c rest' hrest hc := by
    have heq := hshows.indent_eq (width + more) c rest'
      (by rw [hrest, List.replicate_add, List.append_assoc]) hc
    rwa [← Nat.add_assoc] at heq

theorem margin_le (hshows : line.Shows margin text) (hne : stripped text ≠ []) :
    (margin : Int) ≤ line.indent :=
  hshows.le_indent hne 0 text rfl

/-- A line that shows nothing does so behind every margin. -/
theorem nil (hshows : line.Shows margin []) (wider : Nat) : line.Shows wider [] where
  isEnded := hshows.isEnded
  content := hshows.content
  le_indent hne := absurd rfl hne
  indent_eq width c rest htext := by simp at htext

theorem isEmpty_eq (hshows : line.Shows margin text) :
    line.isEmpty = (stripped text).isEmpty := by
  rw [Line.isEmpty, hshows.content]

theorem isEmpty_eq_false (hshows : line.Shows margin text) (hne : stripped text ≠ []) :
    line.isEmpty = false := by
  rw [hshows.isEmpty_eq, List.isEmpty_eq_false_iff]
  exact hne

theorem of_cons {c : Char} {rest : List Char} (hshows : line.Shows margin (c :: rest))
    (hc : isSpace c = false) : line.content = c :: rest ∧ line.indent = margin :=
  ⟨hshows.content.trans (stripped_cons hc rest), hshows.indent_eq 0 c rest rfl hc⟩

theorem indent_of_isFlush (hshows : line.Shows margin text) (hflush : isFlush text) :
    (margin : Int) ≤ line.indent ∧ line.indent ≤ margin + 3 := by
  obtain ⟨width, c, rest, htext, hwidth, hc, -⟩ := exists_of_isFlush hflush
  rw [hshows.indent_eq width c rest htext hc]
  omega

end Line.Shows

theorem shows_ofText (text : List Char) : (Line.ofText text true).Shows 0 text where
  isEnded := rfl
  content := drop_takeWhile_isSpace text
  le_indent _ width rest htext := by
    simp only [Line.ofText, htext, takeWhile_isSpace_append, columnAfter_append]
    have hle := BlockReader.le_columnAfter 0 (0 + width) (rest.takeWhile isSpace)
    omega
  indent_eq width c rest htext hc := by
    simp only [Line.ofText, htext, takeWhile_isSpace_append, columnAfter_append,
      List.takeWhile_cons_of_neg (by simp [hc] : ¬isSpace c), columnAfter]

/-- Inside a quote a line shows what stands behind its marker. -/
theorem Line.Shows.quoted {line : Line} {margin : Nat} {text : List Char}
    (hshows : line.Shows margin (if text.isEmpty then ['>'] else '>' :: ' ' :: text)) :
    line.quoted.Shows 0 text := by
  cases text with
  | nil =>
    have hcontent : line.content = ['>'] := (hshows.of_cons rfl).1
    refine ⟨hshows.isEnded, ?_, fun hne => absurd rfl hne, fun width c rest htext _ => ?_⟩
    · rw [Line.quoted, hcontent]
      rfl
    · simp at htext
  | cons d text =>
    have hcontent : line.content = '>' :: ' ' :: d :: text := (hshows.of_cons rfl).1
    have hindent : line.quoted.indent = (columnAfter line.base (line.indent.toNat + 2)
        ((d :: text).takeWhile isSpace) - (line.indent.toNat + 2) : Nat) := by
      rw [Line.quoted, hcontent]
      rfl
    refine ⟨hshows.isEnded, ?_, fun _ width rest htext => ?_, fun width c rest htext hc => ?_⟩
    · rw [← drop_takeWhile_isSpace, Line.quoted, hcontent]
      rfl
    · rw [hindent, htext, takeWhile_isSpace_append, columnAfter_append]
      have hle := BlockReader.le_columnAfter line.base (line.indent.toNat + 2 + width)
        (rest.takeWhile isSpace)
      omega
    · rw [hindent, htext, takeWhile_isSpace_append, columnAfter_append,
        List.takeWhile_cons_of_neg (by simp [hc]), columnAfter]
      omega

/-- The first line of a list item shows what stands behind the marker. -/
theorem Line.Shows.itemLine {line : Line} {margin : Nat} {mark first : List Char} {c d : Char}
    {rest : List Char} (hmark : mark = c :: rest) (hc : isSpace c = false)
    (hfirst : first.head? = some d) (hd : isSpace d = false)
    (hshows : line.Shows margin (mark ++ ' ' :: first)) :
    let found := BlockReader.itemLine line mark.length
    found.1.Shows (margin + (mark.length + 1)) first ∧ found.2.1 = margin + (mark.length + 1) ∧
      found.2.2 = false := by
  obtain ⟨first, rfl⟩ := List.head?_eq_some_iff.mp hfirst
  have hline : line.content = mark ++ ' ' :: d :: first ∧ line.indent = margin := by
    subst hmark
    exact hshows.of_cons hc
  obtain ⟨hcontent, hindent⟩ := hline
  have hbehind : line.content.drop mark.length = ' ' :: d :: first := by
    rw [hcontent, List.drop_left]
  have hwhite : (' ' :: d :: first).takeWhile isSpace = [' '] := by
    rw [List.takeWhile_cons_of_pos rfl, List.takeWhile_cons_of_neg (by simp [hd])]
  have hitem : BlockReader.itemLine line mark.length =
      ({ line with
          shift := line.shift + mark.length + 1
          indent := (margin + (mark.length + 1) : Nat) },
        margin + (mark.length + 1), false) := by
    have hone : margin + (mark.length + 1) - (margin + mark.length) = 1 := by omega
    simp [BlockReader.itemLine, hbehind, hwhite, columnAfter, hindent, Nat.add_assoc, hone]
  have hcolumn (width : Nat) (rest : List Char)
      (htext : d :: first = List.replicate width ' ' ++ rest) : width = 0 := by
    cases width with
    | zero => rfl
    | succ width =>
      rw [List.replicate_succ, List.cons_append, List.cons.injEq] at htext
      rw [htext.1] at hd
      cases hd
  rw [hitem]
  refine ⟨⟨hshows.isEnded, ?_, fun _ width rest' htext => ?_, fun width e rest' htext _ => ?_⟩,
    rfl, rfl⟩
  · have hdrop := congrArg (List.drop 1) hbehind
    rw [Line.content, List.drop_drop, List.drop_drop] at hdrop
    rw [stripped_cons hd]
    exact hdrop
  · rw [hcolumn width rest' htext]
    exact Int.le_refl _
  · rw [hcolumn width (e :: rest') htext]
    rfl

/-- The first line of an empty list item shows nothing. -/
theorem Line.Shows.emptyItemLine {line : Line} {margin : Nat} {mark : List Char} {c : Char}
    {rest : List Char} (hmark : mark = c :: rest) (hc : isSpace c = false)
    (hshows : line.Shows margin mark) :
    let found := BlockReader.itemLine line mark.length
    found.1.Shows (margin + (mark.length + 1)) [] ∧ found.2.1 = margin + (mark.length + 1) ∧
      found.2.2 := by
  have hline : line.content = mark ∧ line.indent = margin := by
    subst hmark
    exact hshows.of_cons hc
  obtain ⟨hcontent, hindent⟩ := hline
  have hbehind : line.content.drop mark.length = [] := by
    rw [hcontent, List.drop_length]
  have hitem : BlockReader.itemLine line mark.length =
      ({ line with
          shift := line.shift + mark.length
          indent := (margin + mark.length : Nat) },
        margin + (mark.length + 1), true) := by
    simp [BlockReader.itemLine, hbehind, columnAfter, hindent, Nat.add_assoc]
  rw [hitem]
  refine ⟨⟨hshows.isEnded, ?_, fun hne => absurd rfl hne, fun width e rest' htext _ => ?_⟩,
    rfl, rfl⟩
  · rw [Line.content, List.drop_drop] at hbehind
    exact hbehind
  · simp at htext

/-! ### Regions that show texts -/

namespace Region

variable {region : Region} {index : Nat}

/-- The lines of a region from `index` on show the given texts. -/
def Stands (region : Region) : (index : Nat) → List (List Char) → Prop
  | _, [] => True
  | index, text :: texts =>
    (region.line index).Shows region.margin text ∧ Stands region (index + 1) texts

theorem stands_append {texts more : List (List Char)} :
    region.Stands index (texts ++ more) ↔
      region.Stands index texts ∧ region.Stands (index + texts.length) more := by
  induction texts generalizing index with
  | nil => simp [Stands]
  | cons text texts ih =>
    rw [List.cons_append, Stands, Stands, ih, and_assoc, List.length_cons, Nat.add_right_comm,
      ← Nat.add_assoc]

theorem Stands.shows {texts : List (List Char)} (hstands : region.Stands index texts) {offset : Nat}
    (hoffset : offset < texts.length) :
    (region.line (index + offset)).Shows region.margin texts[offset] := by
  induction texts generalizing index offset with
  | nil => exact absurd hoffset (Nat.not_lt_zero offset)
  | cons text texts ih =>
    cases offset with
    | zero => exact hstands.1
    | succ offset =>
      have hline := ih hstands.2 (Nat.lt_of_succ_lt_succ hoffset)
      rwa [Nat.add_right_comm] at hline

theorem Stands.of_shows {texts : List (List Char)}
    (hshows : ∀ offset (hoffset : offset < texts.length),
      (region.line (index + offset)).Shows region.margin texts[offset]) :
    region.Stands index texts := by
  induction texts generalizing index with
  | nil => exact trivial
  | cons text texts ih =>
    refine ⟨hshows 0 (Nat.zero_lt_succ _), ih fun offset hoffset => ?_⟩
    have hline := hshows (offset + 1) (Nat.succ_lt_succ hoffset)
    rwa [← Nat.add_assoc, Nat.add_right_comm] at hline

theorem lt_size_of_isEnded (hended : (region.line index).isEnded) : index < region.lines.size := by
  by_contra hover
  rw [line, Array.getElem?_eq_none (Nat.le_of_not_lt hover)] at hended
  cases hended

theorem Stands.le_size {texts : List (List Char)} (hstands : region.Stands index texts)
    (hne : texts ≠ []) : index + texts.length ≤ region.lines.size := by
  have hpos := List.length_pos_iff.mpr hne
  have hlast := lt_size_of_isEnded
    (hstands.shows (Nat.sub_lt hpos Nat.one_pos)).isEnded
  omega

/-- A line whose text is flush is not empty, not outdented and no code. -/
theorem isFlush_of_shows {text : List Char} (hshows : (region.line index).Shows region.margin text)
    (hflush : isFlush text) :
    (region.line index).isEmpty = false ∧ region.isOutdented index = false ∧
      region.isCode index = false := by
  obtain ⟨hle, hge⟩ := hshows.indent_of_isFlush hflush
  obtain ⟨-, c, rest, -, -, -, hstripped⟩ := exists_of_isFlush hflush
  refine ⟨hshows.isEmpty_eq_false (by simp [hstripped]), ?_, ?_⟩
  · rw [isOutdented, decide_eq_false_iff_not]
    omega
  · rw [isCode, decide_eq_false_iff_not]
    omega

end Region

/-! ### Lines that start blocks -/

/-- Whether the item of a marker, if it is not empty, may start a list inside a paragraph. -/
def ListMarker.isFirst : ListMarker → Bool
  | .bullet _ => true
  | .number value _ => value = 1

/-- Whether the content of a line that is no code starts a block which text does not run over.
Inside a paragraph not every list may start. -/
def opens (inParagraph : Bool) (content : List Char) : Bool :=
  (fenceStart? content).isSome || content.head? = some '>' || isRule content ||
    (ListMarker.ofContent? content).any (fun found =>
      !inParagraph || (found.1.isFirst && !(content.drop found.2).all isSpace)) ||
    (heading? content).isSome || (Html.blockKind? content).any (· ≠ .lone)

/-- Whether two contents are the header of a table and the line under it. -/
def headsTable (header under : List Char) : Bool :=
  isDelimiterRow under && '|' ∈ trimWhite header &&
    (alignments? true ((trimWhite under).splitOn '|')).any fun alignments =>
      !(cellsOf header).isEmpty && (cellsOf header).length = alignments.length

section Starts

variable {region : Region} {index : Nat}

/-- A line is not indented so far that the list around it keeps others from starting there. -/
def Region.IsFree (region : Region) (index : Nat) : Prop :=
  ∀ margin ∈ region.listMargin, (region.line index).indent < (margin : Int) + 4

/-- Whether a list starts at a line is a matter of its mark and, within a paragraph, of what stands
behind it. -/
theorem isSome_listStart? (hcode : region.isCode index = false)
    (hfree : region.isOutdented index → region.IsFree index) (inParagraph : Bool) :
    (listStart? region index inParagraph).isSome =
      (ListMarker.ofContent? (region.line index).content).any fun found =>
        !(inParagraph && !region.isOutdented index) ||
          (found.1.isFirst && !((region.line index).content.drop found.2).all isSpace) := by
  have hnested : (region.listMargin.any fun margin =>
      decide ((region.line index).indent - margin ≥ 4) && region.isOutdented index) = false := by
    cases hmargin : region.listMargin with
    | none => rfl
    | some margin =>
      cases hout : region.isOutdented index with
      | false => simp
      | true =>
        have hlt := hfree hout margin hmargin
        have hnot : ¬(region.line index).indent - (margin : Int) ≥ 4 := by omega
        simp [hnot]
  simp only [listStart?, hcode, hnested, Bool.or_self, Bool.false_eq_true, if_false]
  cases hitem : ListMarker.ofContent? (region.line index).content with
  | none => rfl
  | some found =>
    obtain ⟨marker, width⟩ := found
    simp only [Option.any_some]
    generalize (inParagraph && !region.isOutdented index) = isLimited
    generalize ((region.line index).content.drop width).all isSpace = isBlank
    cases marker with
    | bullet mark => cases isLimited <;> cases isBlank <;> rfl
    | number value mark =>
      simp only [ListMarker.isFirst]
      by_cases hone : value = 1 <;> cases isLimited <;> cases isBlank <;> simp [hone]

theorem interruptsQuote_eq (hcode : region.isCode index = false)
    (hfree : region.isOutdented index → region.IsFree index) (inParagraph : Bool) :
    interruptsQuote region index inParagraph =
      opens (inParagraph && !region.isOutdented index) (region.line index).content := by
  rw [interruptsQuote, interruptsList, isSome_listStart? hcode hfree, opens]
  simp [hcode, Bool.or_assoc]

/-- No table starts at a line that heads none. -/
theorem tableStart?_eq_none_of_headsTable (stop : Nat)
    (htable : headsTable (region.line index).content (region.line (index + 1)).content = false) :
    tableStart? region index stop = none := by
  rw [tableStart?]
  split
  · rfl
  · simp only
    split
    · rfl
    next hcells =>
      simp only [Bool.or_eq_true, not_or, Bool.not_eq_true', Bool.not_eq_false, decide_eq_true_eq,
        not_not] at hcells
      obtain ⟨⟨hunder, -⟩, hbar⟩ := hcells
      simp only [headsTable, hunder, hbar, decide_true, Bool.and_self, Bool.true_and] at htable
      split
      next alignments halignments =>
        rw [halignments, Option.any_some] at htable
        rw [if_pos]
        simpa [Classical.or_iff_not_imp_left] using htable
      next => rfl

end Starts

/-! ### Going on behind a block -/

theorem Block.headingsAll_append {Content : Type} (front back : List (Block Content)) :
    headingsAll (front ++ back) = headingsAll front ++ headingsAll back := by
  induction front with
  | nil => rfl
  | cons block front ih => rw [List.cons_append, headingsAll, ih, headingsAll, List.append_assoc]

namespace BlockReader

section Lines

variable {region : Region} {stop index last next : Nat}

theorem le_firstLine (region : Region) (index : Nat) : index ≤ firstLine region index :=
  le_skipEmpty region _ index

theorem firstLine_of_solid (hsolid : (region.line index).isEmpty = false) :
    firstLine region index = index :=
  skipEmpty_of_solid hsolid _

theorem firstLine_of_limit_le (hlimit : region.limit ≤ index) : firstLine region index = index := by
  rw [firstLine, Nat.sub_eq_zero_of_le hlimit]
  rfl

theorem firstLine_of_isEmpty (hlimit : index < region.limit)
    (hempty : (region.line index).isEmpty) :
    firstLine region index = firstLine region (index + 1) := by
  have hsteps : region.limit - index = region.limit - (index + 1) + 1 := by omega
  rw [firstLine, hsteps, skipEmpty, if_pos hempty, firstLine]

/-- Between a line and the next one that is not empty reading goes on at the same line. -/
theorem firstLine_eq_of_le (hle : last ≤ next) (hnext : next ≤ firstLine region last) :
    firstLine region next = firstLine region last := by
  induction next, hle using Nat.le_induction with
  | base => rfl
  | succ next _ ih =>
    have hsame := ih (Nat.le_of_succ_le hnext)
    rw [← hsame] at hnext
    have hlimit : next < region.limit := by
      by_contra hover
      rw [firstLine_of_limit_le (Nat.le_of_not_lt hover)] at hnext
      exact Nat.lt_irrefl next hnext
    have hempty : (region.line next).isEmpty := by
      by_contra hsolid
      rw [firstLine_of_solid (Bool.eq_false_iff.mpr hsolid)] at hnext
      exact Nat.lt_irrefl next hnext
    rw [← firstLine_of_isEmpty hlimit hempty, hsame]

/-- Where the lines from one on are the same, the next one that is not empty is too, unless a limit
comes first. -/
theorem firstLine_le {inner : Region}
    (hline : ∀ line, index ≤ line → inner.line line = region.line line)
    (hlimit : inner.limit ≤ region.limit) : firstLine inner index ≤ firstLine region index := by
  induction hleft : inner.limit - index generalizing index with
  | zero =>
    rw [firstLine_of_limit_le (by omega)]
    exact le_firstLine region index
  | succ left ih =>
    have hsame := hline index (Nat.le_refl index)
    cases hempty : (region.line index).isEmpty with
    | true =>
      rw [firstLine_of_isEmpty (by omega) (hsame ▸ hempty),
        firstLine_of_isEmpty (Nat.lt_of_lt_of_le (by omega) hlimit) hempty]
      exact ih (fun line hle => hline line (Nat.le_of_succ_le hle)) (by omega)
    | false =>
      rw [firstLine_of_solid (hsame ▸ hempty), firstLine_of_solid hempty]

theorem firstLine_congr {inner : Region}
    (hline : ∀ line, index ≤ line → inner.line line = region.line line)
    (hlimit : inner.limit = region.limit) : firstLine inner index = firstLine region index :=
  Nat.le_antisymm (firstLine_le hline (Nat.le_of_eq hlimit))
    (firstLine_le (fun line hle => (hline line hle).symm) (Nat.le_of_eq hlimit.symm))

theorem lineBehind_bounds (hstop : stop ≤ region.limit) (hle : last ≤ next)
    (hnext : next ≤ firstLine region last) :
    last ≤ lineBehind region stop next ∧ lineBehind region stop next ≤ firstLine region last := by
  rw [lineBehind]
  split
  next hmeets =>
    rw [Bool.and_eq_true, decide_eq_true_eq] at hmeets
    rw [← firstLine_eq_of_le hle hnext,
      firstLine_of_isEmpty (Nat.lt_of_lt_of_le hmeets.1 hstop) hmeets.2]
    exact ⟨Nat.le_succ_of_le hle, le_firstLine region (next + 1)⟩
  next => exact ⟨hle, hnext⟩

/-- What was read ends in front of the line `last`, perhaps with the blank lines that follow. -/
structure ComesTo (region : Region) (stop last next : Nat) : Prop where
  le : last ≤ next
  le_first : next ≤ firstLine region last
  ends : stop ≤ next ∨ next = firstLine region last

/-- Behind the line `last` nothing follows that belongs to the same blocks. -/
def Ends (region : Region) (stop last : Nat) : Prop :=
  stop ≤ firstLine region last ∨ region.isOutdented (firstLine region last)

end Lines

section Loop

variable {region : Region} {readQuote readItem : Reader} {stop index last : Nat}

/-- From a line on the reader finds the given headings and comes to the line `last`. -/
def Reads (region : Region) (readQuote readItem : Reader) (stop index : Nat)
    (found : List (Nat × List Char)) (last : Nat) : Prop :=
  ∀ left hadBlank isTight definitions, stop < left + index →
    let reading := readLoop region readQuote readItem stop left index hadBlank isTight definitions
    Block.headingsAll reading.blocks = found ∧ ComesTo region stop last reading.next

/-- Empty lines up to an end give no blocks. -/
theorem reads_of_ends (readQuote readItem : Reader) (hends : Ends region stop last)
    (hfirst : firstLine region index = firstLine region last)
    (hlast : stop ≤ index → last ≤ index) :
    Reads region readQuote readItem stop index [] last := by
  intro left hadBlank isTight definitions hleft
  by_cases hover : stop ≤ index
  · have hread : readLoop region readQuote readItem stop left index hadBlank isTight definitions =
        ⟨[], index, isTight, definitions⟩ := by
      cases left with
      | zero => rfl
      | succ left => rw [readLoop, if_pos hover]
    rw [hread]
    exact ⟨rfl, hlast hover, hfirst ▸ le_firstLine region index, .inl hover⟩
  · obtain ⟨left, rfl⟩ := Nat.exists_eq_add_of_le' (show 1 ≤ left by omega)
    have hread : readLoop region readQuote readItem stop (left + 1) index hadBlank isTight
        definitions = ⟨[], firstLine region last, isTight, definitions⟩ := by
      rw [readLoop, if_neg hover, ← firstLine, hfirst]
      rw [if_pos]
      rw [Bool.or_eq_true, decide_eq_true_eq]
      exact hends
    rw [hread]
    exact ⟨rfl, le_firstLine region last, Nat.le_refl _, .inr rfl⟩

theorem Reads.of_firstLine {found : List (Nat × List Char)}
    (hreads : Reads region readQuote readItem stop (firstLine region index) found last)
    (hindex : index < stop) (hsolid : (region.line (firstLine region index)).isEmpty = false) :
    Reads region readQuote readItem stop index found last := by
  intro left hadBlank isTight definitions hleft
  obtain ⟨left, rfl⟩ := Nat.exists_eq_add_of_le' (show 1 ≤ left by omega)
  have hle := le_firstLine region index
  rw [readLoop_firstLine hadBlank isTight definitions hindex hsolid]
  exact hreads (left + 1) hadBlank isTight definitions (by omega)

/-- A block is read, and then what follows it. -/
theorem reads_of_step (hindex : index < stop) (hsolid : (region.line index).isEmpty = false)
    (hinside : region.isOutdented index = false) {found more : List (Nat × List Char)}
    (hstep : ∀ definitions,
      let step := readBlock region readQuote readItem index stop definitions
      index < step.next ∧ Block.headingsAll step.block.toList = found ∧
        Reads region readQuote readItem stop (lineBehind region stop step.next) more last) :
    Reads region readQuote readItem stop index (found ++ more) last := by
  intro left hadBlank isTight definitions hleft
  obtain ⟨left, rfl⟩ := Nat.exists_eq_add_of_le' (show 1 ≤ left by omega)
  obtain ⟨hnext, hfound, hreads⟩ := hstep definitions
  have hread : readLoop region readQuote readItem stop (left + 1) index hadBlank isTight
      definitions = _ :=
    readLoop.eq_2 region readQuote readItem stop index hadBlank isTight definitions left
  rw [if_neg (Nat.not_le_of_lt hindex), skipEmpty_of_solid hsolid,
    if_neg (by simp [hinside, Nat.not_le_of_lt hindex])] at hread
  have hbehind := le_lineBehind region stop
    (readBlock region readQuote readItem index stop definitions).next
  obtain ⟨hmore, hcomes⟩ := hreads left _ _ _ (by omega)
  rw [hread]
  refine ⟨?_, hcomes⟩
  rw [Block.headingsAll_append, hfound, ← hmore]
  rfl

end Loop

/-! ### Text -/

section Barrier

open DefinitionReader (continuation?)

variable {region : Region} {stop index last : Nat}

/-- What text does not run over: the end, a blank line or a line that starts a block. -/
inductive Barrier (region : Region) (last : Nat) : Prop
  | beyond (hlimit : region.limit ≤ last)
  | blank (hempty : (region.line last).isEmpty)
  | start (hindent : 0 ≤ (region.line last).indent) (hcode : region.isCode last = false)
    (hinterrupts : interruptsQuote region last true)
    (hunder : region.isOutdented last ∨ underline? (region.line last).content = none)

/-- What starts a list within a paragraph also starts one elsewhere. -/
theorem listStart?_of_inParagraph {found : ListMarker × Nat}
    (hstart : listStart? region index true = some found) :
    listStart? region index false = some found := by
  simp only [listStart?] at hstart ⊢
  split at hstart
  next => cases hstart
  next hgoes =>
    rw [if_neg hgoes]
    cases hitem : ListMarker.ofContent? (region.line index).content with
    | none =>
      rw [hitem] at hstart
      cases hstart
    | some item =>
      rw [hitem] at hstart
      simp only [Bool.false_and, Bool.false_eq_true, if_false]
      exact (Option.ite_none_left_eq_some.mp hstart).2

theorem interruptsQuote_of_inParagraph (hinterrupts : interruptsQuote region index true) :
    interruptsQuote region index false := by
  simp only [interruptsQuote, Bool.or_eq_true] at hinterrupts ⊢
  refine hinterrupts.imp_left fun hstarts => hstarts.imp_right fun hlist => ?_
  obtain ⟨found, hfound⟩ := Option.isSome_iff_exists.mp hlist
  rw [listStart?_of_inParagraph hfound]
  rfl

namespace Barrier

theorem continuation?_eq_none (hbarrier : Barrier region last) :
    continuation? region last = none := by
  cases hbarrier with
  | beyond hlimit => simp [continuation?, hlimit]
  | blank hempty => simp [continuation?, hempty]
  | start hindent hcode hinterrupts =>
    simp [continuation?, hcode, Int.not_lt.mpr hindent, interruptsParagraph,
      interruptsQuote_of_inParagraph hinterrupts]

/-- A paragraph does not go on behind a barrier. -/
theorem paragraphEnd_le (hbarrier : Barrier region last) (left : Nat) (hindex : index ≤ last) :
    paragraphEnd region left index ≤ last := by
  induction left generalizing index with
  | zero => exact hindex
  | succ left ih =>
    rcases Nat.eq_or_lt_of_le hindex with rfl | hlt
    · cases hbarrier with
      | beyond hlimit => simp [paragraphEnd, hlimit]
      | blank hempty => simp [paragraphEnd, hempty]
      | start hindent hcode hinterrupts =>
        simp [paragraphEnd, hcode, Int.not_lt.mpr hindent, interruptsParagraph, hinterrupts]
    · simp only [paragraphEnd]
      split
      · exact hindex
      · split
        · exact ih hlt
        · split
          · exact hindex
          · exact ih hlt

/-- Lines in front of a barrier that are no underlines are no heading. -/
theorem underlineAt?_eq_none (hbarrier : Barrier region last) (hstop : stop ≤ region.limit)
    (hlines : ∀ line, index ≤ line → line < last →
      underline? (region.line line).content = none)
    (left : Nat) (hindex : index ≤ last) : underlineAt? region stop left index = none := by
  induction left generalizing index with
  | zero => rfl
  | succ left ih =>
    rcases Nat.eq_or_lt_of_le hindex with rfl | hlt
    · cases hbarrier with
      | beyond hlimit => simp [underlineAt?, Nat.le_trans hstop hlimit]
      | blank hempty => simp [underlineAt?, hempty]
      | start hindent hcode hinterrupts hunder =>
        have hnone : (if region.isOutdented index then none
            else underline? (region.line index).content) = none := by
          rcases hunder with hout | hnone
          · rw [if_pos hout]
          · rw [hnone, ite_self]
        simp [underlineAt?, hcode, hnone, Int.not_lt.mpr hindent, interruptsParagraph, hinterrupts]
    · have hmore := ih (fun line hle => hlines line (Nat.le_of_succ_le hle)) hlt
      simp only [underlineAt?, hlines index (Nat.le_refl index) hlt, ite_self, hmore]

/-- The rows of a table do not go on behind a barrier. -/
theorem tableRows_le (hbarrier : Barrier region last) (hstop : stop ≤ region.limit)
    (width left : Nat) (surplus : Int) (hindex : index ≤ last) :
    (tableRows region width stop left index surplus).2 ≤ last := by
  induction left generalizing index surplus with
  | zero => exact hindex
  | succ left ih =>
    rcases Nat.eq_or_lt_of_le hindex with rfl | hlt
    · cases hbarrier with
      | beyond hlimit => simp [tableRows, Nat.le_trans hstop hlimit]
      | blank hempty =>
        have hcontent : (region.line index).content = [] := List.isEmpty_iff.mp hempty
        simp [tableRows, hcontent, trimWhite, Text.trim, Text.trimStart, Text.trimEnd]
      | start _ _ hinterrupts =>
        simp [tableRows, interruptsQuote_of_inParagraph hinterrupts]
    · simp only [tableRows]
      split
      · exact hindex
      · split
        · exact hindex
        · exact ih _ hlt

end Barrier

/-- HTML whose kind ends at a blank line does not run over such a line, one that is indented less
and the end. -/
theorem htmlEnd_le_of_edge {kind : Html.BlockKind}
    (hedge : stop ≤ last ∨ ((region.line last).isEmpty = false ∧ region.isOutdented last) ∨
      ((region.line last).isEmpty ∧ kind.endsAt []))
    (left : Nat) (hindex : index ≤ last) : htmlEnd region kind stop left index ≤ last := by
  induction left generalizing index with
  | zero => exact hindex
  | succ left ih =>
    rcases Nat.eq_or_lt_of_le hindex with rfl | hlt
    · rcases hedge with hstop | ⟨hsolid, hout⟩ | ⟨hempty, hkind⟩
      · simp [htmlEnd, hstop]
      · rw [Line.isEmpty] at hsolid
        simp [htmlEnd, hsolid, hout]
      · have hcontent : (region.line index).content = [] := List.isEmpty_iff.mp hempty
        simp [htmlEnd, hcontent, hkind]
    · simp only [htmlEnd]
      split
      · exact hindex
      · split
        · split
          · exact hindex
          · exact hlt
        · exact ih hlt

/-- HTML goes on over blank lines at most to the next line where nothing follows that belongs to the
same blocks. -/
theorem htmlEnd_le_firstLine (kind : Html.BlockKind) (hstop : stop ≤ region.limit)
    (hends : Ends region stop last) (left : Nat) (hle : index ≤ firstLine region last) :
    htmlEnd region kind stop left index ≤ firstLine region last := by
  induction left generalizing index with
  | zero => exact hle
  | succ left ih =>
    simp only [htmlEnd]
    split
    next => exact hle
    next hgoes =>
      rw [Bool.or_eq_true, Bool.and_eq_true, decide_eq_true_eq, not_or, not_and] at hgoes
      have hlt : index < firstLine region last := by
        refine Nat.lt_of_le_of_ne hle ?_
        rintro rfl
        have hout := hends.resolve_left hgoes.1
        have hsolid := isEmpty_firstLine region last (by omega)
        rw [Line.isEmpty] at hsolid
        exact hgoes.2 (by rw [hsolid]; rfl) hout
      split
      · split
        · exact hle
        · exact hlt
      · exact ih hlt

end Barrier

section Quiet

variable {region : Region} {readQuote readItem : Reader} {stop index last : Nat}

/-- A line on which no block starts that text does not run over. -/
structure IsQuiet (region : Region) (index : Nat) : Prop where
  isSolid : (region.line index).isEmpty = false
  isInside : region.isOutdented index = false
  isFlush : region.isCode index = false
  isOrdinary : opens false (region.line index).content = false

/-- The headings that are found behind a stretch of lines, up to the line `last`, with those found
on the stretch in front. -/
def Passes (region : Region) (readQuote readItem : Reader) (stop index : Nat)
    (found : List (Nat × List Char)) (last : Nat) : Prop :=
  ∀ more final, (∀ next, last ≤ next → next ≤ firstLine region last →
      Reads region readQuote readItem stop next more final) →
    Reads region readQuote readItem stop index (found ++ more) final

theorem of_opens_eq_false {content : List Char} (hopens : opens false content = false) :
    fenceStart? content = none ∧ content.head? ≠ some '>' ∧ isRule content = false ∧
      ListMarker.ofContent? content = none ∧ heading? content = none ∧
      ∀ kind, Html.blockKind? content = some kind → kind = .lone := by
  simp only [opens, Bool.or_eq_false_iff, decide_eq_false_iff_not, Bool.not_false, Bool.true_or,
    Option.isSome_eq_false_iff, Option.isNone_iff_eq_none, Option.any_eq_false] at hopens
  obtain ⟨⟨⟨⟨⟨hfence, hquote⟩, hrule⟩, hitem⟩, hheading⟩, hkinds⟩ := hopens
  refine ⟨hfence, hquote, hrule, ?_, hheading, fun kind hkind => by simpa using hkinds kind hkind⟩
  exact Option.eq_none_iff_forall_ne_some.mpr fun found hfound => by cases hitem found hfound

/-- What starts on a quiet line is no heading, and a barrier ends it. -/
theorem readBlock_of_isQuiet (readQuote readItem : Reader) (hbarrier : Barrier region last)
    (hstop : stop ≤ region.limit) (hquiet : IsQuiet region index) (hindex : index < last)
    (hunder : ∀ line, index < line → line < last →
      underline? (region.line line).content = none)
    (htable : index + 1 = last → tableStart? region index stop = none)
    (hlone : ∀ kind, Html.blockKind? (region.line index).content = some kind →
      stop ≤ last ∨ (region.line last).isEmpty ∨
        ((region.line last).isEmpty = false ∧ region.isOutdented last))
    (definitions : Definitions) :
    let step := readBlock region readQuote readItem index stop definitions
    index < step.next ∧ step.next ≤ last ∧ Block.headingsAll step.block.toList = [] := by
  obtain ⟨hfence, hquote, hrule, hitem, hheading, hkinds⟩ := of_opens_eq_false hquiet.isOrdinary
  have hlist : listStart? region index false = none := by simp [listStart?, hitem]
  simp only [readBlock, hquiet.isFlush, hfence, hquote, hrule, hlist, hheading, Bool.false_eq_true,
    if_false]
  cases htableStart : tableStart? region index stop with
  | some found =>
    obtain ⟨alignments, header⟩ := found
    have hlt : index + 2 ≤ last := by
      refine Nat.succ_le_of_lt (Nat.lt_of_le_of_ne hindex fun heq => ?_)
      rw [htable heq] at htableStart
      cases htableStart
    refine ⟨?_, hbarrier.tableRows_le hstop _ _ _ hlt, rfl⟩
    exact Nat.lt_of_lt_of_le (by omega) (le_tableRows region _ stop _ (index + 2) 0)
  | none =>
  cases hread : DefinitionReader.read? region index with
  | some found =>
    obtain ⟨key, definition, next⟩ := found
    obtain ⟨hlt, hends⟩ := within_read? hread
    exact ⟨hlt, hends last hbarrier.continuation?_eq_none hindex, rfl⟩
  | none =>
  cases hkind : Html.blockKind? (region.line index).content with
  | some kind =>
    obtain rfl := hkinds kind hkind
    refine ⟨?_, ?_, rfl⟩
    · simp only
      split
      · exact Nat.lt_succ_self index
      · exact le_htmlEnd region _ stop _ (index + 1)
    · simp only
      split
      · exact hindex
      · refine htmlEnd_le_of_edge ?_ _ hindex
        exact (hlone .lone hkind).imp_right fun hedge =>
          hedge.elim (fun hempty => .inr ⟨hempty, rfl⟩) .inl
  | none =>
    have hnone := hbarrier.underlineAt?_eq_none hstop
      (fun line hle => hunder line (Nat.lt_of_succ_le hle)) (region.lines.size + 1) hindex
    rw [hnone]
    exact ⟨le_paragraphEnd region _ (index + 1), hbarrier.paragraphEnd_le _ hindex, rfl⟩

/-- Quiet lines in front of a barrier hold no headings. -/
theorem passes_of_isQuiet {first : Nat} (hbarrier : Barrier region last)
    (hstop : stop ≤ region.limit) (hlast : last ≤ stop)
    (hquiet : ∀ line, first ≤ line → line < last → IsQuiet region line)
    (hunder : ∀ line, first < line → line < last →
      underline? (region.line line).content = none)
    (htable : ∀ line, line + 1 = last → tableStart? region line stop = none)
    (hlone : ∀ line kind, first ≤ line → line < last →
      Html.blockKind? (region.line line).content = some kind →
      stop ≤ last ∨ (region.line last).isEmpty ∨
        ((region.line last).isEmpty = false ∧ region.isOutdented last))
    (hfirst : first ≤ index) (hindex : index < last) :
    Passes region readQuote readItem stop index [] last := by
  intro more final hrest
  induction hleft : last - index using Nat.strongRecOn generalizing index with
  | ind left ih =>
    have hline := hquiet index hfirst hindex
    refine reads_of_step (Nat.lt_of_lt_of_le hindex hlast) hline.isSolid hline.isInside
      fun definitions => ?_
    obtain ⟨hlt, hle, hfound⟩ := readBlock_of_isQuiet readQuote readItem hbarrier hstop hline hindex
      (fun line hbehind => hunder line (Nat.lt_of_le_of_lt hfirst hbehind)) (htable index)
      (fun kind => hlone index kind hfirst hindex) definitions
    refine ⟨hlt, hfound, ?_⟩
    generalize (readBlock region readQuote readItem index stop definitions).next = next at hlt hle
    rcases Nat.eq_or_lt_of_le hle with rfl | hbefore
    · obtain ⟨hge, hbehind⟩ := lineBehind_bounds hstop (Nat.le_refl next) (le_firstLine region next)
      exact hrest _ hge hbehind
    · have hsolid := (hquiet next (by omega) hbefore).isSolid
      have hsame : lineBehind region stop next = next := by
        rw [lineBehind, hsolid, Bool.and_false, if_neg Bool.false_ne_true]
      rw [hsame]
      exact ih _ (by omega) (by omega) hbefore rfl

end Quiet

end BlockReader

end CrateReadme.Markdown
