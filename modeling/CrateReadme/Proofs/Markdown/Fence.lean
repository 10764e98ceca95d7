import CrateReadme.Markdown.Printer
import CrateReadme.Proofs.Markdown.CodeBlock
import CrateReadme.Proofs.Markdown.Document

/-!
# Reading code blocks that were written

A code block is written between fences that no line inside closes, so reading the written text gives
the block back: the language as its words and the code that was written. Two things can go wrong, and
only these: a backquote in the language, which a fence of backquotes does not allow, and a language
that together with the first line of the code looks like the head of a table.
-/

namespace CrateReadme.Markdown

/-- Whether `c` may stand in a cleaned text. -/
def IsClean (c : Char) : Prop :=
  c ≠ '\r' ∧ c ≠ '\x00'

/-- Cleaning leaves no character that is not clean. -/
theorem isClean_of_mem_clean {text : List Char} {c : Char} (hmem : c ∈ clean text) : IsClean c := by
  have hbreaks : ∀ text, ∀ c ∈ Text.universalNewlines text, c ≠ '\r' := by
    intro text
    fun_induction Text.universalNewlines text with
    | case1 => exact fun c hmem => absurd hmem List.not_mem_nil
    | case2 text ih => exact List.forall_mem_cons.mpr ⟨by decide, ih⟩
    | case3 d text _ ih =>
      refine List.forall_mem_cons.mpr ⟨?_, ih⟩
      split
      next => decide
      next hd => exact hd
  obtain ⟨d, hd, rfl⟩ := List.mem_map.mp hmem
  split
  next => exact ⟨by decide, by decide⟩
  next hd0 => exact ⟨hbreaks text d hd, hd0⟩

namespace BlockReader

variable {region : Region} {readQuote readItem : Reader} {index stop : Nat}
  {definitions : Definitions}

/-- A fence that is no head of a table is read up to its end. -/
theorem readBlock_of_fenceStart? (readQuote readItem : Reader) (definitions : Definitions)
    (htable : tableStart? region index stop = none)
    (hcode : region.isCode index = false) {mark : Char} {length : Nat} {info : List Char}
    (hfence : fenceStart? (region.line index).content = some (mark, length, info)) {last next : Nat}
    (hends : fenceEnd region mark length stop (region.lines.size + 1) (index + 1) = (last, next)) :
    readBlock region readQuote readItem index stop definitions =
      ⟨some (.fence info (cut region (index + 1) last (region.line index).indent.toNat true)), next,
        definitions⟩ := by
  simp only [readBlock, htable, hcode, hfence, hends, Bool.false_eq_true, if_false]

/-- The block on a line is indented code, a fence that starts there, or neither of them; it is
missing only if the line starts with a bracket. -/
theorem block_readBlock_cases (region : Region) (readQuote readItem : Reader) (index stop : Nat)
    (definitions : Definitions) :
    let block := (readBlock region readQuote readItem index stop definitions).block
    (∃ next, block = some (.indentedCode
        (cut region index next (4 + region.margin) false ++ ['\n']))) ∨
      (tableStart? region index stop = none ∧
        ∃ mark length info last, fenceStart? (region.line index).content =
            some (mark, length, info) ∧
          block = some (.fence info
            (cut region (index + 1) last (region.line index).indent.toNat true))) ∨
      (∀ words code, block ≠ some (.fence words code)) ∧
        (∀ code, block ≠ some (.indentedCode code)) ∧
        ((region.line index).content.head? ≠ some '[' → block.isSome) := by
  simp only [readBlock]
  cases htable : tableStart? region index stop with
  | some found => exact .inr (.inr (by simp))
  | none =>
  by_cases hcode : region.isCode index
  · rw [if_pos hcode]
    exact .inl ⟨_, rfl⟩
  rw [if_neg hcode]
  cases hfence : fenceStart? (region.line index).content with
  | some found => exact .inr (.inl ⟨rfl, _, _, _, _, rfl, rfl⟩)
  | none =>
  refine .inr (.inr ?_)
  by_cases hquote : (region.line index).content.head? = some '>'
  · simp [hquote]
  rw [if_neg hquote]
  by_cases hrule : isRule (region.line index).content
  · simp [hrule]
  rw [if_neg hrule]
  cases listStart? region index false with
  | some found =>
    obtain ⟨marker, width⟩ := found
    cases marker <;> simp
  | none =>
  cases hread : DefinitionReader.read? region index with
  | some found =>
    have hbracket : (region.line index).content.head? = some '[' := by
      by_contra hhead
      rw [read?_eq_none hhead] at hread
      cases hread
    simp [hbracket]
  | none =>
  cases Html.blockKind? (region.line index).content with
  | some kind => simp
  | none =>
  cases heading? (region.line index).content with
  | some found => simp
  | none =>
  cases underlineAt? region stop (region.lines.size + 1) (index + 1) with
  | some found => simp
  | none => simp

/-- A fence is only read where one starts. -/
theorem fenceStart?_of_readBlock {words code : List Char}
    (hread : (readBlock region readQuote readItem index stop definitions).block =
      some (.fence words code)) :
    tableStart? region index stop = none ∧
      ∃ mark length last, fenceStart? (region.line index).content = some (mark, length, words) ∧
        code = cut region (index + 1) last (region.line index).indent.toNat true := by
  rcases block_readBlock_cases region readQuote readItem index stop definitions with
    ⟨next, hblock⟩ | ⟨htable, mark, length, info, last, hfence, hblock⟩ | ⟨hno, -, -⟩
  · rw [hread] at hblock
    cases hblock
  · rw [hread] at hblock
    cases hblock
    exact ⟨htable, mark, length, last, hfence, rfl⟩
  · exact absurd hread (hno words code)

/-- Indented code is cut out of the lines. -/
theorem cut_of_readBlock {code : List Char}
    (hread : (readBlock region readQuote readItem index stop definitions).block =
      some (.indentedCode code)) :
    ∃ next, code = cut region index next (4 + region.margin) false ++ ['\n'] := by
  rcases block_readBlock_cases region readQuote readItem index stop definitions with
    ⟨next, hblock⟩ | ⟨-, mark, length, info, last, -, hblock⟩ | ⟨-, hno, -⟩
  · rw [hread] at hblock
    cases hblock
    exact ⟨next, rfl⟩
  · rw [hread] at hblock
    cases hblock
  · exact absurd hread (hno code)

/-- A line that starts with a mark of a fence starts a block. -/
theorem isSome_block_readBlock (readQuote readItem : Reader) (stop : Nat)
    (definitions : Definitions) (hhead : (region.line index).content.head? = some '`') :
    (readBlock region readQuote readItem index stop definitions).block.isSome := by
  rcases block_readBlock_cases region readQuote readItem index stop definitions with
    ⟨next, hblock⟩ | ⟨-, mark, length, info, last, -, hblock⟩ | ⟨-, -, hsome⟩
  · exact Option.isSome_of_eq_some hblock
  · exact Option.isSome_of_eq_some hblock
  · exact hsome (by simp [hhead])

theorem mem_of_mem_dropColumns {base shift indent : Nat} {c : Char} (passed column : Nat)
    {text : List Char} (hmem : c ∈ Line.dropColumns base shift indent passed column text) :
    c ∈ text ∨ c = ' ' := by
  fun_induction Line.dropColumns base shift indent passed column text with
  | case1 => exact .inr (List.eq_of_mem_replicate hmem)
  | case2 passed column d text _ =>
    rcases List.mem_append.mp hmem with hmem | hmem
    · exact .inr (List.eq_of_mem_replicate hmem)
    · exact .inl hmem
  | case3 passed column text _ ih => exact (ih hmem).imp_left (List.mem_cons_of_mem '\t')
  | case4 passed column d text _ _ _ ih => exact (ih hmem).imp_left (List.mem_cons_of_mem d)
  | case5 => exact .inl hmem

/-- What is cut out of lines comes from them, spaces and line ends apart. -/
theorem mem_of_mem_cut {start stop indent : Nat} {keepLast : Bool} {c : Char}
    (hmem : c ∈ cut region start stop indent keepLast) :
    (∃ index, c ∈ (region.line index).text) ∨ c = ' ' ∨ c = '\n' := by
  obtain ⟨index, -, hline⟩ := List.mem_flatMap.mp hmem
  rcases List.mem_append.mp hline with hline | hline
  · exact (mem_of_mem_dropColumns 0 0 hline).imp (fun htext => ⟨index, htext⟩) .inl
  · split at hline
    · exact .inr (.inr (List.mem_singleton.mp hline))
    · exact absurd hline List.not_mem_nil

/-- Every block of a loop was read at some line. -/
theorem exists_readBlock_of_mem {block : RawBlock} (left index : Nat) (hadBlank isTight : Bool)
    (definitions : Definitions)
    (hmem : block ∈ (readLoop region readQuote readItem stop left index hadBlank isTight
      definitions).blocks) :
    ∃ index definitions,
      (readBlock region readQuote readItem index stop definitions).block = some block := by
  induction left generalizing index hadBlank isTight definitions with
  | zero => exact absurd hmem List.not_mem_nil
  | succ left ih =>
    simp only [readLoop] at hmem
    split at hmem
    next => exact absurd hmem List.not_mem_nil
    next =>
    split at hmem
    next => exact absurd hmem List.not_mem_nil
    next =>
      rcases List.mem_append.mp hmem with hmem | hmem
      · exact ⟨_, definitions, Option.mem_toList.mp hmem⟩
      · exact ih _ _ _ _ hmem

/-- A line that is not empty starts the first block; what follows is read behind it. -/
theorem exists_rest_of_readLoop (readQuote readItem : Reader) (definitions : Definitions)
    (hindex : index < stop)
    (hsolid : (region.line index).isEmpty = false) (hmargin : region.isOutdented index = false)
    (left : Nat) (hadBlank isTight : Bool) :
    let step := readBlock region readQuote readItem index stop definitions
    let reading := readLoop region readQuote readItem stop (left + 1) index hadBlank isTight
      definitions
    ∃ rest : Reading, reading.blocks = step.block.toList ++ rest.blocks ∧
      reading.definitions = rest.definitions ∧
      (step.next = stop → rest.blocks = [] ∧ rest.definitions = step.definitions) := by
  intro step reading
  have hreading : reading = _ := readLoop.eq_2 region readQuote readItem stop index hadBlank isTight
    definitions left
  rw [if_neg (Nat.not_le_of_lt hindex), skipEmpty_of_solid hsolid,
    if_neg (by simp [hmargin, Nat.not_le_of_lt hindex])] at hreading
  refine ⟨_, (congrArg Reading.blocks hreading).trans rfl,
    (congrArg Reading.definitions hreading).trans rfl, ?_⟩
  intro hnext
  have hbehind : lineBehind region stop step.next = stop := by simp [lineBehind, hnext]
  rw [← lineBehind, hbehind]
  cases left with
  | zero => exact ⟨rfl, rfl⟩
  | succ left => simp [readLoop, step]

/-- Lines that do not close a fence are passed over, and the line behind them closes it. -/
theorem fenceEnd_eq {mark : Char} {length last : Nat} (hlast : last < stop)
    (hmargin : ∀ line, index ≤ line → line ≤ last → (region.line line).isEmpty = false →
      region.isOutdented line = false)
    (hopen : ∀ line, index ≤ line → line < last → (region.line line).isEnded ∧
      closesFence mark length (region.line line).content = false)
    (hsolid : (region.line last).isEmpty = false) (hcode : region.isCode last = false)
    (hcloses : closesFence mark length (region.line last).content) (left : Nat)
    (hleft : last < index + left) (hindex : index ≤ last) :
    fenceEnd region mark length stop left index = (last, last + 1) := by
  induction left generalizing index with
  | zero => omega
  | succ left ih =>
    have hmore : ¬stop ≤ index := by omega
    have hinside := hmargin index (Nat.le_refl index) hindex
    rcases Nat.eq_or_lt_of_le hindex with rfl | hlt
    · simp [fenceEnd, hmore, hinside hsolid, hsolid, hcode, hcloses]
    · obtain ⟨hended, hcontinues⟩ := hopen index (Nat.le_refl index) hlt
      have hrest := ih (fun line hle => hmargin line (Nat.le_of_succ_le hle))
        (fun line hle => hopen line (Nat.le_of_succ_le hle)) (by omega) hlt
      have hnot : (!(region.line index).isEmpty && region.isOutdented index) = false := by
        cases hempty : (region.line index).isEmpty with
        | true => rfl
        | false => rw [hinside hempty, Bool.and_false]
      simp [fenceEnd, hmore, hnot, hended, hcontinues, hrest]

end BlockReader

namespace Document

def readingOf (text : List Char) : BlockReader.Reading :=
  BlockReader.readLoop (regionOf text) (BlockReader.readAt (maxBlockDepth - 1))
    (BlockReader.readAt (maxBlockDepth - 2)) (regionOf text).lines.size
    ((regionOf text).lines.size + 1) 0 false true []

theorem read_eq (isOpen : Bool) (text : List Char) :
    read isOpen text =
      ⟨Block.mapAll (readInline ⟨(readingOf text).definitions, isOpen⟩) (readingOf text).blocks,
        (readingOf text).definitions⟩ :=
  rfl

end Document

/-! ### Code blocks of a document -/

namespace Block

variable {Content Other : Type}

theorem mapAll_eq_map (change : Content → Other) (blocks : List (Block Content)) :
    mapAll change blocks = blocks.map (map change) := by
  induction blocks with
  | nil => rfl
  | cons block blocks ih => rw [mapAll, ih, List.map_cons]

def code? : Block Content → Option (List Char × List Char)
  | .fence words code => some (words, code)
  | .indentedCode code => some ([], code)
  | _ => none

theorem code?_map (change : Content → Other) (block : Block Content) :
    (block.map change).code? = block.code? := by
  cases block <;> rfl

end Block

theorem mem_text_of_mem_pieces {line : Line} (texts : List (List Char))
    (hline : line ∈ linesOf.pieces texts) : line.text ∈ texts := by
  fun_induction linesOf.pieces texts with
  | case1 => exact absurd hline List.not_mem_nil
  | case2 last => exact absurd hline List.not_mem_nil
  | case3 last =>
    rw [List.mem_singleton.mp hline]
    exact List.mem_singleton_self last
  | case4 text texts _ ih =>
    rcases List.mem_cons.mp hline with rfl | hline
    · exact List.mem_cons_self
    · exact List.mem_cons_of_mem text (ih hline)

theorem Document.mem_line {text : List Char} {index : Nat} {c : Char}
    (hmem : c ∈ ((regionOf text).line index).text) : IsClean c ∧ c ≠ '\n' := by
  rw [Region.line] at hmem
  cases hline : (regionOf text).lines[index]? with
  | none =>
    rw [hline] at hmem
    exact absurd hmem List.not_mem_nil
  | some line =>
    rw [hline, Option.getD_some] at hmem
    have hin : line ∈ linesOf (clean text) := List.mem_toArray.mp (Array.mem_of_getElem? hline)
    obtain ⟨hclean, hbreak⟩ := Text.mem_of_mem_lines (mem_text_of_mem_pieces _ hin) hmem
    exact ⟨isClean_of_mem_clean hclean, hbreak⟩

theorem mem_of_fenceStart? {content info : List Char} {mark : Char} {length : Nat}
    (hstart : fenceStart? content = some (mark, length, info)) {c : Char} (hmem : c ∈ info) :
    c ∈ content := by
  cases content with
  | nil => cases hstart
  | cons d content =>
    simp only [fenceStart?] at hstart
    split at hstart
    next =>
      cases hstart
      exact List.mem_of_mem_drop hmem
    next => cases hstart

/-- The words of a code block and its code hold no character that reading exchanges. -/
theorem isClean_of_code? {isOpen : Bool} {text : List Char} {block : Block (List Inline)}
    (hblock : block ∈ (Document.read isOpen text).blocks) {words code : List Char}
    (hcode : block.code? = some (words, code)) :
    (∀ c ∈ words, IsClean c) ∧ ∀ c ∈ code, IsClean c := by
  rw [Document.read_eq, Block.mapAll_eq_map] at hblock
  obtain ⟨raw, hraw, rfl⟩ := List.mem_map.mp hblock
  rw [Block.code?_map] at hcode
  obtain ⟨index, definitions, hread⟩ := BlockReader.exists_readBlock_of_mem _ _ _ _ _ hraw
  have hcut {start stop indent : Nat} {keepLast : Bool} {c : Char}
      (hmem : c ∈ BlockReader.cut (Document.regionOf text) start stop indent keepLast) :
      IsClean c := by
    rcases BlockReader.mem_of_mem_cut hmem with ⟨line, hmem⟩ | rfl | rfl
    · exact (Document.mem_line hmem).1
    · exact ⟨by decide, by decide⟩
    · exact ⟨by decide, by decide⟩
  cases raw with
  | fence words code =>
    cases hcode
    obtain ⟨-, mark, length, last, hstart, rfl⟩ := BlockReader.fenceStart?_of_readBlock hread
    refine ⟨fun c hmem => ?_, fun c hmem => hcut hmem⟩
    have hin := mem_of_fenceStart? hstart hmem
    exact (Document.mem_line (List.mem_of_mem_drop hin)).1
  | indentedCode code =>
    cases hcode
    obtain ⟨next, rfl⟩ := BlockReader.cut_of_readBlock hread
    refine ⟨fun c hmem => absurd hmem List.not_mem_nil, fun c hmem => ?_⟩
    rcases List.mem_append.mp hmem with hmem | hmem
    · exact hcut hmem
    · rw [List.mem_singleton.mp hmem]
      exact ⟨by decide, by decide⟩
  | _ => cases hcode

/-! ### A fence around lines -/

theorem not_mem_of_fenceStart? {content info : List Char} {mark : Char} {length : Nat}
    (hhead : content.head? = some '`') (hstart : fenceStart? content = some (mark, length, info)) :
    '`' ∉ info := by
  obtain ⟨rest, rfl⟩ := List.head?_eq_some_iff.mp hhead
  rw [fenceStart?] at hstart
  split at hstart
  next hfence =>
    cases hstart
    exact fun hmem => hfence.2.2 ⟨rfl, hmem⟩
  next => cases hstart

/-- A code block of `length` backquotes around lines of code. -/
def fenced (length : Nat) (language : List Char) (lines : List (List Char)) : List Char :=
  Text.ended ((List.replicate length '`' ++ language) :: lines) ++ List.replicate length '`'

section Fenced

variable {length : Nat} {language : List Char} {lines : List (List Char)}

theorem content_of_head {text : List Char} {c : Char} (hhead : text.head? = some c)
    (hc : isSpace c = false) (isEnded : Bool) :
    (Line.ofText text isEnded).content = text ∧ (Line.ofText text isEnded).indent = 0 := by
  obtain ⟨text, rfl⟩ := List.head?_eq_some_iff.mp hhead
  simp [Line.ofText, Line.content, hc, columnAfter]

theorem unindented_zero (text : List Char) (isEnded : Bool) :
    (Line.ofText text isEnded).unindented 0 = text := by
  cases text with
  | nil => rfl
  | cons c text =>
    rw [Line.unindented, Line.ofText, Line.dropColumns, if_pos (Nat.le_refl 0)]
    rfl

theorem fenceStart?_replicate {length : Nat} {language : List Char} (hlength : 3 ≤ length)
    (hlanguage : '`' ∉ language) :
    fenceStart? (List.replicate length '`' ++ language) = some ('`', length, language) := by
  have hrun : (List.replicate length '`' ++ language).takeWhile (· = '`') =
      List.replicate length '`' := by
    have hkeep : ∀ c ∈ List.replicate length '`', decide (c = '`') = true := by simp
    have hstop : ∀ c ∈ language.head?, decide (c = '`') = false := fun c hmem =>
      decide_eq_false fun heq => hlanguage (heq ▸ List.mem_of_mem_head? hmem)
    exact (Text.takeWhile_append_of_head? hkeep hstop).1
  obtain ⟨more, rfl⟩ := Nat.exists_eq_add_of_le' (Nat.one_le_of_lt hlength)
  rw [List.replicate_succ, List.cons_append, fenceStart?, ← List.cons_append, ← List.replicate_succ,
    hrun, List.length_replicate, List.drop_left' (by simp)]
  simp [hlength, hlanguage]

/-- What the lines of a code block must be like. -/
structure IsFenced (length : Nat) (language : List Char) (lines : List (List Char)) : Prop where
  length_ge : 3 ≤ length
  language_line : IsOneLine language
  code_lines : ∀ line ∈ lines, IsOneLine line
  isOpen : ∀ line ∈ lines, closesFence '`' length (Line.ofText line true).content = false

namespace IsFenced

/-- The lines of a fenced block are its first fence, the lines of the code and the last fence. -/
theorem toList_lines (hfenced : IsFenced length language lines) :
    (Document.regionOf (fenced length language lines)).lines.toList =
      (((List.replicate length '`' ++ language) :: lines).map fun line => Line.ofText line true) ++
        [Line.ofText (List.replicate length '`') false] := by
  obtain ⟨hlength, hlanguage, hlines, -⟩ := hfenced
  have hmarks : IsOneLine (List.replicate length '`') := by
    intro c hmem
    rw [List.eq_of_mem_replicate hmem]
    decide
  have hall : ∀ line ∈ (List.replicate length '`' ++ language) :: lines, IsOneLine line := by
    refine List.forall_mem_cons.mpr ⟨fun c hmem => ?_, hlines⟩
    rcases List.mem_append.mp hmem with hmem | hmem
    · exact hmarks c hmem
    · exact hlanguage c hmem
  have hclean : clean (fenced length language lines) = fenced length language lines := by
    refine clean_eq_self fun c hmem => ?_
    rcases List.mem_append.mp hmem with hmem | hmem
    · obtain ⟨line, hline, hmem⟩ := List.mem_flatMap.mp hmem
      rcases List.mem_append.mp hmem with hmem | hmem
      · have hc := hall line hline c hmem
        simp_all
      · rw [List.mem_singleton.mp hmem]
        decide
    · have hc := hmarks c hmem
      simp_all
  have hbreaks : ∀ line ∈ (List.replicate length '`' ++ language) :: lines, '\n' ∉ line :=
    fun line hline hmem => absurd (hall line hline '\n' hmem) (by decide)
  have hlast : '\n' ∉ List.replicate length '`' := fun hmem => absurd (hmarks '\n' hmem) (by decide)
  have hsolid : (List.replicate length '`').all isSpace = false := by
    obtain ⟨more, rfl⟩ := Nat.exists_eq_add_of_le' (Nat.one_le_of_lt hlength)
    simp [List.replicate_succ, isSpace]
  rw [Document.regionOf, hclean, linesOf, fenced, Text.lines_ended_append hbreaks hlast,
    pieces_append _ (List.cons_ne_nil _ _), linesOf.pieces, if_neg (by simp [hsolid])]

theorem size_lines (hfenced : IsFenced length language lines) :
    (Document.regionOf (fenced length language lines)).lines.size = lines.length + 2 := by
  rw [← Array.length_toList, hfenced.toList_lines]
  simp

theorem line_eq (hfenced : IsFenced length language lines) (index : Nat) :
    (Document.regionOf (fenced length language lines)).line index =
      ((((List.replicate length '`' ++ language) :: lines).map fun line => Line.ofText line true) ++
        [Line.ofText (List.replicate length '`') false])[index]?.getD Line.blank := by
  rw [Region.line, ← Array.getElem?_toList, hfenced.toList_lines]

theorem line_zero (hfenced : IsFenced length language lines) :
    (Document.regionOf (fenced length language lines)).line 0 =
      Line.ofText (List.replicate length '`' ++ language) true := by
  rw [hfenced.line_eq]
  rfl

theorem line_code (hfenced : IsFenced length language lines) {index : Nat}
    (hindex : index < lines.length) :
    (Document.regionOf (fenced length language lines)).line (index + 1) =
      Line.ofText lines[index] true := by
  rw [hfenced.line_eq, List.getElem?_append_left (by simpa using hindex)]
  simp [hindex]

theorem line_last (hfenced : IsFenced length language lines) :
    (Document.regionOf (fenced length language lines)).line (lines.length + 1) =
      Line.ofText (List.replicate length '`') false := by
  rw [hfenced.line_eq, List.getElem?_append_right (by simp)]
  simp

theorem head?_marks (hfenced : IsFenced length language lines) (rest : List Char) :
    (List.replicate length '`' ++ rest).head? = some '`' := by
  obtain ⟨more, hmore⟩ := Nat.exists_eq_add_of_le' (Nat.one_le_of_lt hfenced.length_ge)
  rw [hmore]
  rfl

/-- Nothing but the last line closes the fence. -/
theorem fenceEnd_eq (hfenced : IsFenced length language lines) :
    BlockReader.fenceEnd (Document.regionOf (fenced length language lines)) '`' length
        (lines.length + 2) (lines.length + 2 + 1) 1 =
      (lines.length + 1, lines.length + 2) := by
  have hmarks := hfenced.head?_marks []
  rw [List.append_nil] at hmarks
  obtain ⟨hcontent, hindent⟩ := content_of_head hmarks rfl false
  refine BlockReader.fenceEnd_eq (Nat.lt_succ_self _)
    (fun line _ _ _ => Document.isOutdented_regionOf _ line) ?_ ?_ ?_ ?_ _ (by omega) (by omega)
  · intro line hfirst hlast
    obtain ⟨index, rfl⟩ := Nat.exists_eq_add_of_le' hfirst
    have hindex : index < lines.length := by omega
    rw [hfenced.line_code hindex]
    exact ⟨rfl, hfenced.isOpen _ (List.getElem_mem hindex)⟩
  · rw [hfenced.line_last, Line.isEmpty, hcontent]
    cases hnil : List.replicate length '`' with
    | nil => simp [hnil] at hmarks
    | cons c text => rfl
  · rw [Region.isCode, hfenced.line_last, hindent]
    rfl
  · rw [hfenced.line_last, hcontent, closesFence]
    simp

/-- Cut out of the fence, the lines are the code. -/
theorem cut_eq (hfenced : IsFenced length language lines) :
    BlockReader.cut (Document.regionOf (fenced length language lines)) 1 (lines.length + 1) 0 true =
      Text.ended lines := by
  rw [BlockReader.cut, Text.ended, List.flatMap_def, List.flatMap_def]
  congr 1
  refine List.ext_getElem (by simp) fun index hleft hright => ?_
  have hindex : index < lines.length := by simpa using hright
  have hline := hfenced.line_code hindex
  rw [List.getElem_map, List.getElem_map, List.getElem_range', Nat.one_mul, Nat.add_comm 1 index,
    hline]
  simp only [unindented_zero]
  simp [Line.ofText]

theorem content_line_zero (hfenced : IsFenced length language lines) :
    ((Document.regionOf (fenced length language lines)).line 0).content =
        List.replicate length '`' ++ language ∧
      ((Document.regionOf (fenced length language lines)).line 0).indent = 0 := by
  rw [hfenced.line_zero]
  exact content_of_head (hfenced.head?_marks language) rfl true

theorem fenceStart?_eq (hfenced : IsFenced length language lines) (hlanguage : '`' ∉ language) :
    fenceStart? (List.replicate length '`' ++ language) = some ('`', length, language) :=
  fenceStart?_replicate hfenced.length_ge hlanguage

theorem isEmpty_line_zero (hfenced : IsFenced length language lines) :
    ((Document.regionOf (fenced length language lines)).line 0).isEmpty = false := by
  rw [Line.isEmpty, hfenced.content_line_zero.1]
  obtain ⟨rest, hrest⟩ := List.head?_eq_some_iff.mp (hfenced.head?_marks language)
  rw [hrest]
  rfl

end IsFenced

/-- A document that holds one code block was read from blocks that start with it. -/
theorem eq_fence_of_mapAll {change : List Char → List Inline} {block : Block (List Char)}
    {more : List (Block (List Char))} {words code : List Char}
    (hblocks : Block.mapAll change (block :: more) = [.fence words code]) :
    block = .fence words code := by
  rw [Block.mapAll, List.cons.injEq] at hblocks
  cases block <;> simp_all [Block.map]

/-- Reading a fence around lines gives these lines as the code exactly if its language holds no
backquote and its first two lines are not the head of a table. -/
theorem read_fenced_iff (hfenced : IsFenced length language lines) (isOpen : Bool) :
    Document.read isOpen (fenced length language lines) =
        ⟨[.fence language (Text.ended lines)], []⟩ ↔
      '`' ∉ language ∧ tableStart? (Document.regionOf (fenced length language lines)) 0
        (lines.length + 2) = none := by
  obtain ⟨hcontent, hindent⟩ := hfenced.content_line_zero
  obtain ⟨rest, hblocks, hdefinitions, hends⟩ := BlockReader.exists_rest_of_readLoop
    (BlockReader.readAt (maxBlockDepth - 1)) (BlockReader.readAt (maxBlockDepth - 2)) []
    (Nat.succ_pos (lines.length + 1)) hfenced.isEmpty_line_zero
    (Document.isOutdented_regionOf _ 0) (lines.length + 2) false true
  have hread := Document.read_eq isOpen (fenced length language lines)
  rw [Document.readingOf, hfenced.size_lines, hblocks, hdefinitions] at hread
  constructor
  · intro hdocument
    obtain ⟨block, hblock⟩ := Option.isSome_iff_exists.mp
      (BlockReader.isSome_block_readBlock (BlockReader.readAt (maxBlockDepth - 1))
        (BlockReader.readAt (maxBlockDepth - 2)) (lines.length + 2) []
        (hcontent ▸ hfenced.head?_marks language))
    rw [hdocument, hblock, Document.mk.injEq] at hread
    rw [eq_fence_of_mapAll hread.1.symm] at hblock
    obtain ⟨htable, mark, marks, last, hstart, -⟩ := BlockReader.fenceStart?_of_readBlock hblock
    rw [hcontent] at hstart
    exact ⟨not_mem_of_fenceStart? (hfenced.head?_marks language) hstart, htable⟩
  · rintro ⟨hlanguage, htable⟩
    have hcode : (Document.regionOf (fenced length language lines)).isCode 0 = false := by
      rw [Region.isCode, hindent]
      rfl
    have hfence := hfenced.fenceEnd_eq
    rw [← congrArg (· + 1) hfenced.size_lines] at hfence
    have hstep := BlockReader.readBlock_of_fenceStart? (BlockReader.readAt (maxBlockDepth - 1))
      (BlockReader.readAt (maxBlockDepth - 2)) [] htable hcode
      (hcontent ▸ hfenced.fenceStart?_eq hlanguage) hfence
    rw [hstep] at hread hends
    obtain ⟨hnil, hnone⟩ := hends rfl
    rw [hread, hnil, hnone, hindent]
    simp only [Int.toNat_zero]
    rw [hfenced.cut_eq]
    rfl

end Fenced

theorem isOneLine_language {words : List Char} (hwords : ∀ c ∈ words, IsClean c) :
    IsOneLine (CodeBlock.Info.ofText words).language := by
  have hall : CodeBlock.defaultLanguage.all (fun c => c ≠ '\r' ∧ c ≠ '\x00') := by decide
  have hdefault : ∀ c ∈ CodeBlock.defaultLanguage, IsClean c := fun c hc => by
    simpa [IsClean] using List.all_eq_true.mp hall c hc
  intro c hmem
  obtain ⟨hfrom, hblank⟩ := CodeBlock.mem_of_mem_language hmem
  obtain ⟨hreturn, hzero⟩ : IsClean c := hfrom.elim (hwords c) (hdefault c)
  have hbreak : c ≠ '\n' := by
    rintro rfl
    exact absurd hblank (by decide)
  simp [hbreak, hreturn, hzero]

/-- No line of the code closes the fence around it. -/
theorem closesFence_of_mem {mark : Char} {lines : List (List Char)} {line : List Char}
    (hline : line ∈ lines) :
    closesFence mark (CodeBlock.fence mark (Text.ended lines)).length
      (Line.ofText line true).content = false := by
  obtain ⟨before, behind, rfl⟩ := List.append_of_mem hline
  obtain ⟨white, hcontent⟩ : (Line.ofText line true).content <:+ line :=
    List.drop_suffix _ line
  generalize (Line.ofText line true).content = content at hcontent
  -- what stands behind the line does not make the run at its start longer
  have hsuffix : content ++ '\n' :: Text.ended behind <:+ Text.ended (before ++ line :: behind) :=
    ⟨Text.ended before ++ white, by simp [Text.ended, ← hcontent]⟩
  have hrun := CodeBlock.length_takeWhile_lt_fence mark hsuffix
  have hle : (content.takeWhile (· = mark)).length ≤
      ((content ++ '\n' :: Text.ended behind).takeWhile (· = mark)).length := by
    rw [List.takeWhile_append]
    split
    · exact List.length_append ▸ Nat.le_add_right_of_le (List.takeWhile_prefix _).length_le
    · exact Nat.le_refl _
  rw [closesFence, Bool.and_eq_false_iff]
  exact .inl (decide_eq_false (by omega))

/-- The written form of a code block is a fence around its lines. -/
theorem exists_isFenced {isOpen : Bool} {text : List Char} {block : Block (List Inline)}
    (hblock : block ∈ (Document.read isOpen text).blocks) {words code : List Char}
    (hcode : block.code? = some (words, code)) :
    let info := CodeBlock.Info.ofText words
    ∃ length lines, IsFenced length info.language lines ∧
      CodeBlock.written info code = Text.ended lines ∧
      CodeBlock.render info code = fenced length info.language lines := by
  intro info
  obtain ⟨hwords, hclean⟩ := isClean_of_code? hblock hcode
  obtain ⟨lines, hlines, hbreaks⟩ := Text.exists_ended_of_getLast?
    (CodeBlock.written_ends info code)
  have hfence : List.replicate (CodeBlock.fence '`' (Text.ended lines)).length '`' =
      CodeBlock.fence '`' (Text.ended lines) := by
    rw [CodeBlock.fence, List.length_replicate]
  refine ⟨(CodeBlock.fence '`' (Text.ended lines)).length, lines,
    ⟨?_, isOneLine_language hwords, ?_, ?_⟩, hlines, ?_⟩
  · rw [CodeBlock.fence, List.length_replicate]
    exact Nat.le_max_left 3 _
  · intro line hline c hmem
    have hbreak : c ≠ '\n' := fun hc => hbreaks line hline (hc ▸ hmem)
    have hin : c ∈ CodeBlock.written info code := by
      rw [hlines]
      exact List.mem_flatMap.mpr ⟨line, hline, List.mem_append_left _ hmem⟩
    obtain ⟨hreturn, hzero⟩ := hclean c ((CodeBlock.mem_of_mem_written hin).resolve_right hbreak)
    simp [hbreak, hreturn, hzero]
  · exact fun line hline => closesFence_of_mem hline
  · rw [CodeBlock.render_eq, hlines, fenced, hfence, Text.ended_cons, List.append_assoc,
      List.append_assoc, List.append_assoc, List.cons_append]

theorem trimWhite_sublist (text : List Char) : (trimWhite text).Sublist text :=
  (List.rdropWhile_prefix isWhite _).sublist.trans (List.dropWhile_suffix isWhite).sublist

/-- Without a bar a line is no head of a table. -/
theorem tableStart?_eq_none_of_not_mem {region : Region} {index : Nat}
    (hbar : '|' ∉ (region.line index).content) (stop : Nat) :
    tableStart? region index stop = none := by
  have hheader : '|' ∉ trimWhite (region.line index).content :=
    fun hmem => hbar ((trimWhite_sublist _).subset hmem)
  simp [tableStart?, hheader]

/-- A code block of a document is read back from its written form, as a fence with the language and
the code that were written and nothing else, exactly if the language holds no backquote and does not
make a table head together with the first line of the code, for which it has to hold a bar. -/
theorem read_block_code {isOpen : Bool} {text : List Char} {block : Block (List Inline)}
    (hblock : block ∈ (Document.read isOpen text).blocks) {words code : List Char}
    (hcode : block.code? = some (words, code)) (again alternate : Bool)
    (links : List (List Char)) :
    let info := CodeBlock.Info.ofText words
    let written := (Printer.block alternate block links).1
    let isTable := tableStart? (Document.regionOf written) 0
      (Document.regionOf written).lines.size ≠ none
    (Document.read again written =
        ⟨[.fence info.language (CodeBlock.written info code)], []⟩ ↔
      '`' ∉ info.language ∧ ¬isTable) ∧ (isTable → '|' ∈ info.language) := by
  intro info written isTable
  obtain ⟨length, lines, hfenced, hlines, hrender⟩ := exists_isFenced hblock hcode
  have hwritten : written = fenced length info.language lines := by
    rw [← hrender]
    cases block <;> cases hcode <;> rfl
  constructor
  · rw [not_not, hwritten, hlines, hfenced.size_lines]
    exact read_fenced_iff hfenced again
  · intro htable
    by_contra hbar
    refine htable (tableStart?_eq_none_of_not_mem ?_ _)
    rw [hwritten, hfenced.content_line_zero.1]
    intro hmem
    rcases List.mem_append.mp hmem with hmem | hmem
    · exact absurd (List.eq_of_mem_replicate hmem) (by decide)
    · exact hbar hmem

/-- A block between tildes, with flags in front of its language and with backquotes in its code. -/
theorem read_block_code_tildes :
    ∃ block ∈ (Document.read true "~~~ should_panic,toml\nx ``` y\n````\n~~~".toList).blocks,
      block.code? = some (" should_panic,toml".toList, "x ``` y\n````\n".toList) ∧
      Document.read true (Printer.block false block []).1 =
        ⟨[.fence "toml".toList "x ``` y\n````\n".toList], []⟩ := by
  have hcodes : (Document.read true
      "~~~ should_panic,toml\nx ``` y\n````\n~~~".toList).blocks.map Block.code? =
        [some (" should_panic,toml".toList, "x ``` y\n````\n".toList)] := by
    decide +kernel
  obtain ⟨block, hblocks, hcode⟩ := List.map_eq_singleton_iff.mp hcodes
  have hblock := hblocks.symm ▸ List.mem_singleton_self block
  obtain ⟨hread, hbar⟩ := read_block_code hblock hcode true false []
  exact ⟨block, hblock, hcode, hread.mpr ⟨by decide +kernel, fun htable => absurd (hbar htable)
    (by decide +kernel)⟩⟩

/-- A language with a backquote, as tildes allow it, is written behind backquotes, where it makes no
fence. -/
theorem read_block_language_with_backquote :
    ∃ block ∈ (Document.read true "~~~ a`b\ncode\n~~~".toList).blocks,
      block.code? = some (" a`b".toList, "code\n".toList) ∧
      (Document.read true (Printer.block false block []).1).blocks.map Block.code? =
        [none, some ([], [])] := by
  have hcodes : (Document.read true "~~~ a`b\ncode\n~~~".toList).blocks.map Block.code? =
      [some (" a`b".toList, "code\n".toList)] := by
    decide +kernel
  obtain ⟨block, hblocks, hcode⟩ := List.map_eq_singleton_iff.mp hcodes
  refine ⟨block, hblocks.symm ▸ List.mem_singleton_self block, hcode, ?_⟩
  cases block with
  | fence words code =>
    obtain ⟨rfl, rfl⟩ := Prod.mk.inj (Option.some.inj hcode)
    decide +kernel
  | _ => cases hcode

end CrateReadme.Markdown
