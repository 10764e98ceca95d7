import CrateReadme.Markdown.Block.Reader

/-!
# How far blocks reach

Every block takes a line at least, which is why the number of lines bounds the steps of a reader.
A blank line ends every block other than fences, lists and HTML that waits for a mark of its own;
blocks inside a quote end with it whatever they are.
-/

namespace CrateReadme.Markdown.BlockReader

/-- A blank line in front of a line that is not blank. -/
structure Wall (region : Region) (wall : Nat) : Prop where
  isEmpty : (region.line wall).isEmpty
  isSolid : (region.line (wall + 1)).isEmpty = false

namespace Wall

variable {region : Region} {wall index : Nat}

theorem ne_of_isSolid (hwall : Wall region wall) (hsolid : (region.line index).isEmpty = false) :
    index ≠ wall := by
  rintro rfl
  rw [hwall.isEmpty] at hsolid
  cases hsolid

theorem content (hwall : Wall region wall) : (region.line wall).content = [] :=
  List.isEmpty_iff.mp hwall.isEmpty

end Wall

section Lines

variable {region : Region} {wall : Nat}

theorem le_skipEmpty (region : Region) (left index : Nat) :
    index ≤ skipEmpty region left index := by
  induction left generalizing index with
  | zero => exact Nat.le_refl index
  | succ left ih =>
      rw [skipEmpty]
      split
      · exact Nat.le_of_succ_le (ih (index + 1))
      · exact Nat.le_refl index

theorem skipEmpty_le (hwall : Wall region wall) (left index : Nat)
    (hindex : index ≤ wall + 1) : skipEmpty region left index ≤ wall + 1 := by
  induction left generalizing index with
  | zero => exact hindex
  | succ left ih =>
      rw [skipEmpty]
      split
      next hempty =>
        refine ih _ (Nat.succ_le_of_lt (Nat.lt_of_le_of_ne hindex ?_))
        rintro rfl
        rw [hwall.isSolid] at hempty
        cases hempty
      next => exact hindex

theorem lt_skipEmpty (region : Region) (left index : Nat) (hleft : 0 < left)
    (hempty : (region.line index).isEmpty) : index < skipEmpty region left index := by
  obtain ⟨left, rfl⟩ := Nat.exists_eq_add_of_le' hleft
  rw [skipEmpty, if_pos hempty]
  exact le_skipEmpty region left (index + 1)

/-- What is outdented behind blank lines does not start there. -/
theorem lt_skipEmpty_of_isOutdented {left index : Nat} (hleft : 0 < left)
    (hline : (region.line index).isEmpty = false → region.isOutdented index = false)
    (hout : region.isOutdented (skipEmpty region left index)) :
    index < skipEmpty region left index := by
  cases hempty : (region.line index).isEmpty with
  | true => exact lt_skipEmpty region left index hleft hempty
  | false =>
      refine Nat.lt_of_le_of_ne (le_skipEmpty region left index) fun heq => ?_
      rw [← heq, hline hempty] at hout
      cases hout

/-- The line found is not empty unless the steps ran out. -/
theorem isEmpty_skipEmpty (region : Region) (left index : Nat)
    (hlt : skipEmpty region left index < index + left) :
    (region.line (skipEmpty region left index)).isEmpty = false := by
  induction left generalizing index with
  | zero => exact absurd hlt (Nat.lt_irrefl index)
  | succ left ih =>
      rw [skipEmpty] at hlt ⊢
      split
      next hempty =>
        rw [if_pos hempty] at hlt
        exact ih (index + 1) (by omega)
      next hsolid => simpa using hsolid

theorem le_codeEnd (region : Region) (stop left : Nat) {last index : Nat} (hlast : last ≤ index) :
    last ≤ codeEnd region stop left last index := by
  induction left generalizing last index with
  | zero => exact Nat.le_refl last
  | succ left ih =>
      rw [codeEnd]
      split
      · exact Nat.le_refl last
      · split
        · exact ih (Nat.le_succ_of_le hlast)
        · split
          · exact Nat.le_trans (Nat.le_succ_of_le hlast) (ih (Nat.le_refl (index + 1)))
          · exact Nat.le_refl last

/-- Code does not go on behind a wall. -/
theorem codeEnd_le (hwall : Wall region wall) {stop : Nat}
    (hedge : stop ≤ wall + 1 ∨ region.isCode (wall + 1) = false) (left : Nat) {last index : Nat}
    (hlast : last ≤ index) (hindex : index ≤ wall + 1) :
    codeEnd region stop left last index ≤ wall + 1 := by
  induction left generalizing last index with
  | zero => exact Nat.le_trans hlast hindex
  | succ left ih =>
      rw [codeEnd]
      split
      next => exact Nat.le_trans hlast hindex
      next hstop =>
        have hne : (region.line index).isEmpty ∨ region.isCode index → index ≠ wall + 1 := by
          rintro hline rfl
          rcases hline with hempty | hcode
          · rw [hwall.isSolid] at hempty
            cases hempty
          · rcases hedge with hle | hno
            · exact hstop hle
            · rw [hno] at hcode
              cases hcode
        split
        next hempty =>
          have hlt := Nat.lt_of_le_of_ne hindex (hne (.inl hempty))
          exact ih (Nat.le_succ_of_le hlast) hlt
        next =>
          split
          next hcode =>
            have hlt := Nat.lt_of_le_of_ne hindex (hne (.inr hcode))
            exact ih (Nat.le_refl (index + 1)) hlt
          next => exact Nat.le_trans hlast hindex

theorem le_fenceEnd (region : Region) (mark : Char) (length stop left index : Nat) :
    index ≤ (fenceEnd region mark length stop left index).2 := by
  induction left generalizing index with
  | zero => exact Nat.le_refl index
  | succ left ih =>
      simp only [fenceEnd]
      split
      · exact Nat.le_refl index
      · split
        · exact Nat.le_refl index
        · split
          · exact Nat.le_succ index
          · exact Nat.le_of_succ_le (ih (index + 1))

/-- A fenced block ends at the end of its region at the latest. -/
theorem fenceEnd_le (region : Region) (mark : Char) (length left : Nat) {stop index : Nat}
    (hindex : index ≤ stop) : (fenceEnd region mark length stop left index).2 ≤ stop := by
  induction left generalizing index with
  | zero => exact hindex
  | succ left ih =>
      simp only [fenceEnd]
      split
      next => exact hindex
      next hgoes =>
        have hlt : index < stop := by
          simp only [Bool.or_eq_true, decide_eq_true_eq, not_or] at hgoes
          exact Nat.lt_of_not_le hgoes.1
        split
        · exact hindex
        · split
          · exact hlt
          · exact ih hlt

theorem le_htmlEnd (region : Region) (kind : Html.BlockKind) (stop left index : Nat) :
    index ≤ htmlEnd region kind stop left index := by
  induction left generalizing index with
  | zero => exact Nat.le_refl index
  | succ left ih =>
      simp only [htmlEnd]
      split
      · exact Nat.le_refl index
      · split
        · split
          · exact Nat.le_refl index
          · exact Nat.le_succ index
        · exact Nat.le_of_succ_le (ih (index + 1))

/-- An HTML block ends at the end of its region at the latest. -/
theorem htmlEnd_le (region : Region) (kind : Html.BlockKind) (left : Nat) {stop index : Nat}
    (hindex : index ≤ stop) : htmlEnd region kind stop left index ≤ stop := by
  induction left generalizing index with
  | zero => exact hindex
  | succ left ih =>
      simp only [htmlEnd]
      split
      next => exact hindex
      next hgoes =>
        have hlt : index < stop := by
          simp only [Bool.or_eq_true, decide_eq_true_eq, not_or] at hgoes
          exact Nat.lt_of_not_le hgoes.1
        split
        · split
          · exact hindex
          · exact hlt
        · exact ih hlt

/-- HTML whose kind ends at an empty line does not run over one. -/
theorem htmlEnd_le_wall (hwall : Wall region wall) {kind : Html.BlockKind} (hkind : kind.endsAt [])
    (stop left : Nat) {index : Nat} (hindex : index ≤ wall) :
    htmlEnd region kind stop left index ≤ wall := by
  induction left generalizing index with
  | zero => exact hindex
  | succ left ih =>
      rcases Nat.eq_or_lt_of_le hindex with rfl | hlt
      · simp [htmlEnd, hwall.content, hkind]
      · simp only [htmlEnd]
        split
        · exact hindex
        · split
          · split
            · exact hindex
            · exact hlt
          · exact ih hlt

theorem le_paragraphEnd (region : Region) (left index : Nat) :
    index ≤ paragraphEnd region left index := by
  induction left generalizing index with
  | zero => exact Nat.le_refl index
  | succ left ih =>
      have hmore := Nat.le_of_succ_le (ih (index + 1))
      simp only [paragraphEnd]
      split
      · exact Nat.le_refl index
      · split
        · exact hmore
        · split
          · exact Nat.le_refl index
          · exact hmore

/-- A paragraph does not go on behind a wall. -/
theorem paragraphEnd_le (hwall : Wall region wall) (left : Nat) {index : Nat}
    (hindex : index ≤ wall) : paragraphEnd region left index ≤ wall := by
  induction left generalizing index with
  | zero => exact hindex
  | succ left ih =>
      rcases Nat.eq_or_lt_of_le hindex with rfl | hlt
      · simp [paragraphEnd, hwall.isEmpty]
      · simp only [paragraphEnd]
        split
        · exact hindex
        · split
          · exact ih hlt
          · split
            · exact hindex
            · exact ih hlt

/-- An underline stands behind the start of its heading, within the region and in front of the wall.
-/
theorem underlineAt?_bounds (wall : Nat) {stop left index last level : Nat}
    (hfound : underlineAt? region stop left index = some (last, level)) :
    index ≤ last ∧ last < stop ∧ (Wall region wall → index ≤ wall → last < wall) := by
  induction left generalizing index with
  | zero => cases hfound
  | succ left ih =>
      have hmore (hnext : underlineAt? region stop left (index + 1) = some (last, level))
          (hsolid : (region.line index).isEmpty = false) :
          index ≤ last ∧ last < stop ∧ (Wall region wall → index ≤ wall → last < wall) := by
        obtain ⟨hle, hlt, hbefore⟩ := ih hnext
        refine ⟨Nat.le_of_succ_le hle, hlt, fun hwall hindex => hbefore hwall ?_⟩
        exact Nat.lt_of_le_of_ne hindex (hwall.ne_of_isSolid hsolid)
      simp only [underlineAt?] at hfound
      split at hfound
      next => cases hfound
      next hgoes =>
        simp only [Bool.or_eq_true, decide_eq_true_eq, not_or, Bool.not_eq_true] at hgoes
        split at hfound
        next => exact hmore hfound hgoes.2
        next =>
          split at hfound
          next =>
            cases hfound
            exact ⟨Nat.le_refl last, Nat.lt_of_not_le hgoes.1,
              fun hwall hindex => Nat.lt_of_le_of_ne hindex (hwall.ne_of_isSolid hgoes.2)⟩
          next =>
            split at hfound
            next => exact hmore hfound hgoes.2
            next =>
              split at hfound
              next => cases hfound
              next => exact hmore hfound hgoes.2

theorem le_tableRows (region : Region) (width stop left index : Nat) (surplus : Int) :
    index ≤ (tableRows region width stop left index surplus).2 := by
  induction left generalizing index surplus with
  | zero => exact Nat.le_refl index
  | succ left ih =>
      simp only [tableRows]
      split
      · exact Nat.le_refl index
      · split
        · exact Nat.le_refl index
        · exact Nat.le_of_succ_le (ih (index + 1) _)

/-- The rows of a table do not go on behind a wall. -/
theorem tableRows_le (hwall : Wall region wall) (width stop left : Nat) {index : Nat}
    (surplus : Int) (hindex : index ≤ wall) :
    (tableRows region width stop left index surplus).2 ≤ wall := by
  induction left generalizing index surplus with
  | zero => exact hindex
  | succ left ih =>
      rcases Nat.eq_or_lt_of_le hindex with rfl | hlt
      · simp [tableRows, hwall.content, trimWhite, Text.trim, Text.trimStart, Text.trimEnd]
      · simp only [tableRows]
        split
        · exact hindex
        · split
          · exact hindex
          · exact ih _ hlt

/-- A table needs its header and the line under it. -/
theorem lt_of_tableStart? (hwall : Wall region wall) {stop index : Nat}
    {found : List Alignment × List (List Char)}
    (hfound : tableStart? region index stop = some found) (hindex : index < wall) :
    index + 2 ≤ wall := by
  refine Nat.succ_le_of_lt (Nat.lt_of_le_of_ne hindex fun heq => ?_)
  simp [tableStart?, heq, hwall.content, isDelimiterRow] at hfound

end Lines

section Definitions

open DefinitionReader

variable {region : Region} {low : Nat}

/-- A cursor that went on from the line `low` and not over a line behind it that continues no
definition. -/
def Within (region : Region) (low : Nat) (cursor : Cursor) : Prop :=
  low ≤ cursor.next ∧ ∀ last, continuation? region last = none → low ≤ last → cursor.next ≤ last

theorem Within.step {cursor : Cursor} (hcursor : Within region low cursor) {text rest : List Char}
    (htext : continuation? region cursor.next = some text) :
    Within region low ⟨rest, cursor.next + 1⟩ := by
  refine ⟨Nat.le_succ_of_le hcursor.1, fun last hnone hlow => ?_⟩
  refine Nat.lt_of_le_of_ne (hcursor.2 last hnone hlow) ?_
  rintro rfl
  rw [hnone] at htext
  cases htext

theorem Within.refill {cursor : Cursor} (hcursor : Within region low cursor) :
    Within region low (cursor.refill region) := by
  rw [Cursor.refill]
  split
  next text htext => exact hcursor.step htext
  next => exact hcursor

/-- Reading a label stays within the lines. -/
theorem within_label? {left : Nat} {taken label : List Char} {cursor behind : Cursor}
    (hcursor : Within region low cursor)
    (hread : label? region left taken cursor = some (label, behind)) :
    Within region low behind := by
  induction left generalizing taken cursor with
  | zero => cases hread
  | succ left ih =>
      obtain ⟨rest, next⟩ := cursor
      have hsame (text : List Char) : Within region low ⟨text, next⟩ := hcursor
      simp only [label?] at hread
      split at hread
      next => cases hread
      next c rest =>
        split at hread
        next => cases hread
        next =>
          split at hread
          next =>
            cases hread
            exact hsame rest
          next =>
            split at hread
            next => exact ih (hsame rest).refill hread
            next =>
              split at hread
              next =>
                split at hread
                next => cases hread
                next d rest =>
                  refine ih ?_ hread
                  split
                  · exact (hsame rest).refill
                  · exact hsame rest
              next => exact ih (hsame rest) hread

theorem within_skipWhite {cursor : Cursor} (hcursor : Within region low cursor) (left : Nat) :
    Within region low (skipWhite region left cursor) := by
  induction left generalizing cursor with
  | zero => exact hcursor
  | succ left ih =>
      obtain ⟨rest, next⟩ := cursor
      have hsame (text : List Char) : Within region low ⟨text, next⟩ := hcursor
      simp only [skipWhite]
      split
      next => exact hcursor
      next c rest =>
        split
        · exact ih (hsame rest).refill
        · split
          · exact ih (hsame rest)
          · exact hcursor

/-- Reading the lines of a title stays within the lines. -/
theorem within_titleLines? {closing : Char} {left : Nat} {before title : List Char}
    {isContinued ending : Bool} {cursor after : Cursor} (hcursor : Within region low cursor)
    (hread : titleLines? region closing left before isContinued cursor =
      some (title, ending, after)) : Within region low after := by
  induction left generalizing before isContinued cursor with
  | zero => cases hread
  | succ left ih =>
      simp only [titleLines?] at hread
      split at hread
      next =>
        cases hread
        exact hcursor
      next => cases hread
      next =>
        split at hread
        next text htext => exact ih (hcursor.step htext) hread
        next => cases hread

theorem within_title? {left : Nat} {isSpaced : Bool} {cursor after : Cursor} {title : List Char}
    (hcursor : Within region low cursor)
    (hread : title? region left isSpaced cursor = some (title, after)) :
    Within region low after := by
  obtain ⟨rest, next⟩ := cursor
  cases rest with
  | nil => cases hread
  | cons c rest =>
      have hsame : Within region low ⟨rest, next⟩ := hcursor
      simp only [title?, Option.bind_eq_bind, Option.bind_eq_some_iff] at hread
      obtain ⟨closing, -, ⟨found, isContinued, behind⟩, hlines, hdone⟩ := hread
      split at hdone
      next =>
        cases hdone
        exact within_titleLines? hsame hlines
      next => cases hdone

theorem within_getD {titled : Option (List Char × Cursor)} {after : Cursor}
    (htitled : ∀ found ∈ titled, Within region low found.2) (hafter : Within region low after) :
    Within region low (titled.getD ([], after)).2 := by
  cases titled with
  | none => exact hafter
  | some found => exact htitled found rfl

/-- A definition takes a line at least and ends in front of a line that does not continue it. -/
theorem within_read? {index next : Nat} {key : List Char} {definition : Definition}
    (hread : read? region index = some (key, definition, next)) :
    index < next ∧ ∀ last, continuation? region last = none → index < last → next ≤ last := by
  simp only [read?, Option.bind_eq_bind] at hread
  split at hread
  next => cases hread
  next =>
    simp only [Option.pure_def] at hread
    generalize region.lines.foldl (fun total line => total + line.text.length + 1) 1 = left at hread
    split at hread
    next =>
      simp only [Option.bind_eq_some_iff] at hread
      obtain ⟨⟨label, behind⟩, hlabel, hread⟩ := hread
      have hbehind : Within region (index + 1) behind :=
        within_label? ⟨Nat.le_refl (index + 1), fun _ _ hle => hle⟩ hlabel
      split at hread
      next rest _ =>
        simp only [Option.bind_eq_some_iff] at hread
        obtain ⟨⟨raw, following⟩, -, hread⟩ := hread
        have hsame : Within region (index + 1) ⟨rest, behind.next⟩ := hbehind
        have hafter : Within region (index + 1)
            ⟨following, (skipWhite region left ⟨rest, behind.next⟩).next⟩ :=
          within_skipWhite hsame left
        split at hread
        next =>
          simp only [Option.some.injEq, Prod.mk.injEq] at hread
          obtain ⟨-, -, rfl⟩ := hread
          refine within_getD (fun found hfound => ?_) hafter
          rw [Option.mem_def, Option.filter_eq_some_iff] at hfound
          exact within_title? (within_skipWhite hafter left) hfound.1
        next => cases hread
      next => cases hread
    next => cases hread

theorem Wall.continuation?_eq_none {wall : Nat} (hwall : Wall region wall) :
    continuation? region wall = none := by
  simp [continuation?, hwall.isEmpty]

end Definitions

section Nested

variable {region : Region} {stop : Nat}

/-- What is found of a quote whose lines go on at `index`: the lines in it and the line behind it
are bounded, and other lines stay as they are. -/
structure IsQuote (region : Region) (stop index : Nat) (lines : Array Line)
    (found : Array Line × Nat × Nat) : Prop where
  le_next : index ≤ found.2.1
  next_le_stop : index ≤ stop → found.2.1 ≤ stop
  next_le_wall : ∀ wall, Wall region wall → index ≤ wall → found.2.1 ≤ wall
  next_le_limit : index ≤ stop → stop ≤ region.limit → found.2.1 ≤ found.2.2
  same : ∀ other, other < index ∨ found.2.1 ≤ other → found.1[other]? = lines[other]?

theorem IsQuote.of_end (region : Region) (stop index : Nat) (lines : Array Line) :
    IsQuote region stop index lines (lines, index, region.limit) where
  le_next := Nat.le_refl index
  next_le_stop hle := hle
  next_le_wall _ _ hle := hle
  next_le_limit hle hlimit := Nat.le_trans hle hlimit
  same _ _ := rfl

theorem IsQuote.of_step {index : Nat} {lines : Array Line} {line : Line}
    {found : Array Line × Nat × Nat} (hlt : index < stop)
    (hsolid : (region.line index).isEmpty = false)
    (hfound : IsQuote region stop (index + 1) (lines.setIfInBounds index line) found) :
    IsQuote region stop index lines found where
  le_next := Nat.le_of_succ_le hfound.le_next
  next_le_stop _ := hfound.next_le_stop hlt
  next_le_wall wall hwall hle :=
    hfound.next_le_wall wall hwall (Nat.lt_of_le_of_ne hle (hwall.ne_of_isSolid hsolid))
  next_le_limit _ := hfound.next_le_limit hlt
  same other hother := by
    have hle := hfound.le_next
    rw [hfound.same other (by omega), Array.getElem?_setIfInBounds_ne (by omega)]

/-- The lines of a quote are collected one by one, up to the first that ends it. -/
theorem isQuote_quoteLines (region : Region) (stop left index : Nat) (lastEmpty : Bool)
    (lines : Array Line) :
    IsQuote region stop index lines (quoteLines region stop left index lastEmpty lines) := by
  induction left generalizing index lastEmpty lines with
  | zero => exact .of_end region stop index lines
  | succ left ih =>
      simp only [quoteLines]
      split
      next => exact .of_end region stop index lines
      next hgoes =>
        simp only [Bool.or_eq_true, decide_eq_true_eq, not_or, Bool.not_eq_true] at hgoes
        have hlt := Nat.lt_of_not_le hgoes.1
        split
        next => exact .of_step hlt hgoes.2 (ih (index + 1) _ _)
        next =>
          split
          next => exact .of_end region stop index lines
          next =>
            split
            next =>
              exact { IsQuote.of_end region stop index lines with
                next_le_limit := fun _ _ => Nat.le_refl index }
            next => exact .of_step hlt hgoes.2 (ih (index + 1) _ _)

/-- A reader of the blocks in a quote or a list item: it goes on by a line at least if there is
something to read, and it stays in front of what is behind a blank line if its end does. -/
structure Reader.IsBounded (read : Reader) : Prop where
  lt_next : ∀ (region : Region) (start stop : Nat) (definitions : Definitions), start < stop →
    stop ≤ region.limit →
    ((region.line start).isEmpty = false → region.isOutdented start = false) →
    start < (read region start stop definitions).next
  next_le : ∀ (region : Region) (wall start stop : Nat) (definitions : Definitions),
    Wall region wall → start ≤ wall → stop ≤ wall + 1 → stop ≤ region.limit →
    (read region start stop definitions).next ≤ wall + 1

theorem le_columnAfter (base column : Nat) (text : List Char) :
    column ≤ columnAfter base column text := by
  induction text generalizing column with
  | nil => exact Nat.le_refl column
  | cons c text ih =>
      rw [columnAfter]
      refine Nat.le_trans ?_ (ih _)
      split <;> omega

/-- The content of a list item is not left of its margin. -/
theorem margin_itemLine_le (line : Line) (width : Nat)
    (hsolid : (itemLine line width).1.isEmpty = false) :
    ((itemLine line width).2.1 : Int) ≤ (itemLine line width).1.indent := by
  simp only [itemLine] at hsolid ⊢
  generalize hbehind : line.content.drop width = behind at *
  have hle := le_columnAfter line.base (line.indent.toNat + width) (behind.takeWhile isSpace)
  have hne : (behind.takeWhile isSpace).length ≠ behind.length := by
    intro heq
    rw [Line.isEmpty, Line.content, Nat.add_assoc, ← List.drop_drop, ← List.drop_drop] at hsolid
    rw [Line.content] at hbehind
    rw [hbehind, heq, List.drop_length] at hsolid
    cases hsolid
  simp only [hne, decide_false, Bool.false_or, decide_eq_true_eq]
  split <;> omega

theorem content_ne_nil_of_ofContent? {content : List Char} {found : ListMarker × Nat}
    (hfound : ListMarker.ofContent? content = some found) : content ≠ [] := by
  rintro rfl
  cases hfound

/-- The line of a region whose line `index` is replaced. -/
theorem line_setIfInBounds_ne (lines : Array Line) {index other : Nat} (line : Line)
    (margin : Nat) (listMargin : Option Nat) (limit : Nat) (hne : index ≠ other) :
    (Region.mk (lines.setIfInBounds index line) margin listMargin limit).line other =
      (Region.mk lines margin listMargin limit).line other := by
  rw [Region.line, Region.line, Array.getElem?_setIfInBounds_ne hne]

/-- The item of a list that starts on a line goes on by a line at least and stays in front of what
is behind a blank line. -/
theorem bounds_item {readItem : Reader} (hreader : readItem.IsBounded)
    (hlimit : stop ≤ region.limit) {index : Nat} (hindex : index < stop) (width : Nat)
    (definitions : Definitions) :
    let found := itemLine (region.line index) width
    let inner : Region :=
      { region with
        lines := region.lines.setIfInBounds index found.1
        margin := found.2.1
        listMargin := some region.margin }
    index < (readItem inner index stop definitions).next ∧
      ∀ wall, Wall region wall → index < wall → stop ≤ wall + 1 →
        (readItem inner index stop definitions).next ≤ wall + 1 := by
  intro found inner
  refine ⟨hreader.lt_next inner index stop definitions hindex hlimit fun hsolid => ?_, ?_⟩
  · have hsize : index < region.lines.size := by
      refine Nat.lt_of_not_le fun hover => ?_
      have hnone : inner.line index = Line.blank := by
        rw [Region.line, Array.getElem?_eq_none (by simpa [inner] using hover)]
        rfl
      rw [hnone] at hsolid
      cases hsolid
    have hline : inner.line index = found.1 := by
      rw [Region.line, Array.getElem?_setIfInBounds_self_of_lt hsize]
      rfl
    rw [hline] at hsolid
    rw [Region.isOutdented, hline, decide_eq_false_iff_not]
    exact Int.not_lt.mpr (margin_itemLine_le (region.line index) width hsolid)
  · intro wall hwall hlt hstop
    have hinner : Wall inner wall := by
      constructor
      · rw [line_setIfInBounds_ne _ _ _ _ _ (by omega)]
        exact hwall.isEmpty
      · rw [line_setIfInBounds_ne _ _ _ _ _ (by omega)]
        exact hwall.isSolid
    exact hreader.next_le inner wall index stop definitions hinner (Nat.le_of_lt hlt) hstop hlimit

/-- Reading the items of a list goes forward and stops at a wall. -/
theorem bounds_listItems {readItem : Reader} (hreader : readItem.IsBounded) (mark : Char)
    (isNumber : Bool) (hlimit : stop ≤ region.limit) (left : Nat) {index : Nat} (width : Nat)
    (endsEmpty : Bool) (definitions : Definitions) (hindex : index < stop) :
    let next := (listItems region readItem mark isNumber stop left index width endsEmpty
      definitions).2.next
    index ≤ next ∧ (0 < left → index < next) ∧
      ∀ wall, Wall region wall → index < wall → stop ≤ wall + 1 → next ≤ wall + 1 := by
  induction left generalizing index width endsEmpty definitions with
  | zero =>
      refine ⟨Nat.le_refl index, fun hleft => absurd hleft (Nat.lt_irrefl 0), ?_⟩
      intro wall _ hlt _
      exact Nat.le_succ_of_le (Nat.le_of_lt hlt)
  | succ left ih =>
      simp only [listItems]
      generalize hread : (if (itemLine (region.line index) width).2.2 &&
          (region.line (index + 1)).isEmpty then _ else _ : Reading) = item
      have hitem : index < item.next ∧
          ∀ wall, Wall region wall → index < wall → stop ≤ wall + 1 → item.next ≤ wall + 1 := by
        rw [← hread]
        split
        next =>
          refine ⟨Nat.lt_min.mpr ⟨by omega, hindex⟩, fun wall _ _ hstop => ?_⟩
          exact Nat.le_trans (Nat.min_le_right _ _) hstop
        next => exact bounds_item hreader hlimit hindex width definitions
      have hdone : index ≤ item.next ∧ (0 < left + 1 → index < item.next) ∧
          ∀ wall, Wall region wall → index < wall → stop ≤ wall + 1 → item.next ≤ wall + 1 :=
        ⟨Nat.le_of_lt hitem.1, fun _ => hitem.1, hitem.2⟩
      split
      next marker found hmarker =>
        split
        next =>
          split at hmarker
          next => cases hmarker
          next hgoes =>
            simp only [Bool.or_eq_true, decide_eq_true_eq, not_or] at hgoes
            have hlt := Nat.lt_of_not_le hgoes.1.1.1
            obtain ⟨hle, -, hwalls⟩ := ih found
              (decide (1 < item.next - index) && (region.line (item.next - 1)).isEmpty)
              item.definitions hlt
            refine ⟨Nat.le_trans (Nat.le_of_lt hitem.1) hle,
              fun _ => Nat.lt_of_lt_of_le hitem.1 hle,
              fun wall hwall hbefore hstop => hwalls wall hwall ?_ hstop⟩
            have hnext := hitem.2 wall hwall hbefore hstop
            have hne : item.next ≠ wall := by
              rintro rfl
              exact content_ne_nil_of_ofContent? hmarker hwall.content
            omega
        next => exact hdone
      next => exact hdone

/-- What a quote holds ends with the quote, in front of a blank line. -/
theorem bounds_quote {readQuote : Reader} (hreader : readQuote.IsBounded)
    (hlimit : stop ≤ region.limit) {index : Nat} (hindex : index < stop)
    (hsolid : (region.line index).isEmpty = false) (left : Nat) (definitions : Definitions) :
    let first := (region.line index).quoted
    let found := quoteLines region stop left (index + 1) first.isEmpty
      (region.lines.setIfInBounds index first)
    let inner : Region := { region with lines := found.1, margin := 0, limit := found.2.2 }
    index < (readQuote inner index found.2.1 definitions).next ∧
      ∀ wall, Wall region wall → index < wall →
        (readQuote inner index found.2.1 definitions).next ≤ wall + 1 := by
  intro first found inner
  have hquote : IsQuote region stop (index + 1) (region.lines.setIfInBounds index first) found :=
    isQuote_quoteLines region stop left (index + 1) first.isEmpty _
  have hinner := hquote.next_le_limit hindex hlimit
  refine ⟨hreader.lt_next inner index found.2.1 definitions hquote.le_next hinner fun _ => ?_, ?_⟩
  · have hsize : index < region.lines.size := by
      refine Nat.lt_of_not_le fun hover => ?_
      rw [Region.line, Array.getElem?_eq_none hover] at hsolid
      cases hsolid
    have hline : inner.line index = first := by
      rw [Region.line, hquote.same index (.inl (Nat.lt_succ_self index)),
        Array.getElem?_setIfInBounds_self_of_lt hsize]
      rfl
    have hindent : 0 ≤ first.indent := Int.natCast_nonneg _
    rw [Region.isOutdented, hline, decide_eq_false_iff_not]
    exact Int.not_lt.mpr hindent
  · intro wall hwall hlt
    have hnext := hquote.next_le_wall wall hwall hlt
    have hline (other : Nat) (hother : wall ≤ other) : inner.line other = region.line other := by
      rw [Region.line, hquote.same other (.inr (Nat.le_trans hnext hother)),
        Array.getElem?_setIfInBounds_ne (by omega)]
      rfl
    have hwalled : Wall inner wall := by
      constructor
      · rw [hline wall (Nat.le_refl wall)]
        exact hwall.isEmpty
      · rw [hline (wall + 1) (Nat.le_succ wall)]
        exact hwall.isSolid
    exact hreader.next_le inner wall index found.2.1 definitions hwalled (Nat.le_of_lt hlt)
      (Nat.le_succ_of_le hnext) hinner

end Nested

section Blocks

variable {region : Region} {readQuote readItem : Reader} {stop : Nat}

/-- Whether a line starts a block that a blank line does not end: a fence, a list or HTML that waits
for a mark of its own. -/
def mayRunOn (region : Region) (index : Nat) : Bool :=
  let content := (region.line index).content
  (fenceStart? content).isSome || (listStart? region index false).isSome ||
    (Html.blockKind? content).any fun kind => !kind.endsAt []

/-- A block takes a line at least. It stays in front of what is behind a blank line, unless it may
run on and the blocks around it do not end there. -/
theorem bounds_readBlock (hquote : readQuote.IsBounded) (hitem : readItem.IsBounded)
    (hlimit : stop ≤ region.limit) {index : Nat} (hindex : index < stop)
    (hsolid : (region.line index).isEmpty = false) (definitions : Definitions) :
    let next := (readBlock region readQuote readItem index stop definitions).next
    index < next ∧ ∀ wall, Wall region wall → index < wall →
      stop ≤ wall + 1 ∨ region.isCode (wall + 1) = false ∧ mayRunOn region index = false →
      next ≤ wall + 1 := by
  simp only [readBlock]
  split
  next found htable =>
    refine ⟨Nat.lt_of_lt_of_le (by omega) (le_tableRows _ _ _ _ (index + 2) _), ?_⟩
    intro wall hwall hlt _
    exact Nat.le_succ_of_le (tableRows_le hwall _ _ _ _ (lt_of_tableStart? hwall htable hlt))
  next =>
  split
  next =>
    refine ⟨le_codeEnd region stop _ (Nat.le_refl (index + 1)), fun wall hwall hlt hedge => ?_⟩
    exact codeEnd_le hwall (hedge.imp_right And.left) _ (Nat.le_refl (index + 1))
      (Nat.succ_le_succ (Nat.le_of_lt hlt))
  next =>
  split
  next found hfence =>
    refine ⟨le_fenceEnd region _ _ stop _ (index + 1), fun wall hwall hlt hedge => ?_⟩
    rcases hedge with hstop | hedge
    · exact Nat.le_trans (fenceEnd_le region _ _ _ hindex) hstop
    · simp [mayRunOn, hfence] at hedge
  next =>
  split
  next =>
    obtain ⟨hnext, hwalls⟩ := bounds_quote hquote hlimit hindex hsolid (region.lines.size + 1)
      definitions
    exact ⟨hnext, fun wall hwall hlt _ => hwalls wall hwall hlt⟩
  next =>
  split
  next =>
    refine ⟨Nat.lt_succ_self index, fun wall _ hlt _ => ?_⟩
    exact Nat.succ_le_succ (Nat.le_of_lt hlt)
  next =>
  split
  next marker width hlist =>
    obtain ⟨-, hnext, hwalls⟩ := bounds_listItems hitem marker.mark marker.isNumber hlimit
      (region.lines.size + 1) width false definitions hindex
    refine ⟨hnext (Nat.succ_pos _), fun wall hwall hlt hedge => ?_⟩
    rcases hedge with hstop | hedge
    · exact hwalls wall hwall hlt hstop
    · simp [mayRunOn, hlist] at hedge
  next =>
  split
  next hread =>
    obtain ⟨hnext, hwalls⟩ := within_read? hread
    exact ⟨hnext, fun wall hwall hlt _ =>
      Nat.le_succ_of_le (hwalls wall hwall.continuation?_eq_none hlt)⟩
  next =>
  split
  next kind hkind =>
    constructor
    · split
      · exact Nat.lt_succ_self index
      · exact le_htmlEnd region kind stop _ (index + 1)
    · intro wall hwall hlt hedge
      split
      · exact Nat.succ_le_succ (Nat.le_of_lt hlt)
      · rcases hedge with hstop | hedge
        · exact Nat.le_trans (htmlEnd_le region kind _ hindex) hstop
        · have hends := hedge.2
          simp only [mayRunOn, hkind, Option.any_some, Bool.or_eq_false_iff,
            Bool.not_eq_false'] at hends
          exact Nat.le_succ_of_le (htmlEnd_le_wall hwall hends.2 stop _ hlt)
  next =>
  split
  next =>
    refine ⟨Nat.lt_succ_self index, fun wall _ hlt _ => ?_⟩
    exact Nat.succ_le_succ (Nat.le_of_lt hlt)
  next =>
  split
  next hunder =>
    have hbounds (wall : Nat) := underlineAt?_bounds wall hunder
    refine ⟨Nat.lt_succ_of_lt (hbounds 0).1, fun wall hwall hlt _ => ?_⟩
    exact Nat.succ_le_succ (Nat.le_of_lt ((hbounds wall).2.2 hwall hlt))
  next =>
    refine ⟨le_paragraphEnd region _ (index + 1), fun wall hwall hlt _ => ?_⟩
    exact Nat.le_succ_of_le (paragraphEnd_le hwall _ hlt)

/-- The line where reading goes on behind a block that ended in front of the line `next`. -/
def lineBehind (region : Region) (stop next : Nat) : Nat :=
  if next < stop && (region.line next).isEmpty then next + 1 else next

theorem le_lineBehind (region : Region) (stop next : Nat) :
    next ≤ lineBehind region stop next := by
  rw [lineBehind]
  split
  · exact Nat.le_succ next
  · exact Nat.le_refl next

/-- Reading blocks goes forward and stops at a wall. -/
theorem bounds_readLoop (hquote : readQuote.IsBounded) (hitem : readItem.IsBounded)
    (hlimit : stop ≤ region.limit) (left : Nat) {index : Nat} (hadBlank isTight : Bool)
    (definitions : Definitions) :
    let next := (readLoop region readQuote readItem stop left index hadBlank isTight
      definitions).next
    index ≤ next ∧
      (index < stop → 0 < left →
        ((region.line index).isEmpty = false → region.isOutdented index = false) → index < next) ∧
      ∀ wall, Wall region wall → index ≤ wall + 1 → stop ≤ wall + 1 → next ≤ wall + 1 := by
  induction left generalizing index hadBlank isTight definitions with
  | zero =>
      exact ⟨Nat.le_refl index, fun _ hleft => absurd hleft (Nat.lt_irrefl 0), fun _ _ hle _ => hle⟩
  | succ left ih =>
      simp only [readLoop]
      split
      next hover =>
        exact ⟨Nat.le_refl index, fun hlt => absurd hlt (Nat.not_lt.mpr hover),
          fun _ _ hle _ => hle⟩
      next hmore =>
      have hindex := Nat.lt_of_not_le hmore
      have hle := le_skipEmpty region (region.limit - index) index
      have hpass := @lt_skipEmpty_of_isOutdented region (region.limit - index) index (by omega)
      have hsolid := isEmpty_skipEmpty region (region.limit - index) index
      have hwalled {wall : Nat} (hwall : Wall region wall) :=
        skipEmpty_le hwall (region.limit - index) index
      generalize skipEmpty region (region.limit - index) index = first at *
      split
      next hover =>
        refine ⟨hle, fun _ _ hline => ?_, fun wall hwall hbefore _ => hwalled hwall hbefore⟩
        rw [Bool.or_eq_true, decide_eq_true_eq] at hover
        rcases hover with hstop | hout
        · exact Nat.lt_of_lt_of_le hindex hstop
        · exact hpass hline hout
      next hgoes =>
      simp only [Bool.or_eq_true, decide_eq_true_eq, not_or] at hgoes
      have hfirst := Nat.lt_of_not_le hgoes.1
      have hline := hsolid (by omega)
      obtain ⟨hstep, hwalls⟩ := bounds_readBlock hquote hitem hlimit hfirst hline definitions
      generalize readBlock region readQuote readItem first stop definitions = step at *
      rw [← lineBehind]
      have hbehind := le_lineBehind region stop step.next
      obtain ⟨hlast, -, hrest⟩ := @ih (lineBehind region stop step.next)
        (hadBlank || (decide (step.next - 1 < stop) && (region.line (step.next - 1)).isEmpty) ||
          (decide (step.next < stop) && (region.line step.next).isEmpty)) (!hadBlank)
        step.definitions
      have hlate := Nat.lt_of_lt_of_le (Nat.lt_of_le_of_lt hle hstep) (Nat.le_trans hbehind hlast)
      refine ⟨Nat.le_of_lt hlate, fun _ _ _ => hlate, fun wall hwall hbefore hstop => ?_⟩
      have hlt : first < wall := by
        have hne := hwall.ne_of_isSolid hline
        omega
      have hnext := hwalls wall hwall hlt (.inl hstop)
      refine hrest wall hwall ?_ hstop
      rw [lineBehind]
      split
      next hmeets =>
        rw [Bool.and_eq_true, decide_eq_true_eq] at hmeets
        exact Nat.le_trans hmeets.1 hstop
      next => exact hnext

theorem isBounded_readLoop (hquote : readQuote.IsBounded) (hitem : readItem.IsBounded) :
    Reader.IsBounded fun region start stop definitions =>
      readLoop region readQuote readItem stop (region.lines.size + 1) start false true
        definitions where
  lt_next region _ _ definitions hlt hlimit :=
    (bounds_readLoop hquote hitem hlimit (region.lines.size + 1) false true definitions).2.1 hlt
      (Nat.succ_pos _)
  next_le region wall _ _ definitions hwall hstart hstop hlimit :=
    (bounds_readLoop hquote hitem hlimit (region.lines.size + 1) false true definitions).2.2 wall
      hwall (Nat.le_succ_of_le hstart) hstop

/-- Readers of any depth are bounded. What lies too deep is dropped up to the end. -/
theorem isBounded_readAt (depth : Nat) : (readAt depth).IsBounded := by
  induction depth using Nat.strongRecOn with
  | ind depth ih =>
      match depth with
      | 0 =>
        constructor
        · intro region start stop definitions hlt hlimit hline
          have hpass := @lt_skipEmpty_of_isOutdented region (region.limit - start) start (by omega)
          simp only [readAt]
          generalize skipEmpty region (region.limit - start) start = first at *
          split
          next hover =>
            simp only [Bool.or_eq_true, decide_eq_true_eq] at hover
            rcases hover with (hstop | hstop) | hout
            · omega
            · omega
            · exact hpass hline hout
          next => exact hlt
        · intro region wall start stop definitions hwall hstart hstop _
          simp only [readAt]
          split
          next => exact skipEmpty_le hwall _ _ (Nat.le_succ_of_le hstart)
          next => exact hstop
      | 1 => exact isBounded_readLoop (ih 0 (by omega)) (ih 0 (by omega))
      | depth + 2 => exact isBounded_readLoop (ih (depth + 1) (by omega)) (ih depth (by omega))

end Blocks

end CrateReadme.Markdown.BlockReader
