import CrateReadme.Proofs.Markdown.Leaf

/-!
# Passing over quotes and lists

Quotes and list items hold blocks, which are read in a region of their own. If they are read there
as they were written, the quote or the list is passed over as a whole, and its headings are theirs.
-/

namespace CrateReadme.Markdown

open BlockReader (RawBlock)

namespace BlockReader

/-! ### What is between neighbours -/

section Gaps

variable {region : Region} {stop index behind place : Nat} {isTight : Bool}

/-- The line behind one of several blocks or items and the line where the next one starts. -/
inductive Gap (region : Region) : (isTight : Bool) → (behind place : Nat) → Prop
  | close (behind : Nat) : Gap region true behind behind
  | blank (behind : Nat) (hempty : (region.line behind).isEmpty) :
    Gap region false behind (behind + 1)

theorem Gap.bounds (hgap : Gap region isTight behind place) :
    behind ≤ place ∧ place ≤ behind + 1 := by
  cases hgap <;> omega

theorem Gap.firstLine_eq (hgap : Gap region isTight behind place) (hlimit : place ≤ region.limit)
    (hsolid : (region.line place).isEmpty = false) : firstLine region behind = place := by
  cases hgap with
  | close => exact firstLine_of_solid hsolid
  | blank behind hempty => rw [firstLine_of_isEmpty hlimit hempty, firstLine_of_solid hsolid]

/-- The first of several parts stands in front of the others. -/
theorem exists_gap_of_stands {part : List (List Char)} {parts : List (List (List Char))}
    (hne : parts ≠ [])
    (hstands : region.Stands index (Printer.joined isTight (part :: parts))) :
    ∃ place, region.Stands index part ∧ Gap region isTight (index + part.length) place ∧
      region.Stands place (Printer.joined isTight parts) ∧
      index + (Printer.joined isTight (part :: parts)).length =
        place + (Printer.joined isTight parts).length := by
  rw [Printer.joined_cons isTight part hne] at hstands ⊢
  obtain ⟨hfront, hrest⟩ := Region.stands_append.mp hstands
  obtain ⟨hpart, hseparator⟩ := Region.stands_append.mp hfront
  refine ⟨index + (part ++ if isTight then [] else [[]]).length, hpart, ?_, hrest, ?_⟩
  · cases isTight with
    | true =>
      simp only [if_true, List.append_nil]
      exact .close _
    | false =>
      have hempty : (region.line (index + part.length)).isEmpty := by
        rw [hseparator.1.isEmpty_eq]
        rfl
      simp only [Bool.false_eq_true, if_false, List.length_append, List.length_singleton]
      exact .blank _ hempty
  · rw [List.length_append, Nat.add_assoc]

end Gaps

/-! ### Quotes -/

section Quotes

variable {region : Region} {stop index last : Nat} {lines : List (List Char)} {block : RawBlock}

/-- What ends a quote: the end, a blank line, or a line that starts a block other than a quote. -/
def QuoteEnds (region : Region) (stop last : Nat) : Prop :=
  stop ≤ last ∨ (region.line last).isEmpty ∨
    (((region.line last).content.head? ≠ some '>' ∨ region.isOutdented last) ∧
      interruptsQuote region last false)

/-- A quote ends at its edge. -/
theorem Edge.quoteEnds {children : List RawBlock}
    (hedge : Edge region stop last lines (.quote children)) (hstop : stop ≤ region.limit) :
    QuoteEnds region stop last := by
  cases hedge with
  | closed hclosed =>
    rcases hclosed.cases hstop with ⟨-, hover⟩ | hempty | ⟨hout, hopens⟩
    · exact .inl hover
    · exact .inr (.inl hempty)
    · refine .inr (.inr ⟨.inr hout, ?_⟩)
      rw [interruptsQuote_eq hopens.isCode_eq_false hopens.isFree]
      exact hopens.opens
  | apart _ hempty => exact .inr (.inl hempty)
  | right next _ hshows hflush hgoes =>
    simp only [Printer.goesWith, Printer.endsBefore, if_true, Bool.and_eq_true,
      decide_eq_true_eq] at hgoes
    obtain ⟨⟨hopens, hhead⟩, -⟩ := hgoes
    obtain ⟨-, hinside, hcode⟩ := Region.isFlush_of_shows hshows hflush
    rw [← hshows.content] at hopens hhead
    refine .inr (.inr ⟨.inl hhead, ?_⟩)
    rw [interruptsQuote_eq hcode (fun hout => absurd hout (by simp [hinside]))]
    exact hopens

/-- The lines of a quote as they are seen inside it. -/
structure IsQuoted (region : Region) (stop index : Nat) (texts : List (List Char))
    (lastEmpty : Bool) (lines : Array Line) (found : Array Line × Nat × Nat) : Prop where
  next : found.2.1 = index + texts.length
  size : found.1.size = lines.size
  line : ∀ offset < texts.length, index + offset < lines.size →
    found.1[index + offset]? = some (region.line (index + offset)).quoted
  limit : found.2.2 = index + texts.length ∨ (found.2.2 = region.limit ∧
    (stop ≤ index + texts.length ∨ (region.line (index + texts.length)).isEmpty ∨
      (texts.getLast?.map fun text => (stripped text).isEmpty).getD lastEmpty))

theorem quoteLines_of_quote (hindex : index < stop) (hsolid : (region.line index).isEmpty = false)
    (hinside : region.isOutdented index = false)
    (hhead : (region.line index).content.head? = some '>') (left : Nat) (lastEmpty : Bool)
    (lines : Array Line) :
    quoteLines region stop (left + 1) index lastEmpty lines =
      quoteLines region stop left (index + 1) (region.line index).quoted.isEmpty
        (lines.setIfInBounds index (region.line index).quoted) := by
  simp only [quoteLines, Nat.not_le_of_lt hindex, hsolid, hhead, hinside, decide_false, decide_true,
    Bool.or_self, Bool.not_false, Bool.and_self, Bool.false_eq_true, if_false, if_true]

theorem content_of_quoted {text : List Char} (hshows : (region.line index).Shows region.margin
      (if text.isEmpty then ['>'] else '>' :: ' ' :: text)) :
    ∃ rest, (region.line index).content = '>' :: rest ∧ (region.line index).isEmpty = false ∧
      region.isOutdented index = false ∧ region.isCode index = false := by
  split at hshows
  · obtain ⟨hcontent, -, hsolid, hinside, hcode⟩ := atMargin_of_shows hshows rfl
    exact ⟨_, hcontent, hsolid, hinside, hcode⟩
  · obtain ⟨hcontent, -, hsolid, hinside, hcode⟩ := atMargin_of_shows hshows rfl
    exact ⟨_, hcontent, hsolid, hinside, hcode⟩

/-- Quoted lines that stand in a region are collected as the lines of the quote. -/
theorem quoteLines_of_stands {texts : List (List Char)}
    (hstands : region.Stands index (Printer.quoted texts)) (hlast : index + texts.length ≤ stop)
    (hends : QuoteEnds region stop (index + texts.length)) {left : Nat}
    (hleft : texts.length < left) (lastEmpty : Bool) (lines : Array Line) :
    IsQuoted region stop index texts lastEmpty lines
      (quoteLines region stop left index lastEmpty lines) := by
  induction texts generalizing index left lastEmpty lines with
  | nil =>
    obtain ⟨left, rfl⟩ := Nat.exists_eq_add_of_le' hleft
    have hdone (limit : Nat) (hlimit : limit = index ∨ (limit = region.limit ∧
        (stop ≤ index ∨ (region.line index).isEmpty ∨ lastEmpty))) :
        IsQuoted region stop index [] lastEmpty lines (lines, index, limit) :=
      ⟨rfl, rfl, fun offset hoffset => absurd hoffset (Nat.not_lt_zero offset), hlimit⟩
    simp only [quoteLines]
    split
    next hover =>
      rw [Bool.or_eq_true, decide_eq_true_eq] at hover
      exact hdone _ (.inr ⟨rfl, hover.imp_right .inl⟩)
    next hgoes =>
      rw [Bool.or_eq_true, decide_eq_true_eq, not_or] at hgoes
      obtain ⟨hhead, hinterrupts⟩ := (hends.resolve_left hgoes.1).resolve_left hgoes.2
      rw [List.length_nil, Nat.add_zero] at hhead hinterrupts
      split
      next hquote =>
        rw [Bool.and_eq_true, decide_eq_true_eq, Bool.not_eq_true'] at hquote
        rcases hhead with hhead | hout
        · exact absurd hquote.1 hhead
        · rw [hquote.2] at hout
          cases hout
      next =>
        split
        next hempty => exact hdone _ (.inr ⟨rfl, .inr (.inr hempty)⟩)
        next => exact hdone _ (.inl rfl)
  | cons text texts ih =>
    obtain ⟨left, rfl⟩ := Nat.exists_eq_add_of_le' (Nat.one_le_of_lt hleft)
    obtain ⟨hline, hmore⟩ := hstands
    have hquoted := hline.quoted
    obtain ⟨behind, hcontent, hsolid, hinside, -⟩ := content_of_quoted hline
    have hlength : index + (text :: texts).length = index + 1 + texts.length := by
      rw [List.length_cons]
      omega
    rw [hlength] at hlast hends
    rw [quoteLines_of_quote (by omega) hsolid hinside (by rw [hcontent]; rfl)]
    have hrest := ih hmore hlast hends (Nat.lt_of_succ_lt_succ hleft)
      (region.line index).quoted.isEmpty (lines.setIfInBounds index (region.line index).quoted)
    have hquote := isQuote_quoteLines region stop left (index + 1)
      (region.line index).quoted.isEmpty
      (lines.setIfInBounds index (region.line index).quoted)
    refine ⟨hlength ▸ hrest.next, hrest.size.trans (by simp), fun offset hoffset hsize => ?_, ?_⟩
    · cases offset with
      | zero =>
        simp only [Nat.add_zero] at hsize ⊢
        rw [hquote.same index (.inl (Nat.lt_succ_self index)),
          Array.getElem?_setIfInBounds_self_of_lt hsize]
      | succ offset =>
        have hshift : index + (offset + 1) = index + 1 + offset := by omega
        rw [hshift] at hsize ⊢
        exact hrest.line offset (Nat.lt_of_succ_lt_succ hoffset) (by simpa using hsize)
    · rw [hlength]
      refine hrest.limit.imp_right fun hlimit => ⟨hlimit.1, ?_⟩
      refine hlimit.2.imp_right fun hblank => hblank.imp_right fun hfinal => ?_
      cases texts with
      | nil => simpa [hquoted.isEmpty_eq] using hfinal
      | cons next texts =>
        rw [List.getLast?_cons_cons]
        rw [List.getLast?_eq_some_getLast (List.cons_ne_nil next texts)] at hfinal ⊢
        exact hfinal

def quoteRegion (region : Region) (found : Array Line × Nat × Nat) : Region :=
  { region with lines := found.1, margin := 0, limit := found.2.2 }

/-- The lines of a quote stand in the region in which its blocks are read. -/
theorem IsQuoted.stands {texts : List (List Char)} {lastEmpty : Bool}
    {found : Array Line × Nat × Nat}
    (hquoted : IsQuoted region stop index texts lastEmpty region.lines found)
    (hstands : region.Stands index (Printer.quoted texts)) :
    (quoteRegion region found).Stands index texts := by
  refine .of_shows fun offset hoffset => ?_
  have hlength : texts.length = (Printer.quoted texts).length := by
    rw [Printer.quoted, List.length_map]
  have hshows := hstands.shows (hlength ▸ hoffset)
  simp only [Printer.quoted, List.getElem_map] at hshows
  have hline := hquoted.line offset hoffset (Region.lt_size_of_isEnded hshows.isEnded)
  have hinner : (quoteRegion region found).line (index + offset) =
      (region.line (index + offset)).quoted := by
    rw [quoteRegion, Region.line, hline]
    rfl
  rw [hinner]
  exact hshows.quoted

/-- The headings one level further down. -/
def moved (found : List (Nat × List Char)) : List (Nat × List Char) :=
  found.map fun heading => (heading.1 + 1, heading.2)

/-- Blocks are read wherever their lines stand and nothing follows that belongs to them. -/
def AreRead (isTight : Bool) (depth : Nat) (children : List RawBlock) : Prop :=
  ∀ (region : Region) (stop index : Nat) (definitions : Definitions),
    let lines := Printer.joined isTight (Printer.blocksLines none false children)
    let reading := readAt depth region index stop definitions
    Framed region stop → region.Stands index lines → index + lines.length ≤ stop →
    Ends region stop (index + lines.length) →
    (children ≠ [] → Closed region stop (index + lines.length)) →
    Block.headingsAll reading.blocks = moved (Block.headingsAll children) ∧
      ComesTo region stop (index + lines.length) reading.next

theorem Edge.over (hedge : Edge region stop last lines block) (hstop : stop ≤ last) :
    region.limit ≤ last ∨ (region.line last).isEmpty := by
  cases hedge with
  | closed hclosed =>
    rcases hclosed.border with hlimit | hempty | ⟨hlt, -⟩
    · exact .inl hlimit
    · exact .inr hempty
    · omega
  | apart _ hempty => exact .inr hempty
  | right _ hlt => omega

/-- A quote is read in a region in which its lines stand, from their first to their last one. -/
theorem readBlock_of_stands {children : List RawBlock} (readQuote readItem : Reader)
    {first : List Char} {rest : List (List Char)} (hframed : Framed region stop)
    (hstands : region.Stands index (Printer.quoted (first :: rest)))
    (hlast : index + (first :: rest).length = last) (hle : last ≤ stop)
    (hedge : Edge region stop last (Printer.quoted (first :: rest)) (.quote children)) :
    ∃ inner : Region, Framed inner last ∧ inner.Stands index (first :: rest) ∧
      (Printer.EndsSolid (first :: rest) → Closed inner last last) ∧
      firstLine inner last ≤ firstLine region last ∧
      ∀ definitions, readBlock region readQuote readItem index stop definitions =
        let reading := readQuote inner index last definitions
        ⟨some (.quote reading.blocks), reading.next, reading.definitions⟩ := by
  subst hlast
  have hlength : (Printer.quoted (first :: rest)).length = (first :: rest).length := by
    rw [Printer.quoted, List.length_map]
  have hsize := hlength ▸ hstands.le_size (by simp [Printer.quoted])
  have hindex : index < stop := by
    rw [List.length_cons] at hle
    omega
  obtain ⟨behind, hcontent, hsolid, hinside, hcode⟩ := content_of_quoted hstands.1
  have hquoted := quoteLines_of_stands hstands hle (hedge.quoteEnds hframed.le_limit)
    (show (first :: rest).length < region.lines.size + 1 + 1 by omega) false region.lines
  have hquote := isQuote_quoteLines region stop (region.lines.size + 1 + 1) index false region.lines
  rw [quoteLines_of_quote hindex hsolid hinside (by rw [hcontent]; rfl)] at hquoted hquote
  generalize hfound : quoteLines region stop (region.lines.size + 1) (index + 1)
    (region.line index).quoted.isEmpty
    (region.lines.setIfInBounds index (region.line index).quoted) = found at hquoted hquote
  have hsame (line : Nat) (hle : index + (first :: rest).length ≤ line) :
      (quoteRegion region found).line line = region.line line := by
    rw [quoteRegion, Region.line, Region.line, hquote.same line (.inr (hquoted.next ▸ hle))]
  have hlimit : found.2.2 ≤ region.limit := by
    rcases hquoted.limit with hlimit | ⟨hlimit, -⟩
    · rw [hlimit]
      exact Nat.le_trans hle hframed.le_limit
    · exact Nat.le_of_eq hlimit
  refine ⟨quoteRegion region found, ⟨?_, ?_⟩, hquoted.stands hstands, fun hsolidEnd => ?_,
    firstLine_le hsame hlimit, fun definitions => ?_⟩
  · exact hquoted.next ▸ hquote.next_le_limit (Nat.le_of_lt hindex) hframed.le_limit
  · exact Nat.le_trans hsize (Nat.le_of_eq hquoted.size.symm)
  · refine ⟨.inl (le_firstLine _ _), ?_⟩
    rw [hsame _ (Nat.le_refl _)]
    rcases hquoted.limit with hlimit | ⟨hlimit, hstop | hempty | hblank⟩
    · exact .inl (Nat.le_of_eq hlimit)
    · exact (hedge.over hstop).imp (fun hle => Nat.le_trans (Nat.le_of_eq hlimit) hle) .inl
    · exact .inr (.inl hempty)
    · obtain ⟨last, hlastLine, hne⟩ := hsolidEnd
      rw [hlastLine] at hblank
      exact absurd (List.isEmpty_iff.mp hblank) hne
  · have hfence : fenceStart? ('>' :: behind) = none := by simp [fenceStart?]
    have hstart : tableStart? region index stop = none := by
      refine tableStart?_eq_none_of_stands hstands ?_ (hlength ▸ hedge) hframed.le_limit
      cases rest with
      | nil => rfl
      | cons second rest =>
        have hunder : isDelimiterRow
            (stripped (if second.isEmpty then ['>'] else '>' :: ' ' :: second)) = false := by
          split <;> rw [stripped_cons rfl] <;> simp [isDelimiterRow]
        simp only [Printer.beginsTable, List.map_cons, headsTable, hunder, Bool.false_and]
    simp only [readBlock, hstart, hcode, hcontent, hfence, List.head?_cons, hfound, hquoted.next,
      Bool.false_eq_true, if_false, if_true, quoteRegion]

/-- A quote is read with what is in it. -/
theorem passes_quote {depth : Nat} {children : List RawBlock} (readItem : Reader)
    (hchildren : AreRead false depth children)
    (hreadable : Printer.isReadableAll false none false children)
    (hframed : Framed region stop) (alternate : Bool)
    (hstands : region.Stands index (Printer.blockLines alternate (.quote children)))
    (hlast : index + (Printer.blockLines alternate (.quote children)).length = last)
    (hle : last ≤ stop)
    (hedge : Edge region stop last (Printer.blockLines alternate (.quote children))
      (.quote children)) :
    Passes region (readAt depth) readItem stop index (moved (Block.headingsAll children)) last := by
  obtain ⟨first, rest, htexts⟩ := List.exists_cons_of_ne_nil
    (Printer.joined_ne_nil false (Printer.blocksLines_ne_nil none false children))
  rw [Printer.blockLines, htexts] at hstands hlast hedge
  rw [Printer.quoted, List.length_map] at hlast
  have hindex : index < last := by
    rw [List.length_cons] at hlast
    omega
  obtain ⟨behind, -, hsolid, hinside, -⟩ := content_of_quoted hstands.1
  obtain ⟨inner, hinner, hstandsInner, hclosed, hfirst, hread⟩ :=
    readBlock_of_stands (readAt depth) readItem hframed hstands hlast hle hedge
  refine passes_of_readBlock hframed.le_limit (Nat.lt_of_lt_of_le hindex hle) hsolid hinside
    fun definitions => ?_
  rw [← htexts] at hlast hstandsInner hclosed
  subst hlast
  obtain ⟨hheadings, hcomes⟩ := hchildren inner _ index definitions hinner hstandsInner
    (Nat.le_refl _) (.inl (le_firstLine _ _)) fun hne =>
      hclosed (Printer.endsSolid_blocks false none false children hne hreadable)
  rw [hread]
  refine ⟨Nat.lt_of_lt_of_le hindex hcomes.le, ?_, hcomes.le, Nat.le_trans hcomes.le_first hfirst⟩
  simp only [Option.toList_some, Block.headingsAll, Block.headings, List.append_nil]
  exact hheadings

end Quotes

/-! ### Lists -/

section Lists

open Printer (IsMark markOf isItem)

variable {region : Region} {stop index last : Nat} {lines : List (List Char)} {block : RawBlock}
  {start : Option Nat} {alternate : Bool}

/-- What stands behind an item of a list: nothing that belongs to the blocks around, or something
that stands further left than what is in the item. -/
inductive ItemEdge (region : Region) (stop last : Nat) : Prop
  | closed (hclosed : Closed region stop last)
  | apart (hempty : (region.line last).isEmpty) (hlt : last + 1 < stop)
    (hsolid : (region.line (last + 1)).isEmpty = false)
    (hindent : (region.line (last + 1)).indent = region.margin)
  | right (hlt : last < stop) (hsolid : (region.line last).isEmpty = false)
    (hindent : (region.line last).indent = region.margin)
    (hopens : opens false (region.line last).content)

theorem of_isAtMargin {next : List Char}
    (hshows : (region.line index).Shows region.margin next) (hmargin : Printer.isAtMargin next) :
    (region.line index).isEmpty = false ∧ (region.line index).indent = region.margin := by
  cases next with
  | nil => cases hmargin
  | cons c rest =>
    simp only [Printer.isAtMargin, List.head?_cons, Option.any_some, Bool.not_eq_true'] at hmargin
    obtain ⟨-, hindent, hsolid, -⟩ := atMargin_of_shows hshows hmargin
    exact ⟨hsolid, hindent⟩

theorem Edge.itemEdge (hedge : Edge region stop last lines block)
    (hblock : block.numbering? = some start) : ItemEdge region stop last := by
  cases hedge with
  | closed hclosed => exact .closed hclosed
  | apart next hempty hlt hshows _ hgoes =>
    have happart : Printer.endsApart lines next block = Printer.isAtMargin next := by
      cases block with
      | bulletList isTight items => rfl
      | orderedList first isTight items => rfl
      | _ => cases hblock
    rw [Printer.goesWith, if_neg Bool.false_ne_true, happart] at hgoes
    obtain ⟨hsolid, hindent⟩ := of_isAtMargin hshows hgoes
    exact .apart hempty hlt hsolid hindent
  | right next hlt hshows _ hgoes =>
    have hends : Printer.endsBefore lines next block =
        (opens false (stripped next) && Printer.isAtMargin next) := by
      cases block with
      | bulletList isTight items => rfl
      | orderedList first isTight items => rfl
      | _ => cases hblock
    rw [Printer.goesWith, if_pos rfl, hends, Bool.and_eq_true, Bool.and_eq_true] at hgoes
    obtain ⟨hsolid, hindent⟩ := of_isAtMargin hshows hgoes.1.2
    exact .right hlt hsolid hindent (hshows.content ▸ hgoes.1.1)

/-- Seen from inside the item, nothing follows. -/
theorem ItemEdge.closed_inner (hedge : ItemEdge region stop last) (hstop : stop ≤ region.limit)
    {inner : Region} (hline : ∀ line, last ≤ line → inner.line line = region.line line)
    (hlimit : inner.limit = region.limit) (hlist : inner.listMargin = some region.margin)
    (hmargin : region.margin < inner.margin) : Closed inner stop last := by
  have hfirst := firstLine_congr hline hlimit
  have hout (line : Nat) (hle : last ≤ line)
      (hindent : (region.line line).indent < region.margin + 1) : inner.isOutdented line := by
    rw [Region.isOutdented, hline line hle, decide_eq_true_eq]
    omega
  have hopensInner (hsolid : (region.line last).isEmpty = false)
      (hnonneg : 0 ≤ (region.line last).indent)
      (hindent : (region.line last).indent ≤ region.margin + 3)
      (hopens : opens false (region.line last).content) : Opens inner last := by
    refine ⟨?_, ?_, ?_, fun _ margin hmem => ?_, ?_⟩
    · rw [hline last (Nat.le_refl last)]
      exact hsolid
    · rw [hline last (Nat.le_refl last)]
      exact hnonneg
    · rw [hline last (Nat.le_refl last)]
      omega
    · rw [hlist] at hmem
      rw [hline last (Nat.le_refl last), ← Option.some.inj hmem]
      omega
    · rw [hline last (Nat.le_refl last)]
      exact hopens
  cases hedge with
  | closed hclosed =>
    refine ⟨?_, ?_⟩
    · rw [Ends, hfirst]
      refine hclosed.ends.imp_right fun houtdented => hout _ (le_firstLine region last) ?_
      rw [Region.isOutdented, decide_eq_true_eq] at houtdented
      omega
    · rw [hlimit, hline last (Nat.le_refl last)]
      refine hclosed.border.imp_right fun hborder => hborder.imp_right fun hopens => ?_
      exact ⟨hopens.1, hopensInner hopens.2.isSolid hopens.2.nonneg hopens.2.indent_le
        hopens.2.opens⟩
  | apart hempty hlt hsolid hindent =>
    have hnext : firstLine region last = last + 1 := by
      rw [firstLine_of_isEmpty (by omega) hempty, firstLine_of_solid hsolid]
    refine ⟨.inr ?_, .inr (.inl ?_)⟩
    · rw [hfirst, hnext]
      exact hout (last + 1) (Nat.le_succ last) (by omega)
    · rw [hline last (Nat.le_refl last)]
      exact hempty
  | right hlt hsolid hindent hopens =>
    refine ⟨.inr ?_, .inr (.inr ⟨hlt, hopensInner hsolid (by omega) (by omega) hopens⟩)⟩
    rw [hfirst, firstLine_of_solid hsolid]
    exact hout last (Nat.le_refl last) (by omega)

/-- The region in which the blocks of a list item are read. -/
def itemRegion (region : Region) (index width : Nat) : Region :=
  { region with
    lines := region.lines.setIfInBounds index (itemLine (region.line index) width).1
    margin := (itemLine (region.line index) width).2.1
    listMargin := some region.margin }

theorem line_itemRegion (hsize : index < region.lines.size) (width : Nat) :
    (itemRegion region index width).line index = (itemLine (region.line index) width).1 := by
  rw [Region.line, itemRegion, Array.getElem?_setIfInBounds_self_of_lt hsize]
  rfl

theorem line_itemRegion_of_lt (width : Nat) {line : Nat} (hline : index < line) :
    (itemRegion region index width).line line = region.line line :=
  line_setIfInBounds_ne _ _ _ _ _ (Nat.ne_of_lt hline)

theorem Framed.itemRegion (hframed : Framed region stop) (index width : Nat) :
    Framed (itemRegion region index width) stop :=
  ⟨hframed.le_limit, Nat.le_trans hframed.le_size (Nat.le_of_eq Array.size_setIfInBounds.symm)⟩

/-- The item of a list that starts on a line. -/
def itemReading (region : Region) (readItem : Reader) (stop index width : Nat)
    (definitions : Definitions) : Reading :=
  if (itemLine (region.line index) width).2.2 && (region.line (index + 1)).isEmpty then
    ⟨[], min (index + 2) stop, true, definitions⟩
  else
    readItem (itemRegion region index width) index stop definitions

structure IsItemLine (region : Region) (index : Nat) (start : Option Nat) (alternate : Bool)
    (width : Nat) : Prop where
  isSolid : (region.line index).isEmpty = false
  indent_eq : (region.line index).indent = region.margin
  noFence : fenceStart? (region.line index).content = none
  noQuote : (region.line index).content.head? ≠ some '>'
  noRule : isRule (region.line index).content = false
  marker : ∃ found : ListMarker, ListMarker.ofContent? (region.line index).content =
    some (found, width) ∧ found.mark = markOf start alternate ∧ found.isNumber = start.isSome

/-- A blank at the end makes no difference to a rule. -/
theorem isRule_concat_space {text : List Char} (hne : text ≠ []) :
    isRule (text ++ [' ']) = isRule text := by
  obtain ⟨c, rest, rfl⟩ := List.exists_cons_of_ne_nil hne
  have hspace (hmark : c ∈ ['*', '-', '_']) : List.count c [' '] = 0 := by
    rw [List.count_eq_zero]
    rintro hmem
    rw [List.mem_singleton.mp hmem] at hmark
    exact absurd hmark (by decide)
  simp only [isRule, List.cons_append]
  by_cases hmark : c ∈ ['*', '-', '_']
  · have hcount : (c :: (rest ++ [' '])).count c = (c :: rest).count c := by
      rw [← List.cons_append, List.count_append, hspace hmark, Nat.add_zero]
    simp only [List.all_append, hcount]
    simp [isSpace]
  · simp [hmark]

/-- A line that shows the first line of an item behind its mark starts that item. -/
theorem isItemLine_of_shows {mark first : List Char} {rest : List (List Char)}
    (hmark : IsMark start alternate mark) (hitem : isItem (mark ++ [' ']) (first :: rest))
    (hshows : (region.line index).Shows region.margin
      (if first = [] then mark else mark ++ ' ' :: first)) :
    IsItemLine region index start alternate mark.length := by
  obtain ⟨c, tail, hhead, hc, hbackquote, htilde, hquote⟩ := hmark.head
  have hcontent : ∃ behind, (region.line index).content = mark ++ behind ∧
      behind.head?.all isSpace ∧ isRule (mark ++ behind) = false ∧
      (region.line index).indent = region.margin ∧ (region.line index).isEmpty = false := by
    simp only [isItem, List.headD_cons, Bool.and_eq_true, Bool.not_eq_true'] at hitem
    split at hshows
    next hnil =>
      have hrule := hitem.2
      rw [hnil, List.append_nil, isRule_concat_space (by rw [hhead]; exact List.cons_ne_nil _ _)]
        at hrule
      rw [hhead] at hshows
      obtain ⟨hcontent, hindent, hsolid, -⟩ := atMargin_of_shows hshows hc
      rw [← hhead] at hcontent
      exact ⟨[], by rw [hcontent, List.append_nil], rfl, by rwa [List.append_nil], hindent, hsolid⟩
    next =>
      have hrule := hitem.2
      rw [List.append_assoc, List.singleton_append] at hrule
      rw [hhead, List.cons_append] at hshows
      obtain ⟨hcontent, hindent, hsolid, -⟩ := atMargin_of_shows hshows hc
      rw [← List.cons_append, ← hhead] at hcontent
      exact ⟨_, hcontent, rfl, hrule, hindent, hsolid⟩
  obtain ⟨behind, hcontent, hspace, hrule, hindent, hsolid⟩ := hcontent
  obtain ⟨found, hfound, hfoundMark, hnumber⟩ := hmark.item behind hspace
  refine ⟨hsolid, hindent, ?_, ?_, by rwa [hcontent], found, by rwa [hcontent], hfoundMark,
    hnumber⟩
  · rw [hcontent, hhead, List.cons_append]
    simp [fenceStart?, hbackquote, htilde]
  · rw [hcontent, hhead, List.cons_append, List.head?_cons]
    exact fun heq => hquote (Option.some.inj heq)

theorem isItemLine_of_stands {isTight : Bool} {number : Nat} {item : List RawBlock}
    {items : List (List RawBlock)}
    (hreadable : Printer.isReadableItems isTight start alternate number (item :: items))
    (hstands : region.Stands index (Printer.joined isTight
      (Printer.itemsLines isTight start alternate number (item :: items)))) :
    ∃ width, IsItemLine region index start alternate width := by
  obtain ⟨mark, first, rest, hmark, -, hfits, hmarked, -⟩ :=
    Printer.exists_of_isReadableItems hreadable
  refine ⟨mark.length, isItemLine_of_shows hmark hfits ?_⟩
  rw [Printer.itemsLines, hmarked] at hstands
  generalize Printer.itemsLines isTight start alternate (number + 1) items = parts at hstands
  cases parts <;> exact hstands.1

theorem itemLine_of_shows {line : Line} {margin : Nat} {mark first : List Char}
    {rest : List (List Char)} (hmark : IsMark start alternate mark)
    (hitem : isItem (mark ++ [' ']) (first :: rest))
    (hshows : line.Shows margin (if first = [] then mark else mark ++ ' ' :: first)) :
    let found := itemLine line mark.length
    found.1.Shows (margin + (mark.length + 1)) first ∧ found.2.1 = margin + (mark.length + 1) ∧
      found.2.2 = first.isEmpty := by
  obtain ⟨c, tail, hhead, hc, -⟩ := hmark.head
  split at hshows
  next hnil =>
    subst hnil
    exact hshows.emptyItemLine hhead hc
  next hne =>
    obtain ⟨d, text, rfl⟩ := List.exists_cons_of_ne_nil hne
    simp only [isItem, List.headD_cons, Bool.and_eq_true, List.head?_cons, Option.all_some,
      Bool.not_eq_true'] at hitem
    exact hshows.itemLine hhead hc rfl hitem.1.1.2

/-- Lines behind the margin of an item stand at the margin of the item. -/
theorem stands_behind {inner : Region} {width : Nat} {texts : List (List Char)}
    (hstands : region.Stands index (texts.map fun line =>
      if line.isEmpty then [] else List.replicate width ' ' ++ line))
    (hline : ∀ line, index ≤ line → inner.line line = region.line line)
    (hmargin : inner.margin = region.margin + width) : inner.Stands index texts := by
  refine .of_shows fun offset hoffset => ?_
  have hshows := hstands.shows (by rwa [List.length_map])
  rw [List.getElem_map] at hshows
  rw [hline _ (Nat.le_add_right index offset), hmargin]
  split at hshows
  next hempty =>
    rw [List.isEmpty_iff.mp hempty]
    exact hshows.nil _
  next => exact hshows.behind

/-- Nothing stands on the first line of an item only if nothing is in it. -/
theorem eq_nil_of_joined {isTight : Bool} {children : List RawBlock} {rest : List (List Char)}
    (hreadable : Printer.isReadableAll isTight none false children)
    (htexts : Printer.joined isTight (Printer.blocksLines none false children) = [] :: rest) :
    children = [] ∧ rest = [] := by
  cases children with
  | nil => exact ⟨rfl, (List.cons.inj htexts).2.symm⟩
  | cons block blocks =>
    obtain ⟨_, _, hhead, -, hflush, -⟩ := Printer.exists_head_of_isReadableAll hreadable
    rw [htexts] at hhead
    rw [← (List.cons.inj hhead).1] at hflush
    cases hflush

/-- An item is read up to its last line, perhaps with the blank lines behind it. -/
theorem item_of_stands {isTight : Bool} {depth : Nat} {children : List RawBlock}
    {mark first : List Char} {rest : List (List Char)} (hchildren : AreRead isTight depth children)
    (hreadable : Printer.isReadableAll isTight none false children)
    (htexts : Printer.joined isTight (Printer.blocksLines none false children) = first :: rest)
    (hmark : IsMark start alternate mark) (hitem : isItem (mark ++ [' ']) (first :: rest))
    (hframed : Framed region stop)
    (hstands : region.Stands index ((if first = [] then mark else mark ++ ' ' :: first) ::
      rest.map fun line =>
        if line.isEmpty then [] else List.replicate (mark.length + 1) ' ' ++ line))
    (hlast : index + (first :: rest).length = last) (hle : last ≤ stop)
    (hedge : ItemEdge region stop last) (definitions : Definitions) :
    let item := itemReading region (readAt depth) stop index mark.length definitions
    Block.headingsAll item.blocks = moved (Block.headingsAll children) ∧ last ≤ item.next ∧
      item.next ≤ firstLine region last ∧
      (stop ≤ item.next ∨ item.next = firstLine region last ∨ item.next = last + 1) := by
  obtain ⟨hshows, hmargin, hempty⟩ := itemLine_of_shows hmark hitem hstands.1
  have hindex : index < last := by
    rw [List.length_cons] at hlast
    omega
  simp only [itemReading]
  split
  next hblank =>
    rw [Bool.and_eq_true, hempty, List.isEmpty_iff] at hblank
    obtain ⟨rfl, hnextLine⟩ := hblank
    obtain ⟨rfl, rfl⟩ := eq_nil_of_joined hreadable htexts
    rw [List.length_singleton] at hlast
    subst hlast
    have hnext : min (index + 2) stop ≤ firstLine region (index + 1) := by
      rcases Nat.lt_or_ge (index + 1) region.limit with hlt | hge
      · rw [firstLine_of_isEmpty hlt hnextLine]
        exact Nat.le_trans (Nat.min_le_left _ _) (le_firstLine region (index + 2))
      · rw [firstLine_of_limit_le hge]
        exact Nat.le_trans (Nat.min_le_right _ _) (Nat.le_trans hframed.le_limit hge)
    exact ⟨rfl, Nat.le_min.mpr ⟨Nat.le_succ _, hle⟩, hnext, by simp only; omega⟩
  next =>
    have hline (line : Nat) (hlt : index < line) := @line_itemRegion_of_lt region index mark.length
      line hlt
    have hbehind (line : Nat) (hle : last ≤ line) := hline line (Nat.lt_of_lt_of_le hindex hle)
    have hwidth : (itemRegion region index mark.length).margin =
        region.margin + (mark.length + 1) := hmargin
    have hclosed : Closed (itemRegion region index mark.length) stop last :=
      hedge.closed_inner hframed.le_limit hbehind rfl rfl (by omega)
    have hinner : (itemRegion region index mark.length).Stands index (first :: rest) := by
      refine ⟨?_, stands_behind hstands.2 hline hwidth⟩
      rw [line_itemRegion (Region.lt_size_of_isEnded hstands.1.isEnded), hwidth]
      exact hshows
    have hfirst := firstLine_congr hbehind rfl
    rw [← htexts] at hinner hlast
    subst hlast
    obtain ⟨hheadings, hcomes⟩ := hchildren _ stop index definitions (hframed.itemRegion _ _) hinner
      hle hclosed.ends fun _ => hclosed
    exact ⟨hheadings, hcomes.le, hfirst ▸ hcomes.le_first,
      hcomes.ends.imp_right fun hends => .inl (hends.trans hfirst)⟩

namespace IsItemLine

variable {width : Nat}

theorem isOutdented_eq_false (hline : IsItemLine region index start alternate width) :
    region.isOutdented index = false := by
  rw [Region.isOutdented, hline.indent_eq, decide_eq_false_iff_not]
  exact Int.lt_irrefl _

theorem isCode_eq_false (hline : IsItemLine region index start alternate width) :
    region.isCode index = false := by
  rw [Region.isCode, hline.indent_eq, decide_eq_false_iff_not]
  omega

theorem interruptsList_eq_false (hline : IsItemLine region index start alternate width) :
    interruptsList region index = false := by
  simp [interruptsList, hline.noFence, hline.noQuote, hline.noRule]

theorem opens (hline : IsItemLine region index start alternate width) :
    opens false (region.line index).content := by
  obtain ⟨found, hfound, -⟩ := hline.marker
  simp [Markdown.opens, hfound]

end IsItemLine

/-- A line does not start another item of a list. -/
def EndsList (region : Region) (stop next : Nat) (start : Option Nat) (alternate : Bool) : Prop :=
  stop ≤ next ∨ region.isOutdented next ∨ isRule (region.line next).content ∨
    ∀ found, ListMarker.ofContent? (region.line next).content = some found →
      ¬(found.1.mark = markOf start alternate ∧ found.1.isNumber = start.isSome)

/-- Between the last line of a list and the next line that is not empty no item starts. -/
theorem EndsList.of_le {next : Nat}
    (hends : EndsList region stop (firstLine region last) start alternate) (hge : last ≤ next)
    (hnext : next ≤ firstLine region last) : EndsList region stop next start alternate := by
  have hsame := firstLine_eq_of_le hge hnext
  cases hempty : (region.line next).isEmpty with
  | true =>
    refine .inr (.inr (.inr fun found hfound => ?_))
    rw [List.isEmpty_iff.mp hempty] at hfound
    cases hfound
  | false =>
    rw [firstLine_of_solid hempty] at hsame
    rwa [hsame]

/-- A list ends where no item with its mark follows. -/
theorem listItems_of_endsList {readItem : Reader} {width : Nat} {definitions : Definitions}
    (hends : EndsList region stop
      (itemReading region readItem stop index width definitions).next start alternate)
    (left : Nat) (endsEmpty : Bool) :
    let item := itemReading region readItem stop index width definitions
    let found := listItems region readItem (markOf start alternate) start.isSome stop (left + 1)
      index width endsEmpty definitions
    found.1 = [item.blocks] ∧ found.2.next = item.next := by
  simp only [listItems]
  rw [← itemRegion, ← itemReading]
  generalize itemReading region readItem stop index width definitions = item at hends ⊢
  split
  next marker next hmarker =>
    split at hmarker
    next => cases hmarker
    next hgoes =>
      simp only [Bool.or_eq_true, decide_eq_true_eq, not_or, Bool.not_eq_true] at hgoes
      obtain ⟨⟨⟨hstop, hinside⟩, hcode⟩, hlist⟩ := hgoes
      rcases hends with hover | hout | hrule | hother
      · exact absurd hover hstop
      · rw [hinside] at hout
        cases hout
      · simp [interruptsList, hcode, hrule] at hlist
      · have hnot := hother _ hmarker
        rw [if_neg (by simpa using hnot)]
        exact ⟨rfl, rfl⟩
  next => exact ⟨rfl, rfl⟩

/-- A list goes on with the item that starts on the next line. -/
theorem listItems_of_isItemLine {readItem : Reader} {width next : Nat} {definitions : Definitions}
    (hstop : (itemReading region readItem stop index width definitions).next < stop)
    (hline : IsItemLine region (itemReading region readItem stop index width definitions).next start
      alternate next) (left : Nat) (endsEmpty : Bool) :
    let item := itemReading region readItem stop index width definitions
    let items := listItems region readItem (markOf start alternate) start.isSome stop
    let found := items (left + 1) index width endsEmpty definitions
    ∃ endsEmpty, found.1 = item.blocks ::
        (items left item.next next endsEmpty item.definitions).1 ∧
      found.2.next = (items left item.next next endsEmpty item.definitions).2.next := by
  simp only [listItems]
  rw [← itemRegion, ← itemReading]
  generalize itemReading region readItem stop index width definitions = item at hline hstop ⊢
  obtain ⟨found, hfound, hmark, hnumber⟩ := hline.marker
  simp only [Nat.not_le_of_lt hstop, hline.isOutdented_eq_false, hline.isCode_eq_false,
    hline.interruptsList_eq_false, hfound, hmark, hnumber, decide_false, decide_true, Bool.or_self,
    Bool.and_self, Bool.false_eq_true, if_false, if_true]
  exact ⟨_, rfl, rfl⟩

/-- The items of a list are read one after the other. -/
theorem listItems_of_stands {isTight : Bool} {depth number : Nat} {items : List (List RawBlock)}
    (hne : items ≠ []) (hitems : ∀ item ∈ items, AreRead isTight depth item)
    (hreadable : Printer.isReadableItems isTight start alternate number items)
    (hframed : Framed region stop)
    (hstands : region.Stands index
      (Printer.joined isTight (Printer.itemsLines isTight start alternate number items)))
    (hlast : index + (Printer.joined isTight
      (Printer.itemsLines isTight start alternate number items)).length = last)
    (hle : last ≤ stop) (hedge : ItemEdge region stop last)
    (hends : EndsList region stop (firstLine region last) start alternate) {width : Nat}
    (hline : IsItemLine region index start alternate width) {left : Nat}
    (hleft : last < left + index) (endsEmpty : Bool) (definitions : Definitions) :
    let found := listItems region (readAt depth) (markOf start alternate) start.isSome stop left
      index width endsEmpty definitions
    Block.headingsItems found.1 = moved (Block.headingsItems items) ∧ last ≤ found.2.next ∧
      found.2.next ≤ firstLine region last := by
  induction items generalizing number index width left endsEmpty definitions with
  | nil => exact absurd rfl hne
  | cons item items ih =>
    obtain ⟨hitem, hitems⟩ := List.forall_mem_cons.mp hitems
    obtain ⟨mark, first, rest, hmark, htexts, hfits, hmarked, hall, hmore⟩ :=
      Printer.exists_of_isReadableItems hreadable
    rw [Printer.itemsLines, hmarked] at hstands hlast
    have hwidth : width = mark.length := by
      obtain ⟨found, hfound, -⟩ := hline.marker
      have hfirst : IsItemLine region index start alternate mark.length := by
        refine isItemLine_of_shows hmark hfits ?_
        cases items <;> exact hstands.1
      obtain ⟨_, hsame, -⟩ := hfirst.marker
      rw [hfound] at hsame
      exact congrArg Prod.snd (Option.some.inj hsame)
    subst hwidth
    cases items with
    | nil =>
      rw [Printer.itemsLines, Printer.joined, List.length_cons, List.length_map] at hlast
      obtain ⟨left, rfl⟩ := Nat.exists_eq_add_of_le' (show 1 ≤ left by omega)
      obtain ⟨hheadings, hnext, hfirst, -⟩ := item_of_stands hitem hall htexts hmark hfits hframed
        hstands hlast hle hedge definitions
      obtain ⟨hfound, hfoundNext⟩ :=
        listItems_of_endsList (hends.of_le hnext hfirst) left endsEmpty
      simp only
      rw [hfound, hfoundNext]
      refine ⟨?_, hnext, hfirst⟩
      simp only [Block.headingsItems, List.append_nil]
      exact hheadings
    | cons next items =>
      have hparts : Printer.itemsLines isTight start alternate (number + 1) (next :: items) ≠ [] :=
        List.cons_ne_nil _ _
      obtain ⟨place, hpart, hgap, hrest, hlength⟩ := exists_gap_of_stands hparts hstands
      rw [hlength] at hlast
      have hpos := List.length_pos_iff.mpr (Printer.joined_ne_nil isTight
        (Printer.itemsLines_ne_nil isTight start alternate (number + 1) (next :: items)))
      obtain ⟨hle₁, hle₂⟩ := hgap.bounds
      rw [List.length_cons, List.length_map, ← List.length_cons] at hgap hle₁ hle₂
      generalize hbehind : index + (first :: rest).length = behind at hgap hle₁ hle₂
      have hstop := hframed.le_limit
      obtain ⟨width, hnext⟩ := isItemLine_of_stands hmore hrest
      have hfirst := hgap.firstLine_eq (by omega) hnext.isSolid
      have hitemEdge : ItemEdge region stop behind := by
        cases hgap with
        | close => exact .right (by omega) hnext.isSolid hnext.indent_eq hnext.opens
        | blank _ hempty => exact .apart hempty (by omega) hnext.isSolid hnext.indent_eq
      obtain ⟨hheadings, hge, hfirstNext, hcases⟩ := item_of_stands hitem hall htexts hmark hfits
        hframed hpart hbehind (by omega) hitemEdge definitions
      -- with no more than a blank line in between, the next item is found where it starts
      have hgoes : (itemReading region (readAt depth) stop index mark.length definitions).next =
          place := by
        rcases hcases with hover | hsame | hsame <;> omega
      obtain ⟨left, rfl⟩ := Nat.exists_eq_add_of_le' (show 1 ≤ left by omega)
      obtain ⟨endsEmpty, hfound, hfoundNext⟩ := listItems_of_isItemLine
        (show _ < stop by omega) (hgoes ▸ hnext) left endsEmpty
      obtain ⟨hheadingsRest, hlastNext⟩ := ih (List.cons_ne_nil next items) hitems hmore hrest hlast
        hnext (show last < left + place by omega) endsEmpty
        (itemReading region (readAt depth) stop index mark.length definitions).definitions
      simp only
      rw [hfound, hfoundNext, hgoes]
      refine ⟨?_, hlastNext⟩
      rw [Block.headingsItems, hheadings, hheadingsRest, moved, moved, ← List.map_append]
      rfl

/-- A list is read with what is in its items. -/
theorem passes_list {isTight : Bool} {depth : Nat} {items : List (List RawBlock)}
    (readQuote : Reader) (hne : items ≠ []) (hitems : ∀ item ∈ items, AreRead isTight depth item)
    (hreadable : Printer.isReadableItems isTight start alternate 0 items)
    (hlines : lines = Printer.joined isTight (Printer.itemsLines isTight start alternate 0 items))
    (htable : Printer.beginsTable lines = false) (hframed : Framed region stop)
    (hstands : region.Stands index lines) (hlast : index + lines.length = last) (hle : last ≤ stop)
    (hblock : block.numbering? = some start) (hedge : Edge region stop last lines block)
    (hends : EndsList region stop (firstLine region last) start alternate) :
    Passes region readQuote (readAt depth) stop index (moved (Block.headingsItems items)) last := by
  obtain ⟨item, rest, rfl⟩ := List.exists_cons_of_ne_nil hne
  have hlinesNe : lines ≠ [] := by
    rw [hlines]
    exact Printer.joined_ne_nil isTight (Printer.itemsLines_ne_nil isTight start alternate 0 _)
  have hindex : index < last := hlast ▸ Nat.lt_add_of_pos_right (List.length_pos_iff.mpr hlinesNe)
  have hsize := hlast ▸ hstands.le_size hlinesNe
  have hstart : tableStart? region index stop = none := by
    obtain ⟨first, more, rfl⟩ := List.exists_cons_of_ne_nil hlinesNe
    exact tableStart?_eq_none_of_stands hstands htable (hlast ▸ hedge) hframed.le_limit
  subst hlines
  obtain ⟨width, hline⟩ := isItemLine_of_stands hreadable hstands
  obtain ⟨found, hfound, hmark, hnumber⟩ := hline.marker
  have hlist : listStart? region index false = some (found, width) := by
    have hnested : (region.listMargin.any fun margin =>
        decide ((region.line index).indent - margin ≥ 4) && region.isOutdented index) = false := by
      simp [hline.isOutdented_eq_false]
    simp only [listStart?, hline.isCode_eq_false, hnested, hfound, Bool.false_and, Bool.or_self,
      Bool.false_eq_true, if_false]
  refine passes_of_readBlock hframed.le_limit (Nat.lt_of_lt_of_le hindex hle) hline.isSolid
    hline.isOutdented_eq_false fun definitions => ?_
  obtain ⟨hheadings, hge, hnext⟩ := listItems_of_stands hne hitems hreadable hframed hstands hlast
    hle (hedge.itemEdge hblock) hends hline (show last < region.lines.size + 1 + index by omega)
    false definitions
  simp only [readBlock, hstart, hline.isCode_eq_false, hline.noFence, hline.noQuote, hline.noRule,
    hlist, hmark, hnumber, Bool.false_eq_true, if_false]
  refine ⟨Nat.lt_of_lt_of_le hindex hge, ?_, hge, hnext⟩
  cases found <;>
    simpa only [Option.toList_some, Block.headingsAll, Block.headings, List.append_nil] using
      hheadings

end Lists

end BlockReader

end CrateReadme.Markdown
