import CrateReadme.Proofs.Markdown.Entries
import CrateReadme.Proofs.Markdown.Extent

/-!
# Coming to the end of a document

Whatever a document starts with, a reader comes to the lines behind a blank line with nothing open,
if the fences, lists and pieces of HTML in front of it are closed. Definitions there are read as if
they stood alone, and added to those the reader has met.
-/

namespace CrateReadme.Markdown

/-- A line that starts no definition, no block with blocks in it and none that may run on. -/
structure Line.IsPlain (line : Line) : Prop where
  noFence : fenceStart? line.content = none
  noQuote : line.content.head? ≠ some '>'
  noBracket : line.content.head? ≠ some '['
  noItem : ListMarker.ofContent? line.content = none
  noHtml : Html.blockKind? line.content = none

instance (line : Line) : Decidable line.IsPlain :=
  decidable_of_iff (fenceStart? line.content = none ∧ line.content.head? ≠ some '>' ∧
      line.content.head? ≠ some '[' ∧ ListMarker.ofContent? line.content = none ∧
      Html.blockKind? line.content = none)
    ⟨fun ⟨hfence, hquote, hbracket, hitem, hhtml⟩ => ⟨hfence, hquote, hbracket, hitem, hhtml⟩,
      fun hplain => ⟨hplain.noFence, hplain.noQuote, hplain.noBracket, hplain.noItem,
        hplain.noHtml⟩⟩

/-- A line that starts with a label, and no colon behind it. -/
def Line.StartsLabel (line : Line) : Prop :=
  ∃ label c rest, DefinitionReader.IsName label ∧ c ≠ ':' ∧
    line.content = '[' :: (label ++ ']' :: c :: rest)

namespace BlockReader

variable {region : Region} {readQuote readItem : Reader} {stop : Nat}

/-- The line where the next block starts. -/
def firstLine (region : Region) (index : Nat) : Nat :=
  skipEmpty region (region.limit - index) index

/-- A reader of all blocks of a region comes to a line, with the definitions it has met. -/
inductive Arrives (region : Region) (readQuote readItem : Reader) (stop : Nat) :
    (index : Nat) → Definitions → Prop
  | start : Arrives region readQuote readItem stop 0 []
  | step {index : Nat} {definitions : Definitions}
      (harrives : Arrives region readQuote readItem stop index definitions)
      (hindex : index < stop) (hfirst : firstLine region index < stop)
      (hmargin : region.isOutdented (firstLine region index) = false) :
      Arrives region readQuote readItem stop
        (lineBehind region stop
          (readBlock region readQuote readItem (firstLine region index) stop definitions).next)
        (readBlock region readQuote readItem (firstLine region index) stop definitions).definitions

theorem lineBehind_le (stop : Nat) {wall next : Nat} (hwall : Wall region wall)
    (hnext : next ≤ wall + 1) : lineBehind region stop next ≤ wall + 1 := by
  rw [lineBehind]
  split
  next hmeets =>
    rw [Bool.and_eq_true] at hmeets
    refine Nat.lt_of_le_of_ne hnext ?_
    rintro rfl
    rw [hwall.isSolid] at hmeets
    cases hmeets.2
  next => exact hnext

theorem isEmpty_firstLine (region : Region) (index : Nat)
    (hlt : firstLine region index < region.limit) :
    (region.line (firstLine region index)).isEmpty = false :=
  isEmpty_skipEmpty _ _ _ (by rw [firstLine] at hlt; omega)

/-- Blank lines do not matter for the definitions that are met. -/
theorem definitions_readLoop (left index : Nat) (hadBlank isTight : Bool)
    (definitions : Definitions) :
    (readLoop region readQuote readItem stop left index hadBlank isTight definitions).definitions =
      (readLoop region readQuote readItem stop left index false true definitions).definitions := by
  induction left generalizing index hadBlank isTight definitions with
  | zero => rfl
  | succ left ih =>
      simp only [readLoop]
      split
      · rfl
      · split
        · rfl
        · exact (ih _ _ _ _).trans (ih _ _ _ _).symm

/-- A loop takes its definitions from one block at a time. -/
theorem definitions_readLoop_succ {left index : Nat} (definitions : Definitions)
    (hindex : index < stop) (hfirst : firstLine region index < stop)
    (hmargin : region.isOutdented (firstLine region index) = false) :
    (readLoop region readQuote readItem stop (left + 1) index false true definitions).definitions =
      (readLoop region readQuote readItem stop left
        (lineBehind region stop
          (readBlock region readQuote readItem (firstLine region index) stop definitions).next)
        false true
        (readBlock region readQuote readItem (firstLine region index) stop
          definitions).definitions).definitions := by
  rw [firstLine] at hfirst hmargin ⊢
  rw [readLoop, if_neg (Nat.not_le_of_lt hindex)]
  simp only [hmargin, Nat.not_le_of_lt hfirst, decide_false, Bool.or_false, Bool.false_eq_true,
    if_false]
  exact definitions_readLoop left _ _ _ _

/-- Where the next block starts, reading goes on as from the blank lines in front of it. -/
theorem readLoop_firstLine {left index : Nat} (hadBlank isTight : Bool) (definitions : Definitions)
    (hindex : index < stop) (hsolid : (region.line (firstLine region index)).isEmpty = false) :
    readLoop region readQuote readItem stop (left + 1) index hadBlank isTight definitions =
      readLoop region readQuote readItem stop (left + 1) (firstLine region index) hadBlank isTight
        definitions := by
  rw [readLoop, readLoop, if_neg (Nat.not_le_of_lt hindex), skipEmpty_of_solid hsolid, ← firstLine]
  split
  next hover => simp [hover]
  next => rfl

theorem lt_lineBehind (hquote : readQuote.IsBounded) (hitem : readItem.IsBounded)
    (hlimit : stop ≤ region.limit) {index : Nat} (definitions : Definitions)
    (hfirst : firstLine region index < stop) :
    index < lineBehind region stop
      (readBlock region readQuote readItem (firstLine region index) stop definitions).next := by
  have hsolid := isEmpty_firstLine region _ (Nat.lt_of_lt_of_le hfirst hlimit)
  have hstep := (bounds_readBlock hquote hitem hlimit hfirst hsolid definitions).1
  calc index
      ≤ firstLine region index := le_skipEmpty region _ index
    _ < (readBlock region readQuote readItem (firstLine region index) stop definitions).next :=
        hstep
    _ ≤ _ := le_lineBehind region stop _

/-- At the line it comes to, the reader has steps enough left to go on to the end. -/
theorem Arrives.exists_readLoop (hquote : readQuote.IsBounded) (hitem : readItem.IsBounded)
    (hlimit : stop ≤ region.limit) {index : Nat} {definitions : Definitions}
    (harrives : Arrives region readQuote readItem stop index definitions) {steps : Nat}
    (hsteps : stop < steps) :
    ∃ left, steps ≤ left + index ∧
      (readLoop region readQuote readItem stop steps 0 false true []).definitions =
        (readLoop region readQuote readItem stop left index false true
          definitions).definitions := by
  induction harrives with
  | start => exact ⟨steps, Nat.le_refl steps, rfl⟩
  | step _ hindex hfirst hmargin ih =>
      obtain ⟨left, hleft, heq⟩ := ih
      obtain ⟨left, rfl⟩ := Nat.exists_eq_add_of_le' (show 1 ≤ left by omega)
      rename_i index definitions _
      have hlt := lt_lineBehind hquote hitem hlimit definitions hfirst
      refine ⟨left, by omega, ?_⟩
      rw [heq, definitions_readLoop_succ definitions hindex hfirst hmargin]

/-- Nothing that starts in front of a blank line is left open there: fences, lists and HTML that a
blank line does not end do not take in what is behind it. -/
def IsClosed (region : Region) (readQuote readItem : Reader) (stop wall : Nat) : Prop :=
  ∀ index definitions, Arrives region readQuote readItem stop index definitions →
    firstLine region index < wall → mayRunOn region (firstLine region index) →
    (readBlock region readQuote readItem (firstLine region index) stop definitions).next ≤ wall + 1

/-- Behind a blank line at which nothing is open a new block starts. -/
theorem Arrives.exists_firstLine (hquote : readQuote.IsBounded) (hitem : readItem.IsBounded)
    (hlimit : stop ≤ region.limit) {wall : Nat} (hwall : Wall region wall)
    (hcode : region.isCode (wall + 1) = false) (hstop : wall + 1 < stop)
    (hmargin : ∀ index, region.isOutdented index = false)
    (hclosed : IsClosed region readQuote readItem stop wall) {index : Nat}
    {definitions : Definitions}
    (harrives : Arrives region readQuote readItem stop index definitions)
    (hindex : index ≤ wall + 1) :
    ∃ last written, Arrives region readQuote readItem stop last written ∧
      last ≤ wall + 1 ∧ firstLine region last = wall + 1 := by
  induction hleft : wall + 1 - index using Nat.strongRecOn generalizing index definitions with
  | ind left ih =>
      have hfirst : firstLine region index ≤ wall + 1 := skipEmpty_le hwall _ _ hindex
      rcases Nat.eq_or_lt_of_le hfirst with heq | hlt
      · exact ⟨index, definitions, harrives, hindex, heq⟩
      · have hsolid := isEmpty_firstLine region index (by omega)
        have hbefore : firstLine region index < wall :=
          Nat.lt_of_le_of_ne (Nat.le_of_lt_succ hlt) (hwall.ne_of_isSolid hsolid)
        have hnext : (readBlock region readQuote readItem (firstLine region index) stop
            definitions).next ≤ wall + 1 := by
          cases hruns : mayRunOn region (firstLine region index) with
          | true => exact hclosed index definitions harrives hbefore hruns
          | false =>
              exact (bounds_readBlock hquote hitem hlimit (by omega) hsolid definitions).2 wall
                hwall hbefore (.inr ⟨hcode, hruns⟩)
        have hgoes := lt_lineBehind hquote hitem hlimit definitions
          (show firstLine region index < stop by omega)
        have hbehind := lineBehind_le stop hwall hnext
        exact ih _ (by omega) (.step harrives (by omega) (by omega) (hmargin _)) hbehind rfl

/-- The definitions of a document that ends, behind a blank line at which nothing is open, in lines
with entries: those met in front of the blank line and those of the entries in front of the first
one that defines nothing. -/
theorem definitions_of_holds (hquote : readQuote.IsBounded) (hitem : readItem.IsBounded)
    (hregion : region.IsTop) (hlimit : region.limit = region.lines.size) {wall : Nat}
    (hwall : Wall region wall) (hmargin : ∀ index, region.isOutdented index = false)
    (hclosed : IsClosed region readQuote readItem region.lines.size wall) {front rest : List Entry}
    (hholds : region.Holds (wall + 1) (front ++ rest)) (hentries : front ++ rest ≠ [])
    (hfront : ∀ entry ∈ front, entry.IsDefinition)
    (hrest : ∀ entry ∈ rest.head?, entry.IsBroken) :
    ∃ last written, Arrives region readQuote readItem region.lines.size last written ∧
      last ≤ wall + 1 ∧
      (readLoop region readQuote readItem region.lines.size (region.lines.size + 1) 0 false true
        []).definitions = written.addAll front := by
  have hpositive := List.length_pos_iff.mpr hentries
  have hsize := hholds.size
  have hline : (region.line (wall + 1)).IsBracketed :=
    hholds.isBracketed (Nat.le_refl (wall + 1)) (by omega)
  obtain ⟨last, written, harrives, hlast, hfirst⟩ := Arrives.exists_firstLine hquote hitem
    (Nat.le_of_eq hlimit.symm) hwall (Region.isCode_eq_false hregion hline) (by omega) hmargin
    hclosed .start (Nat.zero_le (wall + 1))
  obtain ⟨left, hleft, heq⟩ := harrives.exists_readLoop hquote hitem (Nat.le_of_eq hlimit.symm)
    (Nat.lt_succ_self region.lines.size)
  obtain ⟨left, rfl⟩ := Nat.exists_eq_add_of_le' (show 1 ≤ left by omega)
  refine ⟨last, written, harrives, hlast, ?_⟩
  rw [heq, readLoop_firstLine false true written (by omega) (by rw [hfirst]; exact hwall.isSolid),
    hfirst]
  exact definitions_readLoop_of_holds hregion hlimit hholds hfront hrest (left + 1) (by omega) false
    true written

/-! ### Plain lines -/

theorem listStart?_of_isPlain {index : Nat} (hplain : (region.line index).IsPlain)
    (inParagraph : Bool) : listStart? region index inParagraph = none := by
  simp [listStart?, hplain.noItem]

/-- A line that does not start with a bracket holds no definition. -/
theorem read?_eq_none {index : Nat} (hbracket : (region.line index).content.head? ≠ some '[') :
    DefinitionReader.read? region index = none := by
  have hhead : ∀ rest, (region.line index).contentWithEnd ≠ '[' :: rest := by
    intro rest heq
    rw [Line.contentWithEnd] at heq
    cases hcontent : (region.line index).content with
    | nil =>
        rw [hcontent, List.nil_append] at heq
        split at heq
        · cases heq
        · cases heq
    | cons c text =>
        rw [hcontent, List.cons_append, List.cons.injEq] at heq
        rw [hcontent, heq.1] at hbracket
        exact hbracket rfl
  unfold DefinitionReader.read?
  split
  next => rfl
  next =>
    dsimp only
    split
    · next heq => exact absurd heq (hhead _)
    · rfl

/-- A label without a colon behind it defines nothing. -/
theorem read?_eq_none_of_label {index : Nat} {label rest : List Char} {c : Char}
    (hlabel : DefinitionReader.IsName label) (hc : c ≠ ':')
    (hcontent : (region.line index).content = '[' :: (label ++ ']' :: c :: rest)) :
    DefinitionReader.read? region index = none := by
  have hleft : label.length <
      region.lines.foldl (fun total line => total + line.text.length + 1) 1 := by
    have hlength := DefinitionReader.length_content_lt region index (by simp [hcontent])
    rw [hcontent, List.length_cons, List.length_append] at hlength
    omega
  have hread (behind : List Char) := @DefinitionReader.label?_of_isName label behind hlabel region
    _ (index + 1) hleft []
  by_cases hcode : region.isCode index
  · simp [DefinitionReader.read?, hcode]
  · simp [DefinitionReader.read?, hcode, Line.contentWithEnd, hcontent, hread, hc]

/-! ### Still lines -/

/-- A line where no definition is read and no block starts that may run on. -/
structure IsStill (region : Region) (index : Nat) : Prop where
  noFence : fenceStart? (region.line index).content = none
  noQuote : (region.line index).content.head? ≠ some '>'
  noItem : ∀ inParagraph, listStart? region index inParagraph = none
  noHtml : Html.blockKind? (region.line index).content = none
  noDefinition : DefinitionReader.read? region index = none

namespace IsStill

variable {index : Nat}

theorem of_isPlain (hplain : (region.line index).IsPlain) : IsStill region index where
  noFence := hplain.noFence
  noQuote := hplain.noQuote
  noItem := listStart?_of_isPlain hplain
  noHtml := hplain.noHtml
  noDefinition := read?_eq_none hplain.noBracket

theorem of_startsLabel (hline : (region.line index).StartsLabel) : IsStill region index := by
  obtain ⟨label, c, rest, hlabel, hc, hcontent⟩ := hline
  refine ⟨?_, ?_, fun inParagraph => ?_, ?_, read?_eq_none_of_label hlabel hc hcontent⟩
  · simp [hcontent, fenceStart?]
  · simp [hcontent]
  · simp [listStart?, hcontent, ListMarker.ofContent?]
  · rw [hcontent]
    rfl

theorem mayRunOn_eq_false (hstill : IsStill region index) : mayRunOn region index = false := by
  simp [mayRunOn, hstill.noFence, hstill.noItem, hstill.noHtml]

/-- A block on a still line adds no definitions. -/
theorem definitions_readBlock (hstill : IsStill region index) (definitions : Definitions) :
    (readBlock region readQuote readItem index stop definitions).definitions = definitions := by
  simp only [readBlock, hstill.noFence, hstill.noQuote, hstill.noItem, hstill.noDefinition,
    if_false]
  split
  · rfl
  · split
    · rfl
    · split
      · rfl
      · split
        · rfl
        · split
          · rfl
          · split <;> rfl

end IsStill

/-- In front of a blank line behind still lines no definitions are met. -/
theorem Arrives.definitions_eq_nil {wall : Nat} (hquote : readQuote.IsBounded)
    (hitem : readItem.IsBounded) (hlimit : stop ≤ region.limit) (hwall : Wall region wall)
    (hstill : ∀ index < wall, IsStill region index) {index : Nat}
    {definitions : Definitions}
    (harrives : Arrives region readQuote readItem stop index definitions)
    (hindex : index ≤ wall + 1) : definitions = [] := by
  induction harrives with
  | start => rfl
  | @step index definitions _ hbefore hfirst hmargin ih =>
      have hsolid := isEmpty_firstLine region _ (Nat.lt_of_lt_of_le hfirst hlimit)
      have hstep := (bounds_readBlock hquote hitem hlimit hfirst hsolid definitions).1
      have hreaches := le_lineBehind region stop
        (readBlock region readQuote readItem (firstLine region index) stop definitions).next
      have hbehind := le_skipEmpty region (region.limit - index) index
      rw [← firstLine] at hbehind
      have hne := hwall.ne_of_isSolid hsolid
      rw [(hstill _ (by omega)).definitions_readBlock, ih (by omega)]

/-- Still lines leave nothing open. -/
theorem isClosed_of_isStill {wall : Nat} (hstill : ∀ index < wall, IsStill region index) :
    IsClosed region readQuote readItem stop wall := by
  intro index definitions _ hbefore hruns
  rw [(hstill _ hbefore).mayRunOn_eq_false] at hruns
  cases hruns

end BlockReader

end CrateReadme.Markdown
