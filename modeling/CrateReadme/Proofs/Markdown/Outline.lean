import CrateReadme.Proofs.Markdown.Nested
import Mathlib.Data.List.Forall2

/-!
# Headings of written documents

A written document is read again. Where every block keeps to what its lines may say next to those
around them, reading comes from block to block in the order in which they were written, and finds
the headings that were written, one level further down, and no others.
-/

namespace CrateReadme.Markdown

open BlockReader (RawBlock)

namespace Block

variable {Content : Type}

/-! ### How deep blocks nest -/

mutual

/-- Whether the blocks inside a block nest at most `depth` deep, where a list counts twice. -/
def fits (depth : Nat) : Block Content → Bool
  | .quote children => fitsAll depth children
  | .bulletList _ items | .orderedList _ _ items => fitsItems (depth - 1) items
  | .paragraph _ | .heading _ _ | .fence _ _ | .indentedCode _ | .rule | .html _ | .table _ _ _ =>
    true

/-- Whether blocks nest at most `depth` deep. -/
def fitsAll (depth : Nat) : List (Block Content) → Bool
  | [] => true
  | block :: blocks => 0 < depth && fits (depth - 1) block && fitsAll depth blocks

/-- Whether the blocks in list items nest at most `depth` deep. -/
def fitsItems (depth : Nat) : List (List (Block Content)) → Bool
  | [] => true
  | item :: items => fitsAll depth item && fitsItems depth items

end

end Block

namespace BlockReader

/-! ### Blocks next to each other -/

section Sequences

variable {isTight : Bool} {depth : Nat} {previous : Option RawBlock} {alternate : Bool}

/-- A block is read from its first line to its last one, with what is in it. -/
def IsRead (depth : Nat) (alternate : Bool) (block : RawBlock) : Prop :=
  ∀ (region : Region) (stop index last : Nat),
    let lines := Printer.blockLines alternate block
    Framed region stop → region.Stands index lines → index + lines.length = last → last ≤ stop →
    Edge region stop last lines block →
    (∀ start, block.numbering? = some start →
      EndsList region stop (firstLine region last) start alternate) →
    Passes region (readAt depth) (readAt (depth - 1)) stop index (moved (Block.headings block)) last

def AreReadFrom (isTight : Bool) (depth : Nat) (previous : Option RawBlock) (alternate : Bool)
    (blocks : List RawBlock) : Prop :=
  ∀ (region : Region) (stop index last : Nat),
    let lines := Printer.joined isTight (Printer.blocksLines previous alternate blocks)
    Framed region stop → region.Stands index lines → index + lines.length = last → last ≤ stop →
    Closed region stop last →
    Reads region (readAt depth) (readAt (depth - 1)) stop index (moved (Block.headingsAll blocks))
      last

theorem readAt_succ (region : Region) (start stop : Nat) (definitions : Definitions) :
    readAt (depth + 1) region start stop definitions =
      readLoop region (readAt depth) (readAt (depth - 1)) stop (region.lines.size + 1) start false
        true definitions := by
  cases depth <;> rfl

theorem moved_append (front back : List (Nat × List Char)) :
    moved (front ++ back) = moved front ++ moved back :=
  List.map_append

/-- A list behind another one of its kind has a mark of its own. -/
theorem endsList_of_starts {region : Region} {stop place : Nat} {first second : RawBlock}
    {start : Option Nat} (hfirst : first.numbering? = some start)
    (hstarts : Printer.Starts (second.sameKind first && !alternate) second
      (region.line place).content) :
    EndsList region stop place start alternate := by
  cases hstarts with
  | other _ hitem =>
    rcases hitem with hnone | hrule
    · refine .inr (.inr (.inr fun found hfound => ?_))
      rw [hnone] at hfound
      cases hfound
    · exact .inr (.inr (.inl hrule))
  | list start' found hsecond hitem hmark hnumber =>
    refine .inr (.inr (.inr fun found' hfound => ?_))
    obtain rfl := Option.some.inj (hitem.symm.trans hfound)
    rintro ⟨hsameMark, hsameNumber⟩
    rw [hnumber] at hsameNumber
    rw [hmark] at hsameMark
    have hkind : second.sameKind first := by
      cases first <;> cases hfirst <;> cases second <;> cases hsecond <;>
        first | rfl | cases hsameNumber
    rw [hkind, Bool.true_and] at hsameMark
    exact Printer.markOf_not_ne hsameNumber alternate hsameMark

/-- A block is read, and then what follows it. -/
theorem areReadFrom_cons {first : RawBlock} {rest : List RawBlock}
    (hreadable : Printer.isReadableAll isTight previous alternate (first :: rest))
    (hfirst : IsRead depth (previous.any first.sameKind && !alternate) first)
    (hrest : rest ≠ [] → AreReadFrom isTight depth (some first)
      (previous.any first.sameKind && !alternate) rest) :
    AreReadFrom isTight depth previous alternate (first :: rest) := by
  intro region stop index last lines hframed hstands hlast hle hclosed
  rw [Block.headingsAll, moved_append]
  simp only [Printer.isReadableAll, Bool.and_eq_true] at hreadable
  simp only [lines, Printer.blocksLines] at hstands hlast
  obtain ⟨⟨-, hgoes⟩, hmore⟩ := hreadable
  generalize (previous.any first.sameKind && !alternate) = alternate at *
  cases rest with
  | nil =>
    have hpasses := hfirst region stop index last hframed hstands hlast hle (.closed hclosed)
      fun start _ => hclosed.ends.imp_right .inl
    refine hpasses _ last fun next hge hnext => ?_
    exact reads_of_ends _ _ hclosed.ends (firstLine_eq_of_le hge hnext) fun _ => hge
  | cons second rest =>
    obtain ⟨next, more, hlines, hhead, hflush, hstarts⟩ :=
      Printer.exists_head_of_isReadableAll hmore
    rw [hhead, Option.all_some] at hgoes
    have hparts : Printer.blocksLines (some first) alternate (second :: rest) ≠ [] :=
      List.cons_ne_nil _ _
    obtain ⟨place, hpart, hgap, htail, hlength⟩ := exists_gap_of_stands hparts hstands
    rw [hlength] at hlast
    have hshows : (region.line place).Shows region.margin next := (hlines ▸ htail).1
    have hpos : 0 < (Printer.joined isTight
        (Printer.blocksLines (some first) alternate (second :: rest))).length := by
      rw [hlines, List.length_cons]
      exact Nat.succ_pos _
    obtain ⟨hsolid, hinside, -⟩ := Region.isFlush_of_shows hshows hflush
    obtain ⟨hbehind, -⟩ := hgap.bounds
    have hstop := hframed.le_limit
    have hplace := hgap.firstLine_eq (by omega) hsolid
    have hedge : Edge region stop (index + (Printer.blockLines alternate first).length)
        (Printer.blockLines alternate first) first := by
      cases hgap with
      | close => exact .right next (by omega) hshows hflush hgoes
      | blank _ hempty => exact .apart next hempty (by omega) hshows hflush hgoes
    have hpasses := hfirst region stop index _ hframed hpart rfl (by omega) hedge
      fun start hstart => hplace ▸ endsList_of_starts hstart (hshows.content ▸ hstarts)
    refine hpasses _ last fun next hge hnext => ?_
    have hsame := (firstLine_eq_of_le hge hnext).trans hplace
    refine Reads.of_firstLine ?_ (by omega) (hsame.symm ▸ hsolid)
    rw [hsame]
    exact hrest (List.cons_ne_nil second rest) region stop place last hframed htail hlast hle
      hclosed

/-- Children are read at a depth if they are read from every block on. -/
theorem areRead_of_areReadFrom {children : List RawBlock} (hfits : Block.fitsAll depth children)
    (hreads : ∀ inner, depth = inner + 1 → children ≠ [] →
      AreReadFrom isTight inner none false children) : AreRead isTight depth children := by
  intro region stop index definitions lines reading hframed hstands hle hends hclosed
  cases children with
  | nil =>
    have hempty : (region.line index).isEmpty := by
      rw [hstands.1.isEmpty_eq]
      rfl
    have hstop := hframed.le_limit
    have hlines : lines.length = 1 := rfl
    rw [hlines] at hle hends ⊢
    have hfirst := firstLine_of_isEmpty (show index < region.limit by omega) hempty
    cases depth with
    | zero =>
      have hnext : reading.next = firstLine region (index + 1) := by
        have hover : (decide (stop ≤ index) || decide (stop ≤ firstLine region index) ||
            region.isOutdented (firstLine region index)) = true := by
          rw [hfirst, Bool.or_eq_true, Bool.or_eq_true, decide_eq_true_eq, decide_eq_true_eq]
          exact hends.imp_left .inr
        rw [← hfirst]
        exact if_pos hover
      exact ⟨rfl, hnext ▸ le_firstLine region (index + 1), Nat.le_of_eq hnext, .inr hnext⟩
    | succ inner =>
      have hread := reads_of_ends (readAt inner) (readAt (inner - 1)) hends hfirst
        (fun hover => by omega) (region.lines.size + 1) false true definitions
        (Nat.lt_of_le_of_lt hframed.le_size (by omega))
      rw [← readAt_succ] at hread
      exact hread
  | cons block blocks =>
    simp only [Block.fitsAll, Bool.and_eq_true, decide_eq_true_eq] at hfits
    obtain ⟨inner, rfl⟩ := Nat.exists_eq_add_of_le' (Nat.succ_le_of_lt hfits.1.1)
    have hne : block :: blocks ≠ [] := List.cons_ne_nil block blocks
    have hread := hreads inner rfl hne region stop index _ hframed hstands rfl hle (hclosed hne)
      (region.lines.size + 1) false true definitions (Nat.lt_of_le_of_lt hframed.le_size (by omega))
    rw [← readAt_succ] at hread
    exact hread

mutual

/-- A block that keeps to its lines is read as it was written. -/
theorem isRead_of_isReadable : (block : RawBlock) → (depth : Nat) → (alternate : Bool) →
    block.fits depth → Printer.isReadable alternate block → IsRead depth alternate block
  | .paragraph _, _, _, _, hreadable | .table _ _ _, _, _, _, hreadable => by
    intro region stop index last lines hframed hstands hlast hle hedge _
    subst hlast
    exact passes_text _ _ hframed hreadable hstands hle hedge fun _ => rfl
  | .heading level text, _, _, _, hreadable => by
    intro region stop index last lines hframed hstands hlast hle hedge _
    subst hlast
    exact passes_heading _ _ hframed hreadable hstands hle hedge
  | .fence words code, _, _, _, hreadable => by
    intro region stop index last lines hframed hstands hlast hle hedge _
    have hcode : Printer.isCodeBlock words lines := hreadable
    have hlines : lines = Text.lines (CodeBlock.render (.ofText words) code) := rfl
    -- From here on no step computes the lines.
    clear_value lines
    subst hlast
    exact passes_code _ _ hframed hcode hlines hstands hle hedge
  | .indentedCode code, _, _, _, hreadable => by
    intro region stop index last lines hframed hstands hlast hle hedge _
    have hcode : Printer.isCodeBlock [] lines := hreadable
    have hlines : lines = Text.lines (CodeBlock.render (.ofText []) code) := rfl
    clear_value lines
    subst hlast
    exact passes_code _ _ hframed hcode hlines hstands hle hedge
  | .rule, _, _, _, _ => by
    intro region stop index last lines hframed hstands hlast hle _ _
    subst hlast
    exact passes_rule _ _ hframed hstands hle
  | .html source, _, _, _, hreadable => by
    intro region stop index last lines hframed hstands hlast hle hedge _
    exact passes_piece _ _ hframed hreadable hstands hlast hle hedge
  | .quote children, depth, alternate, hfits, hreadable => by
    intro region stop index last lines hframed hstands hlast hle hedge _
    have hchildren : AreRead false depth children :=
      areRead_of_areReadFrom hfits fun inner hinner hne =>
        areReadFrom_of_isReadableAll children false inner none false hne (hinner ▸ hfits) hreadable
    exact passes_quote _ hchildren hreadable hframed alternate hstands hlast hle hedge
  | .bulletList isTight items, depth, alternate, hfits, hreadable => by
    intro region stop index last lines hframed hstands hlast hle hedge hends
    simp only [Printer.isReadable, Bool.and_eq_true, Bool.not_eq_true', List.isEmpty_eq_false_iff]
      at hreadable
    exact passes_list _ hreadable.1.2 (areRead_items items _ none alternate 0 _ hfits hreadable.2)
      hreadable.2 rfl hreadable.1.1 hframed hstands hlast hle rfl hedge (hends none rfl)
  | .orderedList start isTight items, depth, alternate, hfits, hreadable => by
    intro region stop index last lines hframed hstands hlast hle hedge hends
    simp only [Printer.isReadable, Bool.and_eq_true, Bool.not_eq_true', List.isEmpty_eq_false_iff]
      at hreadable
    exact passes_list _ hreadable.1.2
      (areRead_items items _ (some start) alternate 0 _ hfits hreadable.2)
      hreadable.2 rfl hreadable.1.1 hframed hstands hlast hle rfl hedge (hends (some start) rfl)

theorem areReadFrom_of_isReadableAll : (blocks : List RawBlock) → (isTight : Bool) →
    (depth : Nat) → (previous : Option RawBlock) → (alternate : Bool) → blocks ≠ [] →
    Block.fitsAll (depth + 1) blocks → Printer.isReadableAll isTight previous alternate blocks →
    AreReadFrom isTight depth previous alternate blocks
  | [], _, _, _, _, hne, _, _ => absurd rfl hne
  | first :: rest, isTight, depth, previous, alternate, _, hfits, hreadable => by
    simp only [Block.fitsAll, Bool.and_eq_true, Nat.add_sub_cancel] at hfits
    have hparts := hreadable
    simp only [Printer.isReadableAll, Bool.and_eq_true] at hparts
    exact areReadFrom_cons hreadable (isRead_of_isReadable first depth _ hfits.1.2 hparts.1.1)
      fun hne => areReadFrom_of_isReadableAll rest isTight depth (some first) _ hne hfits.2 hparts.2

theorem areRead_items : (items : List (List RawBlock)) → (isTight : Bool) → (start : Option Nat) →
    (alternate : Bool) → (number depth : Nat) → Block.fitsItems depth items →
    Printer.isReadableItems isTight start alternate number items →
    ∀ item ∈ items, AreRead isTight depth item
  | [], _, _, _, _, _, _, _ => fun _ hmem => absurd hmem List.not_mem_nil
  | item :: items, isTight, start, alternate, number, depth, hfits, hreadable => by
    simp only [Block.fitsItems, Bool.and_eq_true] at hfits
    simp only [Printer.isReadableItems, Bool.and_eq_true] at hreadable
    refine List.forall_mem_cons.mpr ⟨?_, areRead_items items isTight start alternate (number + 1)
      depth hfits.2 hreadable.2⟩
    exact areRead_of_areReadFrom hfits.1 fun inner hinner hne =>
      areReadFrom_of_isReadableAll item isTight inner none false hne (hinner ▸ hfits.1)
        hreadable.1.2

end

end Sequences

/-! ### What is read nests as deep as it may -/

section Fits

/-- The blocks that a reader finds nest at most `depth` deep. -/
def Reader.Fits (read : Reader) (depth : Nat) : Prop :=
  ∀ region start stop definitions, Block.fitsAll depth (read region start stop definitions).blocks

theorem fitsAll_iff {depth : Nat} {blocks : List RawBlock} :
    Block.fitsAll depth blocks ↔ ∀ block ∈ blocks, 0 < depth ∧ block.fits (depth - 1) := by
  induction blocks with
  | nil => simp [Block.fitsAll]
  | cons block blocks ih =>
    rw [Block.fitsAll, Bool.and_eq_true, Bool.and_eq_true, decide_eq_true_eq, ih,
      List.forall_mem_cons]

/-- The items of a list fit the depth of their reader. -/
theorem fitsItems_listItems {readItem : Reader} {depth : Nat} (hitem : readItem.Fits depth)
    (region : Region) (mark : Char) (isNumber : Bool) (stop left index width : Nat)
    (endsEmpty : Bool) (definitions : Definitions) :
    Block.fitsItems depth (listItems region readItem mark isNumber stop left index width endsEmpty
      definitions).1 := by
  induction left generalizing index width endsEmpty definitions with
  | zero => rfl
  | succ left ih =>
    simp only [listItems]
    rw [← itemRegion, ← itemReading]
    have hblocks : Block.fitsAll depth
        (itemReading region readItem stop index width definitions).blocks := by
      rw [itemReading]
      split
      · rfl
      · exact hitem _ _ _ _
    generalize itemReading region readItem stop index width definitions = item at hblocks
    split
    · split
      · simp only [Block.fitsItems, hblocks, ih, Bool.and_self]
      · simp only [Block.fitsItems, hblocks, Bool.and_self]
    · simp only [Block.fitsItems, hblocks, Bool.and_self]

/-- A block that was read fits the depth of its readers. -/
theorem fits_readBlock {readQuote readItem : Reader} {depth : Nat} (hquote : readQuote.Fits depth)
    (hitem : readItem.Fits (depth - 1)) (region : Region) (index stop : Nat)
    (definitions : Definitions) :
    ∀ block ∈ (readBlock region readQuote readItem index stop definitions).block,
      block.fits depth := by
  intro block hblock
  simp only [readBlock] at hblock
  split at hblock
  next => cases hblock; rfl
  split at hblock
  next => cases hblock; rfl
  split at hblock
  next => cases hblock; rfl
  split at hblock
  next =>
    cases hblock
    exact hquote _ _ _ _
  split at hblock
  next => cases hblock; rfl
  split at hblock
  next marker width _ =>
    have hitems := fitsItems_listItems hitem region marker.mark marker.isNumber stop
      (region.lines.size + 1) index width false definitions
    cases marker <;> cases hblock <;> exact hitems
  split at hblock
  next => cases hblock
  split at hblock
  next => cases hblock; rfl
  split at hblock
  next => cases hblock; rfl
  split at hblock
  next => cases hblock; rfl
  next => cases hblock; rfl

theorem fits_readAt (depth : Nat) : (readAt depth).Fits depth := by
  induction depth using Nat.strongRecOn with
  | ind depth ih =>
    intro region start stop definitions
    cases depth with
    | zero => rfl
    | succ depth =>
      rw [readAt_succ]
      refine fitsAll_iff.mpr fun block hmem => ⟨Nat.succ_pos depth, ?_⟩
      obtain ⟨index, definitions, hread⟩ := exists_readBlock_of_mem _ _ _ _ _ hmem
      have hquote := ih depth (Nat.lt_succ_self depth)
      have hitem := ih (depth - 1) (Nat.lt_succ_of_le (Nat.sub_le depth 1))
      exact fits_readBlock hquote hitem region index stop definitions block hread

end Fits

end BlockReader

/-! ### Documents -/

mutual

theorem fits_spelled (change : List Char → List Inline) : (block : RawBlock) → (depth : Nat) →
    (links : List (List Char)) →
    (Printer.spelled (block.map change) links).1.fits depth = block.fits depth
  | .paragraph _, _, _ | .heading _ _, _, _ | .fence _ _, _, _ | .indentedCode _, _, _ | .rule, _, _
  | .html _, _, _ | .table _ _ _, _, _ => rfl
  | .quote children, depth, links => fitsAll_spelledAll change children depth links
  | .bulletList _ items, depth, links | .orderedList _ _ items, depth, links =>
    fitsItems_spelledItems change items (depth - 1) links

theorem fitsAll_spelledAll (change : List Char → List Inline) : (blocks : List RawBlock) →
    (depth : Nat) → (links : List (List Char)) →
    Block.fitsAll depth (Printer.spelledAll (Block.mapAll change blocks) links).1 =
      Block.fitsAll depth blocks
  | [], _, _ => rfl
  | block :: blocks, depth, links => by
    simp only [Block.mapAll, Printer.spelledAll, Block.fitsAll,
      fits_spelled change block, fitsAll_spelledAll change blocks]

theorem fitsItems_spelledItems (change : List Char → List Inline) :
    (items : List (List RawBlock)) → (depth : Nat) → (links : List (List Char)) →
    Block.fitsItems depth (Printer.spelledItems (Block.mapItems change items) links).1 =
      Block.fitsItems depth items
  | [], _, _ => rfl
  | item :: items, depth, links => by
    simp only [Block.mapItems, Printer.spelledItems, Block.fitsItems,
      fitsAll_spelledAll change item, fitsItems_spelledItems change items]

end

def writtenBlocks (text : List Char) : List RawBlock :=
  (Printer.spelledAll (Document.read true text).blocks []).1

theorem fitsAll_writtenBlocks (text : List Char) :
    Block.fitsAll maxBlockDepth (writtenBlocks text) := by
  rw [writtenBlocks, Document.read_eq, fitsAll_spelledAll]
  exact BlockReader.fits_readAt maxBlockDepth _ _ _ _

theorem trimEnd_of_endsSolid {text : List Char} (hends : Printer.EndsSolid (Text.lines text)) :
    Text.trimEnd (· = '\n') text = text := by
  obtain ⟨last, hlast, hsolid⟩ := hends
  refine List.rdropWhile_eq_self_iff.mpr fun hne hbreak => hsolid ?_
  have hsplit := Text.lines_append text.dropLast []
  rw [← of_decide_eq_true hbreak, List.dropLast_append_getLast hne] at hsplit
  rw [hsplit, show Text.lines [] = [[]] from rfl, List.getLast?_concat] at hlast
  rw [← Option.some.inj hlast]
  rfl

/-- The lines of the body are those of the blocks. -/
theorem lines_normalize {text : List Char}
    (hreadable : Printer.isReadableAll false none false (writtenBlocks text)) :
    ∃ body, (normalize text).text = body ++ ['\n'] ∧
      Text.lines body =
        Printer.joined false (Printer.blocksLines none false (writtenBlocks text)) := by
  have hlines := Printer.lines_joinWith false
    (Printer.blocks none false (Document.read true text).blocks []).1
  rw [(Printer.lines_blocks none none (fun _ _ => rfl) false (Document.read true text).blocks []).1,
    ← writtenBlocks] at hlines
  refine ⟨_, rfl, ?_⟩
  have hbody : Text.trimEnd (· = '\n') (Text.joinWith (Printer.separator false)
      (Printer.blocks none false (Document.read true text).blocks []).1) =
      Text.joinWith (Printer.separator false)
        (Printer.blocks none false (Document.read true text).blocks []).1 := by
    by_cases hempty : (Document.read true text).blocks = []
    · rw [hempty]
      rfl
    · refine trimEnd_of_endsSolid ?_
      rw [hlines]
      refine Printer.endsSolid_blocks false none false _ (fun hnil => hempty ?_) hreadable
      rw [writtenBlocks] at hnil
      cases hblocks : (Document.read true text).blocks with
      | nil => rfl
      | cons block blocks =>
        rw [hblocks] at hnil
        cases hnil
  rw [hbody, hlines]

/-- The lines of a body are read as they are, up to the line end behind the last of them. -/
theorem regionOf_body {body : List Char} (hclean : ∀ c ∈ body ++ ['\n'], IsClean c) :
    Document.regionOf (body ++ ['\n']) =
      ⟨((Text.lines body).map fun line => Line.ofText line true).toArray, 0, none,
        (Text.lines body).length⟩ := by
  have hlast : linesOf.pieces [[]] = [] := by
    rw [linesOf.pieces]
    rfl
  have hlines : linesOf (clean (body ++ ['\n'])) =
      (Text.lines body).map fun line => Line.ofText line true := by
    rw [clean_eq_self hclean, linesOf, Text.lines_append, show Text.lines [] = [[]] from rfl,
      pieces_append _ (List.cons_ne_nil _ _), hlast, List.append_nil]
  rw [Document.regionOf, hlines, List.size_toArray, List.length_map]

theorem stands_ofText (texts : List (List Char)) :
    Region.Stands ⟨(texts.map fun text => Line.ofText text true).toArray, 0, none, texts.length⟩ 0
      texts := by
  refine .of_shows fun offset hoffset => ?_
  have hline : Region.line ⟨(texts.map fun text => Line.ofText text true).toArray, 0, none,
      texts.length⟩ (0 + offset) = Line.ofText texts[offset] true := by
    simp [Region.line, hoffset]
  rw [hline]
  exact shows_ofText _

/-- Blocks that can be read back have their headings read back. -/
theorem headingsAll_readAt {depth : Nat} {blocks : List RawBlock}
    (hread : BlockReader.AreRead false depth blocks) :
    let texts := Printer.joined false (Printer.blocksLines none false blocks)
    let region : Region :=
      ⟨(texts.map fun text => Line.ofText text true).toArray, 0, none, texts.length⟩
    Block.headingsAll (BlockReader.readAt depth region 0 region.lines.size []).blocks =
      BlockReader.moved (Block.headingsAll blocks) := by
  intro texts region
  have hsize : region.lines.size = 0 + texts.length := by simp [region]
  have hclosed : BlockReader.Closed region region.lines.size (0 + texts.length) :=
    ⟨.inl (Nat.le_trans (Nat.le_of_eq hsize) (BlockReader.le_firstLine region _)),
      .inl (Nat.le_of_eq (Nat.zero_add texts.length).symm)⟩
  have hframed : BlockReader.Framed region region.lines.size :=
    ⟨Nat.le_of_eq (hsize.trans (Nat.zero_add texts.length)), Nat.le_refl _⟩
  exact (hread region region.lines.size 0 [] hframed (stands_ofText texts) (Nat.le_of_eq hsize.symm)
    hclosed.ends fun _ => hclosed).1

/-- A heading as it is written, without its number signs. -/
def IsWritten (written : Nat × List Char) (source : Nat × List Inline) : Prop :=
  written.1 = source.1 ∧ ∃ links, written.2 = (Printer.content .heading source.2 links).1

mutual

theorem isWritten_spelled : (block : Block (List Inline)) → (links : List (List Char)) →
    List.Forall₂ IsWritten (Printer.spelled block links).1.headings block.headings
  | .paragraph _, _ | .fence _ _, _ | .indentedCode _, _ | .rule, _ | .html _, _
  | .table _ _ _, _ => .nil
  | .heading _ _, links => .cons ⟨rfl, links, rfl⟩ .nil
  | .quote children, links => isWritten_spelledAll children links
  | .bulletList _ items, links | .orderedList _ _ items, links =>
    isWritten_spelledItems items links

theorem isWritten_spelledAll : (blocks : List (Block (List Inline))) →
    (links : List (List Char)) →
    List.Forall₂ IsWritten (Block.headingsAll (Printer.spelledAll blocks links).1)
      (Block.headingsAll blocks)
  | [], _ => .nil
  | block :: blocks, links =>
    List.rel_append (isWritten_spelled block links)
      (isWritten_spelledAll blocks (Printer.spelled block links).2)

theorem isWritten_spelledItems : (items : List (List (Block (List Inline)))) →
    (links : List (List Char)) →
    List.Forall₂ IsWritten (Block.headingsItems (Printer.spelledItems items links).1)
      (Block.headingsItems items)
  | [], _ => .nil
  | item :: items, links =>
    List.rel_append (isWritten_spelledAll item links)
      (isWritten_spelledItems items (Printer.spelledAll item links).2)

end

/-- Headings move down one level: where the blocks of a documentation text keep to their lines, the
headings that are read from the body are those of the text as they are written, in quotes and list
items too, each of them one level further down, and no other block becomes a heading. -/
theorem headings_normalize (text : List Char)
    (hreadable : Printer.isReadableAll false none false (writtenBlocks text))
    (hclean : ∀ c ∈ (normalize text).text, IsClean c) :
    Block.headingsAll (Document.readingOf (normalize text).text).blocks =
        BlockReader.moved (Block.headingsAll (writtenBlocks text)) ∧
      List.Forall₂ IsWritten (Block.headingsAll (writtenBlocks text))
        (Block.headingsAll (Document.read true text).blocks) := by
  refine ⟨?_, isWritten_spelledAll _ []⟩
  obtain ⟨body, hbody, hlines⟩ := lines_normalize hreadable
  rw [hbody] at hclean ⊢
  have hread : BlockReader.AreRead false maxBlockDepth (writtenBlocks text) :=
    BlockReader.areRead_of_areReadFrom (fitsAll_writtenBlocks text) fun depth hdepth hne =>
      BlockReader.areReadFrom_of_isReadableAll _ false depth none false hne
        (hdepth ▸ fitsAll_writtenBlocks text) hreadable
  have hreading : Document.readingOf (body ++ ['\n']) =
      BlockReader.readAt maxBlockDepth (Document.regionOf (body ++ ['\n'])) 0
        (Document.regionOf (body ++ ['\n'])).lines.size [] := rfl
  rw [hreading, regionOf_body hclean, hlines]
  exact headingsAll_readAt hread

/-- Headings in quotes and list items, with text, a thematic break and code around them. -/
theorem headings_normalize_nested :
    let text :=
      "# A\n\n> ## B\n> - ### C\n>\n>   d\n\n1. e\n   - # F\n\n***\n\n~~~\n# g\n~~~\n\nH\n-".toList
    Printer.isReadableAll false none false (writtenBlocks text) ∧
      (∀ c ∈ (normalize text).text, IsClean c) ∧
      Block.headingsAll (Document.readingOf (normalize text).text).blocks =
        [(2, ['A']), (3, ['B']), (4, ['C']), (2, ['F']), (3, ['H'])] := by
  intro text
  obtain ⟨hreadable, hall, hwritten⟩ :
      Printer.isReadableAll false none false (writtenBlocks text) ∧
        ((normalize text).text.all fun c => c ≠ '\r' ∧ c ≠ '\x00') ∧
        BlockReader.moved (Block.headingsAll (writtenBlocks text)) =
          [(2, ['A']), (3, ['B']), (4, ['C']), (2, ['F']), (3, ['H'])] := by
    decide +kernel
  have hclean : ∀ c ∈ (normalize text).text, IsClean c := by
    intro c hmem
    have hc := List.all_eq_true.mp hall c hmem
    exact show c ≠ '\r' ∧ c ≠ '\x00' from of_decide_eq_true hc
  exact ⟨hreadable, hclean, (headings_normalize text hreadable hclean).1.trans hwritten⟩

/-- A thematic break right behind text, in a list whose items stand close together, is written as
dashes and makes the text a heading. -/
theorem headings_normalize_rule_under_text :
    let text := "- a\n  ***".toList
    (Block.headingsAll (Document.read true text).blocks).length = 0 ∧
      (normalize text).text = "- a\n  ---\n".toList ∧
      Block.headingsAll (Document.readingOf (normalize text).text).blocks = [(2, ['a'])] := by
  decide +kernel

end CrateReadme.Markdown
