import CrateReadme.Proofs.Markdown.Fence
import CrateReadme.Proofs.Text.Decimal

/-!
# How blocks are laid out

A document is written block by block. With the content of its blocks spelled out this is a matter of
lines only: which lines a block takes, what stands in front of them inside quotes and lists, and
where blank lines come between.
-/

namespace CrateReadme.Markdown

open BlockReader (RawBlock)

namespace Block

variable {Content : Type}

mutual

/-- The headings in a block with their levels, those inside quotes and list items too. -/
def headings : Block Content → List (Nat × Content)
  | .heading level content => [(level, content)]
  | .quote children => headingsAll children
  | .bulletList _ items | .orderedList _ _ items => headingsItems items
  | .paragraph _ | .fence _ _ | .indentedCode _ | .rule | .html _ | .table _ _ _ => []

def headingsAll : List (Block Content) → List (Nat × Content)
  | [] => []
  | block :: blocks => headings block ++ headingsAll blocks

def headingsItems : List (List (Block Content)) → List (Nat × Content)
  | [] => []
  | item :: items => headingsAll item ++ headingsItems items

end

end Block

namespace Printer

/-! ### Blocks whose content is spelled out -/

/-- The cells of rows as they are written. -/
def spelledRows : List (List (List Inline)) → List (List Char) →
    List (List (List Char)) × List (List Char)
  | [], links => ([], links)
  | first :: more, links =>
    let (texts, links) := cells first links
    let (rows, links) := spelledRows more links
    (texts :: rows, links)

mutual

def spelled : Block (List Inline) → List (List Char) → RawBlock × List (List Char)
  | .paragraph inlineContent, links =>
    let (text, links) := content .paragraph inlineContent links
    (.paragraph text, links)
  | .heading level inlineContent, links =>
    let (text, links) := content .heading inlineContent links
    (.heading level text, links)
  | .quote children, links =>
    let (blocks, links) := spelledAll children links
    (.quote blocks, links)
  | .bulletList isTight children, links =>
    let (items, links) := spelledItems children links
    (.bulletList isTight items, links)
  | .orderedList start isTight children, links =>
    let (items, links) := spelledItems children links
    (.orderedList start isTight items, links)
  | .fence info code, links => (.fence info code, links)
  | .indentedCode code, links => (.indentedCode code, links)
  | .rule, links => (.rule, links)
  | .html source, links => (.html source, links)
  | .table alignments header body, links =>
    let (first, links) := cells header links
    let (rows, links) := spelledRows body links
    (.table alignments first rows, links)

def spelledAll : List (Block (List Inline)) → List (List Char) →
    List RawBlock × List (List Char)
  | [], links => ([], links)
  | first :: rest, links =>
    let (block, links) := spelled first links
    let (blocks, links) := spelledAll rest links
    (block :: blocks, links)

def spelledItems : List (List (Block (List Inline))) → List (List Char) →
    List (List RawBlock) × List (List Char)
  | [], links => ([], links)
  | first :: rest, links =>
    let (item, links) := spelledAll first links
    let (items, links) := spelledItems rest links
    (item :: items, links)

end

/-! ### The lines of a block -/

/-- The lines of blocks or items one after the other, with a blank line between neighbours unless
they stand close together. -/
def joined (isTight : Bool) : List (List (List Char)) → List (List Char)
  | [] => [[]]
  | [part] => part
  | part :: parts => part ++ (if isTight then [] else [[]]) ++ joined isTight parts

def marked (marker : List Char) : List (List Char) → List (List Char)
  | [] => [Text.trimEnd Text.isBlank marker]
  | first :: rest =>
    Text.trimEnd Text.isBlank (marker ++ first) ::
      rest.map fun line => if line.isEmpty then [] else List.replicate marker.length ' ' ++ line

def quoted (lines : List (List Char)) : List (List Char) :=
  lines.map fun line => if line.isEmpty then ['>'] else '>' :: ' ' :: line

mutual

/-- The lines of a block; `alternate` says that a list takes the other marker. -/
def blockLines (alternate : Bool) : RawBlock → List (List Char)
  | .paragraph text => Text.lines text
  | .heading level text =>
    Text.lines (Text.trimEnd Text.isBlank (List.replicate (level + 1) '#' ++ ' ' :: text))
  | .quote children => quoted (joined false (blocksLines none false children))
  | .bulletList isTight children =>
    let close := isClose isTight children
    joined close (itemsLines close none alternate 0 children)
  | .orderedList start isTight children =>
    let close := isClose isTight children
    joined close (itemsLines close (some start) alternate 0 children)
  | .fence info code => Text.lines (CodeBlock.render (.ofText info) code)
  | .indentedCode code => Text.lines (CodeBlock.render (.ofText []) code)
  | .rule => ["---".toList]
  | .html source => Text.lines (Text.trimEnd (· = '\n') source)
  | .table alignments header body =>
    Text.lines (Text.unlines (row header :: row (alignments.map alignment) :: body.map row))

def blocksLines (previous : Option RawBlock) (alternate : Bool) :
    List RawBlock → List (List (List Char))
  | [] => []
  | first :: rest =>
    let alternate := previous.any first.sameKind && !alternate
    blockLines alternate first :: blocksLines (some first) alternate rest

def itemsLines (isTight : Bool) (start : Option Nat) (alternate : Bool) (number : Nat) :
    List (List RawBlock) → List (List (List Char))
  | [] => []
  | first :: rest =>
    marked (marker start alternate number) (joined isTight (blocksLines none false first)) ::
      itemsLines isTight start alternate (number + 1) rest

end

/-! ### Written blocks, line by line -/

/-- Joined texts have the lines of each, put together in the same way. -/
theorem lines_joinWith (isTight : Bool) (texts : List (List Char)) :
    Text.lines (Text.joinWith (separator isTight) texts) =
      joined isTight (texts.map Text.lines) := by
  induction texts with
  | nil => rfl
  | cons text texts ih =>
    cases texts with
    | nil => rfl
    | cons next texts =>
      rw [List.map_cons, List.map_cons, joined, ← List.map_cons, ← ih, Text.joinWith]
      · cases isTight with
        | true =>
          rw [List.append_assoc]
          exact (Text.lines_append text _).trans (by simp)
        | false =>
          rw [List.append_assoc]
          refine (Text.lines_append text _).trans ?_
          rw [List.append_assoc]
          exact congrArg (Text.lines text ++ ·) (Text.lines_append [] _)
      all_goals exact List.cons_ne_nil _ _

theorem mem_of_mem_trimEnd {drop : Char → Bool} {text : List Char} {c : Char}
    (hmem : c ∈ Text.trimEnd drop text) : c ∈ text :=
  (List.rdropWhile_prefix drop text).subset hmem

/-- An item has the lines of its text behind its mark. -/
theorem lines_itemLines {mark : List Char} (hmark : '\n' ∉ mark) (text : List Char) :
    Text.lines (itemLines mark text) = marked mark (Text.lines text) := by
  rw [itemLines]
  split
  next hnil => exact absurd hnil (Text.lines_ne_nil text)
  next first rest hlines =>
    rw [hlines, marked]
    have hline : ∀ line ∈ first :: rest, '\n' ∉ line := fun line hmem =>
      Text.not_mem_of_mem_lines (hlines ▸ hmem)
    refine Text.lines_unlines (List.cons_ne_nil _ _) (List.forall_mem_cons.mpr ⟨fun hmem => ?_, ?_⟩)
    · rcases List.mem_append.mp (mem_of_mem_trimEnd hmem) with hmem | hmem
      · exact hmark hmem
      · exact hline first List.mem_cons_self hmem
    · intro part hpart hmem
      obtain ⟨line, hrest, rfl⟩ := List.mem_map.mp hpart
      split at hmem
      next => exact List.not_mem_nil hmem
      next =>
        rcases List.mem_append.mp hmem with hmem | hmem
        · exact absurd (List.eq_of_mem_replicate hmem) (by decide)
        · exact hline line (List.mem_cons_of_mem first hrest) hmem

theorem lines_quoteLines (text : List Char) :
    Text.lines (quoteLines text) = quoted (Text.lines text) := by
  rw [quoteLines, quoted]
  refine Text.lines_unlines (by simp [Text.lines_ne_nil]) fun part hpart hmem => ?_
  obtain ⟨line, hline, rfl⟩ := List.mem_map.mp hpart
  split at hmem
  next => exact absurd hmem (by decide)
  next =>
    have hin : '\n' ∈ line := by simpa using hmem
    exact Text.not_mem_of_mem_lines hline hin

theorem not_mem_marker (start : Option Nat) (alternate : Bool) (number : Nat) :
    '\n' ∉ marker start alternate number := by
  intro hmem
  cases start with
  | none => cases alternate <;> simp [marker] at hmem
  | some first =>
    rcases List.mem_append.mp hmem with hdigit | hend
    · exact absurd (Text.isDecimal_of_mem_decimal hdigit) (by decide)
    · cases alternate <;> simp at hend

theorem sameKind_spelled (block other : Block (List Inline)) (links more : List (List Char)) :
    (spelled block links).1.sameKind (spelled other more).1 = block.sameKind other := by
  cases block <;> cases other <;> rfl

theorem isParagraph_spelled (block : Block (List Inline)) (links : List (List Char)) :
    (spelled block links).1.isParagraph = block.isParagraph := by
  cases block <;> rfl

theorem any_isParagraph_spelledAll (blocks : List (Block (List Inline)))
    (links : List (List Char)) :
    (spelledAll blocks links).1.all (fun block => !block.isParagraph) =
      blocks.all fun block => !block.isParagraph := by
  induction blocks generalizing links with
  | nil => rfl
  | cons block blocks ih => simp only [spelledAll, List.all_cons, isParagraph_spelled, ih]

theorem isClose_spelledItems (isTight : Bool) (items : List (List (Block (List Inline))))
    (links : List (List Char)) :
    isClose isTight (spelledItems items links).1 = isClose isTight items := by
  have hall : (spelledItems items links).1.all (fun item => item.all fun block =>
      !block.isParagraph) = items.all fun item => item.all fun block => !block.isParagraph := by
    induction items generalizing links with
    | nil => rfl
    | cons item items ih =>
      simp only [spelledItems, List.all_cons, any_isParagraph_spelledAll, ih]
  rw [isClose, isClose, hall]

theorem rows_eq (body : List (List (List Inline))) (links : List (List Char)) :
    rows body links = ((spelledRows body links).1.map row, (spelledRows body links).2) := by
  induction body generalizing links with
  | nil => rfl
  | cons first more ih => simp only [rows, spelledRows, ih, List.map_cons]

mutual

/-- The lines of a written block are those of the block with its content spelled out, and the same
links are collected. -/
theorem lines_block (alternate : Bool) : (written : Block (List Inline)) →
    (links : List (List Char)) →
    Text.lines (block alternate written links).1 = blockLines alternate (spelled written links).1 ∧
      (block alternate written links).2 = (spelled written links).2
  | .paragraph _, _ | .heading _ _, _ | .fence _ _, _ | .indentedCode _, _ | .html _, _ =>
    ⟨rfl, rfl⟩
  | .rule, _ => ⟨Text.lines_of_not_mem (show '\n' ∉ "---".toList by decide), rfl⟩
  | .quote children, links => by
    obtain ⟨hlines, hlinks⟩ := lines_blocks none none (fun _ _ => rfl) false children links
    refine ⟨?_, hlinks⟩
    simp only [block, spelled, blockLines]
    rw [lines_quoteLines, lines_joinWith, hlines]
  | .bulletList isTight children, links => by
    obtain ⟨hlines, hlinks⟩ :=
      lines_items (isClose isTight children) none alternate 0 children links
    refine ⟨?_, hlinks⟩
    simp only [block, spelled, blockLines]
    rw [lines_joinWith, hlines, isClose_spelledItems]
  | .orderedList start isTight children, links => by
    obtain ⟨hlines, hlinks⟩ :=
      lines_items (isClose isTight children) (some start) alternate 0 children links
    refine ⟨?_, hlinks⟩
    simp only [block, spelled, blockLines]
    rw [lines_joinWith, hlines, isClose_spelledItems]
  | .table alignments header body, links => by
    simp only [block, spelled, blockLines, rows_eq, and_self]

/-- The blocks that are written have the lines that are laid out for them. -/
theorem lines_blocks (previous : Option (Block (List Inline))) (before : Option RawBlock)
    (hbefore : ∀ block links,
      before.any (spelled block links).1.sameKind = previous.any block.sameKind)
    (alternate : Bool) : (written : List (Block (List Inline))) → (links : List (List Char)) →
    (blocks previous alternate written links).1.map Text.lines =
        blocksLines before alternate (spelledAll written links).1 ∧
      (blocks previous alternate written links).2 = (spelledAll written links).2
  | [], _ => ⟨rfl, rfl⟩
  | first :: rest, links => by
    obtain ⟨hfirst, hlinks⟩ := lines_block (previous.any first.sameKind && !alternate) first links
    obtain ⟨hrest, hmore⟩ := lines_blocks (some first) (some (spelled first links).1)
      (fun other more => sameKind_spelled other first more links)
      (previous.any first.sameKind && !alternate) rest (spelled first links).2
    simp only [blocks, spelledAll, blocksLines, List.map_cons, hbefore, hlinks, hfirst, hrest,
      hmore, and_self]

theorem lines_items (isTight : Bool) (start : Option Nat) (alternate : Bool) (number : Nat) :
    (written : List (List (Block (List Inline)))) → (links : List (List Char)) →
    (items isTight start alternate number written links).1.map Text.lines =
        itemsLines isTight start alternate number (spelledItems written links).1 ∧
      (items isTight start alternate number written links).2 = (spelledItems written links).2
  | [], _ => ⟨rfl, rfl⟩
  | first :: rest, links => by
    obtain ⟨hfirst, hlinks⟩ := lines_blocks none none (fun _ _ => rfl) false first links
    obtain ⟨hrest, hmore⟩ := lines_items isTight start alternate (number + 1) rest
      (spelledAll first links).2
    simp only [items, spelledItems, itemsLines, List.map_cons, hlinks, hrest, hmore,
      lines_itemLines (not_mem_marker start alternate number), lines_joinWith, hfirst, and_self]

end

end Printer

end CrateReadme.Markdown
