import CrateReadme.Proofs.Markdown.Passage

/-!
# Blocks that keep to their lines

Not everything that is written is read as it was meant: text may start a list, and a line of dashes
underlines the text in front of it. Here is what the lines of blocks may say, alone and next to each
other, and how the first and the last of them look then.
-/

namespace CrateReadme.Markdown

open BlockReader (RawBlock)

theorem exists_of_blockKind? {content : List Char} {kind : Html.BlockKind}
    (hkind : Html.blockKind? content = some kind) : ∃ text, content = '<' :: text := by
  rw [Html.blockKind?.eq_def] at hkind
  split at hkind
  next text => exact ⟨text, rfl⟩
  next => cases hkind

/-- The number of the first item of a list, where items are numbered. -/
def Block.numbering? {Content : Type} : Block Content → Option (Option Nat)
  | .bulletList _ _ => some none
  | .orderedList start _ _ => some (some start)
  | _ => none

theorem exists_of_heading? {content text : List Char} {level : Nat}
    (hheading : heading? content = some (level, text)) : ∃ rest, content = '#' :: rest := by
  cases content with
  | nil => cases hheading
  | cons c rest =>
    refine ⟨rest, ?_⟩
    by_contra hne
    have hc : c ≠ '#' := fun heq => hne (by rw [heq])
    simp [heading?, List.takeWhile_cons_of_neg, hc] at hheading

namespace Printer

/-! ### Blocks that keep to their lines -/

/-- Whether nothing but text starts on a line. -/
def isQuietLine (line : List Char) : Bool :=
  isFlush line && !opens false (stripped line)

/-- Whether lines are text: no block starts on them which text does not run over, and no line
underlines those in front of it. -/
def isText : List (List Char) → Bool
  | [] => false
  | first :: rest => isQuietLine first &&
      rest.all fun line => isQuietLine line && (underline? (stripped line)).isNone

/-- Whether the first two lines are the head of a table. -/
def beginsTable : List (List Char) → Bool
  | header :: under :: _ => headsTable (stripped header) (stripped under)
  | _ => false

/-- Whether the only line of a heading is read as it was meant. -/
def isHeadline (level : Nat) (text : List Char) : List (List Char) → Bool
  | [line] => heading? line = some (level, text)
  | _ => false

/-- Whether lines are one piece of HTML: it starts on the first of them and does not end in front of
the last one. -/
def isPiece : List (List Char) → Bool
  | [] => false
  | first :: rest => isFlush first && !beginsTable (first :: rest) &&
      (Html.blockKind? (stripped first)).any fun kind =>
        ((first :: rest).dropLast.all fun line => !kind.endsAt (stripped line)) &&
          (first :: rest).getLast?.any fun line =>
            stripped line ≠ [] && !(kind.endsAt (stripped line) && kind.endsAt [])

def isCodeBlock (info : List Char) (lines : List (List Char)) : Bool :=
  '`' ∉ (CodeBlock.Info.ofText info).language && !beginsTable lines

/-- Whether lines can stand behind the marker of a list item. -/
def isItem (marker : List Char) (lines : List (List Char)) : Bool :=
  let first := lines.headD []
  marker.length ≤ 11 && first.head?.all (fun c => !isSpace c) && !first.getLast?.any Text.isBlank &&
    !isRule (marker ++ first)

/-- Whether a line starts with something other than white space. -/
def isAtMargin (line : List Char) : Bool :=
  line.head?.any fun c => !isSpace c

def endsPiece (lines : List (List Char)) : Bool :=
  (lines.head?.bind fun line => Html.blockKind? (stripped line)).all fun kind =>
    lines.getLast?.any fun line => kind.endsAt (stripped line)

def endsAtBlank (lines : List (List Char)) : Bool :=
  (lines.head?.bind fun line => Html.blockKind? (stripped line)).all fun kind => kind.endsAt []

/-- Whether a block ends in front of the first line of another one, with no blank line between
them. -/
def endsBefore (lines : List (List Char)) (next : List Char) : RawBlock → Bool
  | .paragraph _ | .table _ _ _ =>
    opens true (stripped next) && (underline? (stripped next)).isNone &&
      lines.all fun line => (Html.blockKind? (stripped line)).isNone
  | .quote _ => opens false (stripped next) && (stripped next).head? ≠ some '>'
  | .bulletList _ _ | .orderedList _ _ _ => opens false (stripped next) && isAtMargin next
  | .html _ => endsPiece lines
  | .heading _ _ | .fence _ _ | .indentedCode _ | .rule => true

/-- Whether a block ends in front of a blank line with the first line of another one behind it. -/
def endsApart (lines : List (List Char)) (next : List Char) : RawBlock → Bool
  | .bulletList _ _ | .orderedList _ _ _ => isAtMargin next
  | .html _ => endsPiece lines || endsAtBlank lines
  | .paragraph _ | .heading _ _ | .quote _ | .fence _ _ | .indentedCode _ | .rule | .table _ _ _ =>
    true

/-- Whether a block and the first line of the next one go together. -/
def goesWith (isTight : Bool) (lines : List (List Char)) (next : List Char) (block : RawBlock) :
    Bool :=
  if isTight then
    endsBefore lines next block &&
      lines.getLast?.all fun last => !headsTable (stripped last) (stripped next)
  else
    endsApart lines next block

mutual

def isReadable (alternate : Bool) : RawBlock → Bool
  | .paragraph text => isText (blockLines alternate (.paragraph text))
  | .heading level text =>
    isHeadline (level + 1) text (blockLines alternate (.heading level text))
  | .quote children => isReadableAll false none false children
  | .bulletList isTight items =>
    !beginsTable (blockLines alternate (.bulletList isTight items)) && !items.isEmpty &&
      isReadableItems (isClose isTight items) none alternate 0 items
  | .orderedList start isTight items =>
    !beginsTable (blockLines alternate (.orderedList start isTight items)) && !items.isEmpty &&
      isReadableItems (isClose isTight items) (some start) alternate 0 items
  | .fence info code => isCodeBlock info (blockLines alternate (.fence info code))
  | .indentedCode code => isCodeBlock [] (blockLines alternate (.indentedCode code))
  | .rule => true
  | .html source => isPiece (blockLines alternate (.html source))
  | .table alignments header rows => isText (blockLines alternate (.table alignments header rows))

/-- Whether blocks keep to their lines, each of them and next to each other. -/
def isReadableAll (isTight : Bool) (previous : Option RawBlock) (alternate : Bool) :
    List RawBlock → Bool
  | [] => true
  | first :: rest =>
    let alternate := previous.any first.sameKind && !alternate
    let following := (blocksLines (some first) alternate rest).head?.bind List.head?
    isReadable alternate first &&
      following.all (fun next => goesWith isTight (blockLines alternate first) next first) &&
        isReadableAll isTight (some first) alternate rest

def isReadableItems (isTight : Bool) (start : Option Nat) (alternate : Bool) (number : Nat) :
    List (List RawBlock) → Bool
  | [] => true
  | first :: rest =>
    isItem (marker start alternate number) (joined isTight (blocksLines none false first)) &&
      isReadableAll isTight none false first &&
        isReadableItems isTight start alternate (number + 1) rest

end

theorem forall_of_isText {lines : List (List Char)} (htext : isText lines) :
    lines ≠ [] ∧ (∀ line ∈ lines, isQuietLine line) ∧
      ∀ line ∈ lines.tail, underline? (stripped line) = none := by
  cases lines with
  | nil => cases htext
  | cons first rest =>
    simp only [isText, Bool.and_eq_true, List.all_eq_true, Option.isNone_iff_eq_none] at htext
    refine ⟨List.cons_ne_nil first rest, List.forall_mem_cons.mpr ⟨htext.1, ?_⟩, ?_⟩
    · exact fun line hmem => (htext.2 line hmem).1
    · exact fun line hmem => (htext.2 line hmem).2

theorem of_endsBefore_text {lines : List (List Char)} {next : List Char} {block : RawBlock}
    (hblock : ∀ next, endsBefore lines next block = endsBefore lines next (.paragraph []))
    (hgoes : goesWith true lines next block) :
    opens true (stripped next) ∧ underline? (stripped next) = none ∧
      ∀ line ∈ lines, Html.blockKind? (stripped line) = none := by
  rw [goesWith, if_pos rfl, Bool.and_eq_true, hblock] at hgoes
  simpa [endsBefore, and_assoc] using hgoes.1

theorem exists_of_isHeadline {level : Nat} {text : List Char} {lines : List (List Char)}
    (hline : isHeadline level text lines) :
    ∃ line, lines = [line] ∧ heading? line = some (level, text) := by
  cases lines with
  | nil => cases hline
  | cons line rest =>
    cases rest with
    | nil => exact ⟨line, rfl, of_decide_eq_true hline⟩
    | cons second rest => cases hline

/-- The lines of a code block: no line between the first and the last closes the fence. -/
theorem exists_lines_render (words code : List Char) :
    ∃ length codeLines, 3 ≤ length ∧
      (∀ line ∈ codeLines, closesFence '`' length (stripped line) = false) ∧
      Text.lines (CodeBlock.render (.ofText words) code) =
        (List.replicate length '`' ++ (CodeBlock.Info.ofText words).language) ::
          (codeLines ++ [List.replicate length '`']) := by
  obtain ⟨codeLines, hlines, hbreaks⟩ := Text.exists_ended_of_getLast?
    (CodeBlock.written_ends (.ofText words) code)
  have hfence : List.replicate (CodeBlock.fence '`' (Text.ended codeLines)).length '`' =
      CodeBlock.fence '`' (Text.ended codeLines) := by
    rw [CodeBlock.fence, List.length_replicate]
  have hmarks : '\n' ∉ CodeBlock.fence '`' (Text.ended codeLines) := by
    rw [← hfence]
    intro hmem
    exact absurd (List.eq_of_mem_replicate hmem) (by decide)
  have hfirst : '\n' ∉ CodeBlock.fence '`' (Text.ended codeLines) ++
      (CodeBlock.Info.ofText words).language := by
    intro hmem
    rcases List.mem_append.mp hmem with hmem | hmem
    · exact hmarks hmem
    · exact absurd (CodeBlock.mem_of_mem_language hmem).2 (by decide)
  refine ⟨(CodeBlock.fence '`' (Text.ended codeLines)).length, codeLines, ?_, ?_, ?_⟩
  · rw [CodeBlock.fence, List.length_replicate]
    exact Nat.le_max_left 3 _
  · intro line hline
    have hcloses := @closesFence_of_mem '`' codeLines line hline
    rwa [show (Line.ofText line true).content = stripped line from drop_takeWhile_isSpace line]
      at hcloses
  · rw [hfence, CodeBlock.render_eq, hlines]
    have hsplit := @Text.lines_ended_append
      ((CodeBlock.fence '`' (Text.ended codeLines) ++ (CodeBlock.Info.ofText words).language) ::
        codeLines) (CodeBlock.fence '`' (Text.ended codeLines))
      (List.forall_mem_cons.mpr ⟨hfirst, hbreaks⟩) hmarks
    rw [Text.ended_cons, List.append_assoc, List.cons_append] at hsplit
    exact hsplit

theorem exists_of_isPiece {lines : List (List Char)} (hpiece : isPiece lines) :
    ∃ first rest kind, lines = first :: rest ∧ isFlush first ∧
      beginsTable (first :: rest) = false ∧ Html.blockKind? (stripped first) = some kind ∧
      (∀ line ∈ (first :: rest).dropLast, kind.endsAt (stripped line) = false) ∧
      ∃ last, (first :: rest).getLast? = some last ∧ stripped last ≠ [] ∧
        (kind.endsAt (stripped last) → kind.endsAt [] = false) := by
  cases lines with
  | nil => cases hpiece
  | cons first rest =>
    simp only [isPiece, Bool.and_eq_true, Bool.not_eq_true', Option.any_eq_true,
      List.all_eq_true, decide_eq_true_eq, Bool.and_eq_false_imp] at hpiece
    obtain ⟨⟨hflush, htable⟩, kind, hkind, hopen, last, hlast, hsolid, hends⟩ := hpiece
    exact ⟨first, rest, kind, rfl, hflush, htable, hkind, hopen, last, hlast, hsolid, hends⟩

/-! ### The marker of a list item -/

/-- The character that ends the markers of a list. -/
def markOf (start : Option Nat) (alternate : Bool) : Char :=
  match start with
  | some _ => if alternate then ')' else '.'
  | none => if alternate then '*' else '-'

/-- The two markers of a kind of lists differ. -/
theorem markOf_not_ne {start other : Option Nat} (hkind : start.isSome = other.isSome)
    (alternate : Bool) : markOf start (!alternate) ≠ markOf other alternate := by
  cases start <;> cases other <;> cases alternate <;> simp [markOf] at hkind ⊢

theorem trimEnd_eq_self {text : List Char} (hend : ¬text.getLast?.any Text.isBlank) :
    Text.trimEnd Text.isBlank text = text := by
  refine List.rdropWhile_eq_self_iff.mpr fun hne hlast => hend ?_
  rw [List.getLast?_eq_some_getLast hne]
  exact hlast

theorem trimEnd_concat_space {text : List Char} (hend : ¬text.getLast?.any Text.isBlank) :
    Text.trimEnd Text.isBlank (text ++ [' ']) = text :=
  (List.rdropWhile_concat_pos _ _ _ (by decide)).trans (trimEnd_eq_self hend)

theorem isDigit_digitChar {digit : Nat} (hdigit : digit < 10) :
    (Text.digitChar digit).isDigit := by
  revert digit
  decide

theorem all_isDigit_decimal (n : Nat) : ∀ c ∈ Text.decimal n, c.isDigit := by
  obtain ⟨first, rest, hdecimal, hfirst, hrest, -⟩ := Text.exists_digits n
  rw [hdecimal]
  intro c hmem
  rcases List.mem_cons.mp hmem with rfl | hmem
  · exact isDigit_digitChar hfirst
  · obtain ⟨digit, hdigit, rfl⟩ := List.mem_map.mp hmem
    exact isDigit_digitChar (hrest digit hdigit)

/-- A marker is a mark and a space. Behind the mark white space or nothing may stand, and the mark
is read as that of an item of the list. -/
structure IsMark (start : Option Nat) (alternate : Bool) (mark : List Char) : Prop where
  head : ∃ c rest, mark = c :: rest ∧ isSpace c = false ∧ c ≠ '`' ∧ c ≠ '~' ∧ c ≠ '>'
  last : ¬mark.getLast?.any Text.isBlank
  item : ∀ rest : List Char, rest.head?.all isSpace → ∃ found : ListMarker,
    ListMarker.ofContent? (mark ++ rest) = some (found, mark.length) ∧
      found.mark = markOf start alternate ∧ found.isNumber = start.isSome

/-- A marker that is not too long is a mark with a blank behind it. -/
theorem exists_isMark (start : Option Nat) (alternate : Bool) (number : Nat)
    (hlength : (marker start alternate number).length ≤ 11) :
    ∃ mark, marker start alternate number = mark ++ [' '] ∧ IsMark start alternate mark := by
  cases start with
  | none =>
    refine ⟨[if alternate then '*' else '-'], by cases alternate <;> rfl, ?_, ?_, ?_⟩
    · cases alternate
      · exact ⟨'-', [], rfl, by decide⟩
      · exact ⟨'*', [], rfl, by decide⟩
    · cases alternate <;> decide
    · intro rest hrest
      refine ⟨.bullet (if alternate then '*' else '-'), ?_, rfl, rfl⟩
      cases alternate <;> simp [ListMarker.ofContent?, hrest]
  | some first =>
    have hdigits := all_isDigit_decimal (first + number)
    obtain ⟨digit, digits, hdecimal, -⟩ := Text.exists_digits (first + number)
    generalize hend : (if alternate then ')' else '.' : Char) = delimiter
    have hdelimiter : delimiter = '.' ∨ delimiter = ')' := by
      cases alternate
      · exact .inl hend.symm
      · exact .inr hend.symm
    have hnot : delimiter.isDigit = false ∧ Text.isBlank delimiter = false := by
      rcases hdelimiter with rfl | rfl <;> decide
    have hmarker : marker (some first) alternate number =
        Text.decimal (first + number) ++ [delimiter] ++ [' '] := by
      rw [marker, hend, List.append_assoc]
      rfl
    rw [hmarker, List.length_append, List.length_append] at hlength
    refine ⟨_, hmarker, ?_, ?_, fun rest hrest => ?_⟩
    · have hdigit := hdigits (Text.digitChar digit) (by rw [hdecimal]; exact List.mem_cons_self)
      refine ⟨Text.digitChar digit, digits.map Text.digitChar ++ [delimiter], by rw [hdecimal]; rfl,
        ?_⟩
      generalize Text.digitChar digit = c at hdigit
      refine ⟨?_, ?_⟩
      · rw [Bool.eq_false_iff]
        intro hspace
        simp only [isSpace, Bool.or_eq_true, decide_eq_true_eq] at hspace
        rcases hspace with rfl | rfl <;> exact absurd hdigit (by decide)
      · refine ⟨?_, ?_, ?_⟩ <;> (rintro rfl; exact absurd hdigit (by decide))
    · rw [List.getLast?_concat]
      simp [hnot.2]
    · have htake : (Text.decimal (first + number) ++ delimiter :: rest).takeWhile Char.isDigit =
          Text.decimal (first + number) := by
        have hstop : ∀ c ∈ (delimiter :: rest).head?, c.isDigit = false := by simp [hnot.1]
        exact (Text.takeWhile_append_of_head? hdigits hstop).1
      have hwidth : (Text.decimal (first + number)).length ≤ 9 := by
        simp only [List.length_cons, List.length_nil] at hlength
        omega
      refine ⟨.number ((Text.natural? 10 (Text.decimal (first + number))).getD 0) delimiter, ?_, ?_,
        rfl⟩
      · rw [List.append_assoc, List.singleton_append, ListMarker.ofContent?, htake, List.drop_left]
        rw [hdecimal] at hwidth ⊢
        simp only [hwidth, hdelimiter, hrest, and_self, if_true]
        simp
      · rw [markOf, hend]
        rfl

/-! ### First and last lines -/

theorem isFlush_cons {c : Char} (hc : isSpace c = false) (rest : List Char) :
    isFlush (c :: rest) := by
  simp [isFlush, List.takeWhile_cons_of_neg, stripped_cons, hc]

theorem joined_cons (isTight : Bool) (part : List (List Char)) {parts : List (List (List Char))}
    (hne : parts ≠ []) :
    joined isTight (part :: parts) =
      part ++ (if isTight then [] else [[]]) ++ joined isTight parts := by
  obtain ⟨next, parts, rfl⟩ := List.exists_cons_of_ne_nil hne
  rfl

/-- The lines of a list item: the marker with the first line, and the others indented. -/
theorem marked_eq {start : Option Nat} {alternate : Bool} {mark first : List Char}
    {rest : List (List Char)} (hmark : IsMark start alternate mark)
    (hitem : isItem (mark ++ [' ']) (first :: rest)) :
    marked (mark ++ [' ']) (first :: rest) =
      (if first = [] then mark else mark ++ ' ' :: first) ::
        rest.map fun line =>
          if line.isEmpty then [] else List.replicate (mark.length + 1) ' ' ++ line := by
  simp only [isItem, List.headD_cons, Bool.and_eq_true, Bool.not_eq_true'] at hitem
  rw [marked, List.length_append, List.length_singleton]
  congr 1
  split
  next hnil => rw [hnil, List.append_nil, trimEnd_concat_space hmark.last]
  next hne =>
    rw [List.append_assoc, List.singleton_append]
    refine trimEnd_eq_self ?_
    rw [List.getLast?_append_of_ne_nil _ (List.cons_ne_nil _ _), List.getLast?_cons,
      List.getLast?_eq_some_getLast hne, Option.getD_some, ← List.getLast?_eq_some_getLast hne]
    simp [hitem.1.2]

theorem joined_ne_nil (isTight : Bool) {parts : List (List (List Char))}
    (hparts : ∀ part ∈ parts, part ≠ []) : joined isTight parts ≠ [] := by
  cases parts with
  | nil => exact List.cons_ne_nil _ _
  | cons part parts =>
    have hpart := hparts part List.mem_cons_self
    cases parts with
    | nil => exact hpart
    | cons next parts =>
      rw [joined_cons isTight part (List.cons_ne_nil next parts), List.append_assoc]
      exact List.append_ne_nil_of_left_ne_nil hpart _

theorem marked_ne_nil (marker : List Char) (lines : List (List Char)) :
    marked marker lines ≠ [] := by
  cases lines <;> exact List.cons_ne_nil _ _

theorem itemsLines_ne_nil (isTight : Bool) (start : Option Nat) (alternate : Bool) (number : Nat)
    (items : List (List RawBlock)) :
    ∀ part ∈ itemsLines isTight start alternate number items, part ≠ [] := by
  induction items generalizing number with
  | nil => exact fun part hmem => absurd hmem List.not_mem_nil
  | cons item items ih => exact List.forall_mem_cons.mpr ⟨marked_ne_nil _ _, ih (number + 1)⟩

mutual

theorem blockLines_ne_nil (alternate : Bool) : (block : RawBlock) → blockLines alternate block ≠ []
  | .paragraph _ | .heading _ _ | .fence _ _ | .indentedCode _ | .html _ | .table _ _ _ =>
    Text.lines_ne_nil _
  | .rule => List.cons_ne_nil _ _
  | .quote children => by
    rw [blockLines, quoted, Ne, List.map_eq_nil_iff]
    exact joined_ne_nil false (blocksLines_ne_nil none false children)
  | .bulletList isTight items => joined_ne_nil _ (itemsLines_ne_nil _ none alternate 0 items)
  | .orderedList start isTight items =>
    joined_ne_nil _ (itemsLines_ne_nil _ (some start) alternate 0 items)

theorem blocksLines_ne_nil (previous : Option RawBlock) (alternate : Bool) :
    (blocks : List RawBlock) → ∀ part ∈ blocksLines previous alternate blocks, part ≠ []
  | [] => fun _ hmem => absurd hmem List.not_mem_nil
  | first :: rest => List.forall_mem_cons.mpr
      ⟨blockLines_ne_nil _ first, blocksLines_ne_nil (some first) _ rest⟩

end

/-- The lines of readable items start with those of the first item behind its mark. -/
theorem exists_of_isReadableItems {isTight : Bool} {start : Option Nat} {alternate : Bool}
    {number : Nat} {item : List RawBlock} {items : List (List RawBlock)}
    (hreadable : isReadableItems isTight start alternate number (item :: items)) :
    ∃ mark first rest, IsMark start alternate mark ∧
      joined isTight (blocksLines none false item) = first :: rest ∧
      isItem (mark ++ [' ']) (first :: rest) ∧
      marked (marker start alternate number) (joined isTight (blocksLines none false item)) =
        (if first = [] then mark else mark ++ ' ' :: first) ::
          rest.map (fun line =>
            if line.isEmpty then [] else List.replicate (mark.length + 1) ' ' ++ line) ∧
      isReadableAll isTight none false item ∧
      isReadableItems isTight start alternate (number + 1) items := by
  simp only [isReadableItems, Bool.and_eq_true] at hreadable
  obtain ⟨⟨hitem, hall⟩, hmore⟩ := hreadable
  obtain ⟨first, rest, hlines⟩ := List.exists_cons_of_ne_nil
    (joined_ne_nil isTight (blocksLines_ne_nil none false item))
  have hlength : (marker start alternate number).length ≤ 11 := by
    simp only [isItem, Bool.and_eq_true, decide_eq_true_eq] at hitem
    exact hitem.1.1.1
  obtain ⟨mark, hmarker, hmark⟩ := exists_isMark start alternate number hlength
  rw [hlines, hmarker] at hitem
  refine ⟨mark, first, rest, hmark, hlines, hitem, ?_, hall, hmore⟩
  rw [hmarker, hlines, marked_eq hmark hitem]

/-- What the first line of a block is like: it starts no item of a list or is a thematic break, or
it is the first line of a list with the mark that the list takes. -/
inductive Starts (alternate : Bool) (block : RawBlock) (content : List Char) : Prop
  | other (hblock : block.numbering? = none)
    (hitem : ListMarker.ofContent? content = none ∨ isRule content)
  | list (start : Option Nat) (found : ListMarker × Nat) (hblock : block.numbering? = some start)
    (hitem : ListMarker.ofContent? content = some found)
    (hmark : found.1.mark = markOf start alternate) (hnumber : found.1.isNumber = start.isSome)

theorem ofContent?_cons {c : Char} (hdigit : c.isDigit = false) (hbullet : c ∉ ['*', '-', '+'])
    (rest : List Char) : ListMarker.ofContent? (c :: rest) = none := by
  simp [ListMarker.ofContent?, List.takeWhile_cons_of_neg, hdigit, hbullet]

/-- The lines of a list start with a flush line that starts the list. -/
theorem starts_of_items {isTight : Bool} {start : Option Nat} {alternate : Bool}
    {items : List (List RawBlock)} (hne : items ≠ [])
    (hreadable : isReadableItems isTight start alternate 0 items) {block : RawBlock}
    (hblock : block.numbering? = some start) :
    ∃ first rest, joined isTight (itemsLines isTight start alternate 0 items) = first :: rest ∧
      isFlush first ∧ Starts alternate block (stripped first) := by
  obtain ⟨item, items, rfl⟩ := List.exists_cons_of_ne_nil hne
  obtain ⟨mark, first, rest, hmark, -, -, hmarked, -⟩ := exists_of_isReadableItems hreadable
  obtain ⟨c, tail, hhead, hc, -⟩ := hmark.head
  have hline : ∃ behind, (if first = [] then mark else mark ++ ' ' :: first) = mark ++ behind ∧
      behind.head?.all isSpace := by
    split
    · exact ⟨[], (List.append_nil mark).symm, rfl⟩
    · exact ⟨_, rfl, rfl⟩
  obtain ⟨behind, hline, hspace⟩ := hline
  obtain ⟨found, hitem, hfoundMark, hnumber⟩ := hmark.item behind hspace
  have hlines : ∃ more, joined isTight (itemsLines isTight start alternate 0 (item :: items)) =
      (mark ++ behind) :: more := by
    rw [itemsLines, hmarked, hline]
    cases itemsLines isTight start alternate (0 + 1) items with
    | nil => exact ⟨_, rfl⟩
    | cons next parts => exact ⟨_, rfl⟩
  obtain ⟨more, hmore⟩ := hlines
  refine ⟨_, more, hmore, ?_, ?_⟩
  · rw [hhead]
    exact isFlush_cons hc _
  · rw [hhead, List.cons_append, stripped_cons hc, ← List.cons_append, ← hhead]
    exact .list start _ hblock hitem hfoundMark hnumber

/-- The first line of a block that keeps to its lines is flush. -/
theorem exists_head_of_isReadable {alternate : Bool} {block : RawBlock}
    (hreadable : isReadable alternate block) :
    ∃ first rest, blockLines alternate block = first :: rest ∧ isFlush first ∧
      Starts alternate block (stripped first) := by
  have htext (hnumbering : block.numbering? = none)
      (htext : isText (blockLines alternate block)) :
      ∃ first rest, blockLines alternate block = first :: rest ∧ isFlush first ∧
        Starts alternate block (stripped first) := by
    obtain ⟨hne, hquiet, -⟩ := forall_of_isText htext
    obtain ⟨first, rest, hlines⟩ := List.exists_cons_of_ne_nil hne
    have hfirst := hquiet first (by rw [hlines]; exact List.mem_cons_self)
    rw [isQuietLine, Bool.and_eq_true, Bool.not_eq_true'] at hfirst
    obtain ⟨-, -, -, hitem, -⟩ := BlockReader.of_opens_eq_false hfirst.2
    exact ⟨first, rest, hlines, hfirst.1, .other hnumbering (.inl hitem)⟩
  have hcode {words code : List Char} (hnumbering : block.numbering? = none)
      (hlines : blockLines alternate block = Text.lines (CodeBlock.render (.ofText words) code)) :
      ∃ first rest, blockLines alternate block = first :: rest ∧ isFlush first ∧
        Starts alternate block (stripped first) := by
    obtain ⟨length, codeLines, hlength, -, hrender⟩ := exists_lines_render words code
    obtain ⟨more, rfl⟩ := Nat.exists_eq_add_of_le' hlength
    refine ⟨_, _, hlines.trans hrender, isFlush_cons rfl _, .other hnumbering (.inl ?_)⟩
    exact ofContent?_cons (by decide) (by decide) _
  cases block with
  | paragraph text => exact htext rfl hreadable
  | table alignments header rows => exact htext rfl hreadable
  | fence words code => exact hcode rfl rfl
  | indentedCode code => exact hcode rfl rfl
  | rule => exact ⟨_, [], rfl, by decide, .other rfl (.inr (by decide))⟩
  | heading level text =>
    obtain ⟨line, hlines, hheading⟩ := exists_of_isHeadline hreadable
    obtain ⟨rest, rfl⟩ := exists_of_heading? hheading
    refine ⟨_, [], hlines, isFlush_cons rfl rest, .other rfl (.inl ?_)⟩
    exact ofContent?_cons (by decide) (by decide) rest
  | html source =>
    obtain ⟨first, rest, kind, hlines, hflush, -, hkind, -⟩ := exists_of_isPiece hreadable
    obtain ⟨text, htext⟩ := exists_of_blockKind? hkind
    refine ⟨first, rest, hlines, hflush, .other rfl (.inl ?_)⟩
    rw [htext]
    exact ofContent?_cons (by decide) (by decide) text
  | quote children =>
    obtain ⟨first, rest, hlines⟩ := List.exists_cons_of_ne_nil
      (joined_ne_nil false (blocksLines_ne_nil none false children))
    have hquoted : blockLines alternate (.quote children) =
        (if first.isEmpty then ['>'] else '>' :: ' ' :: first) :: quoted rest := by
      rw [blockLines, hlines]
      rfl
    refine ⟨_, _, hquoted, ?_, .other rfl (.inl ?_)⟩
    · split <;> exact isFlush_cons rfl _
    · split <;> exact ofContent?_cons (by decide) (by decide) _
  | bulletList isTight items =>
    simp only [isReadable, Bool.and_eq_true, Bool.not_eq_true', List.isEmpty_eq_false_iff]
      at hreadable
    exact starts_of_items hreadable.1.2 hreadable.2 rfl
  | orderedList start isTight items =>
    simp only [isReadable, Bool.and_eq_true, Bool.not_eq_true', List.isEmpty_eq_false_iff]
      at hreadable
    exact starts_of_items hreadable.1.2 hreadable.2 rfl

/-- Readable blocks start with a flush line that starts the first of them. -/
theorem exists_head_of_isReadableAll {isTight alternate : Bool} {previous : Option RawBlock}
    {block : RawBlock} {blocks : List RawBlock}
    (hreadable : isReadableAll isTight previous alternate (block :: blocks)) :
    let lines := blocksLines previous alternate (block :: blocks)
    ∃ first rest, joined isTight lines = first :: rest ∧ lines.head?.bind List.head? = some first ∧
      isFlush first ∧
      Starts (previous.any block.sameKind && !alternate) block (stripped first) := by
  simp only [isReadableAll, Bool.and_eq_true] at hreadable
  obtain ⟨first, rest, hlines, hflush, hstarts⟩ := exists_head_of_isReadable hreadable.1.1
  simp only [blocksLines, hlines, List.head?_cons, Option.bind_some]
  have hjoined : ∃ more, joined isTight ((first :: rest) ::
      blocksLines (some block) (previous.any block.sameKind && !alternate) blocks) =
        first :: more := by
    cases blocksLines (some block) (previous.any block.sameKind && !alternate) blocks with
    | nil => exact ⟨rest, rfl⟩
    | cons next parts => exact ⟨_, rfl⟩
  obtain ⟨more, hmore⟩ := hjoined
  exact ⟨first, more, hmore, rfl, hflush, hstarts⟩

/-- Something stands on the last of the lines. -/
def EndsSolid (lines : List (List Char)) : Prop :=
  ∃ last, lines.getLast? = some last ∧ stripped last ≠ []

theorem EndsSolid.of_append {lines : List (List Char)} (front : List (List Char))
    (hends : EndsSolid lines) : EndsSolid (front ++ lines) := by
  obtain ⟨last, hlast, hne⟩ := hends
  exact ⟨last, by rw [List.getLast?_append, hlast]; rfl, hne⟩

theorem EndsSolid.of_joined {isTight : Bool} {part : List (List Char)}
    {parts : List (List (List Char))} (hpart : EndsSolid part)
    (hparts : parts ≠ [] → EndsSolid (joined isTight parts)) :
    EndsSolid (joined isTight (part :: parts)) := by
  cases parts with
  | nil => exact hpart
  | cons next parts => exact (hparts (List.cons_ne_nil next parts)).of_append _

theorem stripped_ne_nil_of_isFlush {line : List Char} (hflush : isFlush line) :
    stripped line ≠ [] := by
  obtain ⟨_, c, rest, -, -, -, hstripped⟩ := exists_of_isFlush hflush
  rw [hstripped]
  exact List.cons_ne_nil c rest

theorem endsSolid_text {lines : List (List Char)} (htext : isText lines) : EndsSolid lines := by
  obtain ⟨hne, hquiet, -⟩ := forall_of_isText htext
  refine ⟨_, List.getLast?_eq_some_getLast hne, stripped_ne_nil_of_isFlush ?_⟩
  have hlast := hquiet _ (List.getLast_mem hne)
  rw [isQuietLine, Bool.and_eq_true] at hlast
  exact hlast.1

theorem endsSolid_code (words code : List Char) :
    EndsSolid (Text.lines (CodeBlock.render (.ofText words) code)) := by
  obtain ⟨length, codeLines, hlength, -, hrender⟩ := exists_lines_render words code
  obtain ⟨more, rfl⟩ := Nat.exists_eq_add_of_le' hlength
  rw [hrender, ← List.cons_append]
  exact ⟨_, List.getLast?_concat, by rw [List.replicate_succ, stripped_cons rfl]; simp⟩

theorem endsSolid_marked {start : Option Nat} {alternate : Bool} {mark first : List Char}
    {rest : List (List Char)} (hmark : IsMark start alternate mark)
    (hends : rest ≠ [] → EndsSolid (first :: rest)) :
    EndsSolid ((if first = [] then mark else mark ++ ' ' :: first) :: rest.map fun line =>
      if line.isEmpty then [] else List.replicate (mark.length + 1) ' ' ++ line) := by
  rcases List.eq_nil_or_concat rest with rfl | ⟨front, final, rfl⟩
  · obtain ⟨c, tail, hhead, hc, -⟩ := hmark.head
    refine ⟨if first = [] then mark else mark ++ ' ' :: first, rfl, ?_⟩
    rw [hhead]
    split
    · rw [stripped_cons hc]
      exact List.cons_ne_nil _ _
    · rw [List.cons_append, stripped_cons hc]
      exact List.cons_ne_nil _ _
  · rw [List.concat_eq_append] at *
    obtain ⟨last, hlast, hne⟩ := hends (by simp)
    rw [← List.cons_append, List.getLast?_concat] at hlast
    obtain rfl := Option.some.inj hlast
    rw [List.map_append, ← List.cons_append]
    refine ⟨_, List.getLast?_concat, ?_⟩
    have hsome : final.isEmpty = false := by
      cases final with
      | nil => exact absurd rfl hne
      | cons c text => rfl
    simp only [hsome, Bool.false_eq_true, if_false]
    rw [stripped_append]
    exact hne

mutual

/-- Something stands on the last line of a block that keeps to its lines. -/
theorem endsSolid_block (alternate : Bool) : (block : RawBlock) → isReadable alternate block →
    EndsSolid (blockLines alternate block)
  | .paragraph _, hreadable | .table _ _ _, hreadable => endsSolid_text hreadable
  | .fence words code, _ => endsSolid_code words code
  | .indentedCode code, _ => endsSolid_code [] code
  | .rule, _ => ⟨_, rfl, by decide⟩
  | .heading level text, hreadable => by
    obtain ⟨line, hlines, hheading⟩ := exists_of_isHeadline hreadable
    obtain ⟨rest, rfl⟩ := exists_of_heading? hheading
    rw [hlines]
    exact ⟨'#' :: rest, rfl, by rw [stripped_cons rfl]; exact List.cons_ne_nil _ _⟩
  | .html source, hreadable => by
    obtain ⟨first, rest, kind, hlines, -, -, -, -, last, hlast, hsolid, -⟩ :=
      exists_of_isPiece hreadable
    rw [hlines]
    exact ⟨last, hlast, hsolid⟩
  | .quote children, _ => by
    have hne := joined_ne_nil false (blocksLines_ne_nil none false children)
    rw [blockLines, quoted]
    refine ⟨_, by rw [List.getLast?_map, List.getLast?_eq_some_getLast hne]; rfl, ?_⟩
    simp only
    split
    · decide
    · rw [stripped_cons rfl]
      exact List.cons_ne_nil _ _
  | .bulletList isTight items, hreadable => by
    simp only [isReadable, Bool.and_eq_true, Bool.not_eq_true', List.isEmpty_eq_false_iff]
      at hreadable
    exact endsSolid_items _ none alternate 0 items hreadable.1.2 hreadable.2
  | .orderedList start isTight items, hreadable => by
    simp only [isReadable, Bool.and_eq_true, Bool.not_eq_true', List.isEmpty_eq_false_iff]
      at hreadable
    exact endsSolid_items _ (some start) alternate 0 items hreadable.1.2 hreadable.2

theorem endsSolid_blocks (isTight : Bool) (previous : Option RawBlock) (alternate : Bool) :
    (blocks : List RawBlock) → blocks ≠ [] → isReadableAll isTight previous alternate blocks →
    EndsSolid (joined isTight (blocksLines previous alternate blocks))
  | [], hne, _ => absurd rfl hne
  | first :: rest, _, hreadable => by
    simp only [isReadableAll, Bool.and_eq_true] at hreadable
    refine EndsSolid.of_joined (endsSolid_block _ first hreadable.1.1) fun hrest => ?_
    refine endsSolid_blocks isTight (some first) _ rest ?_ hreadable.2
    rintro rfl
    exact hrest rfl

/-- The lines of readable items end in a solid line. -/
theorem endsSolid_items (isTight : Bool) (start : Option Nat) (alternate : Bool) (number : Nat) :
    (items : List (List RawBlock)) → items ≠ [] →
    isReadableItems isTight start alternate number items →
    EndsSolid (joined isTight (itemsLines isTight start alternate number items))
  | [], hne, _ => absurd rfl hne
  | item :: items, _, hreadable => by
    obtain ⟨mark, first, rest, hmark, hlines, -, hmarked, hall, hmore⟩ :=
      exists_of_isReadableItems hreadable
    refine EndsSolid.of_joined ?_ fun hitems => ?_
    · rw [hmarked]
      refine endsSolid_marked hmark fun hrest => ?_
      rw [← hlines]
      refine endsSolid_blocks isTight none false item ?_ hall
      rintro rfl
      exact hrest (List.cons.inj hlines).2.symm
    · refine endsSolid_items isTight start alternate (number + 1) items ?_ hmore
      rintro rfl
      exact hitems rfl

end

end Printer

end CrateReadme.Markdown
