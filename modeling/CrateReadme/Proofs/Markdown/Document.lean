import CrateReadme.Markdown.Printer
import CrateReadme.Proofs.Markdown.Arrival
import CrateReadme.Proofs.Text.Line
import CrateReadme.Proofs.Text.Search

/-!
# Documents that end in definitions

The lines of a text that follows another one behind a blank line are the last lines of both
together. If they hold entries, the definitions of the document are those met in front of them and
those of the entries.
-/

namespace CrateReadme.Markdown

/-- Whether a text keeps to one line, whatever ends lines in it. -/
def IsOneLine (text : List Char) : Prop :=
  ∀ c ∈ text, c ∉ ['\n', '\r', '\x00']

instance (text : List Char) : Decidable (IsOneLine text) :=
  decidable_of_iff (text.all fun c => c ∉ ['\n', '\r', '\x00'])
    (by rw [List.all_eq_true]; simp only [decide_eq_true_eq, IsOneLine])

theorem universalNewlines_cons {c : Char} {text : List Char}
    (hbreak : ∀ rest, c = '\r' → text = '\n' :: rest → False) :
    Text.universalNewlines (c :: text) =
      (if c = '\r' then '\n' else c) :: Text.universalNewlines text := by
  rw [Text.universalNewlines.eq_3]
  exact fun rest hc htext => hbreak rest hc htext

/-- Line ends behind a line break are made uniform on their own, and so are those in front of it
unless a return stands there. -/
theorem universalNewlines_append (text rest : List Char) :
    ∃ front, Text.universalNewlines (text ++ '\n' :: rest) =
        front ++ '\n' :: Text.universalNewlines rest ∧
      (text.getLast? ≠ some '\r' → front = Text.universalNewlines text) := by
  fun_induction Text.universalNewlines text with
  | case1 => exact ⟨[], by simp [Text.universalNewlines], fun _ => rfl⟩
  | case2 text ih =>
      obtain ⟨front, hfront, hwhole⟩ := ih
      refine ⟨'\n' :: front, by simp [Text.universalNewlines, hfront], fun hlast => ?_⟩
      rw [hwhole (by cases text <;> simp_all)]
  | case3 c text hbreak ih =>
      obtain ⟨front, hfront, hwhole⟩ := ih
      by_cases hmerged : c = '\r' ∧ text = []
      · -- the two line ends count as one
        obtain ⟨rfl, rfl⟩ := hmerged
        exact ⟨[], by simp [Text.universalNewlines], fun hlast => absurd rfl hlast⟩
      · refine ⟨(if c = '\r' then '\n' else c) :: front, ?_, fun hlast => ?_⟩
        · rw [List.cons_append, universalNewlines_cons, hfront, List.cons_append]
          intro more hc hmore
          cases text with
          | nil => exact hmerged ⟨hc, rfl⟩
          | cons d text =>
              rw [List.cons_append, List.cons.injEq] at hmore
              exact hbreak text hc (by rw [hmore.1])
        · rw [hwhole (by cases text <;> simp_all)]

theorem universalNewlines_of_isOneLine {text : List Char}
    (htext : ∀ c ∈ text, c ≠ '\r') : Text.universalNewlines text = text := by
  induction text with
  | nil => rfl
  | cons c text ih =>
      have hc := htext c List.mem_cons_self
      rw [universalNewlines_cons (fun _ heq => absurd heq hc), if_neg hc,
        ih fun d hmem => htext d (List.mem_cons_of_mem c hmem)]

/-- A text without characters that are exchanged stays as it is. -/
theorem clean_eq_self {text : List Char} (htext : ∀ c ∈ text, c ≠ '\r' ∧ c ≠ '\x00') :
    clean text = text := by
  rw [clean, universalNewlines_of_isOneLine fun c hmem => (htext c hmem).1]
  refine (List.map_congr_left fun c hmem => ?_).trans (List.map_id text)
  exact if_neg (htext c hmem).2

/-- The lines in front of a line end and those behind it are cleaned on their own, unless a carriage
return in front belongs to the line end. -/
theorem clean_append (text rest : List Char) :
    ∃ front, clean (text ++ '\n' :: rest) = front ++ '\n' :: clean rest ∧
      (text.getLast? ≠ some '\r' → front = clean text) := by
  obtain ⟨front, hfront, hwhole⟩ := universalNewlines_append text rest
  refine ⟨front.map fun c => if c = '\x00' then '\ufffd' else c, by simp [clean, hfront], ?_⟩
  intro hlast
  rw [hwhole hlast, clean]

/-- All lines but the last one have a break behind them. -/
theorem pieces_append (front : List (List Char)) {back : List (List Char)} (hback : back ≠ []) :
    linesOf.pieces (front ++ back) =
      front.map (fun text => Line.ofText text true) ++ linesOf.pieces back := by
  induction front with
  | nil => rfl
  | cons text front ih =>
      obtain ⟨first, more, rfl⟩ := List.exists_cons_of_ne_nil hback
      cases front with
      | nil => rfl
      | cons next front =>
          rw [List.cons_append] at ih
          rw [List.cons_append, List.cons_append, linesOf.pieces, ih]
          · rfl
          · exact List.cons_ne_nil _ _

/-- Behind a blank line the lines of a text are those that it has alone. -/
theorem exists_linesOf (body rest : List Char) :
    ∃ front, linesOf (clean (body ++ '\n' :: '\n' :: rest)) =
        front ++ Line.ofText [] true :: linesOf (clean rest) ∧
      (body.getLast? ≠ some '\r' →
        front = (Text.lines (clean body)).map fun line => Line.ofText line true) := by
  obtain ⟨text, htext, hwhole⟩ := clean_append body ('\n' :: rest)
  have hrest : clean ('\n' :: rest) = '\n' :: clean rest := by
    simp [clean, Text.universalNewlines]
  refine ⟨(Text.lines text).map fun line => Line.ofText line true, ?_, fun hlast => ?_⟩
  · have hne : Text.lines (clean rest) ≠ [] := List.splitOn_ne_nil '\n' (clean rest)
    rw [htext, hrest, linesOf, Text.lines_append, ← List.nil_append ('\n' :: clean rest), Text.lines_append,
      pieces_append _ (by simp [hne]), pieces_append _ hne]
    rfl
  · rw [hwhole hlast]

namespace Entry

def line (entry : Entry) : List Char :=
  ' ' :: DefinitionReader.lineContent entry.label entry.text

def lines (entries : List Entry) : List Char :=
  ['\n'].intercalate (entries.map line)

theorem isOn_line (entry : Entry) (isEnded : Bool) :
    entry.IsOn (Line.ofText entry.line isEnded) where
  indent := rfl
  content := rfl

variable {entries : List Entry}

theorem exists_pieces (entry : Entry) (texts : List (List Char)) :
    ∃ isEnded, linesOf.pieces (entry.line :: texts) =
      Line.ofText entry.line isEnded :: linesOf.pieces texts := by
  cases texts with
  | nil => exact ⟨false, by simp [linesOf.pieces, line, DefinitionReader.lineContent, isSpace]⟩
  | cons text texts => exact ⟨true, rfl⟩

/-- Entries on one line each are read line by line. -/
theorem linesOf_lines (hentries : ∀ entry ∈ entries, IsOneLine entry.line) (hne : entries ≠ []) :
    linesOf (clean (lines entries)) = linesOf.pieces (entries.map line) := by
  have hclean : ∀ c ∈ lines entries, c ≠ '\r' ∧ c ≠ '\x00' := by
    intro c hmem
    rcases Text.mem_intercalate hmem with hbreak | ⟨text, hline, hchar⟩
    · rw [List.mem_singleton.mp hbreak]
      decide
    · obtain ⟨entry, hentry, rfl⟩ := List.mem_map.mp hline
      have hc := hentries entry hentry c hchar
      simp only [List.mem_cons, List.not_mem_nil, or_false, not_or] at hc
      exact hc.2
  have hsplit : Text.lines (lines entries) = entries.map line := by
    refine List.splitOn_intercalate '\n' (fun text hmem => ?_) (by simp [hne])
    obtain ⟨entry, hentry, rfl⟩ := List.mem_map.mp hmem
    intro hbreak
    exact hentries entry hentry '\n' hbreak List.mem_cons_self
  rw [clean_eq_self hclean, linesOf, hsplit]

end Entry

/-- The lines of entries at the end of a region hold them. -/
theorem Region.holds_of_toList {region : Region} {entries : List Entry} {front : List Line}
    (hlines : region.lines.toList = front ++ linesOf.pieces (entries.map Entry.line)) :
    region.Holds front.length entries := by
  induction entries generalizing front with
  | nil =>
      rw [Region.Holds, ← Array.length_toList, hlines]
      simp [linesOf.pieces]
  | cons entry entries ih =>
      obtain ⟨isEnded, hpieces⟩ := entry.exists_pieces (entries.map Entry.line)
      rw [List.map_cons, hpieces] at hlines
      have hline : region.line front.length = Line.ofText entry.line isEnded := by
        rw [Region.line, ← Array.getElem?_toList, hlines,
          List.getElem?_append_right (Nat.le_refl _)]
        simp
      have hrest := @ih (front ++ [Line.ofText entry.line isEnded])
        (by rw [hlines, List.append_assoc, List.singleton_append])
      rw [List.length_append, List.length_singleton] at hrest
      refine ⟨?_, hrest⟩
      rw [hline]
      exact entry.isOn_line isEnded

/-- No line of a document is indented less than its blocks. -/
theorem indent_linesOf_nonneg (text : List Char) : ∀ line ∈ linesOf text, 0 ≤ line.indent := by
  suffices hpieces : ∀ texts, ∀ line ∈ linesOf.pieces texts, 0 ≤ line.indent from
    hpieces (Text.lines text)
  intro texts
  fun_induction linesOf.pieces texts with
  | case1 => exact fun _ hmem => absurd hmem List.not_mem_nil
  | case2 last =>
      exact fun _ hmem => absurd hmem List.not_mem_nil
  | case3 last =>
      intro line hmem
      rw [List.mem_singleton.mp hmem]
      exact Int.natCast_nonneg _
  | case4 text texts _ ih =>
      intro line hmem
      rcases List.mem_cons.mp hmem with rfl | hmem
      · exact Int.natCast_nonneg _
      · exact ih line hmem

namespace Document

def regionOf (text : List Char) : Region :=
  let lines := (linesOf (clean text)).toArray
  ⟨lines, 0, none, lines.size⟩

variable {text : List Char}

theorem isTop_regionOf (text : List Char) : (regionOf text).IsTop :=
  ⟨rfl⟩

theorem isOutdented_regionOf (text : List Char) (index : Nat) :
    (regionOf text).isOutdented index = false := by
  rw [Region.isOutdented, decide_eq_false_iff_not]
  refine Int.not_lt.mpr ?_
  rw [Region.line]
  cases hline : (regionOf text).lines[index]? with
  | none => exact Int.le_refl 0
  | some line =>
      have hmem : line ∈ (regionOf text).lines := Array.mem_of_getElem? hline
      exact indent_linesOf_nonneg (clean text) line (List.mem_toArray.mp hmem)

/-- Reading a text comes to a line, where a new block may start, with the definitions met so far. -/
def Arrives (text : List Char) (index : Nat) (definitions : Definitions) : Prop :=
  BlockReader.Arrives (regionOf text) (BlockReader.readAt (maxBlockDepth - 1))
    (BlockReader.readAt (maxBlockDepth - 2)) (regionOf text).lines.size index definitions

/-- Nothing that starts in front of the blank line `wall` is left open there. -/
def IsClosedAt (text : List Char) (wall : Nat) : Prop :=
  BlockReader.IsClosed (regionOf text) (BlockReader.readAt (maxBlockDepth - 1))
    (BlockReader.readAt (maxBlockDepth - 2)) (regionOf text).lines.size wall

/-- A text with entries behind it and a blank line between them. -/
def withEntries (body : List Char) (entries : List Entry) : List Char :=
  body ++ '\n' :: '\n' :: Entry.lines entries

/-- The blank line between a text and the entries behind it. -/
def blankLine (body : List Char) (entries : List Entry) : Nat :=
  (regionOf (withEntries body entries)).lines.size - (entries.length + 1)

section Entries

variable {body : List Char} {entries : List Entry}
  (hentries : ∀ entry ∈ entries, IsOneLine entry.line) (hne : entries ≠ [])

include hentries hne

/-- A body with entries has the lines of the body, an empty line and the entries. -/
theorem exists_lines_withEntries :
    ∃ before, (regionOf (withEntries body entries)).lines.toList =
        before ++ Line.ofText [] true :: linesOf.pieces (entries.map Entry.line) ∧
      before.length = blankLine body entries ∧
      (body.getLast? ≠ some '\r' →
        before = (Text.lines (clean body)).map fun line => Line.ofText line true) := by
  obtain ⟨before, hbefore, hwhole⟩ := exists_linesOf body (Entry.lines entries)
  rw [Entry.linesOf_lines hentries hne] at hbefore
  have hlines : (regionOf (withEntries body entries)).lines.toList =
      before ++ Line.ofText [] true :: linesOf.pieces (entries.map Entry.line) :=
    hbefore
  refine ⟨before, hlines, ?_, hwhole⟩
  have hholds : (regionOf (withEntries body entries)).Holds (before ++ [Line.ofText [] true]).length
      entries :=
    Region.holds_of_toList (by rw [hlines, List.append_assoc, List.singleton_append])
  rw [blankLine, hholds.size, List.length_append, List.length_singleton]
  omega

theorem holds_withEntries :
    (regionOf (withEntries body entries)).Holds (blankLine body entries + 1) entries := by
  obtain ⟨before, hlines, hlength, -⟩ := exists_lines_withEntries hentries hne
  rw [← hlength]
  have hholds := @Region.holds_of_toList _ _ (before ++ [Line.ofText [] true])
    (by rw [hlines, List.append_assoc, List.singleton_append])
  rwa [List.length_append, List.length_singleton] at hholds

theorem line_blankLine :
    (regionOf (withEntries body entries)).line (blankLine body entries) = Line.ofText [] true := by
  obtain ⟨before, hlines, hlength, -⟩ := exists_lines_withEntries hentries hne
  rw [Region.line, ← Array.getElem?_toList, hlines,
    List.getElem?_append_right (Nat.le_of_eq hlength), hlength, Nat.sub_self]
  rfl

/-- The lines in front of the blank line are those of the text. -/
theorem exists_line_of_lt_blankLine (hlast : body.getLast? ≠ some '\r') {index : Nat}
    (hindex : index < blankLine body entries) :
    ∃ line ∈ Text.lines (clean body),
      (regionOf (withEntries body entries)).line index = Line.ofText line true := by
  obtain ⟨before, hlines, hlength, hwhole⟩ := exists_lines_withEntries hentries hne
  rw [← hlength] at hindex
  obtain ⟨line, hmem, heq⟩ : ∃ line ∈ Text.lines (clean body),
      Line.ofText line true = before[index] := by
    rw [← List.mem_map, ← hwhole hlast]
    exact List.getElem_mem hindex
  refine ⟨line, hmem, ?_⟩
  rw [Region.line, ← Array.getElem?_toList, hlines, List.getElem?_append_left hindex,
    List.getElem?_eq_getElem hindex, heq]
  rfl

theorem wall_blankLine :
    BlockReader.Wall (regionOf (withEntries body entries)) (blankLine body entries) := by
  have hholds : (regionOf (withEntries body entries)).Holds (blankLine body entries + 1) entries :=
    holds_withEntries hentries hne
  have hpositive := List.length_pos_iff.mpr hne
  have hline := hholds.isBracketed (Nat.le_refl _) (by rw [hholds.size]; omega)
  refine ⟨?_, hline.isEmpty_eq_false⟩
  rw [line_blankLine hentries hne]
  rfl

end Entries

/-- The definitions of a text that has entries behind a blank line at which nothing is open: those
met in front of the entries and those of the entries in front of the first one that defines
nothing. -/
theorem definitions_withEntries (isOpen : Bool) (body : List Char) {front rest : List Entry}
    (hentries : ∀ entry ∈ front ++ rest, IsOneLine entry.line) (hne : front ++ rest ≠ [])
    (hclosed : IsClosedAt (withEntries body (front ++ rest)) (blankLine body (front ++ rest)))
    (hfront : ∀ entry ∈ front, entry.IsDefinition)
    (hrest : ∀ entry ∈ rest.head?, entry.IsBroken) :
    ∃ last written, Arrives (withEntries body (front ++ rest)) last written ∧
      last ≤ blankLine body (front ++ rest) + 1 ∧
      (read isOpen (withEntries body (front ++ rest))).definitions = written.addAll front :=
  BlockReader.definitions_of_holds (BlockReader.isBounded_readAt _)
    (BlockReader.isBounded_readAt _) (isTop_regionOf _) rfl (wall_blankLine hentries hne)
    (isOutdented_regionOf _) hclosed (holds_withEntries hentries hne) hne hfront hrest

end Document

end CrateReadme.Markdown
