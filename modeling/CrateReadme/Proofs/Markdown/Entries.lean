import CrateReadme.Markdown.Block.Reader
import CrateReadme.Proofs.Markdown.Definition

/-!
# Runs of definitions

Lines with a label each, up to the end of a document, define their labels one after the other until
one of them holds prose. That line starts a paragraph, and a paragraph takes in all lines behind it.
-/

namespace CrateReadme.Markdown

/-- A label and the text behind its colon. -/
structure Entry where
  label : List Char
  text : List Char

namespace Entry

def destination (entry : Entry) : List Char :=
  normalizeDestination (Entity.unescape entry.text)

/-- An entry that defines its label. -/
structure IsDefinition (entry : Entry) : Prop where
  isName : DefinitionReader.IsName entry.label
  key_ne_nil : Label.normalize entry.label ≠ []
  isBare : LinkParts.IsBare entry.text
  isSafe : isSafeDestination entry.destination

/-- An entry that defines nothing. -/
structure IsBroken (entry : Entry) : Prop where
  isName : DefinitionReader.IsName entry.label
  isProse : DefinitionReader.IsProse entry.text

/-- A line that holds an entry behind one space. -/
structure IsOn (entry : Entry) (line : Line) : Prop where
  indent : line.indent = 1
  content : line.content = DefinitionReader.lineContent entry.label entry.text

theorem IsOn.isBracketed {entry : Entry} {line : Line} (hline : entry.IsOn line) :
    line.IsBracketed :=
  ⟨hline.indent, by rw [hline.content]; rfl⟩

end Entry

def Definitions.addAll (definitions : Definitions) (entries : List Entry) : Definitions :=
  entries.foldl (fun definitions entry =>
    definitions.add (Label.normalize entry.label) ⟨entry.destination, []⟩) definitions

/-- A definition that is added counts if its key had none before. -/
theorem Definitions.lookup_add (definitions : Definitions) (key : List Char)
    (definition : Definition) (other : List Char) :
    (definitions.add key definition).lookup other =
      (definitions.lookup other).or (if key = other then some definition else none) := by
  rw [add]
  split
  next hknown =>
    by_cases hkey : key = other
    · subst hkey
      obtain ⟨found, hfound⟩ := Option.isSome_iff_exists.mp hknown
      rw [hfound, Option.some_or]
    · rw [if_neg hkey, Option.or_none]
  next =>
    rw [List.lookup_append, List.lookup_cons]
    by_cases hkey : key = other
    · simp [hkey]
    · rw [if_neg hkey, beq_false_of_ne (Ne.symm hkey)]
      rfl

/-- The first definition of a key counts: one there was, or else that of the first entry with the
key. -/
theorem Definitions.lookup_addAll (definitions : Definitions) (entries : List Entry)
    (key : List Char) :
    (definitions.addAll entries).lookup key =
      (definitions.lookup key).or
        ((entries.find? fun entry => Label.normalize entry.label = key).map fun entry =>
          ⟨entry.destination, []⟩) := by
  induction entries generalizing definitions with
  | nil => simp [addAll]
  | cons entry entries ih =>
      rw [addAll, List.foldl_cons, ← addAll, ih, lookup_add, Option.or_assoc]
      by_cases hkey : Label.normalize entry.label = key
      · simp [hkey]
      · simp [hkey]

namespace Region

variable {region : Region}

/-- The lines from `index` to the end of the document hold entries. -/
def Holds (region : Region) : (index : Nat) → List Entry → Prop
  | index, [] => region.lines.size = index
  | index, entry :: entries => entry.IsOn (region.line index) ∧ Holds region (index + 1) entries

theorem Holds.size {index : Nat} {entries : List Entry} (hholds : region.Holds index entries) :
    region.lines.size = index + entries.length := by
  induction entries generalizing index with
  | nil => exact hholds
  | cons entry entries ih =>
      rw [ih hholds.2, List.length_cons]
      omega

theorem Holds.isBracketed {index : Nat} {entries : List Entry} (hholds : region.Holds index entries)
    {later : Nat} (hle : index ≤ later) (hlt : later < region.lines.size) :
    (region.line later).IsBracketed := by
  induction entries generalizing index with
  | nil => exact absurd hlt (by rw [show region.lines.size = index from hholds]; omega)
  | cons entry entries ih =>
      rcases Nat.eq_or_lt_of_le hle with rfl | hlt'
      · exact hholds.1.isBracketed
      · exact ih hholds.2 hlt'

theorem isDelimiterRow_blank {index : Nat} (hover : region.lines.size ≤ index) :
    isDelimiterRow (region.line index).content = false := by
  rw [line, Array.getElem?_eq_none hover]
  rfl

theorem Holds.isDelimiterRow_eq_false {index : Nat} {entries : List Entry}
    (hholds : region.Holds index entries) {later : Nat} (hle : index ≤ later) :
    isDelimiterRow (region.line later).content = false := by
  rcases Nat.lt_or_ge later region.lines.size with hlt | hge
  · exact (hholds.isBracketed hle hlt).isDelimiterRow_eq_false
  · exact isDelimiterRow_blank hge

theorem Holds.endsBefore {index : Nat} {entries : List Entry} (hholds : region.Holds index entries)
    (hlimit : region.limit = region.lines.size) {later : Nat} (hle : index ≤ later) :
    DefinitionReader.EndsBefore region later where
  isBracketed hlt := hholds.isBracketed hle (by rw [← hlimit]; exact hlt)
  under := hholds.isDelimiterRow_eq_false (Nat.le_succ_of_le hle)

end Region

namespace BlockReader

variable {region : Region} {readQuote readItem : Reader} {index : Nat} {entries : List Entry}

theorem skipEmpty_of_solid (hsolid : (region.line index).isEmpty = false) (left : Nat) :
    skipEmpty region left index = index := by
  cases left with
  | zero => rfl
  | succ left => simp [skipEmpty, hsolid]

/-- A paragraph takes in all lines that hold entries. -/
theorem paragraphEnd_of_holds (hregion : region.IsTop) (hlimit : region.limit = region.lines.size)
    (hholds : region.Holds index entries) (left : Nat) (hleft : entries.length < left) :
    paragraphEnd region left index = region.lines.size := by
  induction entries generalizing index left with
  | nil =>
      obtain ⟨left, rfl⟩ := Nat.exists_eq_add_of_le' (Nat.one_le_of_lt hleft)
      have hsize : region.lines.size = index := hholds
      simp [paragraphEnd, hlimit, hsize]
  | cons entry entries ih =>
      obtain ⟨left, rfl⟩ := Nat.exists_eq_add_of_le' (Nat.one_le_of_lt hleft)
      have hline := hholds.1.isBracketed
      have hmore : ¬region.limit ≤ index := by
        rw [hlimit, hholds.size, List.length_cons]
        omega
      have hunder := hholds.isDelimiterRow_eq_false (Nat.le_succ index)
      simp [paragraphEnd, hmore, hline.isEmpty_eq_false, Region.isCode_eq_false hregion hline,
        hline.indent, Region.interruptsParagraph_eq_false hline hunder,
        ih hholds.2 left (Nat.lt_of_succ_lt_succ hleft)]

/-- Entries are not the text of a heading. -/
theorem underlineAt?_of_holds (hregion : region.IsTop) (hholds : region.Holds index entries)
    (left : Nat) : underlineAt? region region.lines.size left index = none := by
  induction entries generalizing index left with
  | nil =>
      have hsize : region.lines.size = index := hholds
      cases left with
      | zero => rfl
      | succ left => simp [underlineAt?, hsize]
  | cons entry entries ih =>
      have hline := hholds.1.isBracketed
      have hunder := hholds.isDelimiterRow_eq_false (Nat.le_succ index)
      cases left with
      | zero => rfl
      | succ left =>
          simp [underlineAt?, hline.isEmpty_eq_false, Region.isCode_eq_false hregion hline,
            hline.underline?_eq_none, Region.interruptsParagraph_eq_false hline hunder,
            ih hholds.2 left]

/-- A line that starts with a bracket is a definition, or else it starts a paragraph or a heading
whose text goes on to the lines behind it. -/
theorem readBlock_of_isBracketed (hregion : region.IsTop)
    (hline : (region.line index).IsBracketed)
    (hunder : isDelimiterRow (region.line (index + 1)).content = false) (stop : Nat)
    (definitions : Definitions) :
    readBlock region readQuote readItem index stop definitions =
      match DefinitionReader.read? region index,
          underlineAt? region stop (region.lines.size + 1) (index + 1) with
      | some (key, definition, next), _ => ⟨none, next, definitions.add key definition⟩
      | none, some (last, level) =>
        ⟨some (.heading level (trimWhite (cut region index last region.margin false))), last + 1,
          definitions⟩
      | none, none =>
        let next := paragraphEnd region (region.lines.size + 1) (index + 1)
        ⟨some (.paragraph (trimWhite (cut region index next region.margin false))), next,
          definitions⟩ := by
  simp only [readBlock, Region.tableStart?_eq_none hunder, Region.isCode_eq_false hregion hline,
    hline.fenceStart?_eq_none, hline.head, hline.isRule_eq_false, Region.listStart?_eq_none hline,
    hline.blockKind?_eq_none, hline.heading?_eq_none, Bool.false_eq_true, if_false,
    Option.some.injEq, Char.reduceEq]
  cases DefinitionReader.read? region index with
  | some found => rfl
  | none => cases underlineAt? region stop (region.lines.size + 1) (index + 1) <;> rfl

/-- The step that reads a definition adds it. -/
theorem readBlock_of_isDefinition (readQuote readItem : Reader) {entry : Entry}
    (hregion : region.IsTop) (hlimit : region.limit = region.lines.size)
    (hholds : region.Holds index (entry :: entries)) (hentry : entry.IsDefinition) (stop : Nat)
    (definitions : Definitions) :
    readBlock region readQuote readItem index stop definitions =
      ⟨none, index + 1, definitions.add (Label.normalize entry.label) ⟨entry.destination, []⟩⟩ := by
  have hline := hholds.1.isBracketed
  have hread := DefinitionReader.read?_of_isBare (Region.isCode_eq_false hregion hline)
    hentry.isName hentry.key_ne_nil hentry.isBare hentry.isSafe hholds.1.content
    (hholds.endsBefore hlimit (Nat.le_succ index))
  rw [readBlock_of_isBracketed hregion hline
    (hholds.isDelimiterRow_eq_false (Nat.le_succ index)), hread]
  rfl

/-- The step that reads a line with prose takes in all lines behind it. -/
theorem readBlock_of_isBroken (readQuote readItem : Reader) {entry : Entry} (hregion : region.IsTop)
    (hlimit : region.limit = region.lines.size) (hholds : region.Holds index (entry :: entries))
    (hentry : entry.IsBroken) (definitions : Definitions) :
    ∃ block, readBlock region readQuote readItem index region.lines.size definitions =
      ⟨some block, region.lines.size, definitions⟩ := by
  have hline := hholds.1.isBracketed
  have hread := DefinitionReader.read?_of_isProse (Region.isCode_eq_false hregion hline)
    hentry.isName hentry.isProse hholds.1.content
  have hleft : entries.length < region.lines.size + 1 := by
    rw [hholds.2.size]
    omega
  refine ⟨.paragraph (trimWhite (cut region index region.lines.size region.margin false)), ?_⟩
  rw [readBlock_of_isBracketed hregion hline
    (hholds.isDelimiterRow_eq_false (Nat.le_succ index)), hread,
    underlineAt?_of_holds hregion hholds.2,
    paragraphEnd_of_holds hregion hlimit hholds.2 _ hleft]

/-- Reading lines with entries adds the definitions in front of the first line with prose, and no
others. -/
theorem definitions_readLoop_of_holds (hregion : region.IsTop)
    (hlimit : region.limit = region.lines.size) {front rest : List Entry}
    (hholds : region.Holds index (front ++ rest)) (hfront : ∀ entry ∈ front, entry.IsDefinition)
    (hrest : ∀ entry ∈ rest.head?, entry.IsBroken) (left : Nat)
    (hleft : (front ++ rest).length < left) (hadBlank isTight : Bool) (definitions : Definitions) :
    (readLoop region readQuote readItem region.lines.size left index hadBlank isTight
      definitions).definitions = definitions.addAll front := by
  induction front generalizing index left hadBlank isTight definitions with
  | nil =>
      obtain ⟨left, rfl⟩ := Nat.exists_eq_add_of_le' (Nat.one_le_of_lt hleft)
      cases rest with
      | nil =>
          have hsize : region.lines.size = index := hholds
          simp [readLoop, hsize, Definitions.addAll]
      | cons entry rest =>
          obtain ⟨left, rfl⟩ := Nat.exists_eq_add_of_le'
            (Nat.one_le_of_lt (Nat.lt_of_succ_lt_succ hleft))
          have hholds : region.Holds index (entry :: rest) := hholds
          have hline := hholds.1.isBracketed
          have hmore : ¬region.lines.size ≤ index := by
            rw [hholds.size, List.length_cons]
            omega
          obtain ⟨block, hblock⟩ := readBlock_of_isBroken readQuote readItem hregion hlimit
            hholds (hrest entry rfl) definitions
          simp [readLoop, hmore, skipEmpty_of_solid hline.isEmpty_eq_false,
            Region.isOutdented_eq_false hregion hline, hblock, Definitions.addAll]
  | cons entry front ih =>
      obtain ⟨left, rfl⟩ := Nat.exists_eq_add_of_le' (Nat.one_le_of_lt hleft)
      have hholds : region.Holds index (entry :: (front ++ rest)) := hholds
      have hline := hholds.1.isBracketed
      have hmore : ¬region.lines.size ≤ index := by
        rw [hholds.size, List.length_cons]
        omega
      have hblock := readBlock_of_isDefinition readQuote readItem
        hregion hlimit hholds (hfront entry List.mem_cons_self) region.lines.size definitions
      have hsolid : (decide (index + 1 < region.lines.size) &&
          (region.line (index + 1)).isEmpty) = false := by
        cases hlt : decide (index + 1 < region.lines.size) with
        | false => rfl
        | true =>
            have hnext := hholds.isBracketed (Nat.le_succ index) (of_decide_eq_true hlt)
            exact hnext.isEmpty_eq_false
      have hloop := ih hholds.2 (fun found hmem => hfront found (List.mem_cons_of_mem entry hmem))
        left (Nat.lt_of_succ_lt_succ hleft)
      rw [readLoop]
      simp only [hmore, if_false, skipEmpty_of_solid hline.isEmpty_eq_false,
        Region.isOutdented_eq_false hregion hline, hblock, hsolid, Bool.or_false,
        Bool.false_eq_true, decide_false]
      rw [hloop]
      rfl

end BlockReader

end CrateReadme.Markdown
