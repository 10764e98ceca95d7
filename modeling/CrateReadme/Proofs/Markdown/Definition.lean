import CrateReadme.Markdown.Block.Definition

/-!
# Definitions on lines of their own

A line that holds a label in brackets, a colon and a text without spaces is a definition, whatever
follows it in further lines that start with a bracket: such a line opens no title. If words stand
behind the destination the line is no definition.
-/

namespace CrateReadme.Markdown

namespace LinkParts

/-- Whether every parenthesis of a text is closed, if `depth` more are open in front of it. At most
32 may be open at once. -/
def closesParens : (depth : Nat) → List Char → Bool
  | depth, [] => depth = 0
  | depth, c :: text =>
    if c = '(' then depth < 32 && closesParens (depth + 1) text
    else if c = ')' then 0 < depth && closesParens (depth - 1) text
    else closesParens depth text

/-- A text that stands for a destination as a whole, without angle brackets around it. -/
structure IsBare (text : List Char) : Prop where
  ne_nil : text ≠ []
  head_ne : text.head? ≠ some '<'
  isPlain : ∀ c ∈ text, endsBare c = false ∧ c ≠ '\\'
  closes : closesParens 0 text

instance (text : List Char) : Decidable (IsBare text) :=
  decidable_of_iff (text ≠ [] ∧ text.head? ≠ some '<' ∧
      text.all (fun c => endsBare c = false ∧ c ≠ '\\') ∧ closesParens 0 text)
    ⟨fun ⟨hne, hhead, hplain, hcloses⟩ => ⟨hne, hhead, by simpa using hplain, hcloses⟩,
      fun hbare => ⟨hbare.ne_nil, hbare.head_ne, by simpa using hbare.isPlain, hbare.closes⟩⟩

/-- A text that does not go on with a destination in front of it. -/
def EndsDestination (rest : List Char) : Prop :=
  ∀ c ∈ rest.head?, endsBare c

theorem endsBare_of_isSpace {c : Char} (hspace : isSpace c) : endsBare c := by
  rw [isSpace, Bool.or_eq_true, decide_eq_true_eq, decide_eq_true_eq] at hspace
  rcases hspace with rfl | rfl
  · decide
  · decide

/-- What belongs to a bare destination is no white space. -/
theorem isSolid_of_endsBare {c : Char} (hend : endsBare c = false) :
    isSpace c = false ∧ c ≠ '\n' := by
  constructor
  · cases hspace : isSpace c with
    | false => rfl
    | true =>
        rw [endsBare_of_isSpace hspace] at hend
        cases hend
  · rintro rfl
    exact absurd hend (by decide)

/-- Reading a destination stops in front of what ends one. -/
theorem bare?_of_endsDestination {rest : List Char} (hrest : EndsDestination rest)
    (taken : List Char) : bare? 0 taken rest = some (taken.reverse, rest) := by
  cases rest with
  | nil => rfl
  | cons c rest =>
      have hend : endsBare c := hrest c rfl
      have hne : c ≠ '\\' := by
        rintro rfl
        exact absurd hend (by decide)
      rw [bare?.eq_4]
      · simp [hend]
      · rintro rfl
        exact absurd rfl hne
      · rintro d text rfl
        exact absurd rfl hne

/-- Plain characters whose brackets close are part of a destination. -/
theorem bare?_append {rest : List Char} (hrest : EndsDestination rest) (text : List Char)
    (hplain : ∀ c ∈ text, endsBare c = false ∧ c ≠ '\\') (depth : Nat)
    (hcloses : closesParens depth text) (taken : List Char) :
    bare? depth taken (text ++ rest) = some (taken.reverse ++ text, rest) := by
  induction text generalizing depth taken with
  | nil =>
      have hdepth : depth = 0 := by simpa [closesParens] using hcloses
      rw [hdepth, List.nil_append, List.append_nil]
      exact bare?_of_endsDestination hrest taken
  | cons c text ih =>
      obtain ⟨hend, hne⟩ := hplain c List.mem_cons_self
      have htext := fun d hmem => hplain d (List.mem_cons_of_mem c hmem)
      have hopen : bare? depth taken (c :: (text ++ rest)) =
          if endsBare c || (c = ')' && depth = 0) then
            if depth = 0 then some (taken.reverse, c :: (text ++ rest)) else none
          else if c = '(' then
            if depth < 32 then bare? (depth + 1) (c :: taken) (text ++ rest) else none
          else if c = ')' then bare? (depth - 1) (c :: taken) (text ++ rest)
          else bare? depth (c :: taken) (text ++ rest) := by
        rw [bare?.eq_4]
        · rintro rfl
          exact absurd rfl hne
        · rintro d more rfl
          exact absurd rfl hne
      rw [List.cons_append, hopen, hend]
      rw [closesParens] at hcloses
      have hdone : (c :: taken).reverse ++ text = taken.reverse ++ c :: text := by simp
      by_cases hleft : c = '('
      · simp only [hleft, if_true, Bool.and_eq_true, decide_eq_true_eq] at hcloses
        subst hleft
        simp [hcloses.1, ih htext (depth + 1) hcloses.2]
      · by_cases hright : c = ')'
        · subst hright
          simp only [hleft, if_false, if_true, Bool.and_eq_true, decide_eq_true_eq] at hcloses
          have hpos : depth ≠ 0 := Nat.pos_iff_ne_zero.mp hcloses.1
          simp [hpos, ih htext (depth - 1) hcloses.2]
        · simp only [hleft, hright, if_false] at hcloses
          simp [hleft, hright, ih htext depth hcloses]

/-- A bare text in front of a space or of the end of a line is read as a whole. -/
theorem destination?_append {text rest : List Char} (hbare : IsBare text)
    (hrest : EndsDestination rest) :
    destination? (text ++ rest) = some (Entity.unescape text, rest) := by
  have hread := bare?_append hrest text hbare.isPlain 0 hbare.closes []
  obtain ⟨hne, hhead, -, -⟩ := hbare
  cases text with
  | nil => exact absurd rfl hne
  | cons c text =>
      rw [destination?.eq_2]
      · rw [hread]
        rfl
      · rintro more heq
        exact hhead (by rw [List.cons_append, List.cons.injEq] at heq; simp [heq.1])

end LinkParts

namespace DefinitionReader

/-- A label that is read as it is written. -/
def IsName (label : List Char) : Prop :=
  ∀ c ∈ label, c ∉ ['[', ']', '\n', '\\']

/-- What a line that holds `label` and, behind the colon, `text` looks like. -/
def lineContent (label text : List Char) : List Char :=
  '[' :: (label ++ ']' :: ':' :: ' ' :: text)

/-- A label that is a name is read up to its bracket. -/
theorem label?_of_isName {label rest : List Char} (hlabel : IsName label) (region : Region)
    (left next : Nat) (hleft : label.length < left) (taken : List Char) :
    label? region left taken ⟨label ++ ']' :: rest, next⟩ =
      some (taken.reverse ++ label, ⟨rest, next⟩) := by
  induction label generalizing left taken with
  | nil =>
      obtain ⟨left, rfl⟩ := Nat.exists_eq_add_of_le' (Nat.one_le_of_lt hleft)
      simp [label?]
  | cons c label ih =>
      obtain ⟨left, rfl⟩ := Nat.exists_eq_add_of_le' (Nat.one_le_of_lt hleft)
      have hc := hlabel c List.mem_cons_self
      simp only [List.mem_cons, List.not_mem_nil, or_false, not_or] at hc
      obtain ⟨hopen, hclose, hbreak, hescape⟩ := hc
      have hmore := ih (fun d hmem => hlabel d (List.mem_cons_of_mem c hmem)) left
        (Nat.lt_of_succ_lt_succ hleft) (c :: taken)
      rw [List.cons_append, label?]
      simp only [hopen, hclose, hbreak, hescape, if_false]
      rw [hmore, List.reverse_cons, List.append_assoc, List.singleton_append]

/-- White space is passed over up to a character that is none. -/
theorem skipWhite_of_solid (region : Region) {c : Char} (hspace : isSpace c = false)
    (hbreak : c ≠ '\n') (left next : Nat) (rest : List Char) :
    skipWhite region left ⟨c :: rest, next⟩ = ⟨c :: rest, next⟩ := by
  cases left with
  | zero => rfl
  | succ left => simp [skipWhite, hspace, hbreak]

/-- Blanks in front of something else are skipped. -/
theorem skipWhite_append {region : Region} {c : Char} (hspace : isSpace c = false)
    (hbreak : c ≠ '\n') {gap : List Char} (hgap : ∀ d ∈ gap, isSpace d) (left next : Nat)
    (hleft : gap.length ≤ left) (rest : List Char) :
    skipWhite region left ⟨gap ++ c :: rest, next⟩ = ⟨c :: rest, next⟩ := by
  induction gap generalizing left with
  | nil => exact skipWhite_of_solid region hspace hbreak left next rest
  | cons d gap ih =>
      obtain ⟨left, rfl⟩ := Nat.exists_eq_add_of_le' (Nat.one_le_of_lt hleft)
      have hd : isSpace d := hgap d List.mem_cons_self
      have hne : d ≠ '\n' := by
        rintro rfl
        exact absurd hd (by decide)
      have hmore := ih (fun e hmem => hgap e (List.mem_cons_of_mem d hmem)) left
        (Nat.le_of_succ_le_succ hleft)
      simpa [skipWhite, hd, hne] using hmore

end DefinitionReader

/-- A line that starts with a bracket behind one space. -/
structure Line.IsBracketed (line : Line) : Prop where
  indent : line.indent = 1
  head : line.content.head? = some '['

namespace Line.IsBracketed

variable {line : Line}

theorem exists_content (hline : line.IsBracketed) : ∃ text, line.content = '[' :: text :=
  List.head?_eq_some_iff.mp hline.head

theorem isEmpty_eq_false (hline : line.IsBracketed) : line.isEmpty = false := by
  obtain ⟨text, htext⟩ := hline.exists_content
  rw [Line.isEmpty, htext, List.isEmpty_cons]

theorem isDelimiterRow_eq_false (hline : line.IsBracketed) :
    isDelimiterRow line.content = false := by
  obtain ⟨text, htext⟩ := hline.exists_content
  rw [htext]
  cases text <;> simp [isDelimiterRow]

theorem fenceStart?_eq_none (hline : line.IsBracketed) : fenceStart? line.content = none := by
  obtain ⟨text, htext⟩ := hline.exists_content
  simp [htext, fenceStart?]

theorem isRule_eq_false (hline : line.IsBracketed) : isRule line.content = false := by
  obtain ⟨text, htext⟩ := hline.exists_content
  simp [htext, isRule]

theorem heading?_eq_none (hline : line.IsBracketed) : heading? line.content = none := by
  obtain ⟨text, htext⟩ := hline.exists_content
  simp [htext, heading?]

theorem underline?_eq_none (hline : line.IsBracketed) : underline? line.content = none := by
  obtain ⟨text, htext⟩ := hline.exists_content
  simp [htext, underline?]

theorem blockKind?_eq_none (hline : line.IsBracketed) : Html.blockKind? line.content = none := by
  obtain ⟨text, htext⟩ := hline.exists_content
  rw [htext]
  rfl

theorem ofContent?_eq_none (hline : line.IsBracketed) :
    ListMarker.ofContent? line.content = none := by
  obtain ⟨text, htext⟩ := hline.exists_content
  simp [htext, ListMarker.ofContent?]

end Line.IsBracketed

namespace Region

variable {region : Region} {index : Nat}

/-- The region of a whole document. -/
structure IsTop (region : Region) : Prop where
  margin : region.margin = 0

theorem isCode_eq_false (hregion : region.IsTop) (hline : (region.line index).IsBracketed) :
    region.isCode index = false := by
  simp [isCode, hline.indent, hregion.margin]

theorem isOutdented_eq_false (hregion : region.IsTop) (hline : (region.line index).IsBracketed) :
    region.isOutdented index = false := by
  simp [isOutdented, hline.indent, hregion.margin]

theorem listStart?_eq_none (hline : (region.line index).IsBracketed) (inParagraph : Bool) :
    listStart? region index inParagraph = none := by
  simp [listStart?, hline.ofContent?_eq_none]

theorem tableStart?_eq_none (hunder : isDelimiterRow (region.line (index + 1)).content = false)
    (stop : Nat) : tableStart? region index stop = none := by
  simp [tableStart?, hunder]

/-- A line that starts with a bracket interrupts no paragraph. -/
theorem interruptsParagraph_eq_false (hline : (region.line index).IsBracketed)
    (hunder : isDelimiterRow (region.line (index + 1)).content = false) (stop : Nat)
    (inParagraph : Bool) : interruptsParagraph region index stop inParagraph = false := by
  simp [interruptsParagraph, interruptsQuote, interruptsList, hline.fenceStart?_eq_none,
    hline.head, hline.isRule_eq_false, listStart?_eq_none hline, hline.heading?_eq_none,
    hline.blockKind?_eq_none, tableStart?_eq_none hunder]

end Region

namespace DefinitionReader

variable {region : Region} {index : Nat}

/-- Behind a definition no line stands, or one that starts with a bracket, which is no header of a
table. -/
structure EndsBefore (region : Region) (index : Nat) : Prop where
  isBracketed : index < region.limit → (region.line index).IsBracketed
  under : isDelimiterRow (region.line (index + 1)).content = false

/-- What the reader of a definition takes on from the line behind it opens no title. -/
theorem head_rest_skipWhite (hends : EndsBefore region index) (left : Nat) (isEnded : Bool) :
    ∀ c ∈ (skipWhite region (left + 1) ⟨if isEnded then ['\n'] else [], index⟩).rest.head?,
      c = '[' := by
  cases isEnded with
  | false => simp [skipWhite]
  | true =>
      by_cases hlimit : region.limit ≤ index
      · have hover : continuation? region index = none := by simp [continuation?, hlimit]
        have hstop : skipWhite region left ⟨[], index⟩ = ⟨[], index⟩ := by
          cases left <;> rfl
        simp [skipWhite, Cursor.refill, hover, hstop]
      · have hline := hends.isBracketed (Nat.lt_of_not_le hlimit)
        obtain ⟨text, htext⟩ := hline.exists_content
        have hgoes : continuation? region index = some (region.line index).contentWithEnd := by
          simp [continuation?, hlimit, hline.isEmpty_eq_false,
            Region.interruptsParagraph_eq_false hline hends.under]
        have hsolid := skipWhite_of_solid region (c := '[') (by decide) (by decide) left
          (index + 1) (text ++ if (region.line index).isEnded then ['\n'] else [])
        simp [skipWhite, Cursor.refill, hgoes, Line.contentWithEnd, htext, hsolid]

theorem title?_eq_none {cursor : Cursor}
    (hcursor : ∀ c ∈ cursor.rest.head?, LinkParts.closingMark? c = none) (left : Nat)
    (isSpaced : Bool) : title? region left isSpaced cursor = none := by
  obtain ⟨rest, next⟩ := cursor
  cases rest with
  | nil => rfl
  | cons c rest =>
      have hc : LinkParts.closingMark? c = none := hcursor c rfl
      simp [title?, hc]

theorem le_foldl_length (lines : List Line) (total : Nat) :
    total ≤ lines.foldl (fun total line => total + line.text.length + 1) total := by
  induction lines generalizing total with
  | nil => exact Nat.le_refl total
  | cons line lines ih =>
      exact Nat.le_trans (by omega) (ih (total + line.text.length + 1))

theorem length_lt_foldl {lines : List Line} {line : Line} (hmem : line ∈ lines) (total : Nat) :
    total + line.text.length <
      lines.foldl (fun total line => total + line.text.length + 1) total := by
  induction lines generalizing total with
  | nil => cases hmem
  | cons first lines ih =>
      rw [List.foldl_cons]
      cases hmem with
      | head => exact le_foldl_length lines (total + line.text.length + 1)
      | tail _ hmem => exact Nat.lt_of_le_of_lt (by omega) (ih hmem (total + first.text.length + 1))

/-- The reader has steps enough to pass over a whole line. -/
theorem length_content_lt (region : Region) (index : Nat)
    (hcontent : (region.line index).content ≠ []) :
    (region.line index).content.length + 1 <
      region.lines.foldl (fun total line => total + line.text.length + 1) 1 := by
  have hindex : index < region.lines.size := by
    refine Nat.lt_of_not_le fun hover => hcontent ?_
    rw [Region.line, Array.getElem?_eq_none hover]
    rfl
  have hline : region.line index = region.lines[index] := by
    rw [Region.line, Array.getElem?_eq_getElem hindex, Option.getD_some]
  have hmem : region.line index ∈ region.lines.toList := by
    rw [hline]
    exact Array.getElem_mem_toList hindex
  have hlength : (region.line index).content.length ≤ (region.line index).text.length := by
    rw [Line.content, List.length_drop]
    exact Nat.sub_le _ _
  rw [← Array.foldl_toList]
  have hlt := length_lt_foldl hmem 1
  omega

/-- A line with a bare destination, behind which no title stands, is a definition if nothing but
spaces stands there either. -/
theorem read?_of_title?_eq_none {label text : List Char} (rest : List Char)
    (hcode : region.isCode index = false) (hlabel : IsName label) (hbare : LinkParts.IsBare text)
    (hrest : LinkParts.EndsDestination
      (rest ++ if (region.line index).isEnded then ['\n'] else []))
    (hcontent : (region.line index).content = lineContent label (text ++ rest))
    (htitle : ∀ left isSpaced, (region.line index).content.length < left →
      title? region left isSpaced (skipWhite region left
        ⟨rest ++ if (region.line index).isEnded then ['\n'] else [], index + 1⟩) = none) :
    read? region index =
      if isSafeDestination (normalizeDestination (Entity.unescape text)) &&
          isLineEnd (rest ++ if (region.line index).isEnded then ['\n'] else []) &&
          !(Label.normalize label).isEmpty then
        some (Label.normalize label, ⟨normalizeDestination (Entity.unescape text), []⟩, index + 1)
      else none := by
  have hleft := length_content_lt region index (by simp [hcontent, lineContent])
  generalize hfuel : region.lines.foldl (fun total line => total + line.text.length + 1) 1 = left
    at hleft
  have hname : label.length < left := by
    have hlength := congrArg List.length hcontent
    simp only [lineContent, List.length_cons, List.length_append] at hlength
    omega
  generalize hend : (if (region.line index).isEnded then ['\n'] else []) = ending at *
  obtain ⟨c, more, htext⟩ := List.exists_cons_of_ne_nil hbare.ne_nil
  obtain ⟨hspace, hbreak⟩ := LinkParts.isSolid_of_endsBare
    (hbare.isPlain c (by rw [htext]; exact List.mem_cons_self)).1
  have hskip : skipWhite region left ⟨[' '] ++ c :: (more ++ (rest ++ ending)), index + 1⟩ =
      ⟨c :: (more ++ (rest ++ ending)), index + 1⟩ :=
    skipWhite_append hspace hbreak (by simp [isSpace]) left (index + 1) (by simp; omega) _
  have hwhole : (region.line index).contentWithEnd =
      '[' :: (label ++ ']' :: ':' :: ' ' :: c :: (more ++ (rest ++ ending))) := by
    simp [Line.contentWithEnd, hcontent, hend, lineContent, htext]
  have hread := LinkParts.destination?_append hbare hrest
  rw [htext, List.cons_append] at hread
  have hnone := fun isSpaced => htitle left isSpaced (by omega)
  simp only [List.singleton_append] at hskip
  simp [read?, hcode, hfuel, hwhole, label?_of_isName hlabel region left (index + 1) hname [],
    hskip, hread, hnone, htext]

/-- A line that holds a bare destination and nothing else is a definition. -/
theorem read?_of_isBare {label text : List Char} (hcode : region.isCode index = false)
    (hlabel : IsName label) (hkey : Label.normalize label ≠ []) (hbare : LinkParts.IsBare text)
    (hsafe : isSafeDestination (normalizeDestination (Entity.unescape text)))
    (hcontent : (region.line index).content = lineContent label text)
    (hends : EndsBefore region (index + 1)) :
    read? region index = some
      (Label.normalize label, ⟨normalizeDestination (Entity.unescape text), []⟩, index + 1) := by
  have hrest : LinkParts.EndsDestination (if (region.line index).isEnded then ['\n'] else []) := by
    cases (region.line index).isEnded <;> simp [LinkParts.EndsDestination, LinkParts.endsBare]
  rw [read?_of_title?_eq_none [] hcode hlabel hbare hrest
    (by rw [hcontent, List.append_nil])]
  · cases (region.line index).isEnded <;> simp [hsafe, hkey, isLineEnd, isSpace]
  · intro left isSpaced hleft
    obtain ⟨left, rfl⟩ := Nat.exists_eq_add_of_le' (Nat.one_le_of_lt hleft)
    refine title?_eq_none (fun c hmem => ?_) (left + 1) isSpaced
    rw [List.nil_append] at hmem
    rw [head_rest_skipWhite hends left (region.line index).isEnded c hmem]
    rfl

/-- A bare word and, behind spaces, more that opens no title. -/
def IsProse (text : List Char) : Prop :=
  ∃ word gap c more, text = word ++ (gap ++ c :: more) ∧ LinkParts.IsBare word ∧ gap ≠ [] ∧
    (∀ d ∈ gap, isSpace d) ∧ isSpace c = false ∧ c ≠ '\n' ∧ LinkParts.closingMark? c = none

/-- A line that holds prose is no definition. -/
theorem read?_of_isProse {label text : List Char} (hcode : region.isCode index = false)
    (hlabel : IsName label) (hprose : IsProse text)
    (hcontent : (region.line index).content = lineContent label text) :
    read? region index = none := by
  obtain ⟨word, gap, c, more, rfl, hbare, hgap, hspaces, hspace, hbreak, hmark⟩ := hprose
  have hrest : LinkParts.EndsDestination
      ((gap ++ c :: more) ++ if (region.line index).isEnded then ['\n'] else []) := by
    obtain ⟨d, rest, rfl⟩ := List.exists_cons_of_ne_nil hgap
    intro e hmem
    rw [← Option.some.inj hmem]
    exact LinkParts.endsBare_of_isSpace (hspaces d List.mem_cons_self)
  rw [read?_of_title?_eq_none _ hcode hlabel hbare hrest hcontent]
  · have hend : isLineEnd
        ((gap ++ c :: more) ++ if (region.line index).isEnded then ['\n'] else []) = false := by
      rw [isLineEnd, List.append_assoc, List.dropWhile_append_of_pos hspaces]
      simp [hspace, hbreak]
    rw [hend, Bool.and_false, Bool.false_and, if_neg Bool.false_ne_true]
  · intro left isSpaced hleft
    have hlength : gap.length ≤ left := by
      have hcount := congrArg List.length hcontent
      simp only [lineContent, List.length_cons, List.length_append] at hcount
      omega
    rw [List.append_assoc, List.cons_append, skipWhite_append hspace hbreak hspaces left _ hlength]
    exact title?_eq_none (by simp [hmark]) left isSpaced

end DefinitionReader

end CrateReadme.Markdown
