import CrateReadme.Proofs.Link.Reference
import CrateReadme.Proofs.Source.UseTree
import Mathlib.Data.Set.List

/-!
# The grammar of references

A reference spells a path of ASCII identifiers. Groups of generic arguments may stand behind each of
them, a word with `@` in front of the path, white space and one pair of backquotes around it all.
Reading a spelling gives the path without the groups, and the kind that the word or the end of the
path implies. Whatever is read, the path that it gives is one of the grammar.
-/

namespace CrateReadme

namespace Path

/-! ### Dropping groups -/

/-- A text whose angle brackets have partners. -/
inductive IsBalanced : List Char → Prop
  | nil : IsBalanced []
  | char {c : Char} {rest : List Char} (hopen : c ≠ '<') (hclose : c ≠ '>')
      (hrest : IsBalanced rest) : IsBalanced (c :: rest)
  | group {inner rest : List Char} (hinner : IsBalanced inner) (hrest : IsBalanced rest) :
      IsBalanced ('<' :: (inner ++ '>' :: rest))

/-- Groups in angle brackets, one behind the other. -/
inductive AreGroups : List Char → Prop
  | nil : AreGroups []
  | cons {inner rest : List Char} (hinner : IsBalanced inner) (hrest : AreGroups rest) :
      AreGroups ('<' :: (inner ++ '>' :: rest))

theorem withoutGroups?_char {c : Char} (hopen : c ≠ '<') (hclose : c ≠ '>') (depth : ℕ)
    (rest : List Char) : withoutGroups? (depth + 1) (c :: rest) = withoutGroups? (depth + 1) rest := by
  rw [withoutGroups?]
  · exact hopen
  · exact hclose

/-- Inside a group, a balanced text goes with the group. -/
theorem IsBalanced.withoutGroups? {inner : List Char} (hinner : IsBalanced inner) (depth : ℕ)
    (rest : List Char) :
    Path.withoutGroups? (depth + 1) (inner ++ rest) = Path.withoutGroups? (depth + 1) rest := by
  induction hinner generalizing depth rest with
  | nil => rfl
  | char hopen hclose _ ih => rw [List.cons_append, withoutGroups?_char hopen hclose, ih]
  | group _ _ ihinner ihrest =>
      rw [List.cons_append, List.append_assoc, Path.withoutGroups?, ihinner, List.cons_append,
        Path.withoutGroups?, ihrest]

theorem AreGroups.withoutGroups? {groups : List Char} (hgroups : AreGroups groups)
    (rest : List Char) : Path.withoutGroups? 0 (groups ++ rest) = Path.withoutGroups? 0 rest := by
  induction hgroups with
  | nil => rfl
  | cons hinner _ ih =>
      rw [List.cons_append, List.append_assoc, Path.withoutGroups?, hinner.withoutGroups?,
        List.cons_append, Path.withoutGroups?, ih]

theorem AreGroups.eq_nil_or_concat {groups : List Char} (hgroups : AreGroups groups) :
    groups = [] ∨ ∃ front, groups = front ++ ['>'] := by
  induction hgroups with
  | nil => exact .inl rfl
  | @cons inner rest hinner hrest ih =>
      obtain rfl | ⟨front, rfl⟩ := ih
      · exact .inr ⟨'<' :: inner, rfl⟩
      · exact .inr ⟨'<' :: (inner ++ '>' :: front), by simp⟩

end Path

namespace Reference

open CrateReadme.Path (AreGroups IsBalanced)

/-! ### The grammar -/

/-- An ASCII identifier, possibly with the mark of a raw one. -/
structure Identifier where
  isRaw : Bool
  name : List Char
  isPlain : isPlainIdent name

/-- The mark of a raw identifier and its name. -/
def Identifier.text (ident : Identifier) : List Char :=
  (if ident.isRaw then ['r', '#'] else []) ++ ident.name

/-- What stands at the end of a path. -/
inductive Ending where
  | bare
  | call
  | bang

def Ending.text : Ending → List Char
  | bare => []
  | call => ['(', ')']
  | bang => ['!']

def Ending.kind : Ending → Option SymbolKind
  | bare => none
  | call => some .function
  | bang => some .textMacro

/-- A path of identifiers, possibly with `::` in front. -/
structure Route where
  isAbsolute : Bool
  idents : List Identifier
  ne_nil : idents ≠ []
  ending : Ending

/-- What stands in front of the identifiers. -/
def lead (isAbsolute : Bool) : List Char :=
  if isAbsolute then [':', ':'] else []

def Route.text (route : Route) : List Char :=
  lead route.isAbsolute ++
    ([':', ':'].intercalate (route.idents.map Identifier.text) ++ route.ending.text)

/-- An identifier with groups of generic arguments behind it. -/
structure Segment where
  ident : Identifier
  groups : List Char
  areGroups : AreGroups groups

def Segment.text (segment : Segment) : List Char :=
  segment.ident.text ++ segment.groups

/-- A path with generic arguments, and the word in front of it that says what it leads to. Without
such a word there is no `@` in the arguments. -/
structure Spelling where
  word : Option String
  isAbsolute : Bool
  segments : List Segment
  ending : Ending
  ne_nil : segments ≠ []
  isKnown : ∀ known ∈ word, (SymbolKind.disambiguator? known).isSome
  isQuiet : word = none → ∀ segment ∈ segments, '@' ∉ segment.groups

namespace Spelling

/-- The path of a spelling, as it is written there. -/
def body (spelling : Spelling) : List Char :=
  lead spelling.isAbsolute ++
    ([':', ':'].intercalate (spelling.segments.map Segment.text) ++ spelling.ending.text)

def text (spelling : Spelling) : List Char :=
  match spelling.word with
  | none => spelling.body
  | some word => word.toList ++ '@' :: spelling.body

/-- The path without the generic arguments. -/
def route (spelling : Spelling) : Route where
  isAbsolute := spelling.isAbsolute
  idents := spelling.segments.map Segment.ident
  ne_nil := List.map_eq_nil_iff.not.mpr spelling.ne_nil
  ending := spelling.ending

/-- The kind that the word in front gives, or else the one that the end of the path implies. -/
def kind (spelling : Spelling) : Option SymbolKind :=
  (spelling.word.bind SymbolKind.disambiguator?).join.or spelling.ending.kind

end Spelling

/-- A run of white space. -/
structure Blanks where
  chars : List Char
  areBlank : ∀ c ∈ chars, Text.isBlank c

/-- The white space around a reference and, inside a pair of backquotes, that within them. -/
structure Frame where
  before : Blanks
  quoted : Option (Blanks × Blanks)
  after : Blanks

/-- What a pair of backquotes, if there is one, and white space make of a text. -/
def Frame.around (frame : Frame) (text : List Char) : List Char :=
  let inner :=
    match frame.quoted with
    | none => text
    | some (front, back) => '`' :: (front.chars ++ (text ++ back.chars) ++ ['`'])
  frame.before.chars ++ (inner ++ frame.after.chars)

/-! ### Characters -/

variable {c : Char} {text : List Char}

/-- Whether a character may stand in front of the end of a path. -/
def isRoutePart (c : Char) : Bool :=
  isIdentPart c || c = '#' || c = ':'

theorem isIdentPart_of_isIdentStart (hstart : isIdentStart c) : isIdentPart c := by
  rw [isIdentStart, Bool.or_eq_true] at hstart
  rw [isIdentPart, Bool.or_eq_true, Char.isAlphanum, Bool.or_eq_true]
  exact hstart.imp_left Or.inl

theorem isIdentPart_of_mem (hplain : isPlainIdent text) (hmem : c ∈ text) : isIdentPart c := by
  cases text with
  | nil => cases hmem
  | cons d rest =>
      rw [isPlainIdent, Bool.and_eq_true, List.all_eq_true] at hplain
      rcases List.mem_cons.mp hmem with rfl | hmem
      · exact isIdentPart_of_isIdentStart hplain.1
      · exact hplain.2 c hmem

theorem isBlank_eq_false_of_isRoutePart (hpart : isRoutePart c) : Text.isBlank c = false := by
  simp only [isRoutePart, Bool.or_eq_true, decide_eq_true_eq] at hpart
  obtain (hpart | rfl) | rfl := hpart
  · exact Source.isBlank_eq_false_of_isWordPart (Source.UseTree.isWordPart_of_isIdentPart hpart)
  · decide
  · decide

theorem ne_of_isRoutePart (hpart : isRoutePart c) {other : Char}
    (hother : isRoutePart other = false) : c ≠ other := by
  rintro rfl
  rw [hpart] at hother
  cases hother

theorem no_bracket (hpart : isRoutePart c) : c ≠ '<' ∧ c ≠ '>' :=
  ⟨ne_of_isRoutePart hpart (by decide), ne_of_isRoutePart hpart (by decide)⟩

theorem isRoutePart_of_isIdentPart (hpart : isIdentPart c) : isRoutePart c := by
  rw [isRoutePart, hpart, Bool.true_or, Bool.true_or]

namespace Identifier

variable (ident : Identifier)

theorem isIdent_text : isIdent ident.text := by
  obtain ⟨isRaw, name, hplain⟩ := ident
  cases isRaw with
  | true => simpa [text, isIdent] using hplain
  | false =>
      simp only [text, Bool.false_eq_true, if_false, List.nil_append]
      unfold isIdent
      split
      · have hhash := isIdentPart_of_mem hplain (List.mem_cons_of_mem _ List.mem_cons_self)
        exact absurd hhash (by decide)
      · exact hplain

theorem text_ne_nil : ident.text ≠ [] := by
  rintro hnil
  have hident := ident.isIdent_text
  rw [hnil] at hident
  cases hident

theorem isRoutePart_of_mem (hmem : c ∈ ident.text) : isRoutePart c := by
  rw [text, List.mem_append] at hmem
  rcases hmem with hmark | hname
  · split at hmark
    · have hparts : ∀ c ∈ ['r', '#'], isRoutePart c := List.all_eq_true.mp (by decide)
      exact hparts c hmark
    · cases hmark
  · exact isRoutePart_of_isIdentPart (isIdentPart_of_mem ident.isPlain hname)

theorem colon_not_mem : ':' ∉ ident.text := by
  intro hmem
  rw [text, List.mem_append] at hmem
  rcases hmem with hmark | hname
  · split at hmark
    · exact absurd hmark (by decide)
    · cases hmark
  · exact absurd (isIdentPart_of_mem ident.isPlain hname) (by decide)

theorem isSolid_text : Text.IsSolid ident.text :=
  Text.isSolid_of_forall ident.text_ne_nil fun _ hmem =>
    isBlank_eq_false_of_isRoutePart (ident.isRoutePart_of_mem hmem)

end Identifier

theorem exists_identifier_of_isIdent (hident : isIdent text) :
    ∃ ident : Identifier, ident.text = text := by
  unfold isIdent at hident
  split at hident
  · exact ⟨⟨true, _, hident⟩, rfl⟩
  · exact ⟨⟨false, _, hident⟩, rfl⟩

theorem exists_identifiers_of_all {parts : List (List Char)} (hparts : parts.all isIdent) :
    ∃ idents : List Identifier, idents.map Identifier.text = parts := by
  have hrange : parts ∈ Set.range (List.map Identifier.text) := by
    rw [Set.range_list_map]
    exact fun part hmem => exists_identifier_of_isIdent (List.all_eq_true.mp hparts part hmem)
  exact hrange

/-! ### Paths -/

/-- The identifiers of a path, separated by `::`. -/
def joined (idents : List Identifier) : List Char :=
  [':', ':'].intercalate (idents.map Identifier.text)

theorem joined_cons_cons (ident next : Identifier) (others : List Identifier) :
    joined (ident :: next :: others) = ident.text ++ ':' :: ':' :: joined (next :: others) := by
  simp [joined, List.intercalate_cons_cons]

/-- Joined identifiers consist of characters of a route. -/
theorem isRoutePart_of_mem_joined {idents : List Identifier} (hmem : c ∈ joined idents) :
    isRoutePart c := by
  induction idents with
  | nil => cases hmem
  | cons ident idents ih =>
      cases idents with
      | nil =>
          rw [joined, List.map_singleton, List.intercalate_singleton] at hmem
          exact ident.isRoutePart_of_mem hmem
      | cons next others =>
          rw [joined_cons_cons, List.mem_append, List.mem_cons, List.mem_cons] at hmem
          rcases hmem with hmem | rfl | rfl | hmem
          · exact ident.isRoutePart_of_mem hmem
          · decide
          · decide
          · exact ih hmem

/-- Joined identifiers are split into their texts again. -/
theorem splitOn_joined {idents : List Identifier} (hne : idents ≠ []) :
    Text.splitOn [':', ':'] (joined idents) = idents.map Identifier.text := by
  induction idents with
  | nil => exact absurd rfl hne
  | cons ident idents ih =>
      have hcolon := ident.colon_not_mem
      cases idents with
      | nil =>
          rw [joined, List.map_singleton, List.intercalate_singleton,
            Text.splitOn_colons_eq_singleton hcolon]
      | cons next others =>
          have hend : ident.text.getLast? ≠ some ':' := fun hlast =>
            hcolon (List.mem_of_getLast? hlast)
          rw [joined_cons_cons, Text.splitOn_append_colons hend,
            Text.splitOn_colons_eq_singleton hcolon, ih (List.cons_ne_nil _ _)]
          rfl

theorem isRoutePart_of_mem_lead {isAbsolute : Bool} (hmem : c ∈ lead isAbsolute) :
    isRoutePart c := by
  cases isAbsolute with
  | false => cases hmem
  | true =>
      have hparts : ∀ c ∈ lead true, isRoutePart c := List.all_eq_true.mp (by decide)
      exact hparts c hmem

/-- An end is found behind a path of identifiers. -/
theorem withoutCall_append {front : List Char} (hfront : ∀ c ∈ front, isRoutePart c)
    (ending : Ending) : withoutCall (front ++ ending.text) = front ∧
      kindOfCall (front ++ ending.text) = ending.kind := by
  cases ending with
  | bare =>
      rw [Ending.text, List.append_nil]
      exact withoutCall_eq_self_of_not_mem
        (fun hmem => ne_of_isRoutePart (hfront _ hmem) (by decide) rfl)
        (fun hmem => ne_of_isRoutePart (hfront _ hmem) (by decide) rfl)
  | call => simp [withoutCall, kindOfCall, Ending.text, Ending.kind]
  | bang => simp [withoutCall, kindOfCall, Ending.text, Ending.kind]

theorem Ending.isBlank_eq_false (ending : Ending) (hmem : c ∈ ending.text) :
    Text.isBlank c = false := by
  cases ending with
  | bare => cases hmem
  | call =>
      rw [Ending.text, List.mem_cons, List.mem_singleton] at hmem
      rcases hmem with rfl | rfl <;> decide
  | bang =>
      rw [Ending.text, List.mem_singleton] at hmem
      cases hmem
      decide

theorem exists_ending (text : List Char) : ∃ ending : Ending, text = withoutCall text ++ ending.text := by
  unfold withoutCall
  split
  · next front heq => exact ⟨.call, by rw [← List.reverse_reverse text, heq]; simp [Ending.text]⟩
  · next front heq => exact ⟨.bang, by rw [← List.reverse_reverse text, heq]; simp [Ending.text]⟩
  · exact ⟨.bare, by simp [Ending.text]⟩

namespace Route

variable (route : Route)

theorem text_eq : route.text =
    (lead route.isAbsolute ++ joined route.idents) ++ route.ending.text := by
  rw [text, joined, List.append_assoc]

theorem isRoutePart_of_mem (hmem : c ∈ lead route.isAbsolute ++ joined route.idents) :
    isRoutePart c :=
  (List.mem_append.mp hmem).elim isRoutePart_of_mem_lead isRoutePart_of_mem_joined

theorem after?_joined : Text.after? [':', ':'] (joined route.idents) = none := by
  rw [Option.eq_none_iff_forall_ne_some]
  intro rest hrest
  rw [Text.after?_eq_some_iff] at hrest
  have hsplit := splitOn_joined route.ne_nil
  rw [hrest, Text.splitOn_separator_append (List.cons_ne_nil _ _)] at hsplit
  obtain ⟨ident, idents, hidents⟩ := List.exists_cons_of_ne_nil route.ne_nil
  rw [hidents, List.map_cons, List.cons.injEq] at hsplit
  exact ident.text_ne_nil hsplit.1.symm

/-- A path of the grammar is read as one, and its end tells its kind. -/
theorem isPath_text : isPath route.text ∧ kindOfCall route.text = route.ending.kind := by
  obtain ⟨hcall, hkind⟩ := withoutCall_append (fun _ => route.isRoutePart_of_mem) route.ending
  rw [← text_eq] at hcall hkind
  refine ⟨?_, hkind⟩
  have hrelative : (Text.after? [':', ':'] (lead route.isAbsolute ++ joined route.idents)).getD
      (lead route.isAbsolute ++ joined route.idents) = joined route.idents := by
    cases route.isAbsolute with
    | false => rw [lead, if_neg Bool.false_ne_true, List.nil_append, after?_joined, Option.getD_none]
    | true =>
        have hafter := Text.after?_eq_some_iff.mpr
          (rfl : [':', ':'] ++ joined route.idents = [':', ':'] ++ joined route.idents)
        rw [lead, if_pos rfl, hafter, Option.getD_some]
  rw [isPath, hcall, hrelative, splitOn_joined route.ne_nil, List.all_map, List.all_eq_true]
  exact fun ident _ => ident.isIdent_text

/-- Every path that is read is one of the grammar. -/
theorem exists_of_isPath (hpath : isPath text) : ∃ route : Route, text = route.text := by
  obtain ⟨ending, htext⟩ := exists_ending text
  rw [isPath] at hpath
  obtain ⟨isAbsolute, hlead⟩ : ∃ isAbsolute, withoutCall text = lead isAbsolute ++
      (Text.after? [':', ':'] (withoutCall text)).getD (withoutCall text) := by
    cases hafter : Text.after? [':', ':'] (withoutCall text) with
    | none => exact ⟨false, rfl⟩
    | some rest => exact ⟨true, Text.after?_eq_some_iff.mp hafter⟩
  obtain ⟨idents, hidents⟩ := exists_identifiers_of_all hpath
  have hne : idents ≠ [] := by
    rintro rfl
    exact Text.splitOn_ne_nil (List.cons_ne_nil _ _) _ hidents.symm
  refine ⟨⟨isAbsolute, idents, hne, ending⟩, ?_⟩
  rw [Route.text, hidents, Text.intercalate_splitOn (List.cons_ne_nil _ _), ← List.append_assoc,
    ← hlead, ← htext]

theorem strip_text : Text.strip route.text = route.text := by
  refine Text.strip_eq_self fun c hmem => ?_
  rw [text_eq, List.mem_append] at hmem
  rcases hmem with hmem | hmem
  · exact isBlank_eq_false_of_isRoutePart (route.isRoutePart_of_mem hmem)
  · exact route.ending.isBlank_eq_false hmem

end Route

/-! ### Spellings -/

namespace Segment

theorem isSolid_text (segment : Segment) : Text.IsSolid segment.text := by
  have hident := segment.ident.isSolid_text
  rw [Segment.text]
  obtain hnil | ⟨front, hgroups⟩ := segment.areGroups.eq_nil_or_concat
  · rwa [hnil, List.append_nil]
  · have hclosing : Text.IsSolid ['>'] :=
      Text.isSolid_of_forall (List.cons_ne_nil _ _) fun c hmem =>
        List.mem_singleton.mp hmem ▸ by decide
    rw [hgroups]
    exact hident.append hclosing front

/-- The groups of the segments are dropped, and nothing else. -/
theorem withoutGroups?_intercalate (segments : List Segment) (rest : List Char) :
    Path.withoutGroups? 0 ([':', ':'].intercalate (segments.map Segment.text) ++ rest) =
      (Path.withoutGroups? 0 rest).map (joined (segments.map ident) ++ ·) := by
  induction segments with
  | nil => simp [joined]
  | cons segment segments ih =>
      have hident := Path.withoutGroups?_append_plain fun c hmem =>
        no_bracket (segment.ident.isRoutePart_of_mem hmem)
      cases segments with
      | nil =>
          rw [List.map_singleton, List.intercalate_singleton, Segment.text, List.append_assoc, hident,
            segment.areGroups.withoutGroups?, joined, List.map_singleton, List.map_singleton,
            List.intercalate_singleton]
      | cons next others =>
          have hcolons := Path.withoutGroups?_append_plain fun c (hmem : c ∈ [':', ':']) =>
            no_bracket (List.all_eq_true.mp (show [':', ':'].all isRoutePart by decide) c hmem)
          rw [List.map_cons, List.map_cons, List.intercalate_cons_cons, Segment.text, ← List.map_cons]
          simp only [List.append_assoc]
          rw [hident, segment.areGroups.withoutGroups?, hcolons, ih, Option.map_map, Option.map_map]
          congr 1
          funext more
          simp [joined_cons_cons]

end Segment

/-- The words in front of `@` are identifiers. -/
theorem isPlainIdent_of_disambiguator? {word : String}
    (hword : (SymbolKind.disambiguator? word).isSome) : isPlainIdent word.toList := by
  unfold SymbolKind.disambiguator? at hword
  split at hword
  all_goals first | decide +kernel | cases hword

theorem isSolid_of_disambiguator? {word : String}
    (hword : (SymbolKind.disambiguator? word).isSome) : Text.IsSolid word.toList := by
  have hplain := isPlainIdent_of_disambiguator? hword
  refine Text.isSolid_of_forall (fun hnil => ?_) fun c hmem => isBlank_eq_false_of_isRoutePart
    (isRoutePart_of_isIdentPart (isIdentPart_of_mem hplain hmem))
  rw [hnil] at hplain
  cases hplain

namespace Spelling

variable (spelling : Spelling)

theorem isSolid_body : Text.IsSolid spelling.body := by
  refine Text.IsSolid.prepend (Text.IsSolid.extend ?_ fun c => spelling.ending.isBlank_eq_false)
    fun c hmem => isBlank_eq_false_of_isRoutePart (isRoutePart_of_mem_lead hmem)
  refine Text.IsSolid.intercalate (List.map_eq_nil_iff.not.mpr spelling.ne_nil) ?_ _
  exact List.forall_mem_map.mpr fun segment _ => segment.isSolid_text

theorem isSolid_text : Text.IsSolid spelling.text := by
  have hbody := spelling.isSolid_body
  rw [text]
  cases hword : spelling.word with
  | none => exact hbody
  | some word =>
      exact (isSolid_of_disambiguator? (spelling.isKnown word hword)).append hbody ['@']

theorem withoutGenerics_body : Path.withoutGenerics spelling.body = spelling.route.text := by
  have hlead := Path.withoutGroups?_append_plain fun c (hmem : c ∈ lead spelling.isAbsolute) =>
    no_bracket (isRoutePart_of_mem_lead hmem)
  have hending : Path.withoutGroups? 0 spelling.ending.text = some spelling.ending.text := by
    cases spelling.ending <;> rfl
  rw [Path.withoutGenerics, body, hlead, Segment.withoutGroups?_intercalate, hending,
    Option.map_some, Option.map_some, Option.getD_some]
  rfl

theorem at_not_mem_body (hword : spelling.word = none) : '@' ∉ spelling.body := by
  intro hmem
  rw [body, List.mem_append, List.mem_append] at hmem
  rcases hmem with hmem | hmem | hmem
  · exact ne_of_isRoutePart (isRoutePart_of_mem_lead hmem) (by decide) rfl
  · obtain hcolon | ⟨part, hpart, hat⟩ := Text.mem_intercalate hmem
    · exact absurd hcolon (by decide)
    · obtain ⟨segment, hsegment, rfl⟩ := List.mem_map.mp hpart
      rcases List.mem_append.mp hat with hat | hat
      · exact ne_of_isRoutePart (segment.ident.isRoutePart_of_mem hat) (by decide) rfl
      · exact spelling.isQuiet hword segment hsegment hat
  · generalize spelling.ending = ending at hmem
    cases ending <;> exact absurd hmem (by decide)

/-- The word in front of a spelling is split off, and read as a kind if it names one. -/
theorem splitDisambiguator?_text : splitDisambiguator? spelling.text =
    some ((spelling.word.bind SymbolKind.disambiguator?).join, spelling.body) := by
  rw [text]
  cases hword : spelling.word with
  | none => rw [splitDisambiguator?, if_neg (spelling.at_not_mem_body hword)]; rfl
  | some word =>
      obtain ⟨kind, hkind⟩ := Option.isSome_iff_exists.mp (spelling.isKnown word hword)
      have hat : '@' ∉ word.toList := fun hmem =>
        absurd (isIdentPart_of_mem (isPlainIdent_of_disambiguator? (spelling.isKnown word hword))
          hmem) (by decide)
      have htake : (word.toList ++ '@' :: spelling.body).takeWhile (· ≠ '@') = word.toList := by
        have hkeep : ∀ c ∈ word.toList, decide (c ≠ '@') = true := fun c hmem =>
          decide_eq_true fun heq => hat (heq ▸ hmem)
        have hstop : ∀ c ∈ ('@' :: spelling.body).head?, decide (c ≠ '@') = false := by simp
        exact (Text.takeWhile_append_of_head? hkeep hstop).1
      rw [splitDisambiguator?, if_pos (by simp)]
      simp only
      rw [htake, String.ofList_toList, hkind]
      simp [hkind]

/-- A path starts with an identifier, its mark or a colon. -/
theorem exists_head_body : ∃ c rest, spelling.body = c :: rest ∧ isRoutePart c := by
  obtain ⟨first, others, hsegments⟩ := List.exists_cons_of_ne_nil spelling.ne_nil
  obtain ⟨c, name, hname⟩ := List.exists_cons_of_ne_nil first.ident.text_ne_nil
  have hc : isRoutePart c := first.ident.isRoutePart_of_mem (hname ▸ List.mem_cons_self)
  rw [body, hsegments]
  cases spelling.isAbsolute with
  | true => exact ⟨':', _, rfl, by decide⟩
  | false => cases others <;> exact ⟨c, _, by simp [lead, Segment.text, hname]; rfl, hc⟩

/-- No spelling starts with a backquote. -/
theorem head_text : spelling.text.head? ≠ some '`' := by
  have hstart : ∃ c rest, spelling.text = c :: rest ∧ isRoutePart c := by
    rw [text]
    cases hword : spelling.word with
    | none => exact spelling.exists_head_body
    | some word =>
        have hplain := isPlainIdent_of_disambiguator? (spelling.isKnown word hword)
        cases hchars : word.toList with
        | nil => rw [hchars] at hplain; cases hplain
        | cons c rest =>
            have hmem : c ∈ word.toList := hchars ▸ List.mem_cons_self
            exact ⟨c, rest ++ '@' :: spelling.body, congrArg (· ++ '@' :: spelling.body) hchars,
              isRoutePart_of_isIdentPart (isIdentPart_of_mem hplain hmem)⟩
  obtain ⟨c, rest, htext, hc⟩ := hstart
  rw [htext, List.head?_cons]
  exact fun heq => ne_of_isRoutePart hc (by decide) (Option.some.inj heq)

/-- What stands around a spelling is taken off again. -/
theorem withoutBackquotes_around (frame : Frame) :
    withoutBackquotes (frame.around spelling.text) = spelling.text := by
  have hsolid := spelling.isSolid_text
  obtain ⟨before, quoted, after⟩ := frame
  cases quoted with
  | none =>
      have hstrip := hsolid.strip_append before.areBlank after.areBlank
      rw [withoutBackquotes]
      simp only [Frame.around, hstrip]
      split
      · next heq => exact absurd (congrArg List.head? heq) spelling.head_text
      · rfl
  | some inner =>
      obtain ⟨front, back⟩ := inner
      have hquoted : Text.IsSolid ('`' :: (front.chars ++ (spelling.text ++ back.chars) ++ ['`'])) :=
        ⟨⟨_, _, rfl, by decide⟩, ⟨_, _, (List.cons_append ..).symm, by decide⟩⟩
      have hstrip := hquoted.strip_append before.areBlank after.areBlank
      rw [withoutBackquotes]
      simp only [Frame.around, hstrip, List.reverse_append, List.reverse_cons, List.reverse_nil,
        List.nil_append, List.singleton_append]
      simpa using hsolid.strip_append front.areBlank back.areBlank

end Spelling

/-- Reading a spelling, with whatever white space and backquotes are around it, gives its path
without the generic arguments and the kind of its word or of its end. Every path that is read is one
of the grammar. -/
theorem parse?_grammar :
    (∀ (spelling : Spelling) (frame : Frame),
      parse? (String.ofList (frame.around spelling.text)) =
        some { path := String.ofList spelling.route.text, kind := spelling.kind }) ∧
    ∀ raw reference, parse? raw = some reference →
      ∃ route : Route, reference.path = String.ofList route.text := by
  constructor
  · intro spelling frame
    obtain ⟨hpath, hkind⟩ := spelling.route.isPath_text
    rw [parse?, String.toList_ofList, spelling.withoutBackquotes_around frame,
      spelling.splitDisambiguator?_text]
    simp only [Option.bind_eq_bind, Option.bind_some]
    rw [spelling.withoutGenerics_body, spelling.route.strip_text, if_pos hpath, hkind]
    rfl
  · intro raw reference hread
    rw [parse?, Option.bind_eq_bind, Option.bind_eq_some_iff] at hread
    obtain ⟨⟨kind, text⟩, -, hread⟩ := hread
    simp only at hread
    split at hread
    · next hpath =>
      obtain ⟨route, hroute⟩ := Route.exists_of_isPath hpath
      cases hread
      exact ⟨route, congrArg String.ofList hroute⟩
    · cases hread

/-- The spelling `fn@::std::Vec<A<B>>::r#new<@>()`. -/
def Spelling.nested : Spelling where
  word := some "fn"
  isAbsolute := true
  segments :=
    [⟨⟨false, "std".toList, by decide⟩, [], .nil⟩,
     ⟨⟨false, "Vec".toList, by decide⟩, ['<', 'A', '<', 'B', '>', '>'],
      .cons (.char (by decide) (by decide) (.group (.char (by decide) (by decide) .nil) .nil)) .nil⟩,
     ⟨⟨true, "new".toList, by decide⟩, ['<', '@', '>'],
      .cons (.char (by decide) (by decide) .nil) .nil⟩]
  ending := .call
  ne_nil := List.cons_ne_nil _ _
  isKnown := fun _ hword => Option.some.inj hword ▸ by decide
  isQuiet := fun hword => absurd hword (Option.some_ne_none _)

theorem parse?_grammar_nested :
    let raw := " \t` fn@::std::Vec<A<B>>::r#new<@>()`\n"
    let path := "::std::Vec::r#new()"
    parse? raw = some { path, kind := some .function } ∧
      ∃ route : Route, path = String.ofList route.text := by
  intro raw path
  have hspace : ∀ chars : List Char, chars.all Text.isBlank → ∀ c ∈ chars, Text.isBlank c :=
    fun chars => List.all_eq_true.mp
  have hread : parse? raw = some { path, kind := some .function } :=
    parse?_grammar.1 .nested
      { before := ⟨[' ', '\t'], hspace _ (by decide)⟩
        quoted := some (⟨[' '], hspace _ (by decide)⟩, ⟨[], hspace _ (by decide)⟩)
        after := ⟨['\n'], hspace _ (by decide)⟩ }
  exact ⟨hread, parse?_grammar.2 raw _ hread⟩

end Reference

end CrateReadme
