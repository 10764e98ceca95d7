import CrateReadme.Proofs.Text.Search
import CrateReadme.Symbol.Path

/-!
# Paths and their parts

A path is put together from its parts again, and the parts of a longer path are those of its pieces
as long as no piece ends in a colon. A path without angle brackets has no generic arguments to drop.
-/

namespace CrateReadme.Path

variable {path front back whole head : String} {tail : List String}

theorem toList_separator : separator.toList = [':', ':'] :=
  String.toList_ofList

@[simp]
theorem ofParts_singleton (part : String) : ofParts [part] = part :=
  String.intercalate_singleton

theorem ofParts_cons (part : String) (hne : tail ≠ []) :
    ofParts (part :: tail) = part ++ separator ++ ofParts tail :=
  String.intercalate_cons_of_ne_nil hne

theorem ofParts_append {left right : List String} (hleft : left ≠ []) (hright : right ≠ []) :
    ofParts (left ++ right) = ofParts left ++ separator ++ ofParts right :=
  String.intercalate_append_of_ne_nil hleft hright

theorem parts_ne_nil (path : String) : parts path ≠ [] := by
  rw [parts, Ne, List.map_eq_nil_iff]
  exact Text.splitOn_ne_nil (List.cons_ne_nil _ _) _

theorem ofParts_parts (path : String) : ofParts (parts path) = path := by
  apply String.toList_injective
  rw [ofParts, parts, String.toList_intercalate, toList_separator, List.map_map]
  have hid : String.toList ∘ String.ofList = id := funext fun _ => String.toList_ofList
  rw [hid, List.map_id, Text.intercalate_splitOn (List.cons_ne_nil _ _)]

theorem parts_separator_append (rest : String) : parts (separator ++ rest) = "" :: parts rest := by
  rw [parts, String.toList_append, toList_separator,
    Text.splitOn_separator_append (List.cons_ne_nil _ _)]
  rfl

/-- A path is its only part, or its first part stands in front of a separator. -/
theorem parts_cases (path : String) :
    parts path = [path] ∨
      ∃ head rest, path = head ++ separator ++ rest ∧ parts path = head :: parts rest := by
  rcases Text.splitOn_cases (List.cons_ne_nil ':' [':']) path.toList with
    hone | ⟨front, back, hpath, hmore⟩
  · exact Or.inl (by rw [parts, hone]; simp)
  · refine Or.inr ⟨String.ofList front, String.ofList back, ?_, ?_⟩
    · apply String.toList_injective
      rw [hpath, String.toList_append, String.toList_append, toList_separator,
        String.toList_ofList, String.toList_ofList, List.append_assoc]
    · rw [parts, hmore, parts, String.toList_ofList, List.map_cons]

theorem parts_eq_cons (hparts : parts path = head :: tail) :
    (tail = [] ∧ path = head) ∨
      (tail ≠ [] ∧ path = head ++ separator ++ ofParts tail ∧ parts (ofParts tail) = tail) := by
  rcases parts_cases path with hone | ⟨first, rest, hpath, hmore⟩
  · rw [hone, List.cons.injEq] at hparts
    exact Or.inl ⟨hparts.2.symm, hparts.1⟩
  · rw [hmore, List.cons.injEq] at hparts
    obtain ⟨rfl, rfl⟩ := hparts
    exact Or.inr ⟨parts_ne_nil rest, by rw [ofParts_parts, hpath], by rw [ofParts_parts]⟩

theorem isAbsolute_iff : isAbsolute path ↔ ∃ rest, path = separator ++ rest := by
  rw [isAbsolute, Text.startsWith, Option.isSome_iff_exists]
  constructor
  · rintro ⟨rest, hafter⟩
    refine ⟨String.ofList rest, String.toList_injective ?_⟩
    rw [Text.after?_eq_some_iff.mp hafter, String.toList_append, toList_separator,
      String.toList_ofList]
  · rintro ⟨rest, rfl⟩
    exact ⟨rest.toList, Text.after?_eq_some_iff.mpr (by
      rw [String.toList_append, toList_separator])⟩

theorem isAbsolute_separator_append (rest : String) : isAbsolute (separator ++ rest) :=
  isAbsolute_iff.mpr ⟨rest, rfl⟩

/-- An absolute path has an empty first part and further ones. -/
theorem isAbsolute_iff_parts :
    isAbsolute path ↔ ∃ tail, tail ≠ [] ∧ parts path = "" :: tail := by
  rw [isAbsolute_iff]
  constructor
  · rintro ⟨rest, rfl⟩
    exact ⟨parts rest, parts_ne_nil rest, parts_separator_append rest⟩
  · rintro ⟨tail, hne, hparts⟩
    refine ⟨ofParts tail, ?_⟩
    rw [← ofParts_parts path, hparts, ofParts_cons "" hne, String.empty_append]

/-- The path does not end in a colon, so that a separator behind it is read as one. -/
def EndsPlain (path : String) : Prop :=
  path.toList.getLast? ≠ some ':'

theorem EndsPlain.append (hback : EndsPlain back) (hne : back ≠ "") (front : String) :
    EndsPlain (front ++ back) := by
  have hlist : back.toList ≠ [] := by simpa using hne
  rwa [EndsPlain, String.toList_append, List.getLast?_append_of_ne_nil _ hlist]

theorem EndsPlain.of_append (hwhole : EndsPlain (front ++ back)) (hne : back ≠ "") :
    EndsPlain back := by
  have hlist : back.toList ≠ [] := by simpa using hne
  rwa [EndsPlain, String.toList_append, List.getLast?_append_of_ne_nil _ hlist] at hwhole

theorem not_endsPlain_append_separator (front : String) : ¬EndsPlain (front ++ separator) := by
  rw [EndsPlain, String.toList_append, toList_separator]
  simp

/-- The last part of a path that ends plainly is not empty and ends plainly. -/
theorem EndsPlain.lastPart? {last : String} (hpath : EndsPlain path)
    (hlast : lastPart? path = some last) : last ≠ "" ∧ EndsPlain last := by
  obtain ⟨⟨before, after⟩, hbreak, rfl⟩ := Option.map_eq_some_iff.mp hlast
  have hreverse := Text.eq_of_breakOn? hbreak
  have hchars : path.toList = after.reverse ++ [':', ':'] ++ before.reverse := by
    rw [← List.reverse_reverse path.toList, hreverse]
    simp
  have hsplit :
      path = String.ofList after.reverse ++ separator ++ String.ofList before.reverse := by
    apply String.toList_injective
    rw [hchars, String.toList_append, String.toList_append, toList_separator, String.toList_ofList,
      String.toList_ofList]
  have hne : String.ofList before.reverse ≠ "" := by
    intro hempty
    rw [hsplit, hempty, String.append_empty] at hpath
    exact not_endsPlain_append_separator _ hpath
  exact ⟨hne, (hsplit ▸ hpath).of_append hne⟩

theorem parts_append_separator (hfront : EndsPlain front) (back : String) :
    parts (front ++ separator ++ back) = parts front ++ parts back := by
  rw [parts, String.toList_append, String.toList_append, toList_separator, List.append_assoc]
  rw [show [':', ':'] ++ back.toList = ':' :: ':' :: back.toList from rfl,
    Text.splitOn_append_colons hfront, List.map_append]
  rfl

/-- The parts of a path whose first part was replaced. -/
theorem parts_ofParts_cons (hfront : EndsPlain front) (hparts : parts whole = head :: tail) :
    parts (ofParts (front :: tail)) = parts front ++ tail := by
  rcases parts_eq_cons hparts with ⟨rfl, -⟩ | ⟨hne, -, htail⟩
  · rw [ofParts_singleton, List.append_nil]
  · rw [ofParts_cons front hne, parts_append_separator hfront, htail]

theorem EndsPlain.ofParts_cons (hfront : EndsPlain front) (hwhole : EndsPlain whole)
    (hparts : parts whole = head :: tail) : EndsPlain (ofParts (front :: tail)) := by
  rcases parts_eq_cons hparts with ⟨rfl, -⟩ | ⟨hne, rfl, -⟩
  · rwa [ofParts_singleton]
  · have hrest : ofParts tail ≠ "" := by
      intro hempty
      rw [hempty, String.append_empty] at hwhole
      exact not_endsPlain_append_separator head hwhole
    rw [Path.ofParts_cons front hne]
    exact (hwhole.of_append hrest).append hrest _

theorem isAbsolute_append (hne : front ≠ "") (hfront : EndsPlain front) (back : String) :
    isAbsolute (front ++ back) = isAbsolute front := by
  have hlist : front.toList ≠ [] := by simpa using hne
  rw [isAbsolute, isAbsolute, String.toList_append]
  match hchars : front.toList, hlist with
  | [c], _ =>
      have hc : c ≠ ':' := by simpa [EndsPlain, hchars] using hfront
      simp [Text.startsWith, Text.after?, Ne.symm hc]
  | c :: d :: rest, _ =>
      simp only [Text.startsWith, List.cons_append, Text.after?]
      split_ifs <;> rfl

/-- A segment of a path: it is not empty and has no colon. -/
def IsSegment (segment : String) : Prop :=
  segment ≠ "" ∧ ':' ∉ segment.toList

instance (segment : String) : Decidable (IsSegment segment) :=
  inferInstanceAs (Decidable (_ ∧ _))

/-- The path consists of segments, with the marker of an absolute path in front or without it. -/
def IsSegmented (path : String) : Prop :=
  ∃ segments ≠ [], (∀ segment ∈ segments, IsSegment segment) ∧
    (path = ofParts segments ∨ path = separator ++ ofParts segments)

theorem IsSegment.endsPlain {segment : String} (hsegment : IsSegment segment) :
    EndsPlain segment :=
  fun hlast => hsegment.2 (List.mem_of_getLast? hlast)

theorem IsSegment.parts {segment : String} (hsegment : IsSegment segment) :
    parts segment = [segment] := by
  rcases parts_cases segment with hone | ⟨front, rest, hsplit, -⟩
  · exact hone
  · refine absurd ?_ hsegment.2
    rw [hsplit, String.toList_append, String.toList_append, toList_separator]
    simp

theorem IsSegment.not_isAbsolute {segment : String} (hsegment : IsSegment segment) :
    isAbsolute segment = false := by
  rw [Bool.eq_false_iff, Ne, isAbsolute_iff_parts]
  rintro ⟨tail, hne, hparts⟩
  rw [hsegment.parts, List.cons.injEq] at hparts
  exact hne hparts.2.symm

theorem parts_ofItem {crate ident : String} (hcrate : IsSegment crate) (hident : IsSegment ident) :
    parts (ofItem crate ident) = ["", crate, ident] := by
  rw [ofItem, String.append_assoc, String.append_assoc, parts_separator_append,
    ← String.append_assoc, parts_append_separator hcrate.endsPlain, hcrate.parts, hident.parts]
  rfl

/-- Segments that are put together are taken apart again. -/
theorem ofParts_segments {segments : List String} (hne : segments ≠ [])
    (hsegments : ∀ segment ∈ segments, IsSegment segment) :
    ofParts segments ≠ "" ∧ EndsPlain (ofParts segments) ∧
      parts (ofParts segments) = segments := by
  induction segments with
  | nil => exact absurd rfl hne
  | cons segment segments ih =>
      have hsegment := hsegments segment List.mem_cons_self
      by_cases hlast : segments = []
      · subst hlast
        rw [ofParts_singleton]
        exact ⟨hsegment.1, hsegment.endsPlain, hsegment.parts⟩
      · obtain ⟨hne', hend, hparts⟩ :=
          ih hlast fun other hmem => hsegments other (List.mem_cons_of_mem _ hmem)
        rw [ofParts_cons segment hlast]
        refine ⟨?_, hend.append hne' _, ?_⟩
        · intro hempty
          exact hne' (String.append_eq_empty_iff.mp hempty).2
        · rw [parts_append_separator hsegment.endsPlain, hsegment.parts, hparts]
          rfl

theorem not_isAbsolute_ofParts {segments : List String} (hne : segments ≠ [])
    (hsegments : ∀ segment ∈ segments, IsSegment segment) :
    isAbsolute (ofParts segments) = false := by
  rw [Bool.eq_false_iff, Ne, isAbsolute_iff_parts]
  rintro ⟨tail, -, hparts⟩
  rw [(ofParts_segments hne hsegments).2.2] at hparts
  exact (hsegments "" (hparts ▸ List.mem_cons_self)).1 rfl

theorem IsSegment.isSegmented {segment : String} (hsegment : IsSegment segment) :
    IsSegmented segment :=
  ⟨[segment], List.cons_ne_nil _ _, by simpa using hsegment,
    Or.inl (ofParts_singleton segment).symm⟩

theorem IsSegmented.endsPlain (hpath : IsSegmented path) : path ≠ "" ∧ EndsPlain path := by
  obtain ⟨segments, hne, hsegments, hpath⟩ := hpath
  obtain ⟨hne', hend, -⟩ := ofParts_segments hne hsegments
  rcases hpath with rfl | rfl
  · exact ⟨hne', hend⟩
  · exact ⟨fun hempty => hne' (String.append_eq_empty_iff.mp hempty).2, hend.append hne' _⟩

/-- Outside of groups, a text without brackets stays. -/
theorem withoutGroups?_append_plain {text : List Char} (htext : ∀ c ∈ text, c ≠ '<' ∧ c ≠ '>')
    (rest : List Char) :
    withoutGroups? 0 (text ++ rest) = (withoutGroups? 0 rest).map (text ++ ·) := by
  induction text with
  | nil => simp
  | cons c text ih =>
      obtain ⟨hopen, hclose⟩ := htext c List.mem_cons_self
      rw [List.cons_append, withoutGroups?, ih fun d hmem => htext d (List.mem_cons_of_mem c hmem),
        Option.map_map]
      · rfl
      · exact hopen
      · exact hclose

theorem withoutGenerics_eq_self {text : List Char} (htext : ∀ c ∈ text, c ≠ '<' ∧ c ≠ '>') :
    withoutGenerics text = text := by
  have hplain := withoutGroups?_append_plain htext []
  rw [List.append_nil, show withoutGroups? 0 [] = some [] from rfl, Option.map_some,
    List.append_nil] at hplain
  rw [withoutGenerics, hplain, Option.getD_some]

end CrateReadme.Path
