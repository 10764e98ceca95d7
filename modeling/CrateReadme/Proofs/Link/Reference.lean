import CrateReadme.Link.Reference
import CrateReadme.Proofs.Scope.Import
import CrateReadme.Proofs.Source.Spelling

/-!
# References to identifiers

A source may name its items by any word, but references know ASCII identifiers only. A path of such
identifiers is read as it stands, without a kind; a path with any other word in it is no reference.
-/

namespace CrateReadme

open Source

variable {c : Char} {text : List Char} {name : String}

theorem Text.splitOn_colons_eq_singleton (hcolon : ':' ∉ text) :
    Text.splitOn [':', ':'] text = [text] := by
  rcases Text.splitOn_cases (List.cons_ne_nil ':' [':']) text with hone | ⟨front, back, rfl, -⟩
  · exact hone
  · exact absurd (by simp) hcolon

namespace Reference

/-- Whether a character may stand in a path of words. -/
def isPathPart (c : Char) : Bool :=
  isWordPart c || c = ':'

/-- Whether a text is a word that may name an item of a source. -/
def isSourceIdent : List Char → Bool
  | [] => false
  | c :: rest => isWordStart c && rest.all isWordPart

theorem isWordPart_of_mem (hident : isSourceIdent text) (hmem : c ∈ text) : isWordPart c := by
  cases text with
  | nil => cases hmem
  | cons d rest =>
      rw [isSourceIdent, Bool.and_eq_true, List.all_eq_true] at hident
      rcases List.mem_cons.mp hmem with rfl | hmem
      · exact isWordPart_of_isWordStart hident.1
      · exact hident.2 c hmem

theorem isPathPart_of_isWordPart (hpart : isWordPart c) : isPathPart c := by
  rw [isPathPart, hpart, Bool.true_or]

theorem not_mem_of_isPathPart (htext : ∀ c ∈ text, isPathPart c) {other : Char}
    (hother : isPathPart other = false) : other ∉ text := by
  intro hmem
  rw [htext other hmem] at hother
  cases hother

theorem strip_eq_self_of_isPathPart (htext : ∀ c ∈ text, isPathPart c) :
    Text.strip text = text := by
  refine Text.strip_eq_self fun c hmem => ?_
  have hpart := htext c hmem
  rw [isPathPart, Bool.or_eq_true, decide_eq_true_eq] at hpart
  rcases hpart with hpart | rfl
  · exact isBlank_eq_false_of_isWordPart hpart
  · decide

theorem withoutBackquotes_eq_self (htext : ∀ c ∈ text, isPathPart c) :
    withoutBackquotes text = text := by
  rw [withoutBackquotes, strip_eq_self_of_isPathPart htext]
  split
  · next rest =>
    exact absurd List.mem_cons_self (not_mem_of_isPathPart htext (by decide))
  · rfl

/-- A path with neither a closing bracket nor an exclamation mark has no call to take off. -/
theorem withoutCall_eq_self_of_not_mem (hclosing : ')' ∉ text) (hbang : '!' ∉ text) :
    withoutCall text = text ∧ kindOfCall text = none := by
  rw [← List.mem_reverse] at hclosing hbang
  constructor
  · rw [withoutCall]
    split
    · next heq => exact absurd (heq ▸ List.mem_cons_self) hclosing
    · next heq => exact absurd (heq ▸ List.mem_cons_self) hbang
    · rfl
  · rw [kindOfCall]
    split
    · next heq => exact absurd (heq ▸ List.mem_cons_self) hclosing
    · next heq => exact absurd (heq ▸ List.mem_cons_self) hbang
    · rfl

/-- Nothing stands behind the last word of a path of words. -/
theorem withoutCall_eq_self (htext : ∀ c ∈ text, isPathPart c) :
    withoutCall text = text ∧ kindOfCall text = none :=
  withoutCall_eq_self_of_not_mem (not_mem_of_isPathPart htext (by decide))
    (not_mem_of_isPathPart htext (by decide))

theorem withoutGenerics_eq_self (htext : ∀ c ∈ text, isPathPart c) :
    Path.withoutGenerics text = text := by
  have hplain : ∀ c ∈ text, c ≠ '<' ∧ c ≠ '>' := by
    intro c hmem
    constructor
    · rintro rfl
      exact not_mem_of_isPathPart htext (by decide) hmem
    · rintro rfl
      exact not_mem_of_isPathPart htext (by decide) hmem
  exact Path.withoutGenerics_eq_self hplain

/-- A path of words is a reference as it stands, or none. -/
theorem parse?_of_isPathPart (htext : ∀ c ∈ text, isPathPart c) :
    parse? (String.ofList text) =
      if (Text.splitOn [':', ':'] ((Text.after? [':', ':'] text).getD text)).all isIdent then
        some { path := String.ofList text }
      else none := by
  obtain ⟨hcall, hkind⟩ := withoutCall_eq_self htext
  have hat : '@' ∉ text := not_mem_of_isPathPart htext (by decide)
  rw [parse?, String.toList_ofList, withoutBackquotes_eq_self htext, splitDisambiguator?,
    if_neg hat]
  simp only [Option.bind_eq_bind, Option.bind_some]
  rw [withoutGenerics_eq_self htext, strip_eq_self_of_isPathPart htext, isPath, hcall, hkind]
  rfl

theorem isIdent_eq_isPlainIdent (hident : isSourceIdent text) :
    isIdent text = isPlainIdent text := by
  unfold isIdent
  split
  · have hhash := isWordPart_of_mem hident (List.mem_cons_of_mem _ List.mem_cons_self)
    exact absurd hhash (by decide)
  · rfl

theorem colon_not_mem (hident : isSourceIdent text) : ':' ∉ text :=
  fun hmem => absurd (isWordPart_of_mem hident hmem) (by decide)

/-- An identifier of a source is a reference if it is an ASCII identifier. -/
theorem parse?_ident (hident : isSourceIdent name.toList) :
    parse? name = if isPlainIdent name.toList then some { path := name } else none := by
  have hparts : ∀ c ∈ name.toList, isPathPart c := fun c hmem =>
    isPathPart_of_isWordPart (isWordPart_of_mem hident hmem)
  have hcolon := colon_not_mem hident
  have hafter : Text.after? [':', ':'] name.toList = none := by
    rw [Option.eq_none_iff_forall_ne_some]
    intro rest hrest
    rw [Text.after?_eq_some_iff] at hrest
    exact hcolon (hrest ▸ List.mem_cons_self)
  have hparse := parse?_of_isPathPart hparts
  rw [String.ofList_toList, hafter, Option.getD_none,
    Text.splitOn_colons_eq_singleton hcolon] at hparse
  rw [hparse, List.all_cons, List.all_nil, Bool.and_true, isIdent_eq_isPlainIdent hident]

/-- The path of an identifier below the word for the crate root. -/
def qualified (name : String) : String :=
  "crate" ++ Path.separator ++ name

theorem toList_qualified (name : String) :
    (qualified name).toList = "crate".toList ++ ':' :: ':' :: name.toList := by
  rw [qualified, String.toList_append, String.toList_append, Path.toList_separator,
    List.append_assoc]
  rfl

theorem isPathPart_qualified (hident : isSourceIdent name.toList) :
    ∀ c ∈ (qualified name).toList, isPathPart c := by
  have hcrate : ∀ c ∈ "crate".toList, isPathPart c := List.all_eq_true.mp (by decide)
  intro c hmem
  rw [toList_qualified, List.mem_append, List.mem_cons, List.mem_cons] at hmem
  rcases hmem with hmem | rfl | rfl | hmem
  · exact hcrate c hmem
  · decide
  · decide
  · exact isPathPart_of_isWordPart (isWordPart_of_mem hident hmem)

/-- So is its path below the crate root. -/
theorem parse?_qualified (hident : isSourceIdent name.toList) :
    parse? (qualified name) =
      if isPlainIdent name.toList then some { path := qualified name } else none := by
  have hparse := parse?_of_isPathPart (isPathPart_qualified hident)
  have hafter : Text.after? [':', ':'] (qualified name).toList = none := by
    rw [toList_qualified]
    rfl
  have hsplit : Text.splitOn [':', ':'] (qualified name).toList =
      ["crate".toList, name.toList] := by
    rw [toList_qualified, Text.splitOn_append_colons (by decide),
      Text.splitOn_colons_eq_singleton (colon_not_mem hident)]
    rfl
  have hcrate : isIdent "crate".toList = true := by decide
  rw [String.ofList_toList, hafter, Option.getD_none, hsplit] at hparse
  rw [hparse, List.all_cons, hcrate, Bool.true_and, List.all_cons, List.all_nil, Bool.and_true,
    isIdent_eq_isPlainIdent hident]

end Reference

end CrateReadme
