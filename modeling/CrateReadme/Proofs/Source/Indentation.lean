import CrateReadme.Proofs.Text.Line
import CrateReadme.Source.Outline
import Mathlib.Data.List.Forall2
import Mathlib.Data.List.TakeWhile
import Mathlib.Order.Bounds.Basic

/-!
# Indentation

Taking the shared indentation away moves every line with text to the left by one and the same amount
of white space, the least that stands in front of one of them. So the lines keep their number, their
text and their places relative to each other, and a second time there is nothing to take away.
-/

namespace CrateReadme.Source

/-- A line that was moved to the left: it has lost an amount of white space in front of its text. A
line without text is left alone if nothing moves, and is empty otherwise. -/
structure IsMoved (amount : Nat) (line moved : List Char) : Prop where
  blank : isBlankLine line → moved = if amount = 0 then line else []
  text : ¬isBlankLine line → ¬isBlankLine moved ∧
    ∃ white, line = white ++ moved ∧ white.length = amount ∧ ∀ c ∈ white, Text.isBlank c

def moveLine (amount : Nat) (line : List Char) : List Char :=
  if isBlankLine line then if amount = 0 then line else [] else line.drop amount

def indentations (lines : List (List Char)) : Set Nat :=
  {amount | ∃ line ∈ lines, ¬isBlankLine line ∧ indentation line = amount}

variable {amount : Nat} {line moved text : List Char} {lines : List (List Char)}

/-! ### One line -/

theorem isBlankLine_iff : isBlankLine line ↔ ∀ c ∈ line, Text.isBlank c :=
  List.all_eq_true

/-- What stands in front of the text of a line is white space. -/
theorem isBlank_of_mem_take (hamount : amount ≤ indentation line) {c : Char}
    (hmem : c ∈ line.take amount) : Text.isBlank c := by
  have hfront : line.take amount <+: line.takeWhile Text.isBlank :=
    List.prefix_of_prefix_length_le (List.take_prefix amount line) (List.takeWhile_prefix _)
      ((List.length_take_le amount line).trans hamount)
  exact List.mem_takeWhile_imp (hfront.subset hmem)

theorem isMoved_moveLine (hamount : ¬isBlankLine line → amount ≤ indentation line) :
    IsMoved amount line (moveLine amount line) where
  blank hblank := by rw [moveLine, if_pos hblank]
  text htext := by
    have hle := hamount htext
    have hlength : amount ≤ line.length := hle.trans (List.takeWhile_prefix _).length_le
    rw [moveLine, if_neg htext]
    refine ⟨fun hrest => htext (isBlankLine_iff.mpr ?_), line.take amount,
      (List.take_append_drop amount line).symm, List.length_take_of_le hlength,
      fun c => isBlank_of_mem_take hle⟩
    rw [← List.take_append_drop amount line]
    exact List.forall_mem_append.mpr ⟨fun c => isBlank_of_mem_take hle, isBlankLine_iff.mp hrest⟩

/-- A line that was moved has kept the rest of its indentation. -/
theorem IsMoved.indentation_eq (hmoved : IsMoved amount line moved) (htext : ¬isBlankLine line) :
    indentation line = amount + indentation moved := by
  obtain ⟨-, white, rfl, rfl, hwhite⟩ := hmoved.text htext
  rw [indentation, List.takeWhile_append_of_pos hwhite, List.length_append, indentation]

theorem not_mem_moveLine (hline : '\n' ∉ line) : '\n' ∉ moveLine amount line := by
  rw [moveLine]
  split
  · split
    · exact hline
    · exact List.not_mem_nil
  · exact fun hmem => hline (List.mem_of_mem_drop hmem)

/-! ### All lines -/

theorem isLeast_sharedIndentation (htext : ∃ line ∈ lines, ¬isBlankLine line) :
    IsLeast (indentations lines) (sharedIndentation lines) := by
  have hmem : ∀ amount, amount ∈ (lines.filter fun line => !isBlankLine line).map indentation ↔
      amount ∈ indentations lines := by
    simp [indentations, and_assoc]
  obtain ⟨line, hline, hholds⟩ := htext
  have hsome : ((lines.filter fun line => !isBlankLine line).map indentation).min?.isSome := by
    rw [Option.isSome_iff_ne_none, ne_eq, List.min?_eq_none_iff]
    exact List.ne_nil_of_mem ((hmem _).mpr ⟨line, hline, hholds, rfl⟩)
  obtain ⟨least, hleast⟩ := Option.isSome_iff_exists.mp hsome
  rw [sharedIndentation, hleast, Option.getD_some]
  obtain ⟨hin, hle⟩ := List.min?_eq_some_iff.mp hleast
  exact ⟨(hmem _).mp hin, fun amount hamount => hle amount ((hmem _).mpr hamount)⟩

theorem sharedIndentation_eq_zero (hblank : ∀ line ∈ lines, isBlankLine line) :
    sharedIndentation lines = 0 := by
  have hnone : (lines.filter fun line => !isBlankLine line) = [] := by simpa using hblank
  rw [sharedIndentation, hnone]
  rfl

/-- Taking the shared indentation away moves every line. -/
theorem unindent_eq (text : List Char) :
    unindent text =
      Text.unlines ((Text.lines text).map (moveLine (sharedIndentation (Text.lines text)))) := by
  rw [unindent]
  split
  next hnone =>
    have hsame : (Text.lines text).map (moveLine 0) = Text.lines text := by
      simp [moveLine, List.map_id'']
    rw [hnone, hsame, Text.unlines_lines]
  next shared hshared =>
    congr 1
    refine List.map_congr_left fun line _ => ?_
    rw [moveLine, if_neg fun hzero => hshared hzero]

theorem lines_unindent (text : List Char) :
    Text.lines (unindent text) =
      (Text.lines text).map (moveLine (sharedIndentation (Text.lines text))) := by
  rw [unindent_eq, Text.lines_unlines]
  · simp [Text.lines_ne_nil]
  · intro part hpart
    obtain ⟨line, hline, rfl⟩ := List.mem_map.mp hpart
    exact not_mem_moveLine (Text.not_mem_of_mem_lines hline)

theorem isMoved_lines (text : List Char) :
    List.Forall₂ (IsMoved (sharedIndentation (Text.lines text))) (Text.lines text)
      (Text.lines (unindent text)) := by
  rw [lines_unindent, List.forall₂_map_right_iff, List.forall₂_same]
  exact fun line hline => isMoved_moveLine fun htext =>
    (isLeast_sharedIndentation ⟨line, hline, htext⟩).2 ⟨line, hline, htext, rfl⟩

/-- A line with the least indentation is moved up to its text. -/
theorem exists_indentation_eq_zero (htext : ∃ line ∈ Text.lines text, ¬isBlankLine line) :
    ∃ line ∈ Text.lines (unindent text), ¬isBlankLine line ∧ indentation line = 0 := by
  obtain ⟨line, hline, hholds, hleast⟩ := (isLeast_sharedIndentation htext).1
  have hmoved : IsMoved (sharedIndentation (Text.lines text)) line (moveLine _ line) :=
    isMoved_moveLine fun _ => hleast.ge
  refine ⟨_, lines_unindent text ▸ List.mem_map_of_mem hline, (hmoved.text hholds).1, ?_⟩
  have hsum := hmoved.indentation_eq hholds
  omega

theorem unindent_of_eq_zero (hzero : sharedIndentation (Text.lines text) = 0) :
    unindent text = text := by
  rw [unindent, hzero]
  rfl

theorem unindent_unindent (text : List Char) : unindent (unindent text) = unindent text := by
  refine unindent_of_eq_zero ?_
  by_cases htext : ∃ line ∈ Text.lines text, ¬isBlankLine line
  · obtain ⟨line, hline, hholds, hindentation⟩ := exists_indentation_eq_zero htext
    have hleast := (isLeast_sharedIndentation ⟨line, hline, hholds⟩).2
    exact Nat.le_zero.mp (hleast ⟨line, hline, hholds, hindentation⟩)
  · have hzero : sharedIndentation (Text.lines text) = 0 :=
      sharedIndentation_eq_zero fun line hline => by
        by_contra hholds
        exact htext ⟨line, hline, hholds⟩
    rw [unindent_of_eq_zero hzero, hzero]

/-- The lines of a text that was moved to the left are its lines, one by one, each moved by the
least indentation of those that hold text. One that holds text then starts with it, and nothing is
left to take away. -/
theorem lines_unindent_moved (text : List Char) :
    List.Forall₂ (IsMoved (sharedIndentation (Text.lines text))) (Text.lines text)
        (Text.lines (unindent text)) ∧
      ((∃ line ∈ Text.lines text, ¬isBlankLine line) →
        IsLeast (indentations (Text.lines text)) (sharedIndentation (Text.lines text)) ∧
          ∃ line ∈ Text.lines (unindent text), ¬isBlankLine line ∧ indentation line = 0) ∧
      (Text.lines (unindent text)).length = (Text.lines text).length ∧
      unindent (unindent text) = unindent text :=
  ⟨isMoved_lines text,
    fun htext => ⟨isLeast_sharedIndentation htext, exists_indentation_eq_zero htext⟩,
    (isMoved_lines text).length_eq.symm, unindent_unindent text⟩

end CrateReadme.Source
