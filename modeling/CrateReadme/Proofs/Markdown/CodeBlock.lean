import CrateReadme.Markdown.CodeBlock
import Mathlib.Data.List.DropRight

/-!
# Code blocks as they are written

The words of a block and its code lose characters on the way into the written block and gain none
but a line end. The fence around the code is longer than every run of its mark inside it.
-/

namespace CrateReadme

namespace Text

theorem runsOf_cons_of_not_keep {keep : Char → Bool} {c : Char} (hkeep : ¬keep c)
    (text : List Char) : runsOf keep (c :: text) = runsOf keep text := by
  simp only [runsOf, if_neg hkeep]

/-- A run that starts a text is cut off whole. -/
theorem runsOf_cons_of_keep {keep : Char → Bool} {c : Char} (hkeep : keep c) (text : List Char) :
    runsOf keep (c :: text) =
      (c :: text.takeWhile keep) :: runsOf keep (text.dropWhile keep) := by
  induction text generalizing c with
  | nil => simp [runsOf, hkeep]
  | cons d text ih =>
    by_cases hd : keep d
    · simp only [runsOf.eq_def keep (c :: d :: text), if_pos hkeep, ih hd, if_pos hd,
        List.takeWhile_cons_of_pos hd, List.dropWhile_cons_of_pos hd]
    · rw [List.takeWhile_cons_of_neg hd, List.dropWhile_cons_of_neg hd, runsOf.eq_def]
      cases hruns : runsOf keep (d :: text) with
      | nil => simp [hkeep, hruns]
      | cons run runs => simp [hkeep, hruns, hd]

/-- Runs consist of characters of the text that are kept. -/
theorem mem_of_mem_runsOf {keep : Char → Bool} {text run : List Char}
    (hrun : run ∈ runsOf keep text) : ∀ c ∈ run, c ∈ text ∧ keep c := by
  induction hlength : text.length using Nat.strongRecOn generalizing text with
  | ind length ih =>
    cases text with
    | nil => exact absurd hrun List.not_mem_nil
    | cons d text =>
      by_cases hd : keep d
      · rw [runsOf_cons_of_keep hd] at hrun
        intro c hmem
        rcases List.mem_cons.mp hrun with rfl | hrun
        · rcases List.mem_cons.mp hmem with rfl | hmem
          · exact ⟨List.mem_cons_self, hd⟩
          · exact ⟨List.mem_cons_of_mem d ((List.takeWhile_prefix keep).subset hmem),
              List.mem_takeWhile_imp hmem⟩
        · have hshorter : (text.dropWhile keep).length < length := by
            rw [← hlength, List.length_cons]
            exact Nat.lt_succ_of_le (List.dropWhile_suffix keep).length_le
          obtain ⟨hin, hkeep⟩ := ih _ hshorter hrun rfl c hmem
          exact ⟨List.mem_cons_of_mem d ((List.dropWhile_suffix keep).subset hin), hkeep⟩
      · rw [runsOf_cons_of_not_keep hd] at hrun
        intro c hmem
        obtain ⟨hin, hkeep⟩ := ih text.length (by simp [← hlength]) hrun rfl c hmem
        exact ⟨List.mem_cons_of_mem d hin, hkeep⟩

/-- Every stretch of kept characters lies in a run. -/
theorem exists_run_of_suffix (keep : Char → Bool) {text rest : List Char} {c : Char}
    (hkeep : keep c) (hrest : c :: rest <:+ text) :
    ∃ run ∈ runsOf keep text, ((c :: rest).takeWhile keep).length ≤ run.length := by
  induction text with
  | nil => exact absurd (List.suffix_nil.mp hrest) (List.cons_ne_nil c rest)
  | cons d text ih =>
    rcases List.suffix_cons_iff.mp hrest with heq | hrest
    · obtain ⟨rfl, rfl⟩ := List.cons.inj heq
      rw [runsOf_cons_of_keep hkeep, List.takeWhile_cons_of_pos hkeep]
      exact ⟨_, List.mem_cons_self, Nat.le_refl _⟩
    · obtain ⟨run, hrun, hlength⟩ := ih hrest
      by_cases hd : keep d
      · rw [runsOf_cons_of_keep hd]
        cases text with
        | nil => exact absurd hrun List.not_mem_nil
        | cons e text =>
          by_cases he : keep e
          · -- the first run grows by a character, the others stay
            rw [runsOf_cons_of_keep he] at hrun
            simp only [List.takeWhile_cons_of_pos he, List.dropWhile_cons_of_pos he]
            rcases List.mem_cons.mp hrun with rfl | hrun
            · exact ⟨_, List.mem_cons_self, Nat.le_succ_of_le hlength⟩
            · exact ⟨run, List.mem_cons_of_mem _ hrun, hlength⟩
          · rw [List.dropWhile_cons_of_neg he]
            exact ⟨run, List.mem_cons_of_mem _ hrun, hlength⟩
      · rw [runsOf_cons_of_not_keep hd]
        exact ⟨run, hrun, hlength⟩

end Text

namespace Markdown.CodeBlock

theorem le_foldl_max {length : Nat} (start : Nat) {lengths : List Nat}
    (hle : length ≤ start ∨ length ∈ lengths) : length ≤ lengths.foldl max start := by
  induction lengths generalizing start with
  | nil => exact hle.resolve_right List.not_mem_nil
  | cons first lengths ih =>
    refine ih _ ?_
    rcases hle with hle | hmem
    · exact .inl (Nat.le_trans hle (Nat.le_max_left start first))
    · rcases List.mem_cons.mp hmem with rfl | hmem
      · exact .inl (Nat.le_max_right start length)
      · exact .inr hmem

/-- A fence is longer than every stretch of its mark in the code. -/
theorem length_takeWhile_lt_fence (mark : Char) {code rest : List Char} (hrest : rest <:+ code) :
    (rest.takeWhile (· = mark)).length < (fence mark code).length := by
  rw [fence, List.length_replicate]
  by_cases hhead : rest.head? = some mark
  · obtain ⟨rest, rfl⟩ := List.head?_eq_some_iff.mp hhead
    obtain ⟨run, hrun, hlength⟩ := Text.exists_run_of_suffix (· = mark) (decide_eq_true rfl) hrest
    have hmem : run.length ∈ (Text.runsOf (· = mark) code).map List.length :=
      List.mem_map.mpr ⟨run, hrun, rfl⟩
    have hlongest := le_foldl_max 0 (.inr hmem)
    omega
  · have hnone : rest.takeWhile (· = mark) = [] := by
      cases rest with
      | nil => rfl
      | cons c rest =>
        exact List.takeWhile_cons_of_neg fun hc => hhead (congrArg some (of_decide_eq_true hc))
    rw [hnone]
    exact Nat.lt_of_lt_of_le (Nat.succ_pos 2) (Nat.le_max_left 3 _)

/-- A visible line is the line without some of its characters. -/
theorem visibleLine_sublist (line : List Char) : (visibleLine line).Sublist line := by
  have hbody : Text.trimEnd isLineEnd line <+: line := List.rdropWhile_prefix isLineEnd line
  have hcode : Text.trimStart Text.isBlank (Text.trimEnd isLineEnd line) <:+
      Text.trimEnd isLineEnd line := List.dropWhile_suffix _
  rw [visibleLine]
  generalize Text.trimEnd isLineEnd line = body at *
  generalize Text.trimStart Text.isBlank body = code at *
  split
  next => exact List.nil_sublist line
  next c rest =>
    split
    next => exact List.nil_sublist line
    next =>
    split
    next hsign =>
      -- of two number signs the first goes
      obtain ⟨indent, rfl⟩ := hcode
      obtain ⟨ending, rfl⟩ := hbody
      rw [List.length_append, Nat.add_sub_cancel, List.take_left, List.drop_left']
      · exact (((List.Sublist.refl indent).append (List.sublist_cons_self '#' _)).append
          (List.Sublist.refl ending))
      · exact List.length_append
    next => exact List.Sublist.refl line
  next => exact List.Sublist.refl line

/-- The visible code is the code without some of its characters. -/
theorem visible_sublist (code : List Char) : (visible code).Sublist code := by
  have hlines : ∀ lines : List (List Char), (lines.flatMap visibleLine).Sublist lines.flatten := by
    intro lines
    induction lines with
    | nil => exact List.Sublist.refl []
    | cons line lines ih =>
      rw [List.flatMap_cons, List.flatten_cons]
      exact (visibleLine_sublist line).append ih
  have hcode := hlines (Text.linesWithBreaks code)
  rwa [Text.flatten_linesWithBreaks] at hcode

def shown (info : Info) (code : List Char) : List Char :=
  if info.hidesLines then visible code else code

theorem shown_sublist (info : Info) (code : List Char) : (shown info code).Sublist code := by
  rw [shown]
  split
  · exact visible_sublist code
  · exact List.Sublist.refl code

/-- The code that is written for a block: what it shows, with a line end behind the last line. -/
def written (info : Info) (code : List Char) : List Char :=
  if shown info code = [] ∨ (shown info code).getLast? = some '\n' then shown info code
  else shown info code ++ ['\n']

theorem render_eq (info : Info) (code : List Char) :
    render info code =
      (fence '`' (written info code) ++ info.language) ++
        '\n' :: (written info code ++ fence '`' (written info code)) := by
  have hrender : render info code = fence '`' (written info code) ++ info.language ++
      '\n' :: written info code ++ fence '`' (written info code) := rfl
  rw [hrender]
  simp only [List.append_assoc, List.cons_append]

theorem written_ends (info : Info) (code : List Char) :
    written info code = [] ∨ (written info code).getLast? = some '\n' := by
  rw [written]
  split
  next hends => exact hends
  next => exact .inr List.getLast?_concat

/-- What is written comes from the code, line ends apart. -/
theorem mem_of_mem_written {info : Info} {code : List Char} {c : Char}
    (hmem : c ∈ written info code) : c ∈ code ∨ c = '\n' := by
  rw [written] at hmem
  split at hmem
  · exact .inl ((shown_sublist info code).subset hmem)
  · rcases List.mem_append.mp hmem with hmem | hmem
    · exact .inl ((shown_sublist info code).subset hmem)
    · exact .inr (List.mem_singleton.mp hmem)

/-- A language is one word: of the words of the block, or the default one. -/
theorem mem_of_mem_language {words : List Char} {c : Char}
    (hmem : c ∈ (Info.ofText words).language) :
    (c ∈ words ∨ c ∈ defaultLanguage) ∧ Text.isBlank c = false := by
  have hall : defaultLanguage.all (fun d => !Text.isBlank d) := by decide
  have hdefault : ∀ d ∈ defaultLanguage, Text.isBlank d = false := fun d hd =>
    Bool.not_eq_true' _ ▸ List.all_eq_true.mp hall d hd
  rw [Info.ofText] at hmem
  split at hmem
  next language others hlanguages =>
    split at hmem
    next => exact ⟨.inr hmem, hdefault c hmem⟩
    next =>
      have hword : language ∈ Text.runsOf (fun c => !Text.isBlank c && c ≠ ',') words :=
        (List.mem_filter.mp (hlanguages ▸ List.mem_cons_self)).1
      obtain ⟨hin, hkeep⟩ := Text.mem_of_mem_runsOf hword c hmem
      rw [Bool.and_eq_true, Bool.not_eq_true'] at hkeep
      exact ⟨.inl hin, hkeep.1⟩
  next => exact ⟨.inr hmem, hdefault c hmem⟩

end Markdown.CodeBlock

end CrateReadme
