import CrateReadme.Text.Basic
import Mathlib.Data.List.Basic

/-!
# Lines

A text is cut into lines at its line feeds, and lines that hold none, put together, are cut into
themselves again.

Under the wide notion of line breaks a line keeps the break that ends it. Lines that are ended as
`AreLines` says, put together, are cut into themselves again, and the lines of every text are such.
-/

namespace CrateReadme.Text

/-! ### Lines between line feeds -/

theorem lines_append (text rest : List Char) :
    lines (text ++ '\n' :: rest) = lines text ++ lines rest :=
  List.splitOnP_append_cons text rest (by simp)

def ended (lines : List (List Char)) : List Char :=
  lines.flatMap fun line => line ++ ['\n']

theorem ended_cons (line : List Char) (lines : List (List Char)) :
    ended (line :: lines) = line ++ '\n' :: ended lines := by
  simp [ended]

/-- Every text is made up of lines and of what stands behind the last line end. -/
theorem exists_ended (text : List Char) :
    ∃ lines last, text = ended lines ++ last ∧ (∀ line ∈ lines, '\n' ∉ line) ∧ '\n' ∉ last := by
  induction text with
  | nil => exact ⟨[], [], rfl, fun _ hmem => absurd hmem List.not_mem_nil, List.not_mem_nil⟩
  | cons c text ih =>
    obtain ⟨lines, last, htext, hlines, hlast⟩ := ih
    by_cases hc : c = '\n'
    · refine ⟨[] :: lines, last, ?_, ?_, hlast⟩
      · rw [ended_cons, htext, hc]
        rfl
      · exact List.forall_mem_cons.mpr ⟨List.not_mem_nil, hlines⟩
    · have hne : '\n' ≠ c := fun heq => hc heq.symm
      cases lines with
      | nil =>
        refine ⟨[], c :: last, by rw [htext]; rfl, hlines, ?_⟩
        exact List.not_mem_cons_of_ne_of_not_mem hne hlast
      | cons line lines =>
        obtain ⟨hline, hlines⟩ := List.forall_mem_cons.mp hlines
        refine ⟨(c :: line) :: lines, last, ?_, ?_, hlast⟩
        · rw [htext, ended_cons, ended_cons]
          rfl
        · exact List.forall_mem_cons.mpr ⟨List.not_mem_cons_of_ne_of_not_mem hne hline, hlines⟩

/-- A text that is empty or ends in a line end is made up of lines. -/
theorem exists_ended_of_getLast? {text : List Char} (hends : text = [] ∨ text.getLast? = some '\n') :
    ∃ lines, text = ended lines ∧ ∀ line ∈ lines, '\n' ∉ line := by
  obtain ⟨lines, last, htext, hlines, hlast⟩ := exists_ended text
  have hnil : last = [] := by
    rcases hends with hnil | hends
    · rw [htext, List.append_eq_nil_iff] at hnil
      exact hnil.2
    · by_contra hne
      rw [htext, List.getLast?_append_of_ne_nil _ hne] at hends
      exact hlast (List.mem_of_getLast? hends)
  rw [hnil, List.append_nil] at htext
  exact ⟨lines, htext, hlines⟩

theorem lines_of_not_mem {line : List Char} (hline : '\n' ∉ line) : lines line = [line] :=
  List.splitOn_eq_singleton hline

/-- Cutting a text at its line ends gives the lines it is made up of. -/
theorem lines_ended_append {parts : List (List Char)} {last : List Char}
    (hparts : ∀ line ∈ parts, '\n' ∉ line) (hlast : '\n' ∉ last) :
    lines (ended parts ++ last) = parts ++ [last] := by
  induction parts with
  | nil => exact lines_of_not_mem hlast
  | cons line parts ih =>
    obtain ⟨hline, hparts⟩ := List.forall_mem_cons.mp hparts
    rw [ended_cons, List.append_assoc, List.cons_append, lines_append, ih hparts,
      lines_of_not_mem hline]
    rfl

/-- A line of a text holds characters of the text other than line ends. -/
theorem mem_of_mem_lines {text line : List Char} (hline : line ∈ lines text) {c : Char}
    (hmem : c ∈ line) : c ∈ text ∧ c ≠ '\n' := by
  obtain ⟨parts, last, rfl, hparts, hlast⟩ := exists_ended text
  rw [lines_ended_append hparts hlast] at hline
  rcases List.mem_append.mp hline with hline | hline
  · refine ⟨List.mem_append_left _ (List.mem_flatMap.mpr ⟨line, hline, ?_⟩), ?_⟩
    · exact List.mem_append_left _ hmem
    · rintro rfl
      exact hparts line hline hmem
  · obtain rfl := List.mem_singleton.mp hline
    refine ⟨List.mem_append_right _ hmem, ?_⟩
    rintro rfl
    exact hlast hmem

theorem not_mem_of_mem_lines {text line : List Char} (hline : line ∈ lines text) : '\n' ∉ line :=
  fun hmem => (mem_of_mem_lines hline hmem).2 rfl

theorem lines_ne_nil (text : List Char) : lines text ≠ [] :=
  List.splitOn_ne_nil '\n' text

theorem unlines_eq_intercalate (parts : List (List Char)) :
    unlines parts = ['\n'].intercalate parts := by
  unfold unlines
  induction parts with
  | nil => rfl
  | cons part parts ih =>
    cases parts with
    | nil => simp [joinWith]
    | cons next parts =>
      rw [joinWith, ih, List.intercalate_cons_cons]
      exact List.cons_ne_nil next parts

theorem unlines_lines (text : List Char) : unlines (lines text) = text := by
  rw [unlines_eq_intercalate, lines, List.intercalate_splitOn]

theorem lines_unlines {parts : List (List Char)} (hne : parts ≠ [])
    (hparts : ∀ part ∈ parts, '\n' ∉ part) : lines (unlines parts) = parts := by
  rw [unlines_eq_intercalate, lines, List.splitOn_intercalate '\n' hparts hne]

/-! ### Lines with their breaks -/

theorem isBlank_of_isLineBreak {c : Char} (hbreak : isLineBreak c) : isBlank c := by
  have hall : ['\n', '\r', '\x0b', '\x0c', '\x1c', '\x1d', '\x1e', '\u0085', '\u2028',
      '\u2029'].all isBlank := by decide
  exact List.all_eq_true.mp hall c (of_decide_eq_true hbreak)

theorem linesWithBreaks_of_isLineBreak {c : Char} (hbreak : isLineBreak c) {text : List Char}
    (hpair : c = '\r' → text.head? ≠ some '\n') :
    linesWithBreaks (c :: text) = [c] :: linesWithBreaks text := by
  rw [linesWithBreaks.eq_3, if_pos hbreak]
  rintro rest rfl rfl
  exact hpair rfl rfl

theorem linesWithBreaks_of_not_isLineBreak {c : Char} (hbreak : ¬isLineBreak c)
    (text : List Char) :
    linesWithBreaks (c :: text) =
      (c :: (linesWithBreaks text).headD []) :: (linesWithBreaks text).tail := by
  rw [linesWithBreaks.eq_3, if_neg hbreak]
  · cases linesWithBreaks text <;> rfl
  · rintro rest rfl
    exact absurd (by decide) hbreak

theorem head?_ne_of_apart {c : Char} {text : List Char}
    (hpair : ∀ rest, c = '\r' → text = '\n' :: rest → False) (hc : c = '\r') :
    text.head? ≠ some '\n' := by
  intro hhead
  obtain ⟨rest, rfl⟩ := List.head?_eq_some_iff.mp hhead
  exact hpair rest hc rfl

theorem linesWithBreaks_ne_nil {text : List Char} (hne : text ≠ []) :
    linesWithBreaks text ≠ [] := by
  intro hnil
  have hflat := flatten_linesWithBreaks text
  rw [hnil] at hflat
  exact hne hflat.symm

/-- Induction over a text in which a carriage return and the line feed behind it belong together. -/
theorem breakInduction {motive : List Char → Prop} (nil : motive [])
    (pair : ∀ text, motive text → motive ('\r' :: '\n' :: text))
    (cons : ∀ c text, (c = '\r' → text.head? ≠ some '\n') → motive text → motive (c :: text))
    (text : List Char) : motive text := by
  fun_induction linesWithBreaks text with
  | case1 => exact nil
  | case2 text ih => exact pair text ih
  | case3 c text hpair _ ih => exact cons c text (head?_ne_of_apart hpair) ih
  | case4 c text hpair _ _ ih => exact cons c text (head?_ne_of_apart hpair) ih
  | case5 c text hpair _ _ _ _ ih => exact cons c text (head?_ne_of_apart hpair) ih

/-- Behind a newline the lines of a text are those that it has alone. -/
theorem linesWithBreaks_append (text rest : List Char) :
    linesWithBreaks (text ++ '\n' :: rest) =
      linesWithBreaks (text ++ ['\n']) ++ linesWithBreaks rest := by
  induction text using breakInduction with
  | nil =>
    rw [List.nil_append, linesWithBreaks_of_isLineBreak (by decide) fun hc => absurd hc (by decide)]
    rfl
  | pair text ih => simp only [List.cons_append, linesWithBreaks, ih]
  | cons c text hpair ih =>
    by_cases hmerged : c = '\r' ∧ text = []
    · -- the newline completes the line break
      obtain ⟨rfl, rfl⟩ := hmerged
      rfl
    · have hapart : ∀ ending, c = '\r' → (text ++ '\n' :: ending).head? ≠ some '\n' := by
        intro ending hc
        cases text with
        | nil => exact absurd ⟨hc, rfl⟩ hmerged
        | cons d text => exact hpair hc
      by_cases hbreak : isLineBreak c
      · rw [List.cons_append, List.cons_append, linesWithBreaks_of_isLineBreak hbreak (hapart rest),
          linesWithBreaks_of_isLineBreak hbreak (hapart []), ih]
        rfl
      · obtain ⟨first, more, hlines⟩ :=
          List.exists_cons_of_ne_nil (linesWithBreaks_ne_nil (show text ++ ['\n'] ≠ [] by simp))
        rw [List.cons_append, List.cons_append, linesWithBreaks_of_not_isLineBreak hbreak,
          linesWithBreaks_of_not_isLineBreak hbreak, ih, hlines]
        rfl

/-- Lines that newlines end are cut on their own. -/
theorem linesWithBreaks_ended (lines : List (List Char)) :
    linesWithBreaks (ended lines) = lines.flatMap fun line => linesWithBreaks (line ++ ['\n']) := by
  induction lines with
  | nil => rfl
  | cons line lines ih => rw [ended_cons, linesWithBreaks_append, ih, List.flatMap_cons]

/-- A line is passed over up to its break. -/
theorem linesWithBreaks_body_append {body : List Char} (hbody : ∀ c ∈ body, ¬isLineBreak c)
    {ending rest : List Char} {lines : List (List Char)}
    (hlines : linesWithBreaks (ending ++ rest) = ending :: lines) :
    linesWithBreaks (body ++ ending ++ rest) = (body ++ ending) :: lines := by
  induction body with
  | nil => exact hlines
  | cons c body ih =>
    obtain ⟨hc, hbody⟩ := List.forall_mem_cons.mp hbody
    rw [List.cons_append, List.cons_append, linesWithBreaks_of_not_isLineBreak hc, ih hbody]
    rfl

/-- A line without other line breaks is not cut. -/
theorem linesWithBreaks_of_forall {line : List Char} (hline : ∀ c ∈ line, ¬isLineBreak c) :
    linesWithBreaks (line ++ ['\n']) = [line ++ ['\n']] := by
  have hbreak : linesWithBreaks (['\n'] ++ []) = [['\n']] := rfl
  simpa using linesWithBreaks_body_append hline hbreak

/-- Every part of a line that a newline ends, ends in white space. -/
theorem exists_blank_of_mem_linesWithBreaks (line : List Char) :
    ∀ part ∈ linesWithBreaks (line ++ ['\n']), ∃ body c, part = body ++ [c] ∧ isBlank c := by
  induction line using breakInduction with
  | nil => exact List.forall_mem_singleton.mpr ⟨[], '\n', rfl, by decide⟩
  | pair line ih => exact List.forall_mem_cons.mpr ⟨⟨['\r'], '\n', rfl, by decide⟩, ih⟩
  | cons c line hpair ih =>
    by_cases hmerged : c = '\r' ∧ line = []
    · obtain ⟨rfl, rfl⟩ := hmerged
      exact List.forall_mem_singleton.mpr ⟨['\r'], '\n', rfl, by decide⟩
    · by_cases hbreak : isLineBreak c
      · have hapart : c = '\r' → (line ++ ['\n']).head? ≠ some '\n' := by
          intro hc
          cases line with
          | nil => exact absurd ⟨hc, rfl⟩ hmerged
          | cons d line => exact hpair hc
        rw [List.cons_append, linesWithBreaks_of_isLineBreak hbreak hapart]
        exact List.forall_mem_cons.mpr ⟨⟨[], c, rfl, isBlank_of_isLineBreak hbreak⟩, ih⟩
      · obtain ⟨first, rest, hlines⟩ :=
          List.exists_cons_of_ne_nil (linesWithBreaks_ne_nil (show line ++ ['\n'] ≠ [] by simp))
        rw [hlines] at ih
        obtain ⟨⟨body, d, rfl, hblank⟩, hrest⟩ := List.forall_mem_cons.mp ih
        rw [List.cons_append, linesWithBreaks_of_not_isLineBreak hbreak, hlines]
        exact List.forall_mem_cons.mpr ⟨⟨c :: body, d, rfl, hblank⟩, hrest⟩

/-- Lines that stand one behind the other in a text, each with the break that ends it. Only the last
one may have none, and no carriage return is torn away from a line feed. -/
inductive AreLines : List (List Char) → Prop where
  | nil : AreLines []
  | last {body : List Char} (hne : body ≠ []) (hbody : ∀ c ∈ body, ¬isLineBreak c) : AreLines [body]
  | pair {body : List Char} {lines : List (List Char)} (hbody : ∀ c ∈ body, ¬isLineBreak c)
      (hlines : AreLines lines) : AreLines ((body ++ ['\r', '\n']) :: lines)
  | single {body : List Char} {c : Char} {lines : List (List Char)}
      (hbody : ∀ c ∈ body, ¬isLineBreak c) (hbreak : isLineBreak c)
      (hpair : c = '\r' → lines.flatten.head? ≠ some '\n') (hlines : AreLines lines) :
      AreLines ((body ++ [c]) :: lines)

/-- A character that is no break is put in front of the first line. -/
theorem AreLines.cons {c : Char} (hc : ¬isLineBreak c) {lines : List (List Char)}
    (hlines : AreLines lines) : AreLines ((c :: lines.headD []) :: lines.tail) := by
  cases hlines with
  | nil => exact .last (List.cons_ne_nil c []) (List.forall_mem_singleton.mpr hc)
  | last hne hbody => exact .last (List.cons_ne_nil _ _) (List.forall_mem_cons.mpr ⟨hc, hbody⟩)
  | pair hbody hlines => exact .pair (List.forall_mem_cons.mpr ⟨hc, hbody⟩) hlines
  | single hbody hbreak hpair hlines =>
    exact .single (List.forall_mem_cons.mpr ⟨hc, hbody⟩) hbreak hpair hlines

theorem areLines_linesWithBreaks (text : List Char) : AreLines (linesWithBreaks text) := by
  induction text using breakInduction with
  | nil => exact .nil
  | pair text ih => exact @AreLines.pair [] _ (List.forall_mem_nil _) ih
  | cons c text hpair ih =>
    by_cases hbreak : isLineBreak c
    · rw [linesWithBreaks_of_isLineBreak hbreak hpair]
      exact @AreLines.single [] c _ (List.forall_mem_nil _) hbreak
        (by rwa [flatten_linesWithBreaks]) ih
    · rw [linesWithBreaks_of_not_isLineBreak hbreak]
      exact ih.cons hbreak

/-- Lines put together are cut into themselves. -/
theorem AreLines.linesWithBreaks_flatten {lines : List (List Char)} (hlines : AreLines lines) :
    linesWithBreaks lines.flatten = lines := by
  induction hlines with
  | nil => rfl
  | @last body hne hbody =>
    obtain ⟨front, c, rfl⟩ := (List.eq_nil_or_concat' body).resolve_left hne
    have hlast : linesWithBreaks ([c] ++ []) = [[c]] :=
      linesWithBreaks_of_not_isLineBreak (hbody c (by simp)) []
    have hfront : ∀ d ∈ front, ¬isLineBreak d := fun d hmem => hbody d (by simp [hmem])
    simpa using linesWithBreaks_body_append hfront hlast
  | @pair body lines hbody hlines ih =>
    rw [List.flatten_cons]
    refine linesWithBreaks_body_append hbody ?_
    rw [List.cons_append, List.cons_append, linesWithBreaks.eq_2, List.nil_append, ih]
  | @single body c lines hbody hbreak hpair hlines ih =>
    rw [List.flatten_cons]
    refine linesWithBreaks_body_append hbody ?_
    rw [List.singleton_append, linesWithBreaks_of_isLineBreak hbreak hpair, ih]

end CrateReadme.Text
