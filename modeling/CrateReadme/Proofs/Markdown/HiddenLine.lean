import CrateReadme.Proofs.Markdown.Fence

/-!
# Hidden lines

The lines of code that are only there for a test are found one by one. Code is made up of lines
that a newline ends, but it is cut at every Unicode line break: what stands behind another break
inside a line is treated as a line of its own. For a line with such breaks the outcome is that of
the whole line only if all parts of it share one fate.
-/

namespace CrateReadme.Markdown.CodeBlock

/-- What becomes of a line of code: it is hidden, loses a number sign, or is kept. -/
inductive Fate where
  | hidden
  | unescaped
  | kept
  deriving DecidableEq, Repr

/-- A number sign, alone or with white space behind it, hides a line; of two number signs one goes.
White space in front of them does not count. -/
def fate (line : List Char) : Fate :=
  match line.dropWhile Text.isBlank with
  | ['#'] => .hidden
  | '#' :: c :: _ => if c = '#' then .unescaped else if Text.isBlank c then .hidden else .kept
  | _ => .kept

/-- A line without the first character behind the white space in front of it. -/
def withoutSign (line : List Char) : List Char :=
  line.takeWhile Text.isBlank ++ (line.dropWhile Text.isBlank).tail

def settled (text : List Char) : List Char :=
  match fate text with
  | .hidden => []
  | .unescaped => withoutSign text
  | .kept => text

/-- What is shown of a line that a newline ends: nothing, not even the newline, if it is hidden. -/
def shownLine (line : List Char) : List Char :=
  if fate line = .hidden then [] else settled line ++ ['\n']

def isWhiteSpace (text : List Char) : Bool :=
  text.all Text.isBlank

/-- A line whose parts, where other line breaks than newlines cut it, share one fate: all are
hidden, or none of those behind the first that is not blank is hidden or unescaped. -/
def IsUniform (line : List Char) : Prop :=
  let parts := Text.linesWithBreaks (line ++ ['\n'])
  if fate line = .hidden then ∀ part ∈ parts, fate part = .hidden
  else ∀ part ∈ (parts.dropWhile isWhiteSpace).tail, fate part = .kept

/-! ### The fate of a line -/

theorem fate_of_all_isBlank {text : List Char} (htext : ∀ c ∈ text, Text.isBlank c) :
    fate text = .kept := by
  rw [fate, List.dropWhile_eq_nil_iff.mpr htext]

theorem ne_sign_of_isBlank {c : Char} (hblank : Text.isBlank c) : c ≠ '#' := by
  rintro rfl
  exact absurd hblank (by decide)

/-- White space in front of a character that is not blank is all that is passed over. -/
theorem dropWhile_white {white : List Char} {c : Char} (rest : List Char)
    (hwhite : ∀ d ∈ white, Text.isBlank d) (hc : ¬Text.isBlank c) :
    (white ++ c :: rest).dropWhile Text.isBlank = c :: rest ∧
      (white ++ c :: rest).takeWhile Text.isBlank = white := by
  have hstop : ∀ d ∈ (c :: rest).head?, Text.isBlank d = false := fun d hmem =>
    Option.some.inj hmem ▸ Bool.not_eq_true _ ▸ hc
  exact (Text.takeWhile_append_of_head? hwhite hstop).symm

/-- Every text is white space, or a character that is not blank stands behind its white space. -/
theorem white_cases (text : List Char) :
    (∀ c ∈ text, Text.isBlank c) ∨
      ∃ white c rest, text = white ++ c :: rest ∧ (∀ d ∈ white, Text.isBlank d) ∧
        ¬Text.isBlank c := by
  cases hrest : text.dropWhile Text.isBlank with
  | nil => exact .inl (List.dropWhile_eq_nil_iff.mp hrest)
  | cons c rest =>
    refine .inr ⟨text.takeWhile Text.isBlank, c, rest, ?_, fun _ hmem =>
      List.mem_takeWhile_imp hmem, ?_⟩
    · rw [← hrest, List.takeWhile_append_dropWhile]
    · have hnot := List.head?_dropWhile_not Text.isBlank text
      rw [hrest] at hnot
      simpa using hnot

theorem exists_trimEnd (drop : Char → Bool) (text : List Char) :
    ∃ ending, text = Text.trimEnd drop text ++ ending ∧ ∀ c ∈ ending, drop c := by
  refine ⟨(text.reverse.takeWhile drop).reverse, ?_, fun c hmem => ?_⟩
  · rw [Text.trimEnd, ← List.reverse_append, List.takeWhile_append_dropWhile, List.reverse_reverse]
  · exact List.mem_takeWhile_imp (List.mem_reverse.mp hmem)

theorem isBlank_of_isLineEnd {c : Char} (hend : isLineEnd c) : Text.isBlank c := by
  simp only [isLineEnd, Bool.or_eq_true, decide_eq_true_eq] at hend
  rcases hend with rfl | rfl <;> decide

/-- What a line of the code shows is decided by its fate. -/
theorem visibleLine_eq (line : List Char) : visibleLine line = settled line := by
  obtain ⟨ending, hline, hending⟩ := exists_trimEnd isLineEnd line
  have hblank : ∀ c ∈ ending, Text.isBlank c := fun c hmem => isBlank_of_isLineEnd (hending c hmem)
  rw [visibleLine]
  generalize Text.trimEnd isLineEnd line = body at hline
  subst hline
  rcases white_cases body with hwhite | ⟨white, c, rest, rfl, hwhite, hc⟩
  · have hall : ∀ c ∈ body ++ ending, Text.isBlank c := fun c hmem =>
      (List.mem_append.mp hmem).elim (hwhite c) (hblank c)
    have hcode : Text.trimStart Text.isBlank body = [] := List.dropWhile_eq_nil_iff.mpr hwhite
    simp [hcode, settled, fate_of_all_isBlank hall]
  · have hcode : Text.trimStart Text.isBlank (white ++ c :: rest) = c :: rest :=
      (dropWhile_white _ hwhite hc).1
    obtain ⟨hbehind, hfront⟩ := dropWhile_white (rest ++ ending) hwhite hc
    rw [hcode]
    simp only [settled, fate, withoutSign, List.append_assoc, List.cons_append, hbehind, hfront]
    by_cases hsign : c = '#'
    · subst hsign
      cases rest with
      | nil =>
        cases ending with
        | nil => simp
        | cons d ending =>
          have hd := hblank d List.mem_cons_self
          simp [hd, ne_sign_of_isBlank hd]
      | cons d rest =>
        by_cases hd : Text.isBlank d
        · simp [hd, ne_sign_of_isBlank hd]
        · by_cases hsecond : d = '#'
          · subst hsecond
            simp [hd]
          · simp [hd, hsecond]
    · simp [hsign]

/-! ### Lines made up of parts -/

theorem settled_sublist (text : List Char) : (settled text).Sublist text :=
  visibleLine_eq text ▸ visibleLine_sublist text

theorem length_settled_lt {text : List Char} (hfate : fate text ≠ .kept) :
    (settled text).length < text.length := by
  rcases white_cases text with hwhite | ⟨white, c, rest, rfl, hwhite, hc⟩
  · exact absurd (fate_of_all_isBlank hwhite) hfate
  · obtain ⟨hbehind, hfront⟩ := dropWhile_white rest hwhite hc
    cases hcase : fate (white ++ c :: rest) with
    | kept => exact absurd hcase hfate
    | hidden =>
      simp only [settled, hcase, List.length_nil, List.length_append, List.length_cons]
      omega
    | unescaped => simp [settled, hcase, withoutSign, hbehind, hfront]

/-- Parts show all they hold only if all of them are kept. -/
theorem flatMap_settled_eq_flatten_iff (parts : List (List Char)) :
    parts.flatMap settled = parts.flatten ↔ ∀ part ∈ parts, fate part = .kept := by
  have hsublist : ∀ parts : List (List Char), (parts.flatMap settled).Sublist parts.flatten := by
    intro parts
    induction parts with
    | nil => exact List.Sublist.refl []
    | cons part parts ih => exact (settled_sublist part).append ih
  induction parts with
  | nil => simp
  | cons part parts ih =>
    rw [List.flatMap_cons, List.flatten_cons, List.forall_mem_cons]
    by_cases hkept : fate part = .kept
    · have hpart : settled part = part := by rw [settled, hkept]
      rw [hpart, List.append_cancel_left_eq]
      exact ih.trans (and_iff_right hkept).symm
    · refine iff_of_false (fun heq => ?_) fun hall => hkept hall.1
      have hlength := congrArg List.length heq
      have hless := length_settled_lt hkept
      have hrest := (hsublist parts).length_le
      rw [List.length_append, List.length_append] at hlength
      omega

/-- White space in front of a text keeps its fate and is kept with it. -/
theorem fate_white_append {white : List Char} (hwhite : ∀ c ∈ white, Text.isBlank c)
    (text : List Char) : fate (white ++ text) = fate text := by
  rw [fate, fate, List.dropWhile_append_of_pos hwhite]

theorem settled_white_append {white text : List Char} (hwhite : ∀ c ∈ white, Text.isBlank c)
    (hfate : fate text ≠ .hidden) : settled (white ++ text) = white ++ settled text := by
  have hsame := fate_white_append hwhite text
  cases hcase : fate text with
  | hidden => exact absurd hcase hfate
  | kept => simp [settled, hsame, hcase]
  | unescaped =>
    simp [settled, hsame, hcase, withoutSign, List.dropWhile_append_of_pos hwhite,
      List.takeWhile_append_of_pos hwhite]

/-- The two characters behind the white space decide the fate, whatever follows them. -/
theorem fate_append {white : List Char} (hwhite : ∀ c ∈ white, Text.isBlank c) {c d : Char}
    (hc : ¬Text.isBlank c) (rest more : List Char) :
    fate (white ++ c :: d :: rest ++ more) = fate (white ++ c :: d :: rest) := by
  rw [List.append_assoc, fate_white_append hwhite, fate_white_append hwhite, List.cons_append,
    List.cons_append, fate, fate, List.dropWhile_cons_of_neg hc, List.dropWhile_cons_of_neg hc]
  by_cases hsign : c = '#'
  · subst hsign
    rfl
  · simp [hsign]

/-- What follows a text that is not hidden is added to what is shown of it. -/
theorem settled_append {white : List Char} (hwhite : ∀ c ∈ white, Text.isBlank c) {c d : Char}
    (hc : ¬Text.isBlank c) {rest : List Char} (more : List Char)
    (hfate : fate (white ++ c :: d :: rest) ≠ .hidden) :
    settled (white ++ c :: d :: rest ++ more) = settled (white ++ c :: d :: rest) ++ more := by
  have hsame := fate_append (d := d) hwhite hc rest more
  obtain ⟨hbehind, hfront⟩ := dropWhile_white (d :: rest) hwhite hc
  obtain ⟨hbehindMore, hfrontMore⟩ := dropWhile_white (d :: (rest ++ more)) hwhite hc
  cases hcase : fate (white ++ c :: d :: rest) with
  | hidden => exact absurd hcase hfate
  | kept => simp only [settled, hsame, hcase]
  | unescaped =>
    simp only [settled, hsame, hcase, withoutSign]
    simp only [List.append_assoc, List.cons_append, hbehindMore, hfrontMore, hbehind, hfront,
      List.tail_cons]

/-- A part that ends in white space is white space, or at least two characters stand behind the
white space in front. -/
theorem part_cases {part : List Char} (hends : ∃ body c, part = body ++ [c] ∧ Text.isBlank c) :
    (part ≠ [] ∧ ∀ c ∈ part, Text.isBlank c) ∨
      ∃ white c d rest, part = white ++ c :: d :: rest ∧ (∀ c ∈ white, Text.isBlank c) ∧
        ¬Text.isBlank c := by
  obtain ⟨body, last, rfl, hlast⟩ := hends
  rcases white_cases body with hwhite | ⟨white, c, rest, rfl, hwhite, hc⟩
  · refine .inl ⟨by simp, fun c hmem => ?_⟩
    rcases List.mem_append.mp hmem with hmem | hmem
    · exact hwhite c hmem
    · rwa [List.mem_singleton.mp hmem]
  · obtain ⟨d, more, hmore⟩ := List.exists_cons_of_ne_nil (l := rest ++ [last]) (by simp)
    exact .inr ⟨white, c, d, more, by rw [List.append_assoc, List.cons_append, hmore], hwhite, hc⟩

/-- A part that ends in a blank leaves nothing if and only if it is hidden. -/
theorem settled_eq_nil_iff {part : List Char}
    (hends : ∃ body c, part = body ++ [c] ∧ Text.isBlank c) :
    settled part = [] ↔ fate part = .hidden := by
  have hne : part ≠ [] := by
    obtain ⟨body, last, rfl, -⟩ := hends
    simp
  cases hcase : fate part with
  | hidden => simp [settled, hcase]
  | kept => simp [settled, hcase, hne]
  | unescaped =>
    rcases part_cases hends with ⟨-, hwhite⟩ | ⟨white, c, d, rest, rfl, hwhite, hc⟩
    · rw [fate_of_all_isBlank hwhite] at hcase
      cases hcase
    · obtain ⟨hbehind, hfront⟩ := dropWhile_white (d :: rest) hwhite hc
      simp [settled, hcase, withoutSign, hbehind]

/-- Parts that end in white space are settled one by one as they are together exactly if they share
one fate. -/
theorem flatMap_settled_eq_iff {parts : List (List Char)}
    (hends : ∀ part ∈ parts, ∃ body c, part = body ++ [c] ∧ Text.isBlank c) :
    parts.flatMap settled = settled parts.flatten ↔
      if fate parts.flatten = .hidden then ∀ part ∈ parts, fate part = .hidden
      else ∀ part ∈ (parts.dropWhile isWhiteSpace).tail, fate part = .kept := by
  induction parts with
  | nil => simp [settled, fate]
  | cons part parts ih =>
    obtain ⟨hpart, hmore⟩ := List.forall_mem_cons.mp hends
    rw [List.flatMap_cons, List.flatten_cons, List.forall_mem_cons]
    rcases part_cases hpart with ⟨hne, hwhite⟩ | ⟨white, c, d, rest, rfl, hwhite, hc⟩
    · -- white space is kept, whatever stands behind it
      have hkept := fate_of_all_isBlank hwhite
      have hself : settled part = part := by rw [settled, hkept]
      rw [fate_white_append hwhite, hself,
        List.dropWhile_cons_of_pos (p := isWhiteSpace) (List.all_eq_true.mpr hwhite)]
      by_cases hhidden : fate parts.flatten = .hidden
      · rw [if_pos hhidden, hkept]
        refine iff_of_false (fun heq => ?_) fun hall => absurd hall.1 (by decide)
        rw [settled, fate_white_append hwhite, hhidden, List.append_eq_nil_iff] at heq
        exact hne heq.1
      · rw [settled_white_append hwhite hhidden, List.append_cancel_left_eq]
        refine (ih hmore).trans ?_
        rw [if_neg hhidden, if_neg hhidden]
    · have hnot : ¬isWhiteSpace (white ++ c :: d :: rest) := by
        intro hall
        exact hc (List.all_eq_true.mp hall c (by simp))
      rw [fate_append hwhite hc, List.dropWhile_cons_of_neg hnot, List.tail_cons]
      by_cases hhidden : fate (white ++ c :: d :: rest) = .hidden
      · have hnil := (settled_eq_nil_iff hpart).mpr hhidden
        rw [if_pos hhidden, hnil, List.nil_append, settled, fate_append hwhite hc, hhidden,
          List.flatMap_eq_nil_iff]
        rw [and_iff_right rfl]
        exact forall₂_congr fun part hmem => settled_eq_nil_iff (hmore part hmem)
      · rw [if_neg hhidden, settled_append hwhite hc _ hhidden, List.append_cancel_left_eq]
        exact flatMap_settled_eq_flatten_iff parts

/-- The newline behind a line does not change its fate. -/
theorem fate_newline (line : List Char) : fate (line ++ ['\n']) = fate line := by
  rcases white_cases line with hwhite | ⟨white, c, rest, rfl, hwhite, hc⟩
  · rw [fate_white_append hwhite, fate_of_all_isBlank hwhite]
    rfl
  · cases rest with
    | cons d rest => exact fate_append hwhite hc rest ['\n']
    | nil =>
      rw [List.append_assoc, fate_white_append hwhite, fate_white_append hwhite]
      by_cases hsign : c = '#'
      · subst hsign
        decide
      · rw [List.singleton_append, fate, fate, List.dropWhile_cons_of_neg hc,
          List.dropWhile_cons_of_neg hc]
        simp [hsign]

/-- A whole line leaves what is shown of it. -/
theorem settled_newline (line : List Char) : settled (line ++ ['\n']) = shownLine line := by
  rw [shownLine]
  split
  next hhidden => rw [settled, fate_newline, hhidden]
  next hshown =>
    cases hcase : fate line with
    | hidden => exact absurd hcase hshown
    | kept => simp only [settled, fate_newline, hcase]
    | unescaped =>
      rcases white_cases line with hwhite | ⟨white, c, rest, rfl, hwhite, hc⟩
      · rw [fate_of_all_isBlank hwhite] at hcase
        cases hcase
      · cases rest with
        | cons d rest => exact settled_append hwhite hc ['\n'] hshown
        | nil =>
          -- one character is no pair of number signs
          rw [fate, (dropWhile_white _ hwhite hc).1] at hcase
          split at hcase
          · cases hcase
          next heq => cases (List.cons.inj heq).2
          · cases hcase

/-- A line shows what it should exactly if its parts share one fate. -/
theorem visible_line_eq_iff (line : List Char) :
    visible (line ++ ['\n']) = shownLine line ↔ IsUniform line := by
  have hparts := flatMap_settled_eq_iff (Text.exists_blank_of_mem_linesWithBreaks line)
  rw [Text.flatten_linesWithBreaks, settled_newline, fate_newline] at hparts
  have hvisible : visible (line ++ ['\n']) =
      (Text.linesWithBreaks (line ++ ['\n'])).flatMap settled :=
    List.flatMap_congr fun part _ => visibleLine_eq part
  rw [hvisible, hparts, IsUniform]

theorem isUniform_of_forall {line : List Char} (hline : ∀ c ∈ line, ¬Text.isLineBreak c) :
    IsUniform line := by
  rw [IsUniform, Text.linesWithBreaks_of_forall hline]
  split
  next hhidden => exact List.forall_mem_singleton.mpr ((fate_newline line).trans hhidden)
  next =>
    intro part hpart
    rw [List.dropWhile] at hpart
    split at hpart
    · exact absurd hpart List.not_mem_nil
    · exact absurd hpart List.not_mem_nil

/-- Lines that newlines end show, in order, what each of them shows. That is what the fate of the
whole line leaves of it exactly if its parts share one fate, as they do where nothing but the
newline breaks the line. -/
theorem visible_ended (lines : List (List Char)) :
    visible (Text.ended lines) = lines.flatMap (fun line => visible (line ++ ['\n'])) ∧
      (∀ line ∈ lines, (visible (line ++ ['\n']) = shownLine line ↔ IsUniform line) ∧
        ((∀ c ∈ line, ¬Text.isLineBreak c) → IsUniform line)) ∧
      ((∀ line ∈ lines, IsUniform line) →
        visible (Text.ended lines) = lines.flatMap shownLine) := by
  have hsplit :
      visible (Text.ended lines) = lines.flatMap fun line => visible (line ++ ['\n']) := by
    rw [visible, Text.linesWithBreaks_ended, List.flatMap_assoc]
    rfl
  refine ⟨hsplit, fun line _ => ⟨visible_line_eq_iff line, isUniform_of_forall⟩, fun huniform => ?_⟩
  rw [hsplit]
  exact List.flatMap_congr fun line hmem => (visible_line_eq_iff line).mpr (huniform line hmem)

/-- Of a line with a form feed in it the number sign hides only what stands in front of the form
feed. -/
theorem visible_ended_form_feed :
    visible (Text.ended ["# a\x0cb".toList]) = "b\n".toList ∧
      ["# a\x0cb".toList].flatMap shownLine = [] := by
  decide

/-! ### Escaping -/

/-- A line with one more number sign in front of one that stands behind its white space. -/
def escapedLine (line : List Char) : List Char :=
  match line.dropWhile Text.isBlank with
  | '#' :: rest => line.takeWhile Text.isBlank ++ '#' :: '#' :: rest
  | _ => line

def escaped (text : List Char) : List Char :=
  (Text.linesWithBreaks text).flatMap escapedLine

theorem escapedLine_of_all_isBlank {line : List Char} (hwhite : ∀ c ∈ line, Text.isBlank c) :
    escapedLine line = line := by
  rw [escapedLine, List.dropWhile_eq_nil_iff.mpr hwhite]

theorem escapedLine_sign {white : List Char} (hwhite : ∀ c ∈ white, Text.isBlank c)
    (rest : List Char) : escapedLine (white ++ '#' :: rest) = white ++ '#' :: '#' :: rest := by
  obtain ⟨hbehind, hfront⟩ := dropWhile_white rest hwhite (show ¬Text.isBlank '#' by decide)
  rw [escapedLine, hbehind, hfront]
  rfl

theorem escapedLine_of_ne {white : List Char} (hwhite : ∀ c ∈ white, Text.isBlank c) {c : Char}
    (hc : ¬Text.isBlank c) (hsign : c ≠ '#') (rest : List Char) :
    escapedLine (white ++ c :: rest) = white ++ c :: rest := by
  rw [escapedLine, (dropWhile_white rest hwhite hc).1]
  split
  next heq => exact absurd (List.cons.inj heq).1 hsign
  next => rfl

/-- An escaped line is shown as the line was. -/
theorem visibleLine_escapedLine (line : List Char) : visibleLine (escapedLine line) = line := by
  rw [visibleLine_eq]
  rcases white_cases line with hwhite | ⟨white, c, rest, rfl, hwhite, hc⟩
  · rw [escapedLine_of_all_isBlank hwhite, settled, fate_of_all_isBlank hwhite]
  · by_cases hsign : c = '#'
    · subst hsign
      obtain ⟨hbehind, hfront⟩ := dropWhile_white ('#' :: rest) hwhite hc
      have hfate : fate (white ++ '#' :: '#' :: rest) = .unescaped := by
        rw [fate, hbehind]
        rfl
      rw [escapedLine_sign hwhite, settled, hfate, withoutSign, hbehind, hfront, List.tail_cons]
    · have hfate : fate (white ++ c :: rest) = .kept := by
        rw [fate, (dropWhile_white rest hwhite hc).1]
        simp [hsign]
      rw [escapedLine_of_ne hwhite hc hsign, settled, hfate]

/-- White space at the end of a line stays where it is. -/
theorem escapedLine_append {body ending : List Char} (hending : ∀ c ∈ ending, Text.isBlank c) :
    escapedLine (body ++ ending) = escapedLine body ++ ending := by
  rcases white_cases body with hwhite | ⟨white, c, rest, rfl, hwhite, hc⟩
  · rw [escapedLine_of_all_isBlank hwhite,
      escapedLine_of_all_isBlank (List.forall_mem_append.mpr ⟨hwhite, hending⟩)]
  · rw [List.append_assoc, List.cons_append]
    by_cases hsign : c = '#'
    · subst hsign
      rw [escapedLine_sign hwhite, escapedLine_sign hwhite, List.append_assoc]
      rfl
    · rw [escapedLine_of_ne hwhite hc hsign, escapedLine_of_ne hwhite hc hsign, List.append_assoc]
      rfl

theorem mem_escapedLine {line : List Char} {c : Char} (hmem : c ∈ escapedLine line) :
    c ∈ line ∨ c = '#' := by
  rcases white_cases line with hwhite | ⟨white, d, rest, rfl, hwhite, hd⟩
  · rw [escapedLine_of_all_isBlank hwhite] at hmem
    exact .inl hmem
  · by_cases hsign : d = '#'
    · subst hsign
      rw [escapedLine_sign hwhite] at hmem
      simp only [List.mem_append, List.mem_cons] at hmem ⊢
      tauto
    · rw [escapedLine_of_ne hwhite hd hsign] at hmem
      exact .inl hmem

theorem head?_escapedLine (line : List Char) : (escapedLine line).head? = line.head? := by
  rcases white_cases line with hwhite | ⟨white, c, rest, rfl, hwhite, hc⟩
  · rw [escapedLine_of_all_isBlank hwhite]
  · by_cases hsign : c = '#'
    · subst hsign
      rw [escapedLine_sign hwhite, List.head?_append, List.head?_append]
      rfl
    · rw [escapedLine_of_ne hwhite hc hsign]

theorem head?_flatten_escapedLine (lines : List (List Char)) :
    (lines.map escapedLine).flatten.head? = lines.flatten.head? := by
  induction lines with
  | nil => rfl
  | cons line lines ih =>
    rw [List.map_cons, List.flatten_cons, List.flatten_cons, List.head?_append, List.head?_append,
      head?_escapedLine, ih]

/-- The number signs break no line and join none. -/
theorem areLines_map_escapedLine {lines : List (List Char)} (hlines : Text.AreLines lines) :
    Text.AreLines (lines.map escapedLine) := by
  have hinside : ∀ {body : List Char}, (∀ c ∈ body, ¬Text.isLineBreak c) →
      ∀ c ∈ escapedLine body, ¬Text.isLineBreak c := by
    intro body hbody c hmem
    rcases mem_escapedLine hmem with hmem | rfl
    · exact hbody c hmem
    · decide
  induction hlines with
  | nil => exact .nil
  | @last body hne hbody =>
    refine .last (fun hnil => hne ?_) (hinside hbody)
    rw [← List.head?_eq_none_iff, ← head?_escapedLine, hnil, List.head?_nil]
  | @pair body lines hbody hlines ih =>
    rw [List.map_cons, escapedLine_append
      (List.forall_mem_cons.mpr ⟨Text.isBlank_of_isLineBreak rfl,
        List.forall_mem_singleton.mpr (Text.isBlank_of_isLineBreak rfl)⟩)]
    exact .pair (hinside hbody) ih
  | @single body c lines hbody hbreak hpair hlines ih =>
    rw [List.map_cons, escapedLine_append
      (List.forall_mem_singleton.mpr (Text.isBlank_of_isLineBreak hbreak))]
    exact .single (hinside hbody) hbreak (by rwa [head?_flatten_escapedLine]) ih

/-- Every text is what some code shows: its own lines, escaped. -/
theorem visible_escaped (text : List Char) : visible (escaped text) = text := by
  have hlines : Text.linesWithBreaks (escaped text) =
      (Text.linesWithBreaks text).map escapedLine := by
    rw [escaped, List.flatMap_def]
    exact (areLines_map_escapedLine (Text.areLines_linesWithBreaks text)).linesWithBreaks_flatten
  calc visible (escaped text)
      = (Text.linesWithBreaks text).flatMap fun line => visibleLine (escapedLine line) := by
        rw [visible, hlines, List.flatMap_map]
    _ = (Text.linesWithBreaks text).flatMap id :=
        List.flatMap_congr fun line _ => visibleLine_escapedLine line
    _ = text := by rw [List.flatMap_id, Text.flatten_linesWithBreaks]

end CrateReadme.Markdown.CodeBlock
