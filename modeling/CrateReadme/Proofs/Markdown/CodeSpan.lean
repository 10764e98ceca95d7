import CrateReadme.Markdown.Escape
import CrateReadme.Markdown.Inline.Scan
import CrateReadme.Proofs.Markdown.CodeBlock
import CrateReadme.Proofs.Text.Search

/-!
# Code spans

The marks around a code span are as many as in no run inside it, and the space on each side of its
body is there exactly if reading takes one away. In a cell the pipes of the body are escaped on top
of that, which neither makes nor breaks a run.
-/

namespace CrateReadme

namespace Text

/-- A stretch of a mark that no mark stands next to. -/
def HasRun (mark : Char) (length : Nat) (text : List Char) : Prop :=
  ∃ before after, text = before ++ List.replicate length mark ++ after ∧
    before.getLast? ≠ some mark ∧ after.head? ≠ some mark

theorem takeWhile_replicate_append {mark : Char} {after : List Char} (length : Nat)
    (hafter : after.head? ≠ some mark) :
    (List.replicate length mark ++ after).takeWhile (· = mark) = List.replicate length mark := by
  have hkeep : ∀ c ∈ List.replicate length mark, decide (c = mark) = true := fun c hmem =>
    decide_eq_true (List.eq_of_mem_replicate hmem)
  have hstop : ∀ c ∈ after.head?, decide (c = mark) = false := fun c hmem =>
    decide_eq_false fun heq => hafter (heq ▸ hmem)
  exact (takeWhile_append_of_head? hkeep hstop).1

theorem takeWhile_eq_nil_of_head? {keep : Char → Bool} {text : List Char}
    (htext : ¬text.head?.any keep) : text.takeWhile keep = [] ∧ text.dropWhile keep = text := by
  cases text with
  | nil => exact ⟨rfl, rfl⟩
  | cons c text =>
    have hc : ¬keep c := htext
    exact ⟨List.takeWhile_cons_of_neg hc, List.dropWhile_cons_of_neg hc⟩

/-- Two texts have the runs of each of them, unless a run reaches from the one into the other. -/
theorem runsOf_append {keep : Char → Bool} {before : List Char} (text : List Char)
    (happart : before.getLast?.any keep → ¬text.head?.any keep) :
    runsOf keep (before ++ text) = runsOf keep before ++ runsOf keep text := by
  induction before with
  | nil => rfl
  | cons c before ih =>
    cases before with
    | nil =>
      by_cases hc : keep c
      · obtain ⟨htake, hdrop⟩ := takeWhile_eq_nil_of_head? (happart hc)
        rw [List.singleton_append, runsOf_cons_of_keep hc, runsOf_cons_of_keep hc, htake, hdrop]
        rfl
      · rw [List.singleton_append, runsOf_cons_of_not_keep hc, runsOf_cons_of_not_keep hc]
        rfl
    | cons d before =>
      have hrest := ih (by rwa [List.getLast?_cons_cons] at happart)
      by_cases hc : keep c
      · rw [List.cons_append] at hrest ⊢
        simp only [List.cons_append, runsOf.eq_def keep (c :: _), if_pos hc, hrest]
        cases hruns : runsOf keep (d :: before) with
        | cons run runs =>
          simp only [List.cons_append]
          split <;> rfl
        | nil =>
          -- a text without runs does not start with a kept character
          have hd : ¬keep d := fun hd => by
            rw [runsOf_cons_of_keep hd] at hruns
            cases hruns
          cases runsOf keep text with
          | nil => rfl
          | cons run runs => simp [hd]
      · rw [List.cons_append, runsOf_cons_of_not_keep hc, runsOf_cons_of_not_keep hc, hrest]

/-- A stretch that no mark stands next to is one of the runs. -/
theorem HasRun.mem_lengths {mark : Char} {length : Nat} {text : List Char}
    (hrun : HasRun mark length text) (hpos : 0 < length) :
    length ∈ (runsOf (· = mark) text).map List.length := by
  obtain ⟨before, after, rfl, hbefore, hafter⟩ := hrun
  obtain ⟨length, rfl⟩ := Nat.exists_eq_add_one.mpr hpos
  have hends : ¬before.getLast?.any (· = mark) := by
    intro hany
    obtain ⟨c, hc, heq⟩ := (Option.any_eq_true _ _).mp hany
    exact hbefore (of_decide_eq_true heq ▸ hc)
  refine List.mem_map.mpr ⟨List.replicate (length + 1) mark, ?_, List.length_replicate⟩
  rw [List.append_assoc, runsOf_append _ (absurd · hends), List.replicate_succ, List.cons_append,
    runsOf_cons_of_keep (decide_eq_true rfl), takeWhile_replicate_append length hafter]
  exact List.mem_append_right _ List.mem_cons_self

end Text

namespace Markdown.Escape

/-! ### Marks that no run equals -/

/-- Of numbers that are tried one after the other, one more than there are used ones, one is not
used. -/
theorem leastUnused_spec (used : List Nat) {left candidate : Nat}
    (hleft : (used.filter (candidate ≤ ·)).length ≤ left) :
    candidate ≤ leastUnused used left candidate ∧ leastUnused used left candidate ∉ used := by
  induction left generalizing candidate with
  | zero =>
    refine ⟨Nat.le_refl candidate, fun hmem => ?_⟩
    have hcandidate : candidate ∈ used.filter (candidate ≤ ·) :=
      List.mem_filter.mpr ⟨hmem, decide_eq_true (Nat.le_refl candidate)⟩
    rw [List.eq_nil_of_length_eq_zero (Nat.le_zero.mp hleft)] at hcandidate
    exact List.not_mem_nil hcandidate
  | succ left ih =>
    rw [leastUnused]
    split
    next hmem =>
      have hfewer : (used.filter (candidate + 1 ≤ ·)).length <
          (used.filter (candidate ≤ ·)).length := by
        have hlarger : used.filter (candidate + 1 ≤ ·) =
            (used.filter (candidate ≤ ·)).filter (candidate + 1 ≤ ·) := by
          rw [List.filter_filter]
          refine List.filter_congr fun n _ => ?_
          by_cases hn : candidate + 1 ≤ n
          · simp [hn, Nat.le_of_succ_le hn]
          · simp [hn]
        rw [hlarger]
        refine List.length_filter_lt_length_iff_exists.mpr ⟨candidate, ?_, by simp⟩
        exact List.mem_filter.mpr ⟨hmem, decide_eq_true (Nat.le_refl candidate)⟩
      obtain ⟨hle, hunused⟩ := @ih (candidate + 1) (by omega)
      exact ⟨Nat.le_of_succ_le hle, hunused⟩
    next hnot => exact ⟨Nat.le_refl candidate, hnot⟩

/-- How many marks stand on each side of a code span. -/
def marksFor (content : List Char) : Nat :=
  let runs := (Text.runsOf (· = '`') content).map List.length
  leastUnused runs runs.length 1

theorem marksFor_pos (content : List Char) : 0 < marksFor content :=
  (leastUnused_spec _ (List.length_filter_le _ _)).1

/-- No run of a text with the runs of the content has as many marks. -/
theorem not_hasRun_marksFor {content text : List Char}
    (hruns : Text.runsOf (· = '`') text = Text.runsOf (· = '`') content) :
    ¬Text.HasRun '`' (marksFor content) text := by
  intro hrun
  have hlength := hrun.mem_lengths (marksFor_pos content)
  rw [hruns] at hlength
  exact (leastUnused_spec _ (List.length_filter_le _ _)).2 hlength

/-! ### Pipes -/

/-- A text with a backslash in front of every pipe. -/
def barred (text : List Char) : List Char :=
  text.flatMap fun c => if c = '|' then ['\\', c] else [c]

/-- A text without the backslash in front of each pipe. -/
def unbarred : List Char → List Char
  | '\\' :: '|' :: text => '|' :: unbarred text
  | c :: text => c :: unbarred text
  | [] => []

theorem barred_cons_bar (text : List Char) : barred ('|' :: text) = '\\' :: '|' :: barred text :=
  rfl

theorem barred_cons_of_ne {c : Char} (hc : c ≠ '|') (text : List Char) :
    barred (c :: text) = c :: barred text := by
  simp [barred, hc]

theorem head?_barred_ne_bar (text : List Char) : (barred text).head? ≠ some '|' := by
  cases text with
  | nil => exact nofun
  | cons c text =>
    by_cases hc : c = '|'
    · subst hc
      exact fun heq => absurd (Option.some.inj heq) (by decide)
    · rw [barred_cons_of_ne hc]
      exact fun heq => hc (Option.some.inj heq)

theorem unbarred_cons_of_head? {text : List Char} (htext : text.head? ≠ some '|') (c : Char) :
    unbarred (c :: text) = c :: unbarred text := by
  rw [unbarred.eq_2]
  rintro rest - rfl
  exact htext rfl

theorem unbarred_barred (text : List Char) : unbarred (barred text) = text := by
  induction text with
  | nil => rfl
  | cons c text ih =>
    by_cases hc : c = '|'
    · subst hc
      rw [barred_cons_bar, unbarred, ih]
    · rw [barred_cons_of_ne hc, unbarred_cons_of_head? (head?_barred_ne_bar text), ih]

/-- In front of every pipe of a text with escaped pipes stands a backslash. -/
theorem getLast?_of_barred_eq {text before after : List Char}
    (hbarred : barred text = before ++ '|' :: after) : before.getLast? = some '\\' := by
  induction text generalizing before with
  | nil => exact absurd hbarred.symm (List.append_ne_nil_of_right_ne_nil before (by simp))
  | cons c text ih =>
    by_cases hc : c = '|'
    · subst hc
      rw [barred_cons_bar] at hbarred
      cases before with
      | nil => exact absurd (List.cons.inj hbarred).1 (by decide)
      | cons d before =>
        obtain ⟨rfl, hrest⟩ := List.cons.inj hbarred
        cases before with
        | nil => rfl
        | cons e before =>
          have hbefore := ih (List.cons.inj hrest).2
          cases before with
          | nil => cases hbefore
          | cons f before => rwa [List.getLast?_cons_cons, List.getLast?_cons_cons]
    · rw [barred_cons_of_ne hc] at hbarred
      cases before with
      | nil => exact absurd (List.cons.inj hbarred).1 hc
      | cons d before =>
        have hbefore := ih (List.cons.inj hbarred).2
        cases before with
        | nil => cases hbefore
        | cons e before => rwa [List.getLast?_cons_cons]

theorem head?_barred_eq_iff {mark : Char} (hslash : mark ≠ '\\') (hbar : mark ≠ '|')
    (text : List Char) : (barred text).head? = some mark ↔ text.head? = some mark := by
  cases text with
  | nil => rfl
  | cons c text =>
    by_cases hc : c = '|'
    · subst hc
      simp [barred_cons_bar, hslash.symm, hbar.symm]
    · rw [barred_cons_of_ne hc]
      rfl

theorem getLast?_barred (text : List Char) : (barred text).getLast? = text.getLast? := by
  rcases List.eq_nil_or_concat text with rfl | ⟨text, c, rfl⟩
  · rfl
  · rw [barred, List.concat_eq_append, List.flatMap_append, List.flatMap_singleton]
    split <;> simp

theorem all_isBlank_barred_iff (text : List Char) :
    (∀ c ∈ barred text, Text.isBlank c) ↔ ∀ c ∈ text, Text.isBlank c := by
  induction text with
  | nil => rfl
  | cons c text ih =>
    by_cases hc : c = '|'
    · subst hc
      have hbar : ¬Text.isBlank '|' := by decide
      have hslash : ¬Text.isBlank '\\' := by decide
      simp [barred_cons_bar, hbar, hslash]
    · rw [barred_cons_of_ne hc, List.forall_mem_cons, List.forall_mem_cons, ih]

/-- Escaping pipes keeps the runs of all other characters as they are. -/
theorem runsOf_barred {keep : Char → Bool} (hslash : ¬keep '\\') (hbar : ¬keep '|')
    (before text : List Char) :
    Text.runsOf keep (before ++ barred text) = Text.runsOf keep (before ++ text) := by
  induction text generalizing before with
  | nil => rfl
  | cons c text ih =>
    by_cases hc : c = '|'
    · subst hc
      rw [barred_cons_bar, Text.runsOf_append ('\\' :: _) fun _ => hslash,
        Text.runsOf_append ('|' :: text) fun _ => hbar,
        Text.runsOf_cons_of_not_keep hslash, Text.runsOf_cons_of_not_keep hbar,
        Text.runsOf_cons_of_not_keep hbar]
      exact congrArg (Text.runsOf keep before ++ ·) (ih [])
    · rw [barred_cons_of_ne hc, List.append_cons, ih, ← List.append_cons]

/-! ### Padding -/

/-- Whether spaces are put around the body of a code span. -/
def needsPadding (body : List Char) : Bool :=
  body.head? = some '`' || body.getLast? = some '`' ||
    (body.head? = some ' ' && body.getLast? = some ' ' && Text.strip body ≠ [])

/-- The body of a code span, outside a cell. -/
def padded (content : List Char) : List Char :=
  if needsPadding content then ' ' :: content ++ [' '] else content

/-- A body as it is read: one space on each side goes if there is one on both and the body is not
white space. -/
def unpadded (body : List Char) : List Char :=
  if body.head? = some ' ' ∧ body.getLast? = some ' ' ∧ ¬body.all Text.isBlank then
    body.tail.dropLast
  else
    body

/-- The body that is read: in a cell the pipes have lost their backslash by then. -/
def shownBody (inTable : Bool) (body : List Char) : List Char :=
  if inTable then unbarred body else body

/-- What can stand between marks of a code span: no run is as long as they are, and none of the
marks touches another one. -/
structure IsSpanBody (length : Nat) (body : List Char) : Prop where
  nonempty : body ≠ []
  starts : body.head? ≠ some '`'
  ends : body.getLast? ≠ some '`'
  apart : ¬Text.HasRun '`' length body

/-- A text is stripped to nothing if and only if it consists of blanks. -/
theorem strip_eq_nil_iff (text : List Char) :
    Text.strip text = [] ↔ ∀ c ∈ text, Text.isBlank c := by
  have hstart : Text.strip text = [] ↔ ∀ c ∈ text.dropWhile Text.isBlank, Text.isBlank c := by
    rw [Text.strip, Text.trim, Text.trimEnd, Text.trimStart, List.reverse_eq_nil_iff,
      List.dropWhile_eq_nil_iff]
    simp only [List.mem_reverse]
  rw [hstart]
  constructor
  · intro hall c hmem
    rw [← List.takeWhile_append_dropWhile (p := Text.isBlank) (l := text)] at hmem
    rcases List.mem_append.mp hmem with hmem | hmem
    · exact List.mem_takeWhile_imp hmem
    · exact hall c hmem
  · exact fun hall c hmem => hall c ((List.dropWhile_suffix _).subset hmem)

theorem needsPadding_iff (body : List Char) :
    needsPadding body ↔ body.head? = some '`' ∨ body.getLast? = some '`' ∨
      (body.head? = some ' ' ∧ body.getLast? = some ' ' ∧ ¬∀ c ∈ body, Text.isBlank c) := by
  simp only [needsPadding, Bool.or_eq_true, Bool.and_eq_true, decide_eq_true_eq, ne_eq,
    strip_eq_nil_iff, or_assoc, and_assoc]

/-- Spaces are put around nothing that is white space. -/
theorem not_all_isBlank_of_needsPadding {body : List Char} (hpadding : needsPadding body) :
    ¬∀ c ∈ body, Text.isBlank c := by
  intro hall
  have hmark : ¬Text.isBlank '`' := by decide
  rcases (needsPadding_iff body).mp hpadding with hhead | hlast | ⟨-, -, hnot⟩
  · exact hmark (hall _ (List.mem_of_head? hhead))
  · exact hmark (hall _ (List.mem_of_getLast? hlast))
  · exact hnot hall

theorem needsPadding_barred (content : List Char) :
    needsPadding (barred content) = needsPadding content := by
  rw [Bool.eq_iff_iff, needsPadding_iff, needsPadding_iff, getLast?_barred, all_isBlank_barred_iff,
    head?_barred_eq_iff (by decide) (by decide), head?_barred_eq_iff (by decide) (by decide)]

theorem barred_padded (content : List Char) :
    barred (padded content) =
      if needsPadding content then ' ' :: barred content ++ [' '] else barred content := by
  rw [padded]
  split
  · simp [barred]
  · rfl

/-- A code span is its padded content between marks, with escaped pipes in a cell. -/
theorem codeSpan_eq (inTable : Bool) (content : List Char) :
    codeSpan inTable content = List.replicate (marksFor content) '`' ++
      (if inTable then barred (padded content) else padded content) ++
        List.replicate (marksFor content) '`' := by
  cases inTable with
  | false => rfl
  | true =>
    rw [if_pos rfl, barred_padded, ← needsPadding_barred]
    rfl

theorem tail_dropLast_spaced (content : List Char) :
    (' ' :: content ++ [' ']).tail.dropLast = content :=
  List.dropLast_concat

/-- Reading takes away the spaces that were put around a body, and no others. -/
theorem unpadded_padded (content : List Char) : unpadded (padded content) = content := by
  rw [padded]
  split
  next hpadding =>
    have hblank : ¬∀ c ∈ ' ' :: content ++ [' '], Text.isBlank c := fun hall =>
      not_all_isBlank_of_needsPadding hpadding fun c hmem => hall c (by simp [hmem])
    rw [← List.all_eq_true] at hblank
    rw [unpadded, if_pos ⟨rfl, List.getLast?_concat, hblank⟩, tail_dropLast_spaced]
  next hpadding =>
    rw [needsPadding_iff, not_or, not_or, ← List.all_eq_true] at hpadding
    rw [unpadded, if_neg hpadding.2.2]

/-- For a reader to whom only spaces are white space the spaces around a body of other white space
are in the way. -/
theorem codeOf_padded_iff {content : List Char} (hline : '\n' ∉ content) :
    Scan.codeOf (padded content) = content ↔
      ¬(content.head? = some ' ' ∧ content.getLast? = some ' ' ∧
        (∀ c ∈ content, Text.isBlank c) ∧ ∃ c ∈ content, c ≠ ' ') := by
  have hmap : (padded content).map (fun c => if c = '\n' then ' ' else c) = padded content := by
    refine (List.map_congr_left fun c hmem => if_neg ?_).trans (List.map_id _)
    rintro rfl
    rw [padded] at hmem
    split at hmem
    · simp [hline] at hmem
    · exact hline hmem
  rw [Scan.codeOf, hmap, padded]
  split
  next hpadding =>
    have hblank := not_all_isBlank_of_needsPadding hpadding
    have hany : (' ' :: content ++ [' ']).any (· ≠ ' ') := by
      push Not at hblank
      obtain ⟨c, hmem, hc⟩ := hblank
      refine List.any_eq_true.mpr ⟨c, by simp [hmem], decide_eq_true ?_⟩
      rintro rfl
      exact hc (by decide)
    rw [if_pos ⟨rfl, List.getLast?_concat, hany⟩, tail_dropLast_spaced]
    exact iff_of_true rfl fun hspaced => hblank hspaced.2.2.1
  next hpadding =>
    rw [needsPadding_iff, not_or, not_or] at hpadding
    split
    next hspaced =>
      obtain ⟨hhead, hlast, hany⟩ := hspaced
      refine iff_of_false (fun heq => ?_) (not_not.mpr ⟨hhead, hlast, ?_, ?_⟩)
      · have hlength := congrArg List.length heq
        have hpos : 0 < content.length := List.length_pos_of_mem (List.mem_of_head? hhead)
        rw [List.length_dropLast, List.length_tail] at hlength
        omega
      · by_contra hblank
        exact hpadding.2.2 ⟨hhead, hlast, hblank⟩
      · simpa using hany
    next hspaced =>
      refine iff_of_true rfl fun hblank => hspaced ⟨hblank.1, hblank.2.1, ?_⟩
      simpa using hblank.2.2.2

theorem runsOf_padded (content : List Char) :
    Text.runsOf (· = '`') (padded content) = Text.runsOf (· = '`') content := by
  rw [padded]
  split
  · rw [List.cons_append, Text.runsOf_cons_of_not_keep (by decide),
      Text.runsOf_append [' '] fun _ => by decide]
    exact List.append_nil _
  · rfl

theorem isSpanBody_padded {content : List Char} (hne : content ≠ []) :
    IsSpanBody (marksFor content) (padded content) := by
  have happart := not_hasRun_marksFor (runsOf_padded content)
  rw [padded] at happart ⊢
  split
  next hpadding =>
    rw [if_pos hpadding] at happart
    have hlast : (' ' :: content ++ [' ']).getLast? = some ' ' := List.getLast?_concat
    exact ⟨List.cons_ne_nil _ _, by simp, by rw [hlast]; decide, happart⟩
  next hpadding =>
    rw [if_neg hpadding] at happart
    rw [needsPadding_iff, not_or, not_or] at hpadding
    exact ⟨hne, hpadding.1, hpadding.2.1, happart⟩

theorem isSpanBody_barred_padded {content : List Char} (hne : content ≠ []) :
    IsSpanBody (marksFor content) (barred (padded content)) := by
  obtain ⟨hnonempty, hstarts, hends, -⟩ := isSpanBody_padded hne
  refine ⟨fun hnil => hnonempty ?_, ?_, ?_, not_hasRun_marksFor ?_⟩
  · rw [← unbarred_barred (padded content), hnil]
    rfl
  · rwa [Ne, head?_barred_eq_iff (by decide) (by decide)]
  · rwa [getLast?_barred]
  · exact (runsOf_barred (by decide) (by decide) [] _).trans (runsOf_padded content)

/-- A code span is its body between equally many marks on each side, which no run of the body equals
in length and none touches. Read as code spans are, the body gives back the content; in a cell it
does so once the pipes have lost the backslash that stands in front of each of them. A reader to
whom only spaces are white space gets the content too, unless it is white space between two spaces,
and not only spaces. -/
theorem codeSpan_spec {content : List Char} (hne : content ≠ []) (hline : '\n' ∉ content)
    (inTable : Bool) :
    ∃ length body, 0 < length ∧
      codeSpan inTable content =
        List.replicate length '`' ++ body ++ List.replicate length '`' ∧
      IsSpanBody length body ∧
      (inTable → ∀ before after, body = before ++ '|' :: after → before.getLast? = some '\\') ∧
      IsSpanBody length (shownBody inTable body) ∧ unpadded (shownBody inTable body) = content ∧
      (Scan.codeOf (shownBody inTable body) = content ↔
        ¬(content.head? = some ' ' ∧ content.getLast? = some ' ' ∧
          (∀ c ∈ content, Text.isBlank c) ∧ ∃ c ∈ content, c ≠ ' ')) := by
  refine ⟨marksFor content, _, marksFor_pos content, codeSpan_eq inTable content, ?_, ?_, ?_⟩
  · cases inTable with
    | false => exact isSpanBody_padded hne
    | true => exact isSpanBody_barred_padded hne
  · rintro rfl before after hbody
    exact getLast?_of_barred_eq hbody
  · have hshown : shownBody inTable (if inTable then barred (padded content) else padded content) =
        padded content := by
      cases inTable with
      | false => rfl
      | true => exact unbarred_barred _
    rw [hshown]
    exact ⟨isSpanBody_padded hne, unpadded_padded content, codeOf_padded_iff hline⟩

/-- Marks inside ask for other marks around and for spaces, and a pipe for a backslash. -/
theorem codeSpan_spec_mark_and_bar :
    codeSpan true "`\\|a".toList = "`` `\\\\|a ``".toList ∧
      ∃ length body, 0 < length ∧
        codeSpan true "`\\|a".toList =
          List.replicate length '`' ++ body ++ List.replicate length '`' ∧
        unpadded (shownBody true body) = "`\\|a".toList := by
  obtain ⟨length, body, hpos, hspan, -, -, -, hshown, -⟩ :=
    @codeSpan_spec "`\\|a".toList (by decide) (by decide) true
  exact ⟨by decide, length, body, hpos, hspan, hshown⟩

end Markdown.Escape

end CrateReadme
