import CrateReadme.Markdown.Inline.Basic

/-!
# The label in the source of a reference

The label of a reference is looked for in the characters of the whole reference. What is found is
the label as written exactly if every bracket in it is escaped and every backslash escapes something
other than a line end; a label that ends in an opening bracket is only found in front of empty
brackets.
-/

namespace CrateReadme.Markdown.Label

/-- Whether a text ends in a backslash that escapes what comes behind it. -/
def endsInEscape (text : List Char) : Bool :=
  text.foldl (fun isEscaped c => !isEscaped && c = '\\') false

theorem endsInEscape_append {text : List Char} (htext : endsInEscape text = false)
    (more : List Char) : endsInEscape (text ++ more) = endsInEscape more := by
  rw [endsInEscape] at htext
  rw [endsInEscape, List.foldl_append, htext, endsInEscape]

theorem endsInEscape_concat {c : Char} (hc : c ≠ '\\') (text : List Char) :
    endsInEscape (text ++ [c]) = false := by
  simp [endsInEscape, List.foldl_append, hc]

theorem endsInEscape_escape (c : Char) (text : List Char) :
    endsInEscape ('\\' :: c :: text) = endsInEscape text := by
  simp [endsInEscape]

theorem endsInEscape_cons {c : Char} (hc : c ≠ '\\') (text : List Char) :
    endsInEscape (c :: text) = endsInEscape text := by
  simp [endsInEscape, hc]

/-- Whether every bracket of a label is escaped and every backslash escapes a character, but no line
end. -/
def isPlain : List Char → Bool
  | [] => true
  | '\\' :: c :: text => c ≠ '\n' && isPlain text
  | c :: text => c ∉ ['[', ']', '\\'] && isPlain text

/-- Reads a text in escapes and single characters. -/
@[elab_as_elim]
theorem escapeInduction {motive : List Char → Prop} (nil : motive [])
    (escape : ∀ c text, motive text → motive ('\\' :: c :: text)) (dangling : motive ['\\'])
    (other : ∀ c text, c ≠ '\\' → motive text → motive (c :: text)) (text : List Char) :
    motive text := by
  induction text using isPlain.induct with
  | case1 => exact nil
  | case2 c text ih => exact escape c text ih
  | case3 c text hescape ih =>
    by_cases hc : c = '\\'
    · cases text with
      | nil => exact hc ▸ dangling
      | cons d text => exact (hescape d text hc rfl).elim
    · exact other c text hc ih

theorem isPlain_cons {c : Char} (hc : c ≠ '\\') (text : List Char) :
    isPlain (c :: text) = (c ∉ ['[', ']'] && isPlain text) := by
  rw [isPlain]
  · simp [hc]
  · exact fun d more heq _ => hc heq

theorem closing?_cons {c : Char} (hc : c ≠ '\\') (text : List Char) :
    closing? (c :: text) =
      if c = ']' then (if text = [] ∨ text = ['\n'] then some [] else none)
      else if c = '[' then none
      else (closing? text).map (c :: ·) := by
  rw [closing?]
  · simp only [hc, or_false]
  · exact fun d more heq _ => hc heq

theorem ne_break_of_bracket (text rest : List Char) : text ++ ']' :: rest ≠ ['\n'] := by
  intro heq
  have hmem : ']' ∈ text ++ ']' :: rest := List.mem_append_right text List.mem_cons_self
  rw [heq] at hmem
  exact absurd hmem (by decide)

/-- A plain label is found in front of the bracket that closes it, and no other. -/
theorem closing?_append (label : List Char) :
    closing? (label ++ [']']) = if isPlain label then some label else none := by
  induction label using escapeInduction with
  | nil => rfl
  | escape c text ih =>
    rw [List.cons_append, List.cons_append, closing?, ih, isPlain]
    by_cases hc : c = '\n'
    · simp [hc]
    · cases hplain : isPlain text <;> simp [hc]
  | dangling => rfl
  | other c text hc ih =>
    rw [List.cons_append, closing?_cons hc, ih, isPlain_cons hc]
    by_cases hclose : c = ']'
    · simp [hclose, ne_break_of_bracket]
    · by_cases hopen : c = '['
      · simp [hopen]
      · cases hplain : isPlain text <;> simp [hclose, hopen]

/-- Past a bracket that is not escaped nothing is found, unless it ends the text. -/
theorem closing?_eq_none {text rest : List Char} (htext : endsInEscape text = false)
    (hrest : rest ≠ [] ∧ rest ≠ ['\n']) : closing? (text ++ ']' :: rest) = none := by
  induction text using escapeInduction with
  | nil => simp [closing?_cons, hrest]
  | escape c text ih =>
    rw [endsInEscape_escape] at htext
    rw [List.cons_append, List.cons_append, closing?, ih htext, Option.map_none, ite_self]
  | dangling => simp [endsInEscape] at htext
  | other c text hc ih =>
    rw [endsInEscape_cons hc] at htext
    simp [closing?_cons hc, ih htext, ne_break_of_bracket]

/-- The label that closes a text is plain, and its bracket is the last one; a line end may follow. -/
theorem eq_of_closing? {text label : List Char} (hlabel : closing? text = some label) :
    isPlain label ∧ (text = label ++ [']'] ∨ text = label ++ [']', '\n']) := by
  induction text using escapeInduction generalizing label with
  | nil => cases hlabel
  | escape c text ih =>
    rw [closing?] at hlabel
    split at hlabel
    next => cases hlabel
    next hc =>
      obtain ⟨more, hmore, rfl⟩ := Option.map_eq_some_iff.mp hlabel
      obtain ⟨hplain, htext⟩ := ih hmore
      refine ⟨by simp [isPlain, hc, hplain], htext.imp ?_ ?_⟩
      · exact fun heq => congrArg ('\\' :: c :: ·) heq
      · exact fun heq => congrArg ('\\' :: c :: ·) heq
  | dangling => cases hlabel
  | other c text hc ih =>
    rw [closing?_cons hc] at hlabel
    split at hlabel
    next hclose =>
      split at hlabel
      next htext =>
        cases hlabel
        refine ⟨rfl, htext.imp ?_ ?_⟩
        · exact fun heq => by rw [hclose, heq]; rfl
        · exact fun heq => by rw [hclose, heq]; rfl
      next => cases hlabel
    next hclose =>
      split at hlabel
      next => cases hlabel
      next hopen =>
        obtain ⟨more, hmore, rfl⟩ := Option.map_eq_some_iff.mp hlabel
        obtain ⟨hplain, htext⟩ := ih hmore
        refine ⟨?_, htext.imp (congrArg (c :: ·)) (congrArg (c :: ·))⟩
        simp [isPlain_cons hc, hclose, hopen, hplain]

/-- A plain label that ends in a bracket has a backslash in front of it. -/
theorem getLast?_of_isPlain {label : List Char} (hlabel : isPlain (label ++ ['['])) :
    label.getLast? = some '\\' := by
  induction label using escapeInduction with
  | nil => cases hlabel
  | escape c text ih =>
    rw [List.cons_append, List.cons_append, isPlain, Bool.and_eq_true] at hlabel
    rw [List.getLast?_cons, List.getLast?_cons, ih hlabel.2]
    rfl
  | dangling => rfl
  | other c text hc ih =>
    rw [List.cons_append, isPlain_cons hc, Bool.and_eq_true] at hlabel
    rw [List.getLast?_cons, ih hlabel.2]
    rfl

/-- Brackets behind which no label closes are passed over. -/
theorem last?_append {front : List Char} (text : List Char)
    (hfront : ∀ before behind, front = before ++ '[' :: behind → closing? (behind ++ text) = none) :
    last? (front ++ text) = last? text := by
  induction front with
  | nil => rfl
  | cons c front ih =>
    have hmore := ih fun before behind heq => hfront (c :: before) behind (by rw [heq]; rfl)
    rw [List.cons_append, last?]
    split
    next hc =>
      rw [hfront [] front (by rw [hc]; rfl)]
      exact hmore
    next => exact hmore

theorem last?_bracket {label : List Char} (hlabel : isPlain label) :
    last? ('[' :: (label ++ [']'])) = some label := by
  rw [last?, if_pos rfl, closing?_append, if_pos hlabel]

/-- The last label in brackets is plain and stands at the end of the text. -/
theorem suffix_of_last? {text label : List Char} (hlabel : last? text = some label) :
    isPlain label ∧
      ∃ ending, (ending = [']'] ∨ ending = [']', '\n']) ∧ label ++ ending <:+ text := by
  induction text with
  | nil => cases hlabel
  | cons c text ih =>
    rw [last?] at hlabel
    have hlater (hlater : last? text = some label) : isPlain label ∧
        ∃ ending, (ending = [']'] ∨ ending = [']', '\n']) ∧ label ++ ending <:+ c :: text := by
      obtain ⟨hplain, ending, hending, hsuffix⟩ := ih hlater
      exact ⟨hplain, ending, hending, hsuffix.trans (List.suffix_cons c text)⟩
    split at hlabel
    next hc =>
      split at hlabel
      next found hfound =>
        cases hlabel
        obtain ⟨hplain, rfl | rfl⟩ := eq_of_closing? hfound
        · exact ⟨hplain, _, .inl rfl, List.suffix_cons c _⟩
        · exact ⟨hplain, _, .inr rfl, List.suffix_cons c _⟩
      next => exact hlater hlabel
    next => exact hlater hlabel

/-- Empty brackets at the end of a source are left out. -/
theorem ofSource?_concat (text : List Char) :
    ofSource? (text ++ [']']) =
      if text.getLast? = some '[' then last? text.dropLast else last? (text ++ [']']) := by
  rcases List.eq_nil_or_concat text with rfl | ⟨text, c, rfl⟩
  · rfl
  · by_cases hc : c = '['
    · simp [ofSource?, Text.endsWith, Text.startsWith, Text.after?, hc]
    · have hne : '[' ≠ c := fun heq => hc heq.symm
      simp [ofSource?, Text.endsWith, Text.startsWith, Text.after?, hc, hne]

section Source

variable {front label : List Char}

/-- In front of empty brackets a label is found exactly if it is plain. -/
theorem ofSource?_collapsed
    (hfront : ∀ before behind, front = before ++ '[' :: behind →
      closing? (behind ++ '[' :: (label ++ [']'])) = none) :
    ofSource? (front ++ '[' :: (label ++ [']', '[', ']'])) = some label ↔ isPlain label := by
  have hsource : ofSource? (front ++ '[' :: (label ++ [']', '[', ']'])) =
      last? ('[' :: (label ++ [']'])) := by
    have hsplit : front ++ '[' :: (label ++ [']', '[', ']']) =
        ((front ++ '[' :: (label ++ [']'])) ++ ['[']) ++ [']'] := by
      simp
    rw [hsplit, ofSource?_concat, List.getLast?_concat, if_pos rfl, List.dropLast_concat,
      last?_append _ hfront]
  rw [hsource]
  exact ⟨fun hlabel => (suffix_of_last? hlabel).1, last?_bracket⟩

/-- At the end of a source a label is found exactly if it is plain and does not end in an opening
bracket. -/
theorem ofSource?_append (hlabel : label ≠ [])
    (hfront : ∀ before behind, front = before ++ '[' :: behind →
      closing? (behind ++ '[' :: (label ++ [']'])) = none) :
    ofSource? (front ++ '[' :: (label ++ [']'])) = some label ↔
      isPlain label ∧ label.getLast? ≠ some '[' := by
  obtain ⟨start, c, hconcat⟩ := (List.eq_nil_or_concat label).resolve_left hlabel
  obtain rfl : label = start ++ [c] := hconcat.trans (List.concat_eq_append ..)
  have hsplit : front ++ '[' :: (start ++ [c] ++ [']']) =
      (front ++ '[' :: (start ++ [c])) ++ [']'] := by
    simp
  have hlast : (front ++ '[' :: (start ++ [c])).getLast? = some c := by
    rw [← List.cons_append, ← List.append_assoc, List.getLast?_concat]
  rw [hsplit, ofSource?_concat, hlast, ← hsplit, List.getLast?_concat]
  by_cases hc : c = '['
  · -- what is left of the source ends with the label's backslash and not with a bracket
    rw [if_pos (congrArg some hc), hc]
    refine ⟨fun hfound => ?_, fun hplain => absurd rfl hplain.2⟩
    have hrest : (front ++ '[' :: (start ++ ['['])).dropLast = front ++ '[' :: start := by
      rw [← List.cons_append, ← List.append_assoc, List.dropLast_concat]
    obtain ⟨hplain, ending, hending, before, hsuffix⟩ := suffix_of_last? hfound
    have hback : (front ++ '[' :: start).getLast? = some '\\' := by
      rw [List.getLast?_append, List.getLast?_cons, getLast?_of_isPlain hplain]
      rfl
    rw [← hrest, ← hsuffix, ← List.append_assoc, List.getLast?_append] at hback
    rcases hending with rfl | rfl <;> cases hback
  · rw [if_neg fun heq => hc (Option.some.inj heq), last?_append _ hfront]
    refine ⟨fun hfound => ⟨(suffix_of_last? hfound).1, fun heq => hc (Option.some.inj heq)⟩, ?_⟩
    exact fun hplain => last?_bracket hplain.1

end Source

end CrateReadme.Markdown.Label
