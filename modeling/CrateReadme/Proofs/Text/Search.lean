import CrateReadme.Text.Basic
import Mathlib.Data.List.Basic

/-!
# The first occurrence of a pattern

A search stops at a given occurrence of a pattern if the pattern does not occur before. An earlier
occurrence could also reach into the given one; then a proper border of the pattern, which is a
prefix and a suffix of it, would stand between the two.

A text without a separator is its only part. Otherwise the first part stands before the first
separator, and the other parts are those of the text behind it. So the parts, joined by the
separator, are the text again.

Trimming takes all the white space from around a text that has none at its own ends.
-/

namespace CrateReadme.Text

/-- A stretch of accepted characters ends where the next character is not accepted. -/
theorem takeWhile_append_of_head? {accept : Char → Bool} {text rest : List Char}
    (htext : ∀ c ∈ text, accept c) (hrest : ∀ c ∈ rest.head?, accept c = false) :
    (text ++ rest).takeWhile accept = text ∧ (text ++ rest).dropWhile accept = rest := by
  rw [List.takeWhile_append_of_pos htext, List.dropWhile_append_of_pos htext]
  cases rest with
  | nil => exact ⟨List.append_nil text, rfl⟩
  | cons c rest =>
      have hc : ¬accept c := Bool.not_eq_true _ ▸ hrest c rfl
      rw [List.takeWhile_cons_of_neg hc, List.dropWhile_cons_of_neg hc, List.append_nil]
      exact ⟨rfl, rfl⟩

section Search

variable {pattern before rest overlap : List Char}

theorem breakOn?_append_self (pattern rest : List Char) :
    breakOn? pattern (pattern ++ rest) = some ([], rest) := by
  cases htext : pattern ++ rest with
  | nil =>
      obtain ⟨rfl, rfl⟩ := List.append_eq_nil_iff.mp htext
      rfl
  | cons c text =>
      rw [breakOn?, after?_eq_some_iff.mpr htext.symm]

/-- A text that is broken at a pattern is put together again. -/
theorem eq_of_breakOn? {pattern text before rest : List Char}
    (hbreak : breakOn? pattern text = some (before, rest)) :
    text = before ++ (pattern ++ rest) := by
  induction text generalizing before with
  | nil =>
      rw [breakOn?] at hbreak
      split at hbreak
      · next hempty =>
        cases hbreak
        simpa using hempty
      · cases hbreak
  | cons c text ih =>
      rw [breakOn?] at hbreak
      split at hbreak
      · next later hafter =>
        cases hbreak
        rw [List.nil_append]
        exact after?_eq_some_iff.mp hafter
      · obtain ⟨⟨front, back⟩, hfound, heq⟩ := Option.map_eq_some_iff.mp hbreak
        cases heq
        rw [ih hfound, List.cons_append]

/-- Whether a pattern starts a text is decided in front of a character that it does not hold. -/
theorem after?_append_of_not_mem {pattern text more : List Char} {stop : Char}
    (hstop : stop ∉ pattern) :
    after? pattern (text ++ stop :: more) =
      (after? pattern text).map (· ++ stop :: more) := by
  induction pattern generalizing text with
  | nil => rfl
  | cons p pattern ih =>
      rw [List.mem_cons, not_or] at hstop
      cases text with
      | nil =>
          rw [List.nil_append, after?, after?, if_neg (Ne.symm hstop.1), Option.map_none]
      | cons c text =>
          rw [List.cons_append, after?, after?]
          split
          · exact ih hstop.2
          · rfl

/-- A pattern cannot reach beyond a character that it does not have. -/
theorem breakOn?_append_of_not_mem {pattern text more : List Char} {stop : Char}
    (hpattern : pattern ≠ []) (hstop : stop ∉ pattern) :
    breakOn? pattern (text ++ stop :: more) =
      match breakOn? pattern text with
      | some (before, rest) => some (before, rest ++ stop :: more)
      | none => (breakOn? pattern more).map fun parts => (text ++ stop :: parts.1, parts.2) := by
  have hempty : pattern.isEmpty = false := by simpa using hpattern
  induction text with
  | nil =>
      have hnone : after? pattern [] = none := by
        cases pattern with
        | nil => exact absurd rfl hpattern
        | cons p pattern => rfl
      have hafter : after? pattern (stop :: more) = none := by
        rw [← List.nil_append (stop :: more), after?_append_of_not_mem hstop, hnone]
        rfl
      have hnil : breakOn? pattern [] = none := by
        rw [breakOn?, hempty]
        rfl
      have hcons : breakOn? pattern (stop :: more) =
          (breakOn? pattern more).map fun parts => (stop :: parts.1, parts.2) := by
        rw [breakOn?, hafter]
      rw [List.nil_append, hcons, hnil]
      rfl
  | cons c text ih =>
      rw [List.cons_append, breakOn?, ← List.cons_append, after?_append_of_not_mem hstop, ih,
        breakOn?]
      cases after? pattern (c :: text) with
      | some rest => rfl
      | none =>
          cases breakOn? pattern text with
          | some parts => rfl
          | none => simp [Function.comp_def]

theorem breakOn?_cons_of_not_starts {c : Char} {text : List Char}
    (hstarts : ¬pattern <+: c :: text) :
    breakOn? pattern (c :: text) =
      (breakOn? pattern text).map fun parts => (c :: parts.1, parts.2) := by
  cases hafter : after? pattern (c :: text) with
  | none => rw [breakOn?, hafter]
  | some rest => exact absurd ⟨rest, (after?_eq_some_iff.mp hafter).symm⟩ hstarts

/-- The search finds an occurrence if none starts before it. -/
theorem breakOn?_of_first
    (hfirst : ∀ front back, before = front ++ back → back ≠ [] →
      ¬pattern <+: back ++ (pattern ++ rest)) :
    breakOn? pattern (before ++ (pattern ++ rest)) = some (before, rest) := by
  induction before with
  | nil => exact breakOn?_append_self pattern rest
  | cons c before ih =>
      have hlater := ih fun front back hsplit =>
        hfirst (c :: front) back (by rw [hsplit, List.cons_append])
      have hhere : ¬pattern <+: c :: (before ++ (pattern ++ rest)) :=
        hfirst [] (c :: before) rfl (by simp)
      rw [List.cons_append, breakOn?_cons_of_not_starts hhere, hlater]
      rfl

/-- `overlap` is the only proper border that a pattern may have. -/
def HasOnlyBorder (pattern overlap : List Char) : Prop :=
  ∀ border, border ≠ [] → border ≠ pattern → border <+: pattern → border <:+ pattern →
    border = overlap

/-- The search finds an occurrence if there is none before it, the overlap of two occurrences
included. -/
theorem breakOn?_of_border (hborder : HasOnlyBorder pattern overlap)
    (hbefore : ¬pattern <:+: before ++ overlap) :
    breakOn? pattern (before ++ (pattern ++ rest)) = some (before, rest) := by
  apply breakOn?_of_first
  intro front back hsplit hback hstarts
  apply hbefore
  obtain ⟨tail, htail⟩ := hstarts
  rcases List.append_eq_append_iff.mp htail with ⟨middle, hinside, -⟩ | ⟨border, hreach, hrest⟩
  · exact ⟨front, middle ++ overlap, by simp [hsplit, hinside]⟩
  · by_cases hempty : border = []
    · rw [hempty, List.append_nil] at hreach
      exact ⟨front, overlap, by simp [hsplit, hreach]⟩
    · have hproper : border ≠ pattern := by
        intro heq
        rw [heq] at hreach
        exact hback (List.self_eq_append_left.mp hreach)
      have hlength : border.length ≤ pattern.length := by
        rw [hreach, List.length_append]
        omega
      have hstart : border <+: pattern :=
        List.prefix_of_prefix_length_le ⟨tail, hrest.symm⟩ (List.prefix_append pattern rest) hlength
      have hend : border <:+ pattern := ⟨back, hreach.symm⟩
      have hoverlap := hborder border hempty hproper hstart hend
      exact ⟨front, [], by rw [List.append_nil, hsplit, ← hoverlap, List.append_assoc, ← hreach]⟩

end Search

/-! ### Splitting at a separator -/

section Split

variable {separator : List Char}

/-- What was taken before goes in front of the first part. -/
theorem splitLoop_eq_modifyHead (separator : List Char) (skip : ℕ) (part text : List Char) :
    splitLoop separator skip part text =
      (splitLoop separator skip [] text).modifyHead (part.reverse ++ ·) := by
  induction text generalizing skip part with
  | nil => cases skip <;> simp [splitLoop]
  | cons c text ih =>
      cases skip with
      | succ skip => rw [splitLoop, splitLoop, ih]
      | zero =>
          rw [splitLoop, splitLoop]
          split
          · simp
          · rw [ih 0 (c :: part), ih 0 [c], List.modifyHead_modifyHead]
            congr 1
            funext rest
            simp

theorem splitLoop_skip (separator passed part rest : List Char) :
    splitLoop separator passed.length part (passed ++ rest) = splitLoop separator 0 part rest := by
  induction passed with
  | nil => rfl
  | cons c passed ih => rw [List.length_cons, List.cons_append, splitLoop, ih]

theorem splitOn_separator_append (hne : separator ≠ []) (rest : List Char) :
    splitOn separator (separator ++ rest) = [] :: splitOn separator rest := by
  obtain ⟨c, others, rfl⟩ := List.exists_cons_of_ne_nil hne
  have hstarts : startsWith (c :: others) (c :: (others ++ rest)) :=
    Option.isSome_iff_exists.mpr ⟨rest, after?_eq_some_iff.mpr rfl⟩
  rw [splitOn, List.cons_append, splitLoop, if_pos hstarts]
  exact congrArg _ (splitLoop_skip (c :: others) others [] rest)

theorem splitOn_cons_of_not_starts {c : Char} {text : List Char}
    (hstarts : startsWith separator (c :: text) = false) :
    splitOn separator (c :: text) = (splitOn separator text).modifyHead (c :: ·) := by
  rw [splitOn, splitLoop, if_neg (by simp [hstarts]), splitLoop_eq_modifyHead]
  rfl

/-- A text is split into itself, or at the first separator and then further. -/
theorem splitOn_cases (hne : separator ≠ []) (text : List Char) :
    splitOn separator text = [text] ∨
      ∃ front back, text = front ++ (separator ++ back) ∧
        splitOn separator text = front :: splitOn separator back := by
  induction text with
  | nil => exact Or.inl rfl
  | cons c text ih =>
      cases hstarts : startsWith separator (c :: text) with
      | true =>
          obtain ⟨back, hafter⟩ := Option.isSome_iff_exists.mp hstarts
          have htext := after?_eq_some_iff.mp hafter
          exact Or.inr ⟨[], back, htext, by rw [htext, splitOn_separator_append hne]⟩
      | false =>
          rw [splitOn_cons_of_not_starts hstarts]
          rcases ih with hone | ⟨front, back, rfl, hmore⟩
          · exact Or.inl (by rw [hone]; rfl)
          · exact Or.inr ⟨c :: front, back, rfl, by rw [hmore]; rfl⟩

theorem splitOn_ne_nil (hne : separator ≠ []) (text : List Char) : splitOn separator text ≠ [] := by
  rcases splitOn_cases hne text with hone | ⟨front, back, -, hmore⟩
  · simp [hone]
  · simp [hmore]

/-- The parts of a text, joined by the separator, are the text. -/
theorem intercalate_splitOn (hne : separator ≠ []) (text : List Char) :
    separator.intercalate (splitOn separator text) = text := by
  induction hlength : text.length using Nat.strongRecOn generalizing text with
  | _ length ih =>
      rcases splitOn_cases hne text with hone | ⟨front, back, htext, hmore⟩
      · rw [hone]
        simp [List.intercalate]
      · have hshorter : back.length < length := by
          have hpos := List.length_pos_of_ne_nil hne
          rw [← hlength, htext, List.length_append, List.length_append]
          omega
        rw [hmore, List.intercalate_cons_of_ne_nil (splitOn_ne_nil hne back),
          ih back.length hshorter back rfl, htext, List.append_assoc]

/-- A text that does not end in a colon keeps its parts in front of two colons. -/
theorem splitOn_append_colons {front : List Char} (hend : front.getLast? ≠ some ':')
    (back : List Char) :
    splitOn [':', ':'] (front ++ ':' :: ':' :: back) =
      splitOn [':', ':'] front ++ splitOn [':', ':'] back := by
  have hne : [':', ':'] ≠ [] := List.cons_ne_nil _ _
  induction hlength : front.length using Nat.strongRecOn generalizing front with
  | _ length ih =>
      match front, hend with
      | [], _ => exact splitOn_separator_append hne back
      | [c], hend =>
          have hc : c ≠ ':' := by simpa using hend
          have hlong : startsWith [':', ':'] (c :: ':' :: ':' :: back) = false := by
            simp [startsWith, after?, Ne.symm hc]
          have hshort : startsWith [':', ':'] [c] = false := by
            simp [startsWith, after?]
          rw [List.singleton_append, splitOn_cons_of_not_starts hlong,
            splitOn_cons_of_not_starts hshort]
          rw [show (':' :: ':' :: back) = [':', ':'] ++ back from rfl,
            splitOn_separator_append hne]
          rfl
      | c :: d :: front, hend =>
          have hend' : (d :: front).getLast? ≠ some ':' := by
            rwa [List.getLast?_cons_cons] at hend
          by_cases hcolons : c = ':' ∧ d = ':'
          · obtain ⟨rfl, rfl⟩ := hcolons
            have hinner : front.getLast? ≠ some ':' := by
              cases front with
              | nil => simp
              | cons e front => rwa [List.getLast?_cons_cons] at hend'
            have hshorter : front.length < length := by
              rw [← hlength, List.length_cons, List.length_cons]
              omega
            have hfront := ih front.length hshorter hinner rfl
            have hstep (text : List Char) := splitOn_separator_append hne text
            simp only [List.cons_append, List.nil_append] at hstep ⊢
            rw [hstep, hstep, hfront, List.cons_append]
          · have hstarts (text : List Char) :
                startsWith [':', ':'] (c :: d :: text) = false := by
              simp only [startsWith, after?]
              split_ifs with hc hd
              · exact absurd ⟨hc.symm, hd.symm⟩ hcolons
              · rfl
              · rfl
            have hrest := ih (d :: front).length (by simp [← hlength]) hend' rfl
            rw [List.cons_append, List.cons_append, splitOn_cons_of_not_starts (hstarts _),
              splitOn_cons_of_not_starts (hstarts _), ← List.cons_append, hrest]
            obtain ⟨first, others, hparts⟩ :=
              List.exists_cons_of_ne_nil (splitOn_ne_nil hne (d :: front))
            rw [hparts]
            rfl

end Split

/-! ### Joined texts -/

/-- A character of joined parts is one of the separator or of a part. -/
theorem mem_intercalate {c : Char} {separator : List Char} {parts : List (List Char)}
    (hmem : c ∈ separator.intercalate parts) : c ∈ separator ∨ ∃ part ∈ parts, c ∈ part := by
  induction parts with
  | nil => simp at hmem
  | cons part parts ih =>
      cases parts with
      | nil =>
          rw [List.intercalate_singleton] at hmem
          exact .inr ⟨part, by simp, hmem⟩
      | cons next parts =>
          rw [List.intercalate_cons_cons, List.mem_append, List.mem_append] at hmem
          rcases hmem with (hpart | hsep) | hrest
          · exact .inr ⟨part, by simp, hpart⟩
          · exact .inl hsep
          · obtain hsep | ⟨other, hother, hc⟩ := ih hrest
            · exact .inl hsep
            · exact .inr ⟨other, List.mem_cons_of_mem part hother, hc⟩

/-! ### White space at the ends -/

/-- A text that is not empty and has no white space at its ends. -/
structure IsSolid (text : List Char) : Prop where
  head : ∃ c rest, text = c :: rest ∧ isBlank c = false
  last : ∃ front c, text = front ++ [c] ∧ isBlank c = false

theorem isSolid_of_forall {text : List Char} (hne : text ≠ [])
    (htext : ∀ c ∈ text, isBlank c = false) : IsSolid text where
  head := by
    obtain ⟨c, rest, rfl⟩ := List.exists_cons_of_ne_nil hne
    exact ⟨c, rest, rfl, htext c List.mem_cons_self⟩
  last := ⟨text.dropLast, text.getLast hne, (List.dropLast_append_getLast hne).symm,
    htext _ (List.getLast_mem hne)⟩

theorem strip_sublist (text : List Char) : (strip text).Sublist text := by
  have hend := (List.dropWhile_sublist isBlank : (text.dropWhile isBlank).reverse.dropWhile isBlank
    |>.Sublist _)
  rw [strip, trim, trimStart, trimEnd]
  exact (List.reverse_reverse _ ▸ hend.reverse).trans (List.dropWhile_sublist _)

namespace IsSolid

variable {text front back : List Char}

theorem append (hfront : IsSolid front) (hback : IsSolid back) (middle : List Char) :
    IsSolid (front ++ (middle ++ back)) where
  head := by
    obtain ⟨c, rest, rfl, hc⟩ := hfront.head
    exact ⟨c, rest ++ (middle ++ back), rfl, hc⟩
  last := by
    obtain ⟨rest, c, rfl, hc⟩ := hback.last
    exact ⟨front ++ (middle ++ rest), c, by simp, hc⟩

theorem prepend (htext : IsSolid text) (hfront : ∀ c ∈ front, isBlank c = false) :
    IsSolid (front ++ text) := by
  cases front with
  | nil => exact htext
  | cons c front => exact (isSolid_of_forall (List.cons_ne_nil c front) hfront).append htext []

theorem extend (htext : IsSolid text) (hback : ∀ c ∈ back, isBlank c = false) :
    IsSolid (text ++ back) := by
  cases back with
  | nil => rwa [List.append_nil]
  | cons c back => exact htext.append (isSolid_of_forall (List.cons_ne_nil c back) hback) []

theorem intercalate {parts : List (List Char)} (hne : parts ≠ [])
    (hparts : ∀ part ∈ parts, IsSolid part) (separator : List Char) :
    IsSolid (separator.intercalate parts) := by
  induction parts with
  | nil => exact absurd rfl hne
  | cons part parts ih =>
      cases parts with
      | nil => simpa [List.intercalate] using hparts
      | cons next parts =>
          have hrest := ih (by simp) fun other hmem => hparts other (by simp [hmem])
          rw [List.intercalate_cons_cons, List.append_assoc]
          exact (hparts part (by simp)).append hrest separator

/-- Trimming leaves a solid text of the white space around it. -/
theorem strip_append (htext : IsSolid text) (hfront : ∀ c ∈ front, isBlank c)
    (hback : ∀ c ∈ back, isBlank c) : strip (front ++ (text ++ back)) = text := by
  obtain ⟨c, rest, hhead, hc⟩ := htext.head
  obtain ⟨before, d, hlast, hd⟩ := htext.last
  have hstart : (front ++ (text ++ back)).dropWhile isBlank = text ++ back := by
    rw [List.dropWhile_append_of_pos hfront, hhead, List.cons_append,
      List.dropWhile_cons_of_neg (by simp [hc])]
  have hend : (text ++ back).reverse.dropWhile isBlank = text.reverse := by
    rw [List.reverse_append, List.dropWhile_append_of_pos (by simpa using hback), hlast,
      List.reverse_concat, List.dropWhile_cons_of_neg (by simp [hd])]
  rw [strip, trim, trimStart, trimEnd, hstart, hend, List.reverse_reverse]

theorem strip_eq_self (htext : IsSolid text) : strip text = text := by
  have hnone : ∀ c ∈ ([] : List Char), isBlank c := by simp
  simpa using htext.strip_append hnone hnone

end IsSolid

end CrateReadme.Text
