import CrateReadme.Proofs.Text.Search
import CrateReadme.Source.Lexer
import Mathlib.Data.List.TakeWhile

/-!
# Stretches of a source

What one step of the reader takes does not reach beyond the source, and it does not depend on what
stands behind the next line end. So a text that can be read on its own is read in the same way in
front of a line end in a longer source.
-/

namespace CrateReadme.Source

section Lists

variable {α : Type} {text more : List α}

theorem takeWhile_append_stop (keep : α → Bool) (stop : α) (hstop : keep stop = false) :
    (text ++ stop :: more).takeWhile keep = text.takeWhile keep := by
  induction text with
  | nil => simp [hstop]
  | cons c text ih =>
      cases hkeep : keep c with
      | true => simp [hkeep, ih]
      | false => simp [hkeep]

theorem takeWhile_append_of_shorter (hshort : (text.takeWhile keep).length < text.length) :
    (text ++ more).takeWhile keep = text.takeWhile keep := by
  induction text with
  | nil => simp at hshort
  | cons c text ih =>
      cases hkeep : keep c with
      | true =>
          simp only [List.takeWhile_cons, hkeep, if_true, List.length_cons] at hshort
          simp [hkeep, ih (by omega)]
      | false => simp [hkeep]

theorem length_takeWhile_le (keep : α → Bool) (text : List α) :
    (text.takeWhile keep).length ≤ text.length :=
  (List.takeWhile_sublist keep).length_le

theorem take_length_takeWhile (keep : α → Bool) (text : List α) :
    text.take (text.takeWhile keep).length = text.takeWhile keep :=
  List.prefix_iff_eq_take.mp (List.takeWhile_prefix keep) |>.symm

theorem drop_length_takeWhile (keep : α → Bool) (text : List α) :
    text.drop (text.takeWhile keep).length = text.dropWhile keep := by
  calc text.drop (text.takeWhile keep).length
      = (text.takeWhile keep ++ text.dropWhile keep).drop (text.takeWhile keep).length := by
        rw [List.takeWhile_append_dropWhile]
    _ = text.dropWhile keep := List.drop_left

end Lists

/-! ### Texts in front of more text -/

theorem prefix_append_cons_iff {pattern text more : List Char} {stop : Char}
    (hstop : stop ∉ pattern) : pattern <+: text ++ stop :: more ↔ pattern <+: text := by
  refine ⟨fun hinit => ?_, fun hinit => hinit.trans (List.prefix_append _ _)⟩
  have hboth : text ++ [stop] <+: text ++ stop :: more := ⟨more, by simp⟩
  rcases List.prefix_or_prefix_of_prefix hinit hboth with hinit | hbeyond
  · rcases List.prefix_concat_iff.mp hinit with rfl | hinit
    · exact absurd (List.mem_append_right text (List.mem_singleton_self stop)) hstop
    · exact hinit
  · exact absurd (hbeyond.subset (List.mem_append_right text (List.mem_singleton_self stop))) hstop

theorem startsWith_append_of_not_mem {pattern text more : List Char} {stop : Char}
    (hstop : stop ∉ pattern) :
    Text.startsWith pattern (text ++ stop :: more) = Text.startsWith pattern text := by
  rw [Text.startsWith, Text.startsWith, Text.after?_append_of_not_mem hstop, Option.isSome_map]

/-- A text that does not start with a pattern does not when it gets longer, unless it was too short.
-/
theorem after?_append_eq_none {pattern text more : List Char}
    (hnone : Text.after? pattern text = none) (hlength : pattern.length ≤ text.length) :
    Text.after? pattern (text ++ more) = none := by
  induction pattern generalizing text with
  | nil => cases hnone
  | cons p pattern ih =>
      cases text with
      | nil => simp at hlength
      | cons c text =>
          rw [Text.after?] at hnone
          rw [List.cons_append, Text.after?]
          split at hnone
          · next hc =>
            rw [if_pos hc]
            exact ih hnone (by simpa using hlength)
          · next hc => rw [if_neg hc]

/-- A pattern is found at the same place when the text gets longer. -/
theorem breakOn?_append {pattern text before rest more : List Char}
    (hbreak : Text.breakOn? pattern text = some (before, rest)) (hpattern : pattern ≠ []) :
    Text.breakOn? pattern (text ++ more) = some (before, rest ++ more) := by
  have hsplit := Text.eq_of_breakOn? hbreak
  have hlength : pattern.length ≤ text.length := by
    rw [hsplit, List.length_append, List.length_append]
    omega
  induction text generalizing before with
  | nil =>
      rw [List.length_nil, Nat.le_zero, List.length_eq_zero_iff] at hlength
      exact absurd hlength hpattern
  | cons c text ih =>
      rw [Text.breakOn?] at hbreak
      rw [List.cons_append, Text.breakOn?, ← List.cons_append]
      split at hbreak
      · next later hafter =>
        cases hbreak
        have hmore : Text.after? pattern (c :: text ++ more) = some (rest ++ more) := by
          rw [Text.after?_eq_some_iff] at hafter ⊢
          rw [hafter, List.append_assoc]
        rw [hmore]
      · next hnone =>
        obtain ⟨⟨front, back⟩, hfound, heq⟩ := Option.map_eq_some_iff.mp hbreak
        cases heq
        have htext := Text.eq_of_breakOn? hfound
        have htextLength : pattern.length ≤ text.length := by
          rw [htext, List.length_append, List.length_append]
          omega
        rw [after?_append_eq_none hnone hlength, ih hfound htext htextLength]
        rfl

/-! ### Literals -/

theorem unicodeEscape_reindex {index : Nat} {digits : List Char} {meant : Char} (other : Nat)
    (hescape : unicodeEscape index digits = .ok meant) :
    unicodeEscape other digits = .ok meant := by
  unfold unicodeEscape at *
  split at hescape
  · cases hescape
  · split at hescape
    · cases hescape
    · split at hescape
      · cases hescape
      · rw [if_neg ‹_›, if_neg ‹_›]
        exact hescape

/-- An escape is read in the same way if more text follows, as long as it does not use up the text
behind the backslash. -/
theorem readEscape_append {index used : Nat} {rest meant : List Char} (other : Nat)
    (more : List Char) (hescape : readEscape index rest = .ok (meant, used))
    (hused : used < rest.length) : readEscape other (rest ++ more) = .ok (meant, used) := by
  unfold readEscape at hescape
  split at hescape
  · cases hescape
  · next c tail =>
    rw [List.cons_append, readEscape]
    split at hescape
    · exact hescape
    · split at hescape
      · next hx =>
        rw [if_pos hx]
        have htake : (tail ++ more).take 2 = tail.take 2 := by
          apply List.take_append_of_le_length
          split at hescape
          · split at hescape
            · cases hescape
            · cases hescape
              simpa using Nat.le_of_lt hused
          · cases hescape
        rw [htake]
        exact hescape
      · next hx =>
        rw [if_neg hx]
        split at hescape
        · next hu =>
          rw [if_pos hu]
          split at hescape
          · next hclosed =>
            rw [if_pos (List.mem_append_left more hclosed)]
            have hinside : (tail ++ more).takeWhile (· ≠ '}') = tail.takeWhile (· ≠ '}') := by
              obtain ⟨before, behind, rfl⟩ := List.append_of_mem hclosed
              rw [List.append_assoc, List.cons_append, takeWhile_append_stop _ _ (by simp),
                takeWhile_append_stop _ _ (by simp)]
            simp only [hinside] at hescape ⊢
            split at hescape
            · next hmeant =>
              rw [unicodeEscape_reindex other hmeant]
              exact hescape
            · cases hescape
          · cases hescape
        · next hu =>
          rw [if_neg hu]
          split at hescape
          · next hline =>
            rw [if_pos hline]
            cases hescape
            rw [← List.cons_append, takeWhile_append_of_shorter hused]
          · cases hescape

/-- A literal that ends is read in the same way wherever it stands, and it ends inside the text. -/
theorem readQuoted_append {quote : Char} {start index size : Nat} {input value : List Char}
    (hquoted : readQuoted quote start index input = .ok (value, size)) :
    1 ≤ size ∧ size ≤ input.length ∧ ∀ otherStart otherIndex more,
      readQuoted quote otherStart otherIndex (input ++ more) = .ok (value, size) := by
  fun_induction readQuoted quote start index input generalizing value size with
  | case1 => cases hquoted
  | case2 index rest =>
      cases hquoted
      refine ⟨Nat.le_refl 1, by simp, fun otherStart otherIndex more => ?_⟩
      rw [List.cons_append, readQuoted, if_pos rfl]
  | case3 => cases hquoted
  | case4 => cases hquoted
  | case5 index rest meant used hescape inside inner hinner hquote ih =>
      cases hquoted
      obtain ⟨hpos, hle, hmore⟩ := ih hinner
      rw [List.length_drop] at hle
      refine ⟨by omega, by simp only [List.length_cons]; omega,
        fun otherStart otherIndex more => ?_⟩
      rw [List.cons_append, readQuoted, if_neg hquote, if_pos rfl,
        readEscape_append otherIndex more hescape (by omega)]
      simp only
      rw [List.drop_append_of_le_length (by omega), hmore]
  | case6 => cases hquoted
  | case7 index c rest hquote hslash inside inner hinner ih =>
      cases hquoted
      obtain ⟨hpos, hle, hmore⟩ := ih hinner
      refine ⟨by omega, by simp only [List.length_cons]; omega,
        fun otherStart otherIndex more => ?_⟩
      rw [List.cons_append, readQuoted, if_neg hquote, if_neg hslash, hmore]

/-- Whether a text is read as a lifetime does not depend on what follows, if that is no quote. -/
theorem startsLifetime_append {rest more : List Char} {stop : Char} (hstop : stop ≠ '\x27')
    (hrest : rest ≠ []) : startsLifetime (rest ++ stop :: more) = startsLifetime rest := by
  match rest, hrest with
  | [c], _ => simp [startsLifetime, hstop]
  | c :: d :: rest, _ => simp [startsLifetime]

/-- The size of a rule's stretch is the number of its characters. -/
def Stretch.size (stretch : Stretch) : Nat :=
  stretch.extra + 1

/-- A literal is read in the same way in front of anything but a quote, and a lifetime in front of
what it does not go on into. -/
theorem readLiteral_append {index : Nat} {mark : LiteralMark} {input : List Char}
    {stretch : Stretch} (other : Nat) {stop : Char} (more : List Char) (hstop : stop ≠ '\x27')
    (hword : ∀ text value, stretch.token? = some (.lifetime, text, value) →
      isWordPart stop = false ∨ stretch.size < input.length)
    (hread : readLiteral index mark input = .ok stretch) :
    stretch.size ≤ input.length ∧
      readLiteral other mark (input ++ stop :: more) = .ok stretch := by
  cases mark with
  | raw letters hashes =>
      simp only [readLiteral] at hread ⊢
      cases hbreak : Text.breakOn? ('"' :: List.replicate hashes '#')
          (input.drop (letters + hashes + 1)) with
      | none =>
          rw [hbreak] at hread
          cases hread
      | some parts =>
          obtain ⟨value, rest⟩ := parts
          rw [hbreak] at hread
          cases hread
          have hsplit := congrArg List.length (Text.eq_of_breakOn? hbreak)
          simp only [List.length_append, List.length_drop, List.length_cons,
            List.length_replicate] at hsplit
          have hopening : letters + hashes + 1 ≤ input.length := by omega
          rw [List.drop_append_of_le_length hopening, breakOn?_append hbreak (by simp)]
          simp only [Stretch.size, List.length_cons, List.length_replicate]
          rw [List.take_append_of_le_length (by omega)]
          exact ⟨by omega, rfl⟩
  | quoted letters quote =>
      simp only [readLiteral] at hread ⊢
      generalize hrest : input.drop (letters + 1) = rest at hread
      have hne : rest ≠ [] := by
        rintro rfl
        rw [if_neg (by simp [startsLifetime]), readQuoted] at hread
        cases hread
      have hlength : rest.length = input.length - (letters + 1) := by
        rw [← hrest, List.length_drop]
      have hletters : letters + 1 ≤ input.length := by
        have := List.length_pos_iff.mpr hne
        omega
      rw [List.drop_append_of_le_length hletters, hrest, startsLifetime_append hstop hne]
      split at hread
      · next hlifetime =>
        cases hread
        have hle := length_takeWhile_le isWordPart rest
        have hrun : (rest ++ stop :: more).takeWhile isWordPart = rest.takeWhile isWordPart := by
          rcases hword _ _ rfl with hpart | hshort
          · exact takeWhile_append_stop _ _ hpart
          · refine takeWhile_append_of_shorter ?_
            simp only [Stretch.size] at hshort
            omega
        rw [if_pos hlifetime, hrun, List.take_append_of_le_length (by omega)]
        exact ⟨by simp only [Stretch.size]; omega, rfl⟩
      · next hlifetime =>
        rw [if_neg hlifetime]
        cases hquoted : readQuoted quote index (index + letters + 1) rest with
        | error fault =>
            rw [hquoted] at hread
            cases hread
        | ok found =>
            obtain ⟨value, size⟩ := found
            rw [hquoted] at hread
            cases hread
            obtain ⟨hpos, hle, happend⟩ := readQuoted_append hquoted
            rw [happend]
            simp only [Stretch.size]
            rw [List.take_append_of_le_length (by omega)]
            exact ⟨by omega, rfl⟩

/-! ### How a literal begins -/

/-- The characters with which a literal with the given mark begins. -/
inductive LiteralMark.Opens : LiteralMark → List Char → Prop
  | string : Opens (.quoted 0 '"') ['"']
  | character : Opens (.quoted 0 '\x27') ['\x27']
  | byteString : Opens (.quoted 1 '"') ['b', '"']
  | cString : Opens (.quoted 1 '"') ['c', '"']
  | byte : Opens (.quoted 1 '\x27') ['b', '\x27']
  | raw {letters hashes : Nat} {front : List Char}
      (hfront : front ∈ [['r'], ['b', 'r'], ['c', 'r']]) (hletters : letters = front.length)
      (hsize : letters + hashes + 1 ≤ 260) :
      Opens (.raw letters hashes) (front ++ (List.replicate hashes '#' ++ ['"']))

/-- The number of characters up to and including the opening quote. -/
def LiteralMark.openingSize : LiteralMark → Nat
  | quoted letters _ => letters + 1
  | raw letters hashes => letters + hashes + 1

theorem LiteralMark.Opens.length_eq {mark : LiteralMark} {opening : List Char}
    (hopens : mark.Opens opening) : opening.length = mark.openingSize := by
  cases hopens with
  | raw _ hletters _ => simp [LiteralMark.openingSize, hletters, Nat.add_assoc]
  | _ => rfl

/-- A raw literal is marked by number signs and a quote. -/
theorem rawMark?_eq_some_iff {letters : Nat} {mark : LiteralMark} :
    rawMark? letters rest = some mark ↔ ∃ hashes, mark = .raw letters hashes ∧
      letters + hashes + 1 ≤ 260 ∧ List.replicate hashes '#' ++ ['"'] <+: rest := by
  have hhashes : rest.takeWhile (· = '#') =
      List.replicate (rest.takeWhile (· = '#')).length '#' := by
    rw [List.eq_replicate_iff]
    exact ⟨rfl, fun d hd => by simpa using List.mem_takeWhile_imp hd⟩
  rw [rawMark?]
  constructor
  · intro hmark
    split at hmark
    · next hquote =>
      cases hmark
      refine ⟨_, rfl, hquote.2, ?_⟩
      obtain ⟨tail, htail⟩ := List.head?_eq_some_iff.mp hquote.1
      refine ⟨tail, ?_⟩
      rw [← hhashes, List.append_assoc, List.singleton_append, ← htail, drop_length_takeWhile,
        List.takeWhile_append_dropWhile]
    · cases hmark
  · rintro ⟨hashes, rfl, hsize, tail, rfl⟩
    have htake : (List.replicate hashes '#' ++ ['"'] ++ tail).takeWhile (· = '#') =
        List.replicate hashes '#' := by
      rw [List.append_assoc, List.takeWhile_append_of_pos (by simp)]
      simp
    simp only [htake, List.length_replicate]
    rw [if_pos]
    refine ⟨?_, hsize⟩
    rw [List.append_assoc, List.drop_left' List.length_replicate]
    rfl

/-- A text that starts with an opening is recognized by it. -/
theorem literalMark?_of_opens {mark : LiteralMark} {opening : List Char}
    (hopens : mark.Opens opening) (hinit : opening <+: input) :
    literalMark? input = some mark := by
  obtain ⟨more, rfl⟩ := hinit
  cases hopens with
  | @raw letters hashes front hfront hletters hsize =>
      subst hletters
      have hraw : rawMark? front.length (List.replicate hashes '#' ++ ['"'] ++ more) =
          some (.raw front.length hashes) :=
        rawMark?_eq_some_iff.mpr ⟨hashes, rfl, hsize, List.prefix_append _ _⟩
      simp only [List.mem_cons, List.not_mem_nil, or_false] at hfront
      rcases hfront with rfl | rfl | rfl
      · exact hraw
      · exact hraw
      · exact hraw
  | _ => rfl

/-- What is recognized as a literal starts with an opening of it. -/
theorem exists_opens_of_literalMark? {mark : LiteralMark} (hmark : literalMark? input = some mark) :
    ∃ opening, mark.Opens opening ∧ opening <+: input := by
  have hraw (front : List Char) {letters : Nat} {rest : List Char}
      (hfront : front ∈ [['r'], ['b', 'r'], ['c', 'r']]) (hletters : letters = front.length)
      (hraw : rawMark? letters rest = some mark) :
      ∃ opening, mark.Opens opening ∧ opening <+: front ++ rest := by
    obtain ⟨hashes, rfl, hsize, hinit⟩ := rawMark?_eq_some_iff.mp hraw
    exact ⟨_, .raw hfront hletters hsize, (List.prefix_append_right_inj front).mpr hinit⟩
  unfold literalMark? at hmark
  split at hmark
  · cases hmark
    exact ⟨_, .string, List.prefix_append ['"'] _⟩
  · cases hmark
    exact ⟨_, .character, List.prefix_append ['\x27'] _⟩
  · cases hmark
    exact ⟨_, .byteString, List.prefix_append ['b', '"'] _⟩
  · cases hmark
    exact ⟨_, .cString, List.prefix_append ['c', '"'] _⟩
  · cases hmark
    exact ⟨_, .byte, List.prefix_append ['b', '\x27'] _⟩
  · exact hraw ['b', 'r'] (by simp) rfl hmark
  · exact hraw ['c', 'r'] (by simp) rfl hmark
  · exact hraw ['r'] (by simp) rfl hmark
  · cases hmark

theorem literalMark?_eq_some_iff {mark : LiteralMark} :
    literalMark? input = some mark ↔ ∃ opening, mark.Opens opening ∧ opening <+: input :=
  ⟨exists_opens_of_literalMark?, fun ⟨_, hopens, hinit⟩ => literalMark?_of_opens hopens hinit⟩

/-- The opening characters of a literal are letters, one of the listed combinations, and then marks
that are no part of a word. -/
theorem LiteralMark.Opens.exists_letters {mark : LiteralMark} {opening : List Char}
    (hopens : mark.Opens opening) : ∃ letters marks, opening = letters ++ marks ∧
      letters ∈ [[], ['b'], ['c'], ['r'], ['b', 'r'], ['c', 'r']] ∧
      marks ≠ [] ∧ ∀ c ∈ marks, c ∈ ['"', '\x27', '#'] := by
  cases hopens with
  | string => exact ⟨[], ['"'], rfl, by decide, by decide, by simp⟩
  | character => exact ⟨[], ['\x27'], rfl, by decide, by decide, by simp⟩
  | byteString => exact ⟨['b'], ['"'], rfl, by decide, by decide, by simp⟩
  | cString => exact ⟨['c'], ['"'], rfl, by decide, by decide, by simp⟩
  | byte => exact ⟨['b'], ['\x27'], rfl, by decide, by decide, by simp⟩
  | @raw letters hashes front hfront hletters hsize =>
      refine ⟨front, _, rfl, List.mem_append_right [[], ['b'], ['c']] hfront, by simp, ?_⟩
      intro c hc
      rcases List.mem_append.mp hc with hhash | hquote
      · rw [List.eq_of_mem_replicate hhash]
        decide
      · rw [List.mem_singleton.mp hquote]
        decide

theorem LiteralMark.Opens.not_mem_lineEnd {mark : LiteralMark} {opening : List Char}
    (hopens : mark.Opens opening) : '\n' ∉ opening := by
  obtain ⟨letters, marks, rfl, hletters, -, hmarks⟩ := hopens.exists_letters
  rw [List.mem_append, not_or]
  refine ⟨?_, fun hmem => absurd (hmarks _ hmem) (by decide)⟩
  exact (show ∀ letters ∈ [[], ['b'], ['c'], ['r'], ['b', 'r'], ['c', 'r']], '\n' ∉ letters by
    decide) letters hletters

theorem literalMark?_append (c : Char) (rest more : List Char) :
    literalMark? (c :: rest ++ '\n' :: more) = literalMark? (c :: rest) := by
  refine Option.ext fun mark => ?_
  rw [literalMark?_eq_some_iff, literalMark?_eq_some_iff]
  refine exists_congr fun opening => and_congr_right fun hopens => ?_
  exact prefix_append_cons_iff hopens.not_mem_lineEnd

/-! ### Comments, words and numbers -/

/-- A comment that is closed is read in the same way wherever it stands. -/
theorem commentSize?_append {depth size : Nat} {text : List Char}
    (hcomment : commentSize? depth text = some size) :
    1 ≤ size ∧ size ≤ text.length ∧ ∀ more, commentSize? depth (text ++ more) = some size := by
  fun_induction commentSize? depth text generalizing size with
  | case1 => cases hcomment
  | case2 depth rest ih =>
      obtain ⟨inner, hinner, rfl⟩ := Option.map_eq_some_iff.mp hcomment
      obtain ⟨hpos, hle, hmore⟩ := ih hinner
      refine ⟨by omega, by simp only [List.length_cons]; omega, fun more => ?_⟩
      rw [List.cons_append, List.cons_append, commentSize?, hmore]
      rfl
  | case3 depth rest hdepth =>
      cases hcomment
      refine ⟨by omega, by simp, fun more => ?_⟩
      rw [List.cons_append, List.cons_append, commentSize?, if_pos hdepth]
  | case4 depth rest hdepth ih =>
      obtain ⟨inner, hinner, rfl⟩ := Option.map_eq_some_iff.mp hcomment
      obtain ⟨hpos, hle, hmore⟩ := ih hinner
      refine ⟨by omega, by simp only [List.length_cons]; omega, fun more => ?_⟩
      rw [List.cons_append, List.cons_append, commentSize?, if_neg hdepth, hmore]
      rfl
  | case5 depth c rest hopens hcloses ih =>
      obtain ⟨inner, hinner, rfl⟩ := Option.map_eq_some_iff.mp hcomment
      obtain ⟨hpos, hle, hmore⟩ := ih hinner
      refine ⟨by omega, by simp only [List.length_cons]; omega, fun more => ?_⟩
      -- The rest is not empty, so what follows cannot make its first character open or close.
      cases rest with
      | nil => simp at hle; omega
      | cons d rest =>
          rw [List.cons_append, List.cons_append, commentSize?, ← List.cons_append, hmore]
          · rfl
          · intro tail hc htail
            exact hopens _ hc (by rw [(List.cons.inj htail).1])
          · intro tail hc htail
            exact hcloses _ hc (by rw [(List.cons.inj htail).1])

theorem lineComment_append (input more : List Char) :
    lineComment (input ++ '\n' :: more) = lineComment input := by
  rw [lineComment, lineComment, takeWhile_append_stop _ _ (by simp)]

theorem blockComment_append {size : Nat} {input : List Char} (more : List Char)
    (hsize : size ≤ input.length) :
    blockComment size (input ++ more) = blockComment size input := by
  rw [blockComment, blockComment, List.take_append_of_le_length hsize]

theorem isWordPart_of_isWordStart {c : Char} (hstart : isWordStart c) : isWordPart c := by
  rw [isWordStart, Bool.or_eq_true] at hstart
  rw [isWordPart, Bool.or_eq_true]
  refine hstart.imp_right fun hletter => ?_
  rw [Text.isLetter] at hletter
  rw [Text.isLetterOrNumeric]
  split at hletter
  · rw [if_pos ‹_›, Char.isAlphanum, hletter, Bool.true_or]
  · rw [if_neg ‹_›, hletter, Bool.true_or]

def startsRaw : List Char → Bool
  | 'r' :: '#' :: c :: _ => isWordStart c
  | _ => false

/-- The number of characters that mark a raw identifier at the start of a word. -/
def rawMarkSize (input : List Char) : Nat :=
  if startsRaw input then 2 else 0

theorem word_eq (input : List Char) :
    word input =
      let size := rawMarkSize input + ((input.drop (rawMarkSize input)).takeWhile isWordPart).length
      { extra := size - 1, token? := some (.word, input.take size, none) } :=
  rfl

theorem rawMarkSize_le (input : List Char) : rawMarkSize input ≤ input.length := by
  rw [rawMarkSize]
  split
  · next hraw =>
    unfold startsRaw at hraw
    split at hraw
    · simp
    · cases hraw
  · simp

/-- Whether a raw name starts does not depend on the next line. -/
theorem startsRaw_append (input more : List Char) :
    startsRaw (input ++ '\n' :: more) = startsRaw input := by
  have hline : isWordStart '\n' = false := by decide
  match input with
  | [] => rfl
  | [c] =>
      unfold startsRaw
      split <;> simp_all
  | c :: d :: input =>
      by_cases hraw : c = 'r' ∧ d = '#'
      · obtain ⟨rfl, rfl⟩ := hraw
        cases input with
        | nil => exact hline
        | cons e input => rfl
      · unfold startsRaw
        split <;> simp_all

theorem rawMarkSize_append (input more : List Char) :
    rawMarkSize (input ++ '\n' :: more) = rawMarkSize input := by
  rw [rawMarkSize, startsRaw_append, rawMarkSize]

theorem word_append (input more : List Char) : word (input ++ '\n' :: more) = word input := by
  have hmark := rawMarkSize_le input
  have hrest := length_takeWhile_le isWordPart (input.drop (rawMarkSize input))
  rw [List.length_drop] at hrest
  rw [word_eq, word_eq]
  simp only [rawMarkSize_append, List.drop_append_of_le_length hmark,
    takeWhile_append_stop isWordPart '\n' (by decide)]
  rw [List.take_append_of_le_length (by omega)]

theorem length_word_le (input : List Char) : (word input).extra ≤ input.length - 1 := by
  have hmark := rawMarkSize_le input
  have hrest := length_takeWhile_le isWordPart (input.drop (rawMarkSize input))
  rw [List.length_drop] at hrest
  rw [word_eq]
  simp only
  omega

/-- The number of characters of the fraction at the start of a text. -/
def fractionSize : List Char → Nat
  | '.' :: c :: rest => if c.isDigit then 2 + (rest.takeWhile isNumberPart).length else 0
  | _ => 0

theorem number_eq (input : List Char) :
    number input =
      let whole := (input.takeWhile isNumberPart).length
      let size := whole + fractionSize (input.drop whole)
      { extra := size - 1, token? := some (.literal, input.take size, none) } :=
  rfl

theorem fractionSize_le (input : List Char) : fractionSize input ≤ input.length := by
  unfold fractionSize
  split
  · next c rest =>
    have := length_takeWhile_le isNumberPart rest
    split
    · simp only [List.length_cons]
      omega
    · simp
  · simp

/-- The size of a fraction does not depend on the next line. -/
theorem fractionSize_append (input more : List Char) :
    fractionSize (input ++ '\n' :: more) = fractionSize input := by
  match input with
  | [] => rfl
  | c :: input =>
      by_cases hpoint : c = '.'
      · rw [hpoint]
        cases input with
        | nil => rfl
        | cons d input =>
            simp only [List.cons_append, fractionSize]
            rw [takeWhile_append_stop _ _ (by decide)]
      · unfold fractionSize
        split <;> simp_all

theorem number_append (input more : List Char) : number (input ++ '\n' :: more) = number input := by
  have hwhole := length_takeWhile_le isNumberPart input
  have hfraction := fractionSize_le (input.drop (input.takeWhile isNumberPart).length)
  rw [List.length_drop] at hfraction
  rw [number_eq, number_eq]
  simp only [takeWhile_append_stop isNumberPart '\n' (by decide),
    List.drop_append_of_le_length hwhole, fractionSize_append]
  rw [List.take_append_of_le_length (by omega)]

theorem length_number_le (input : List Char) : (number input).extra ≤ input.length - 1 := by
  have hwhole := length_takeWhile_le isNumberPart input
  have hfraction := fractionSize_le (input.drop (input.takeWhile isNumberPart).length)
  rw [List.length_drop] at hfraction
  rw [number_eq]
  simp only
  omega

/-! ### One step of the reader -/

/-- How a step that succeeds comes to its piece of the source. -/
inductive IsStep (index : Nat) (c : Char) (rest : List Char) : Stretch → Prop where
  | blank (hblank : Text.isBlank c) : IsStep index c rest { extra := 0 }
  | lineComment (hmark : Text.startsWith ['/', '/'] (c :: rest)) :
      IsStep index c rest (lineComment (c :: rest))
  | blockComment {size : Nat} (hmark : Text.startsWith ['/', '*'] (c :: rest))
      (hsize : commentSize? 0 (c :: rest) = some size) :
      IsStep index c rest (blockComment size (c :: rest))
  | literal {mark : LiteralMark} {stretch : Stretch}
      (hread : readLiteral index mark (c :: rest) = .ok stretch) : IsStep index c rest stretch
  | word (hstart : isWordStart c) : IsStep index c rest (word (c :: rest))
  | number (hdigit : c.isDigit) : IsStep index c rest (number (c :: rest))
  | opening (hopening : (partner? c).isSome) :
      IsStep index c rest { extra := 0, token? := some (.opening, [c], none) }
  | closing (hclosing : isClosing c) :
      IsStep index c rest { extra := 0, token? := some (.closing, [c], none) }
  | colons (hmark : Text.startsWith [':', ':'] (c :: rest)) :
      IsStep index c rest { extra := 1, token? := some (.punctuation, [':', ':'], none) }
  | mark : IsStep index c rest { extra := 0, token? := some (.punctuation, [c], none) }

/-- A stretch that is read is one of the steps. -/
theorem isStep_of_nextStretch {index : Nat} {c : Char} {rest : List Char} {stretch : Stretch}
    (hnext : nextStretch index c rest = .ok stretch) : IsStep index c rest stretch := by
  simp only [nextStretch] at hnext
  by_cases hblank : Text.isBlank c
  · rw [if_pos hblank] at hnext
    cases hnext
    exact .blank hblank
  rw [if_neg hblank] at hnext
  by_cases hline : Text.startsWith ['/', '/'] (c :: rest)
  · rw [if_pos hline] at hnext
    cases hnext
    exact .lineComment hline
  rw [if_neg hline] at hnext
  by_cases hblock : Text.startsWith ['/', '*'] (c :: rest)
  · rw [if_pos hblock] at hnext
    cases hsize : commentSize? 0 (c :: rest) with
    | none =>
        rw [hsize] at hnext
        cases hnext
    | some size =>
        rw [hsize] at hnext
        cases hnext
        exact .blockComment hblock hsize
  rw [if_neg hblock] at hnext
  cases hmark : literalMark? (c :: rest) with
  | some mark =>
      rw [hmark] at hnext
      exact .literal hnext
  | none =>
      rw [hmark] at hnext
      simp only at hnext
      split at hnext
      · next hstart =>
        cases hnext
        exact .word hstart
      split at hnext
      · next hdigit =>
        cases hnext
        exact .number hdigit
      split at hnext
      · cases hnext
      split at hnext
      · next hopening =>
        cases hnext
        exact .opening hopening
      split at hnext
      · next hclosing =>
        cases hnext
        exact .closing hclosing
      split at hnext
      · next hcolons =>
        cases hnext
        exact .colons hcolons
      · cases hnext
        exact .mark

/-- A step that succeeds takes characters of the source only. -/
theorem extra_le_of_nextStretch {index : Nat} {c : Char} {rest : List Char} {stretch : Stretch}
    (hnext : nextStretch index c rest = .ok stretch) : stretch.extra ≤ rest.length := by
  cases isStep_of_nextStretch hnext with
  | lineComment =>
      have hline := length_takeWhile_le (fun d => d ≠ '\n') (c :: rest)
      rw [List.length_cons] at hline
      simp only [lineComment]
      omega
  | blockComment _ hsize =>
      obtain ⟨hpos, hle, -⟩ := commentSize?_append hsize
      rw [List.length_cons] at hle
      simp only [blockComment]
      omega
  | literal hread =>
      obtain ⟨hsize, -⟩ := readLiteral_append 0 [] (show '\n' ≠ '\x27' by decide)
        (fun _ _ _ => Or.inl (by decide)) hread
      rw [Stretch.size, List.length_cons] at hsize
      omega
  | word => exact length_word_le (c :: rest)
  | number => exact length_number_le (c :: rest)
  | colons hcolons =>
      cases rest with
      | nil =>
          rw [Text.startsWith, Text.after?] at hcolons
          split at hcolons
          · cases hcolons
          · cases hcolons
      | cons d rest => simp
  | blank | opening | closing | mark => exact Nat.zero_le _

/-- A step that succeeds does the same wherever it stands if a line end and more text follow. -/
theorem nextStretch_append {index : Nat} {c : Char} {rest : List Char} {stretch : Stretch}
    (other : Nat) (more : List Char) (hnext : nextStretch index c rest = .ok stretch) :
    nextStretch other c (rest ++ '\n' :: more) = .ok stretch := by
  have hstarts (pattern : List Char) (hpattern : '\n' ∉ pattern) :
      Text.startsWith pattern (c :: rest ++ '\n' :: more) = Text.startsWith pattern (c :: rest) :=
    startsWith_append_of_not_mem hpattern
  unfold nextStretch at hnext ⊢
  simp only [← List.cons_append, hstarts ['/', '/'] (by simp), hstarts ['/', '*'] (by simp),
    hstarts [':', ':'] (by simp), lineComment_append, literalMark?_append, word_append,
    number_append] at hnext ⊢
  by_cases hblank : Text.isBlank c
  · rw [if_pos hblank] at hnext ⊢
    exact hnext
  rw [if_neg hblank] at hnext ⊢
  by_cases hline : Text.startsWith ['/', '/'] (c :: rest)
  · rw [if_pos hline] at hnext ⊢
    exact hnext
  rw [if_neg hline] at hnext ⊢
  by_cases hblock : Text.startsWith ['/', '*'] (c :: rest)
  · rw [if_pos hblock] at hnext ⊢
    cases hsize : commentSize? 0 (c :: rest) with
    | none =>
        rw [hsize] at hnext
        cases hnext
    | some size =>
        rw [hsize] at hnext
        obtain ⟨-, hle, hmore⟩ := commentSize?_append hsize
        rw [hmore]
        simp only
        rw [blockComment_append _ hle]
        exact hnext
  rw [if_neg hblock] at hnext ⊢
  cases hmark : literalMark? (c :: rest) with
  | some mark =>
      rw [hmark] at hnext
      exact (readLiteral_append other more (show '\n' ≠ '\x27' by decide)
        (fun _ _ _ => Or.inl (by decide)) hnext).2
  | none =>
      rw [hmark] at hnext
      exact hnext

/-! ### The token of a step -/

theorem nextStretch_opening {index : Nat} {c : Char} (rest : List Char)
    (hopening : (partner? c).isSome) :
    nextStretch index c rest = .ok { extra := 0, token? := some (.opening, [c], none) } := by
  unfold partner? at hopening
  split at hopening
  · rfl
  · rfl
  · rfl
  · cases hopening

theorem nextStretch_closing {index : Nat} {c : Char} (rest : List Char) (hclosing : isClosing c) :
    nextStretch index c rest = .ok { extra := 0, token? := some (.closing, [c], none) } := by
  simp only [isClosing, Bool.or_eq_true, decide_eq_true_eq] at hclosing
  rcases hclosing with (rfl | rfl) | rfl
  · rfl
  · rfl
  · rfl

theorem head?_take_succ {c : Char} {rest : List Char} {size : Nat} (hsize : 1 ≤ size) :
    ((c :: rest).take size).head? = some c := by
  cases size with
  | zero => omega
  | succ size => rfl

/-- What a step says about its token: the text starts with the character at which the step starts,
and only brackets have the class of one. -/
structure Stretch.Suits (stretch : Stretch) (c : Char) : Prop where
  head?_text : ∀ token ∈ stretch.token?, token.2.1.head? = some c
  opening : ∀ token ∈ stretch.token?, token.1 = .opening → (partner? c).isSome
  closing : ∀ token ∈ stretch.token?, token.1 = .closing → isClosing c

namespace Stretch

theorem suits_of_none {stretch : Stretch} {c : Char} (hnone : stretch.token? = none) :
    stretch.Suits c where
  head?_text token hmem := by rw [hnone] at hmem; cases hmem
  opening token hmem := by rw [hnone] at hmem; cases hmem
  closing token hmem := by rw [hnone] at hmem; cases hmem

/-- A token that starts with the character and is no bracket suits it. -/
theorem suits_of_some {stretch : Stretch} {c : Char} {cls : TokenClass} {text : List Char}
    {value : Option (List Char)} (hsome : stretch.token? = some (cls, text, value))
    (hhead : text.head? = some c) (hplain : cls ≠ .opening ∧ cls ≠ .closing) :
    stretch.Suits c where
  head?_text token hmem := by
    rw [hsome] at hmem
    cases hmem
    exact hhead
  opening token hmem hcls := by
    rw [hsome] at hmem
    cases hmem
    exact absurd hcls hplain.1
  closing token hmem hcls := by
    rw [hsome] at hmem
    cases hmem
    exact absurd hcls hplain.2

end Stretch

theorem head_eq_of_startsWith {p c : Char} {pattern rest : List Char}
    (hstarts : Text.startsWith (p :: pattern) (c :: rest)) : p = c := by
  rw [Text.startsWith, Text.after?] at hstarts
  split at hstarts
  · assumption
  · cases hstarts

theorem suits_lineComment (input : List Char) : (lineComment input).Suits '/' := by
  generalize htoken : (lineComment input).token? = token?
  have htoken' := htoken
  simp only [lineComment] at htoken
  split at htoken
  · next value heq =>
    subst htoken
    exact Stretch.suits_of_some htoken' (by rw [heq]; rfl) (by decide)
  · subst htoken
    exact Stretch.suits_of_none htoken'
  · next value _ heq =>
    subst htoken
    exact Stretch.suits_of_some htoken' (by rw [heq]; rfl) (by decide)
  · subst htoken
    exact Stretch.suits_of_none htoken'

theorem suits_blockComment (size : Nat) (input : List Char) :
    (blockComment size input).Suits '/' := by
  generalize htoken : (blockComment size input).token? = token?
  have htoken' := htoken
  simp only [blockComment] at htoken
  split at htoken
  · next heq =>
    subst htoken
    exact Stretch.suits_of_some htoken' (by rw [heq]; rfl) (by decide)
  · subst htoken
    exact Stretch.suits_of_none htoken'
  · subst htoken
    exact Stretch.suits_of_none htoken'
  · next heq =>
    subst htoken
    exact Stretch.suits_of_some htoken' (by rw [heq]; rfl) (by decide)
  · subst htoken
    exact Stretch.suits_of_none htoken'

/-- The token of a literal suits the character that starts the literal. -/
theorem suits_of_readLiteral {index : Nat} {mark : LiteralMark} {c : Char} {rest : List Char}
    {stretch : Stretch} (hread : readLiteral index mark (c :: rest) = .ok stretch) :
    stretch.Suits c := by
  cases mark with
  | raw letters hashes =>
      simp only [readLiteral] at hread
      split at hread
      · cases hread
      · cases hread
        exact Stretch.suits_of_some rfl (head?_take_succ (by omega)) (by decide)
  | quoted letters quote =>
      simp only [readLiteral] at hread
      split at hread
      · cases hread
        exact Stretch.suits_of_some rfl (head?_take_succ (by omega)) (by decide)
      · split at hread
        · cases hread
        · cases hread
          exact Stretch.suits_of_some rfl (head?_take_succ (by omega)) (by decide)

theorem suits_word {c : Char} (rest : List Char) (hstart : isWordStart c) :
    (word (c :: rest)).Suits c := by
  rw [word_eq]
  refine Stretch.suits_of_some rfl (head?_take_succ ?_) (by decide)
  rw [rawMarkSize]
  split
  · omega
  · simp [isWordPart_of_isWordStart hstart]

theorem suits_number {c : Char} (rest : List Char) (hdigit : c.isDigit) :
    (number (c :: rest)).Suits c := by
  have hpart : isNumberPart c := by simp [isNumberPart, Char.isAlphanum, hdigit]
  rw [number_eq]
  refine Stretch.suits_of_some rfl (head?_take_succ ?_) (by decide)
  simp only [List.takeWhile_cons, hpart, if_true, List.length_cons]
  omega

/-- The token of a stretch suits the character that starts the stretch. -/
theorem suits_of_nextStretch {index : Nat} {c : Char} {rest : List Char} {stretch : Stretch}
    (hnext : nextStretch index c rest = .ok stretch) : stretch.Suits c := by
  cases isStep_of_nextStretch hnext with
  | blank => exact Stretch.suits_of_none rfl
  | lineComment hmark => exact head_eq_of_startsWith hmark ▸ suits_lineComment (c :: rest)
  | @blockComment size hmark =>
      exact head_eq_of_startsWith hmark ▸ suits_blockComment size (c :: rest)
  | literal hread => exact suits_of_readLiteral hread
  | word hstart => exact suits_word rest hstart
  | number hdigit => exact suits_number rest hdigit
  | opening hopening => exact ⟨by simp, by simp [hopening], by simp⟩
  | closing hclosing => exact ⟨by simp, by simp, by simp [hclosing]⟩
  | colons hmark =>
      exact Stretch.suits_of_some rfl (by rw [head_eq_of_startsWith hmark]; rfl) (by decide)
  | mark => exact Stretch.suits_of_some rfl rfl (by decide)

end CrateReadme.Source
