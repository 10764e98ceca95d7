import CrateReadme.Proofs.Source.Faces

/-!
# Marking a word of a source

A word of a source can be written as a raw identifier by putting the mark in front of its first
character. The reader takes the same steps up to the word then, because a step that stops in front
of a letter stops in front of any other; the word becomes a raw one, and the steps behind it are the
same again. So the tokens are the same apart from their places and the mark.
-/

namespace CrateReadme.Source

variable {c d e : Char} {text rest : List Char} {index : Nat} {stretch : Stretch}

/-! ### Runs that stop in front of a character -/

section Runs

variable {keep : Char → Bool}

/-- A run does not stop in front of a character that it would take. -/
theorem length_takeWhile_ne (hkeep : keep d) (text rest : List Char) :
    ((text ++ d :: rest).takeWhile keep).length ≠ text.length := by
  induction text with
  | nil => simp [hkeep]
  | cons c text ih =>
      cases hc : keep c with
      | true =>
          rw [List.cons_append, List.takeWhile_cons_of_pos hc, List.length_cons, List.length_cons]
          exact fun heq => ih (Nat.succ.inj heq)
      | false => simp [hc]

/-- A run that stops earlier does not depend on what follows. -/
theorem takeWhile_append_swap (more : List Char)
    (hshort : ((text ++ rest).takeWhile keep).length < text.length) :
    (text ++ more).takeWhile keep = (text ++ rest).takeWhile keep := by
  have htext : text.takeWhile keep = (text ++ rest).takeWhile keep := by
    have htake := takeWhile_take_of_le keep (Nat.le_of_lt hshort)
    rwa [List.take_left] at htake
  rw [← htext] at hshort ⊢
  exact takeWhile_append_of_shorter hshort

theorem takeWhile_swap (more : List Char) (hkeep : keep d)
    (hle : ((text ++ d :: rest).takeWhile keep).length ≤ text.length) :
    (text ++ more).takeWhile keep = (text ++ d :: rest).takeWhile keep :=
  takeWhile_append_swap more (Nat.lt_of_le_of_ne hle (length_takeWhile_ne hkeep text rest))

end Runs

/-! ### Words and numbers in front of a letter -/

/-- What follows does not go on from a number in front of it: either no part of a number stands at
the end, or the number would take the first character of what follows as well. -/
def IsApart (front rest : List Char) : Prop :=
  front.getLast?.any isNumberPart → rest.head?.all isNumberPart

instance (front rest : List Char) : Decidable (IsApart front rest) :=
  inferInstanceAs (Decidable (front.getLast?.any isNumberPart → rest.head?.all isNumberPart))

theorem IsApart.drop (hapart : IsApart text rest) (count : Nat) :
    IsApart (text.drop count) rest := by
  rw [IsApart, List.getLast?_drop]
  split
  · intro hnone
    cases hnone
  · exact hapart

/-- A number that stops in front of what it is apart from has stopped before. -/
theorem length_takeWhile_lt_of_isApart (hapart : IsApart text (d :: rest)) (htext : text ≠ [])
    (hle : ((text ++ d :: rest).takeWhile isNumberPart).length ≤ text.length) :
    ((text ++ d :: rest).takeWhile isNumberPart).length < text.length := by
  refine Nat.lt_of_le_of_ne hle fun heq => ?_
  have hall : (text ++ d :: rest).takeWhile isNumberPart = text :=
    (List.prefix_of_prefix_length_le (List.takeWhile_prefix _) (List.prefix_append _ _)
      hle).eq_of_length heq
  have hlast : isNumberPart (text.getLast htext) := by
    refine List.mem_takeWhile_imp (l := text ++ d :: rest) ?_
    rw [hall]
    exact List.getLast_mem htext
  have hfirst : isNumberPart d := by
    rw [IsApart, List.getLast?_eq_some_getLast htext] at hapart
    exact hapart hlast
  exact length_takeWhile_ne hfirst text rest heq

theorem isDigit_eq_false_of_isWordStart (hstart : isWordStart d) : d.isDigit = false := by
  rw [Bool.eq_false_iff]
  intro hdigit
  have hascii : d.toNat < 128 :=
    Text.toNat_lt_of_isAlphanum (by rw [Char.isAlphanum, hdigit, Bool.or_true])
  have hapart : d.isDigit = true → isWordStart d = false :=
    Text.forall_ascii (by decide +kernel) hascii
  rw [hapart hdigit] at hstart
  cases hstart

/-- Where a fraction ends does not depend on which word follows. -/
theorem fractionSize_swap (hd : isWordStart d) (he : isWordStart e)
    (hapart : IsApart text (d :: rest)) (htext : text ≠ [])
    (hle : fractionSize (text ++ d :: rest) ≤ text.length) (more : List Char) :
    fractionSize (text ++ e :: more) = fractionSize (text ++ d :: rest) := by
  have hd' := isDigit_eq_false_of_isWordStart hd
  have he' := isDigit_eq_false_of_isWordStart he
  match text, htext with
  | [c], _ =>
      by_cases hpoint : c = '.'
      · rw [hpoint]
        simp [fractionSize, hd', he']
      · unfold fractionSize
        split <;> simp_all
  | c :: digit :: text, _ =>
      by_cases hpoint : c = '.' ∧ digit.isDigit
      · obtain ⟨rfl, hdigit⟩ := hpoint
        have hpart : isNumberPart digit := by simp [isNumberPart, Char.isAlphanum, hdigit]
        simp only [List.cons_append, fractionSize, if_pos hdigit, List.length_cons] at hle ⊢
        have hrun := length_takeWhile_lt_of_isApart (hapart.drop 1) (List.cons_ne_nil digit text)
        simp only [List.drop_succ_cons, List.drop_zero, List.cons_append,
          List.takeWhile_cons_of_pos hpart, List.length_cons] at hrun
        rw [takeWhile_append_swap _ (Nat.lt_of_succ_lt_succ (hrun (by omega)))]
      · have hzero (more : List Char) : fractionSize (c :: digit :: more) = 0 := by
          unfold fractionSize
          split
          · next heq =>
            cases heq
            exact if_neg fun hdigit => hpoint ⟨rfl, hdigit⟩
          · rfl
        rw [List.cons_append, List.cons_append, hzero, List.cons_append, List.cons_append, hzero]

/-- Where a number ends does not depend on which word follows. -/
theorem number_swap (hc : c.isDigit) (hd : isWordStart d) (he : isWordStart e)
    (hapart : IsApart (c :: text) (d :: rest))
    (hle : (number (c :: text ++ d :: rest)).size ≤ (c :: text).length) (more : List Char) :
    number (c :: text ++ e :: more) = number (c :: text ++ d :: rest) := by
  have hsize : (number (c :: text ++ d :: rest)).size =
      ((c :: text ++ d :: rest).takeWhile isNumberPart).length +
        fractionSize ((c :: text ++ d :: rest).drop
          ((c :: text ++ d :: rest).takeWhile isNumberPart).length) :=
    size_number _ hc
  have htext : c :: text ≠ [] := List.cons_ne_nil c text
  rw [hsize] at hle
  generalize c :: text = text at *
  have hshort := length_takeWhile_lt_of_isApart hapart htext (by omega)
  have hbehind : text.drop ((text ++ d :: rest).takeWhile isNumberPart).length ≠ [] := by
    rw [ne_eq, List.drop_eq_nil_iff]
    omega
  have hrun := takeWhile_append_swap (e :: more) hshort
  have hdrop (more : List Char) :
      (text ++ more).drop ((text ++ d :: rest).takeWhile isNumberPart).length =
        text.drop ((text ++ d :: rest).takeWhile isNumberPart).length ++ more :=
    List.drop_append_of_le_length (Nat.le_of_lt hshort)
  rw [hdrop] at hle
  have hfraction := fractionSize_swap hd he (hapart.drop _) hbehind
    (by rw [List.length_drop]; omega) more
  rw [number_eq, number_eq]
  simp only [hrun, hdrop, hfraction]
  rw [List.take_append_of_le_length hle, List.take_append_of_le_length hle]

/-- Whether a raw identifier starts a text does not depend on the letter behind all that is read. -/
theorem startsRaw_swap (hd : isWordStart d) (he : isWordStart e)
    (hle : (word (c :: text ++ d :: rest)).size ≤ (c :: text).length) (more : List Char) :
    startsRaw (c :: text ++ e :: more) = startsRaw (c :: text ++ d :: rest) := by
  have hne {c : Char} (hc : isWordStart c) : c ≠ '#' := by
    rintro rfl
    exact absurd hc (by decide)
  by_cases hmark : c = 'r' ∧ text.head? = some '#'
  · obtain ⟨rfl, htext⟩ := hmark
    obtain ⟨behind, rfl⟩ := List.head?_eq_some_iff.mp htext
    cases behind with
    | nil =>
        have hthree := three_le_size_word (show startsRaw ('r' :: '#' :: d :: rest) from hd)
        exact absurd (Nat.le_trans hthree hle) (by decide)
    | cons first behind => rfl
  · have hfalse (d : Char) (rest : List Char) (hd : isWordStart d) :
        startsRaw (c :: text ++ d :: rest) = false := by
      cases text with
      | nil =>
          have hd' := hne hd
          unfold startsRaw
          split <;> simp_all
      | cons first text =>
          unfold startsRaw
          split <;> simp_all
    rw [hfalse e more he, hfalse d rest hd]

theorem size_word_append (hc : isWordStart c)
    (hle : (word (c :: text ++ rest)).size ≤ (c :: text).length) :
    rawMarkSize (c :: text ++ rest) ≤ (c :: text).length ∧
      (word (c :: text ++ rest)).size = rawMarkSize (c :: text ++ rest) +
        (((c :: text).drop (rawMarkSize (c :: text ++ rest)) ++ rest).takeWhile
          isWordPart).length := by
  have hsize : (word (c :: text ++ rest)).size = rawMarkSize (c :: text ++ rest) +
      (((c :: text ++ rest).drop (rawMarkSize (c :: text ++ rest))).takeWhile isWordPart).length :=
    size_word _ hc
  have hmark : rawMarkSize (c :: text ++ rest) ≤ (c :: text).length := by omega
  rw [List.drop_append_of_le_length hmark] at hsize
  exact ⟨hmark, hsize⟩

/-- A word does not stop in front of a letter. -/
theorem size_word_lt (hc : isWordStart c) (hd : isWordStart d)
    (hle : (word (c :: text ++ d :: rest)).size ≤ (c :: text).length) :
    (word (c :: text ++ d :: rest)).size < (c :: text).length := by
  obtain ⟨hmark, hsize⟩ := size_word_append hc hle
  have hne := length_takeWhile_ne (isWordPart_of_isWordStart hd)
    ((c :: text).drop (rawMarkSize (c :: text ++ d :: rest))) rest
  rw [List.length_drop] at hne
  omega

/-- Where a word ends does not depend on which word follows. -/
theorem word_swap (hc : isWordStart c) (hd : isWordStart d) (he : isWordStart e)
    (hle : (word (c :: text ++ d :: rest)).size ≤ (c :: text).length) (more : List Char) :
    word (c :: text ++ e :: more) = word (c :: text ++ d :: rest) := by
  have hmark : rawMarkSize (c :: text ++ e :: more) = rawMarkSize (c :: text ++ d :: rest) := by
    rw [rawMarkSize, startsRaw_swap hd he hle, rawMarkSize]
  obtain ⟨hfront, hsize⟩ := size_word_append hc hle
  rw [hsize] at hle
  have hrest : (((c :: text).drop (rawMarkSize (c :: text ++ d :: rest)) ++ d :: rest).takeWhile
      isWordPart).length ≤ ((c :: text).drop (rawMarkSize (c :: text ++ d :: rest))).length := by
    rw [List.length_drop]
    omega
  have hdrop (more : List Char) :
      (c :: text ++ more).drop (rawMarkSize (c :: text ++ d :: rest)) =
        (c :: text).drop (rawMarkSize (c :: text ++ d :: rest)) ++ more :=
    List.drop_append_of_le_length hfront
  have hrun := takeWhile_swap (e :: more) (isWordPart_of_isWordStart hd) hrest
  rw [word_eq, word_eq]
  simp only [hmark, hdrop, hrun]
  rw [List.take_append_of_le_length hle, List.take_append_of_le_length hle]

/-! ### Literals in front of a letter -/

/-- No literal begins with what is read and the letter behind it, unless a word does. -/
theorem literalMark?_swap (he : isWordStart e) (hword : isWordStart c → text ≠ [])
    (hnone : literalMark? (c :: text ++ rest) = none) (more : List Char) :
    literalMark? (c :: text ++ e :: more) = none := by
  rw [Option.eq_none_iff_forall_ne_some]
  intro mark hmark
  obtain ⟨opening, hopens, hinit⟩ := exists_opens_of_literalMark? hmark
  by_cases hlength : opening.length ≤ (c :: text).length
  · have hfront : opening <+: c :: text :=
      List.prefix_of_prefix_length_le hinit (List.prefix_append _ _) hlength
    rw [literalMark?_of_opens hopens (hfront.trans (List.prefix_append _ _))] at hnone
    cases hnone
  -- The letter is the last one of an opening that begins with another letter.
  · obtain ⟨letters, marks, rfl, hletters, -, hmarks⟩ := hopens.exists_letters
    obtain ⟨behind, hbehind⟩ := hinit
    have hchar : (letters ++ marks)[(c :: text).length]? = some e := by
      have hboth := congrArg (fun input => input[(c :: text).length]?) hbehind
      simp only [List.getElem?_append_left (Nat.lt_of_not_le hlength),
        List.getElem?_append_right (Nat.le_refl (c :: text).length), Nat.sub_self,
        List.getElem?_cons_zero] at hboth
      exact hboth
    have hinside : (c :: text).length < letters.length := by
      by_contra hbeyond
      rw [List.getElem?_append_right (Nat.le_of_not_lt hbeyond)] at hchar
      have hmark := hmarks e (List.mem_of_getElem? hchar)
      simp only [List.mem_cons, List.not_mem_nil, or_false] at hmark
      rcases hmark with rfl | rfl | rfl <;> exact absurd he (by decide)
    have hfirst : letters.head? = some c := by
      cases letters with
      | nil => exact absurd hinside (Nat.not_lt_zero _)
      | cons first letters =>
          rw [List.cons_append, List.cons_append, List.cons_append, List.cons.injEq] at hbehind
          rw [List.head?_cons, hbehind.1]
    have hstart : isWordStart c ∧ letters.length ≤ 2 := by
      simp only [List.mem_cons, List.not_mem_nil, or_false] at hletters
      rcases hletters with rfl | rfl | rfl | rfl | rfl | rfl <;> cases hfirst <;> decide
    have htext : text = [] := by
      rw [List.length_cons] at hinside
      exact List.length_eq_zero_iff.mp (by omega)
    exact hword hstart.1 htext

/-- A lifetime does not stop in front of a letter. -/
theorem size_lifetime_lt {mark : LiteralMark} {found : List Char} {value : Option (List Char)}
    (hread : readLiteral index mark (text ++ d :: rest) = .ok stretch)
    (hlifetime : stretch.token? = some (.lifetime, found, value)) (hd : isWordPart d)
    (hle : stretch.size ≤ text.length) : stretch.size < text.length := by
  cases mark with
  | raw letters hashes =>
      simp only [readLiteral] at hread
      split at hread
      · cases hread
      · cases hread
        cases hlifetime
  | quoted letters quote =>
      simp only [readLiteral] at hread
      split at hread
      · cases hread
        simp only [Stretch.size] at hle ⊢
        have hletters : letters + 1 ≤ text.length := by omega
        rw [List.drop_append_of_le_length hletters] at hle ⊢
        have hne := length_takeWhile_ne hd (text.drop (letters + 1)) rest
        rw [List.length_drop] at hne
        omega
      · split at hread
        · cases hread
        · cases hread
          cases hlifetime

theorem readLiteral_swap {mark : LiteralMark} (other : Nat)
    (hread : readLiteral index mark (text ++ d :: rest) = .ok stretch)
    (hle : stretch.size ≤ text.length) (hd : isWordStart d) (he : isWordStart e)
    (more : List Char) : readLiteral other mark (text ++ e :: more) = .ok stretch := by
  have hquote : e ≠ '\x27' := by
    rintro rfl
    exact absurd he (by decide)
  have htext := (readLiteral_take index hread hle).2
  rw [List.take_left] at htext
  refine (readLiteral_append other more hquote (fun found value hlifetime => ?_) htext).2
  exact Or.inr (size_lifetime_lt hread hlifetime (isWordPart_of_isWordStart hd) hle)

/-! ### One step of the reader in front of a letter -/

theorem startsWith_swap {p q : Char} (c : Char) (text : List Char) (hd : q ≠ d) (he : q ≠ e)
    (rest more : List Char) : Text.startsWith [p, q] (c :: text ++ e :: more) =
      Text.startsWith [p, q] (c :: text ++ d :: rest) := by
  cases text with
  | nil => simp [Text.startsWith, Text.after?, hd, he]
  | cons first text =>
      simp only [Text.startsWith, Text.after?, List.cons_append]
      split
      · split <;> rfl
      · rfl

/-- A step that stops in front of a letter does the same if it is another letter. -/
theorem nextStretch_swap (other : Nat)
    (hnext : nextStretch index c (text ++ d :: rest) = .ok stretch)
    (hle : stretch.extra ≤ text.length) (hd : isWordStart d) (he : isWordStart e)
    (hapart : IsApart (c :: text) (d :: rest)) (more : List Char) :
    nextStretch other c (text ++ e :: more) = .ok stretch := by
  have hsize : stretch.size ≤ (c :: text).length := Nat.succ_le_succ hle
  have hstarts (p q : Char) (hq : isWordStart q = false) :
      Text.startsWith [p, q] (c :: text ++ e :: more) =
        Text.startsWith [p, q] (c :: text ++ d :: rest) := by
    refine startsWith_swap c text ?_ ?_ rest more
    · rintro rfl
      rw [hq] at hd
      cases hd
    · rintro rfl
      rw [hq] at he
      cases he
  simp only [nextStretch, ← List.cons_append, hstarts '/' '/' (by decide),
    hstarts '/' '*' (by decide), hstarts ':' ':' (by decide)] at hnext ⊢
  by_cases hblank : Text.isBlank c
  · rw [if_pos hblank] at hnext ⊢
    exact hnext
  rw [if_neg hblank] at hnext ⊢
  by_cases hline : Text.startsWith ['/', '/'] (c :: text ++ d :: rest)
  · rw [if_pos hline] at hnext ⊢
    cases hnext
    rw [size_lineComment (prefix_of_startsWith hline)] at hsize
    have hletter : d ≠ '\n' := by
      rintro rfl
      exact absurd hd (by decide)
    rw [lineComment, takeWhile_swap _ (by simpa using hletter) hsize, lineComment]
  rw [if_neg hline] at hnext ⊢
  by_cases hblock : Text.startsWith ['/', '*'] (c :: text ++ d :: rest)
  · rw [if_pos hblock] at hnext ⊢
    cases hcomment : commentSize? 0 (c :: text ++ d :: rest) with
    | none =>
        rw [hcomment] at hnext
        cases hnext
    | some size =>
        rw [hcomment] at hnext
        cases hnext
        rw [size_blockComment (commentSize?_append hcomment).1] at hsize
        have hfront := commentSize?_take_of_le hcomment hsize
        rw [List.take_left] at hfront
        rw [(commentSize?_append hfront).2.2]
        simp only
        rw [blockComment_append _ hsize, blockComment_append _ hsize]
  rw [if_neg hblock] at hnext ⊢
  cases hmark : literalMark? (c :: text ++ d :: rest) with
  | some mark =>
      rw [hmark] at hnext
      have hopening := (readLiteral_take other hnext hsize).1
      have hfront : literalMark? (c :: text) = some mark := by
        have htake := literalMark?_take_eq_some_iff.mpr ⟨hmark, Nat.le_trans hopening hsize⟩
        rwa [List.take_left] at htake
      obtain ⟨opening, hopens, hinit⟩ := exists_opens_of_literalMark? hfront
      rw [literalMark?_of_opens hopens (hinit.trans (List.prefix_append _ _))]
      exact readLiteral_swap other hnext hsize hd he more
  | none =>
      rw [hmark] at hnext
      simp only at hnext
      by_cases hstart : isWordStart c
      · rw [if_pos hstart] at hnext
        cases hnext
        have hlt := size_word_lt hstart hd hsize
        have hne : text ≠ [] := by
          rintro rfl
          exact absurd hlt (Nat.not_lt.mpr (Nat.le_add_left 1 _))
        rw [literalMark?_swap he (fun _ => hne) hmark]
        simp only
        rw [if_pos hstart, word_swap hstart hd he hsize]
      · rw [literalMark?_swap he (fun hc => absurd hc hstart) hmark]
        simp only
        rw [if_neg hstart] at hnext ⊢
        by_cases hdigit : c.isDigit
        · rw [if_pos hdigit] at hnext ⊢
          cases hnext
          rw [number_swap hdigit hd he hapart hsize]
        · rw [if_neg hdigit] at hnext ⊢
          exact hnext

/-! ### The step that takes the word -/

/-- Only a word gives the token of a word. -/
theorem word_of_nextStretch {value : Option (List Char)}
    (hnext : nextStretch index c rest = .ok stretch)
    (hsome : stretch.token? = some (.word, text, value)) :
    isWordStart c ∧ stretch = word (c :: rest) := by
  cases isStep_of_nextStretch hnext with
  | word hstart => exact ⟨hstart, rfl⟩
  | blank => cases hsome
  | lineComment =>
      simp only [lineComment] at hsome
      split at hsome <;> cases hsome
  | blockComment =>
      simp only [blockComment] at hsome
      split at hsome <;> cases hsome
  | literal hread =>
      obtain ⟨cls, value, hcls, htoken⟩ := token?_readLiteral hread
      rw [hsome] at htoken
      cases htoken
      rcases hcls with hcls | hcls <;> cases hcls
  | number => cases hsome
  | opening => cases hsome
  | closing => cases hsome
  | colons => cases hsome
  | mark => cases hsome

theorem exists_mark_of_startsRaw {input : List Char} (hraw : startsRaw input) :
    ∃ behind, input.take (word input).size = 'r' :: '#' :: behind := by
  have hthree := three_le_size_word hraw
  obtain ⟨size, hsize⟩ : ∃ size, (word input).size = size + 2 := ⟨(word input).size - 2, by omega⟩
  unfold startsRaw at hraw
  split at hraw
  · next d behind =>
    exact ⟨(d :: behind).take size, by rw [hsize]; rfl⟩
  · cases hraw

/-- Where a word without a mark is read, the word with a mark in front is read as a raw one. -/
theorem nextStretch_mark {value : Option (List Char)}
    (hnext : nextStretch index c rest = .ok stretch)
    (hsome : stretch.token? = some (.word, text, value)) (hplain : plainName text = text)
    (other : Nat) :
    nextStretch other 'r' ('#' :: c :: rest) =
      .ok { extra := stretch.extra + 2, token? := some (.word, 'r' :: '#' :: text, value) } := by
  obtain ⟨hstart, rfl⟩ := word_of_nextStretch hnext hsome
  have hpart := isWordPart_of_isWordStart hstart
  have hmark : rawMarkSize (c :: rest) = 0 := by
    rw [rawMarkSize, if_neg]
    intro hraw
    rw [token?_word rest hstart] at hsome
    cases hsome
    obtain ⟨behind, htext⟩ := exists_mark_of_startsRaw hraw
    rw [htext] at hplain
    exact absurd (congrArg List.length hplain) (by simp only [plainName, List.length_cons]; omega)
  have htake : (c :: rest).takeWhile isWordPart = c :: rest.takeWhile isWordPart :=
    List.takeWhile_cons_of_pos hpart
  have hword : word (c :: rest) =
      { extra := (rest.takeWhile isWordPart).length,
        token? := some (.word, c :: rest.takeWhile isWordPart, none) } := by
    rw [word_eq]
    simp only [hmark, List.drop_zero, htake, Nat.zero_add, List.length_cons, Nat.add_sub_cancel,
      List.take_succ_cons, take_length_takeWhile]
  rw [hword] at hsome ⊢
  cases hsome
  exact nextStretch_raw other hstart htake

/-! ### A run of the reader -/

/-- A text with the mark of a raw identifier put in behind its first `place` characters. -/
def writeRaw (place : Nat) (text : List Char) : List Char :=
  text.take place ++ 'r' :: '#' :: text.drop place

theorem drop_writeRaw {count place : Nat} (hcount : count ≤ place) {text : List Char}
    (hlength : count ≤ text.length) :
    (writeRaw place text).drop count = writeRaw (place - count) (text.drop count) := by
  rw [writeRaw, drop_take_append hcount hlength, writeRaw, List.drop_drop,
    Nat.add_sub_cancel' hcount]

/-- A word starts behind the first `place` characters of a text. -/
structure HasWordAt (place : Nat) (text : List Char) : Prop where
  starts : ∃ d rest, text.drop place = d :: rest ∧ isWordStart d
  apart : IsApart (text.take place) (text.drop place)

namespace HasWordAt

variable {place count : Nat}

/-- What is left of a text has the word as well. -/
theorem drop (hword : HasWordAt place text) (hcount : count ≤ place) :
    HasWordAt (place - count) (text.drop count) := by
  constructor
  · rw [List.drop_drop, Nat.add_sub_cancel' hcount]
    exact hword.starts
  · rw [List.drop_drop, Nat.add_sub_cancel' hcount, ← List.drop_take]
    exact hword.apart.drop count

theorem step (hword : HasWordAt (place + 1) (c :: rest)) (hcount : count ≤ place) :
    HasWordAt (place - count) (rest.drop count) := by
  have hrest := hword.drop (Nat.succ_le_succ hcount)
  rwa [Nat.succ_sub_succ, List.drop_succ_cons] at hrest

/-- The text is cut in front of the word. -/
theorem exists_eq_append (hword : HasWordAt place text) :
    (text.take place).length = place ∧ ∃ d rest, text.drop place = d :: rest ∧ isWordStart d ∧
      text = text.take place ++ d :: rest := by
  obtain ⟨d, rest, hdrop, hd⟩ := hword.starts
  refine ⟨?_, d, rest, hdrop, hd, ?_⟩
  · rw [List.length_take, Nat.min_eq_left]
    by_contra hlong
    rw [List.drop_eq_nil_of_le (by omega)] at hdrop
    cases hdrop
  · rw [← hdrop, List.take_append_drop]

end HasWordAt

theorem nextStretch_writeRaw {place : Nat} (other : Nat)
    (hnext : nextStretch index c rest = .ok stretch) (hplace : stretch.extra ≤ place)
    (hword : HasWordAt (place + 1) (c :: rest)) :
    nextStretch other c (writeRaw place rest) = .ok stretch := by
  obtain ⟨hlength, d, behind, hdrop, hd, hrest⟩ := hword.exists_eq_append
  have hapart := hword.apart
  rw [List.take_succ_cons, List.length_cons] at hlength
  rw [List.take_succ_cons, hdrop] at hapart
  rw [List.take_succ_cons, List.cons_append, List.cons.injEq] at hrest
  rw [hrest.2] at hnext
  exact nextStretch_swap other hnext (by omega) hd (by decide) hapart _

variable {tokens : List Token} {token : Token}

/-- Where the token of a word starts, a word starts. -/
theorem Reads.exists_wordStart {last index : Nat} {brackets : List (Char × Nat)}
    {input : List Char} (hreads : Reads ⟨last, [], []⟩ ⟨index, brackets, input⟩ tokens)
    (hmem : token ∈ tokens) (hcls : token.cls = .word) {place : Nat}
    (hplace : token.start = index + place) :
    ∃ d rest, input.drop place = d :: rest ∧ isWordStart d := by
  have hlater {c : Char} {rest : List Char} {count place : Nat} (hcount : count + 1 ≤ place)
      (hword : ∃ d behind, (rest.drop count).drop (place - (count + 1)) = d :: behind ∧
        isWordStart d) : ∃ d behind, (c :: rest).drop place = d :: behind ∧ isWordStart d := by
    obtain ⟨before, rfl⟩ := Nat.exists_eq_add_of_le hcount
    rw [List.drop_drop, Nat.add_sub_cancel_left] at hword
    rwa [Nat.add_right_comm, List.drop_succ_cons]
  generalize hbefore : (⟨index, brackets, input⟩ : Position) = before at hreads
  induction hreads generalizing index brackets input place with
  | done => cases hmem
  | @skip _ _ c rest stretch tokens hnext hnone hrest ih =>
      cases hbefore
      have hbehind := hrest.placed.mem hmem
      exact hlater (by omega) (ih hmem (by omega) rfl)
  | @token index _ _ c rest stretch cls text value tokens hnext hsome htrack hrest ih =>
      cases hbefore
      rcases List.mem_cons.mp hmem with rfl | hmem
      · obtain rfl : place = 0 := by
          simp only at hplace
          omega
        simp only at hcls
        rw [hcls] at hsome
        exact ⟨c, rest, rfl, (word_of_nextStretch hnext hsome).1⟩
      · have hbehind := hrest.placed.mem hmem
        exact hlater (by omega) (ih hmem (by omega) rfl)

instance : Decidable token.MayBeRaw :=
  decidable_of_iff (token.cls = .word ∧ plainName token.text = token.text ∧
      ∀ text ∈ fixedTexts, token.reads text = false)
    ⟨fun ⟨hcls, hplain, hreads⟩ => ⟨hcls, hplain, hreads⟩,
      fun hraw => ⟨hraw.cls, hraw.plain, hraw.reads⟩⟩

/-- A token with the mark of a raw identifier, if it stands at the place and may have one. -/
def Token.markAt (place : Nat) (token : Token) : Token :=
  if token.start = place ∧ token.MayBeRaw then
    { token with text := 'r' :: '#' :: token.text }
  else
    token

theorem Token.cls_markAt (place : Nat) (token : Token) : (token.markAt place).cls = token.cls := by
  rw [Token.markAt]
  split <;> rfl

theorem Token.markAt_of_ne {place : Nat} (hplace : token.start ≠ place) :
    token.markAt place = token :=
  if_neg fun hboth => hplace hboth.1

/-- Tokens behind the place stay as they are. -/
theorem map_markAt_of_placed {first last place : Nat} (hplaced : Placed last first tokens)
    (hplace : place < first) : tokens.map (Token.markAt place) = tokens := by
  refine (List.map_congr_left fun token hmem => ?_).trans (List.map_id tokens)
  have hstart := (hplaced.mem hmem).1
  exact Token.markAt_of_ne (by omega)

/-- A mark may be put in where the token of a word starts that may have one. -/
theorem Reads.readsAs_writeRaw {last index : Nat} {brackets : List (Char × Nat)}
    {input : List Char} (hreads : Reads ⟨last, [], []⟩ ⟨index, brackets, input⟩ tokens)
    (hmem : token ∈ tokens) (hraw : token.MayBeRaw) {place : Nat}
    (hplace : token.start = index + place) (hword : HasWordAt place input) :
    ReadsAs (brackets.map Prod.fst) (writeRaw place input)
      ((tokens.map (Token.markAt token.start)).map Token.face) := by
  generalize hbefore : (⟨index, brackets, input⟩ : Position) = before at hreads
  induction hreads generalizing index brackets input place with
  | done => cases hmem
  | @skip _ _ c rest stretch tokens hnext hnone hrest ih =>
      cases hbefore
      have hbehind := hrest.placed.mem hmem
      obtain ⟨place, rfl⟩ : ∃ before, place = before + 1 := ⟨place - 1, by omega⟩
      have hextra : stretch.extra ≤ place := by omega
      refine .skip (fun other => nextStretch_writeRaw other hnext hextra hword) hnone ?_
      change ReadsAs _ ((writeRaw place rest).drop stretch.extra) _
      rw [drop_writeRaw hextra (extra_le_of_nextStretch hnext)]
      exact ih hmem (by omega) (hword.step hextra) rfl
  | @token start _ _ c rest stretch cls text value tokens hnext hsome htrack hrest ih =>
      cases hbefore
      rcases List.mem_cons.mp hmem with rfl | hmem
      · obtain rfl : place = 0 := by
          simp only at hplace
          omega
        have hcls : cls = .word := hraw.cls
        subst hcls
        have hlater := map_markAt_of_placed hrest.placed (show start < _ by omega)
        rw [List.map_cons, List.map_cons, hlater, Token.markAt, if_pos ⟨rfl, hraw⟩]
        cases htrack
        refine .token (nextStretch_mark hnext hsome hraw.plain) rfl
          (show trackBrackets start _ .word 'r' = _ from rfl) ?_
        exact hrest.readsAs
      · have hbehind := hrest.placed.mem hmem
        obtain ⟨place, rfl⟩ : ∃ before, place = before + 1 := ⟨place - 1, by omega⟩
        have hextra : stretch.extra ≤ place := by omega
        rw [List.map_cons, List.map_cons, Token.markAt_of_ne (by simp only; omega)]
        refine .token (fun other => nextStretch_writeRaw other hnext hextra hword) hsome htrack ?_
        change ReadsAs _ ((writeRaw place rest).drop stretch.extra) _
        rw [drop_writeRaw hextra (extra_le_of_nextStretch hnext)]
        exact ih hmem (by omega) (hword.step hextra) rfl

/-! ### Sources -/

/-- No interpreter line begins with a letter behind fewer than two characters. -/
theorem not_mark_prefix_append (hd : isWordStart d) (hmark : ¬['#', '!'] <+: text)
    (rest : List Char) : ¬['#', '!'] <+: text ++ d :: rest := by
  rintro ⟨more, hmore⟩
  match text with
  | [] =>
      cases hmore
      exact absurd hd (by decide)
  | [_] =>
      cases hmore
      exact absurd hd (by decide)
  | _ :: _ :: text =>
      cases hmore
      exact hmark (List.prefix_append ['#', '!'] text)

/-- The interpreter line in front of a letter is the same if it is another letter. -/
theorem shebangSize_swap (hd : isWordStart d) (he : isWordStart e)
    (hle : shebangSize (text ++ d :: rest) ≤ text.length) (more : List Char) :
    shebangSize (text ++ e :: more) = shebangSize (text ++ d :: rest) := by
  by_cases hmark : ['#', '!'] <+: text
  · obtain ⟨inner, rfl⟩ := hmark
    change shebangSize ('#' :: '!' :: (inner ++ d :: rest)) ≤ inner.length + 2 at hle
    change shebangSize ('#' :: '!' :: (inner ++ e :: more)) =
      shebangSize ('#' :: '!' :: (inner ++ d :: rest))
    have hne {c : Char} (hc : isWordStart c) : c ≠ '[' := by
      rintro rfl
      exact absurd hc (by decide)
    by_cases hbracket : inner.head? = some '['
    · obtain ⟨inside, rfl⟩ := List.head?_eq_some_iff.mp hbracket
      rfl
    · have hhead {c : Char} (hc : isWordStart c) (rest : List Char) :
          (inner ++ c :: rest).head? ≠ some '[' := by
        cases inner with
        | nil => simpa using hne hc
        | cons first inner => exact hbracket
      have hletter : d ≠ '\n' := by
        rintro rfl
        exact absurd hd (by decide)
      rw [shebangSize_of_mark (hhead hd rest)] at hle ⊢
      rw [shebangSize_of_mark (hhead he more), takeWhile_swap _ (by simpa using hletter)
        (Nat.le_of_add_le_add_right hle)]
  · rw [shebangSize_eq_zero (not_mark_prefix_append hd hmark rest),
      shebangSize_eq_zero (not_mark_prefix_append he hmark more)]

theorem shebangSize_writeRaw {code : List Char} {place : Nat} (hword : HasWordAt place code)
    (hplace : shebangSize code ≤ place) : shebangSize (writeRaw place code) = shebangSize code := by
  obtain ⟨hlength, d, behind, hdrop, hd, hcode⟩ := hword.exists_eq_append
  have hfront : shebangSize (code.take place ++ d :: behind) ≤ (code.take place).length := by
    rwa [← hcode, hlength]
  rw [writeRaw, shebangSize_swap hd (by decide) hfront, ← hcode]

/-- A source with a word marked has the same tokens, apart from their places and the mark. -/
theorem exists_tokens_of_writeRaw {code : List Char} (htokens : tokenize code = .ok tokens)
    (hmem : token ∈ tokens) (hraw : token.MayBeRaw)
    (hapart : IsApart (code.take token.start) (code.drop token.start)) :
    ∃ others, tokenize (writeRaw token.start code) = .ok others ∧
      others.map Token.face = (tokens.map (Token.markAt token.start)).map Token.face := by
  have hreads := reads_of_tokenize htokens
  have hplace := (hreads.placed.mem hmem).1
  have hsum := (Nat.add_sub_cancel' hplace).symm
  have hword : HasWordAt token.start code := by
    have hstarts := hreads.exists_wordStart hmem hraw.cls hsum
    rw [List.drop_drop, Nat.add_sub_cancel' hplace] at hstarts
    exact ⟨hstarts, hapart⟩
  refine tokenize_of_readsAs ?_
  rw [shebangSize_writeRaw hword hplace, drop_writeRaw hplace (shebangSize_le code)]
  exact hreads.readsAs_writeRaw hmem hraw hsum (hword.drop hplace)

/-! ### Outlines -/

/-- A token without its place that has got the mark of a raw identifier. -/
def Token.respell (place : Nat) (token : Token) : Token :=
  (token.markAt place).unplaced

theorem isRespelling_respell (place : Nat) : IsRespelling (Cell.map (Token.respell place)) := by
  intro cell
  refine ⟨Token.cls_markAt place cell.token, ?_, rfl, ?_⟩
  · change (cell.token.markAt place).value = cell.token.value
    rw [Token.markAt]
    split <;> rfl
  · change (cell.token.markAt place).text = _ ∨ (cell.token.markAt place).text = _ ∧ _
    rw [Token.markAt]
    split
    · next hboth => exact Or.inr ⟨rfl, hboth.2⟩
    · exact Or.inl rfl

theorem isKept_of_ne {place : Nat} {cell : Cell} (hplace : cell.token.start ≠ place) :
    IsKept (Cell.map (Token.respell place)) cell := by
  change (cell.token.markAt place).text = cell.token.text
  rw [Token.markAt_of_ne hplace]

theorem cellsOf_of_faces_markAt {others : List Token} {place : Nat}
    (hfaces : others.map Token.face = (tokens.map (Token.markAt place)).map Token.face) :
    (cellsOf others).map Cell.unplaced =
      (cellsOf tokens).map (Cell.map (Token.respell place)) := by
  rw [← cellsOf_unplaced, map_unplaced_of_faces hfaces, List.map_map]
  exact cellsOf_map (Token.respell place) (Token.cls_markAt place) tokens

/-- A word that may be marked in a source: it is looked at for its name only, and it does not go on
from a number in front of it. -/
structure IsName (code : List Char) (tokens : List Token) (token : Token) : Prop where
  mem : token ∈ tokens
  mayBeRaw : token.MayBeRaw
  free : ∀ cell ∈ fixedCells (cellsOf tokens), cell.token.start ≠ token.start
  apart : IsApart (code.take token.start) (code.drop token.start)

instance (code : List Char) (tokens : List Token) (token : Token) :
    Decidable (IsName code tokens token) :=
  decidable_of_iff (token ∈ tokens ∧ token.MayBeRaw ∧
      (∀ cell ∈ fixedCells (cellsOf tokens), cell.token.start ≠ token.start) ∧
      IsApart (code.take token.start) (code.drop token.start))
    ⟨fun ⟨hmem, hraw, hfree, hapart⟩ => ⟨hmem, hraw, hfree, hapart⟩,
      fun hname => ⟨hname.mem, hname.mayBeRaw, hname.free, hname.apart⟩⟩

/-- A source says the same with the mark of a raw identifier in front of a name. -/
theorem exists_units_of_writeRaw {code : String} (htokens : tokenize code.toList = .ok tokens)
    (hname : IsName code.toList tokens token) :
    ∃ unit other, read code = .ok unit ∧
      read (String.ofList (writeRaw token.start code.toList)) = .ok other ∧
      other.docs = unit.docs ∧
      other.nodes.map (Node.withSpan none) = unit.nodes.map (Node.withSpan none) ∧
      other.unexpanded.length = unit.unexpanded.length := by
  obtain ⟨others, hothers, hfaces⟩ :=
    exists_tokens_of_writeRaw htokens hname.mem hname.mayBeRaw hname.apart
  have hmarked : tokenize (String.ofList (writeRaw token.start code.toList)).toList =
      .ok others := by
    rw [String.toList_ofList, hothers]
  refine exists_units_of_saysAs htokens hmarked ?_
  -- Both outlines are compared with the one of the cells without places.
  have hkept : ∀ cell ∈ fixedCells (cellsOf tokens),
      IsKept (Cell.map (Token.respell token.start)) cell :=
    fun cell hcell => isKept_of_ne (hname.free cell hcell)
  have hcopy := Outline.saysAs_ofCells (cellsOf others)
    (String.ofList (writeRaw token.start code.toList)).toList []
  have hcells := Outline.saysAs_map (isRespelling_respell token.start) hkept code.toList []
  rw [cellsOf_of_faces_markAt hfaces] at hcopy
  exact ⟨hcopy.docs.symm.trans hcells.docs, hcopy.nodes.symm.trans hcells.nodes,
    hcopy.unexpanded.symm.trans hcells.unexpanded⟩

end CrateReadme.Source
