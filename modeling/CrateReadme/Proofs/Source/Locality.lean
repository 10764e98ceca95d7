import CrateReadme.Proofs.Source.Partition

/-!
# Where a piece of a source ends

One step of the reader looks at no more characters than it takes, apart from the question whether a
piece goes on. So a piece is read in the same way if nothing follows it, and, as reading does not go
on over a line end either, if a line end is put behind it.
-/

namespace CrateReadme.Source

variable {c quote : Char} {input rest value meant : List Char} {index start size used : Nat}
  {stretch : Stretch}

/-! ### Runs of characters -/

theorem takeWhile_take_of_le (keep : Char → Bool) {text : List Char} {left : Nat}
    (hleft : (text.takeWhile keep).length ≤ left) :
    (text.take left).takeWhile keep = text.takeWhile keep := by
  induction text generalizing left with
  | nil => simp
  | cons c text ih =>
      cases hkeep : keep c with
      | false => cases left <;> simp [hkeep]
      | true =>
          simp only [List.takeWhile_cons, hkeep, if_true, List.length_cons] at hleft
          obtain ⟨left, rfl⟩ : ∃ more, left = more + 1 := ⟨left - 1, by omega⟩
          simp [hkeep, ih (Nat.le_of_succ_le_succ hleft)]

/-- The character that ends a stretch is taken with it. -/
theorem mem_take_of_takeWhile {stop : Char} {text : List Char} {left : Nat} (hmem : stop ∈ text)
    (hleft : (text.takeWhile (· ≠ stop)).length < left) : stop ∈ text.take left := by
  by_contra hnot
  have hall : (text.take left).takeWhile (· ≠ stop) = text.take left := by
    rw [List.takeWhile_eq_self_iff]
    intro d hd
    have hne : d ≠ stop := fun heq => hnot (heq ▸ hd)
    simpa using hne
  rw [takeWhile_take_of_le _ (Nat.le_of_lt hleft)] at hall
  have hshort : text.length ≤ left := by
    by_contra hlong
    rw [hall, List.length_take] at hleft
    omega
  rw [List.take_of_length_le hshort] at hnot
  exact hnot hmem

/-! ### Comments -/

/-- A comment has the same size without what follows it. -/
theorem commentSize?_take {depth : Nat} (hsize : commentSize? depth input = some size) :
    commentSize? depth (input.take size) = some size := by
  fun_induction commentSize? depth input generalizing size with
  | case1 => cases hsize
  | case2 depth rest ih =>
      obtain ⟨inner, hinner, rfl⟩ := Option.map_eq_some_iff.mp hsize
      rw [List.take_succ_cons, List.take_succ_cons, commentSize?, ih hinner]
      rfl
  | case3 depth rest hlast =>
      cases hsize
      rw [List.take_succ_cons, List.take_succ_cons, commentSize?, if_pos hlast]
  | case4 depth rest hlast ih =>
      obtain ⟨inner, hinner, rfl⟩ := Option.map_eq_some_iff.mp hsize
      rw [List.take_succ_cons, List.take_succ_cons, commentSize?, if_neg hlast, ih hinner]
      rfl
  | case5 depth c rest hopens hcloses ih =>
      obtain ⟨inner, hinner, rfl⟩ := Option.map_eq_some_iff.mp hsize
      have hinit : rest.take inner <+: rest := List.take_prefix inner rest
      rw [List.take_succ_cons, commentSize?, ih hinner]
      · rfl
      · rintro more rfl hmore
        rw [hmore] at hinit
        obtain ⟨behind, rfl⟩ := hinit
        exact hopens _ rfl rfl
      · rintro more rfl hmore
        rw [hmore] at hinit
        obtain ⟨behind, rfl⟩ := hinit
        exact hcloses _ rfl rfl

/-- Behind its end, a comment may stand in front of anything. -/
theorem commentSize?_take_of_le {depth left : Nat} (hsize : commentSize? depth input = some size)
    (hleft : size ≤ left) : commentSize? depth (input.take left) = some size := by
  obtain ⟨more, hmore⟩ : input.take size <+: input.take left := List.take_prefix_take_left hleft
  rw [← hmore]
  exact (commentSize?_append (commentSize?_take hsize)).2.2 more

theorem two_le_commentSize? {depth : Nat} (hopening : ['/', '*'] <+: input)
    (hsize : commentSize? depth input = some size) : 2 ≤ size := by
  obtain ⟨inside, rfl⟩ := hopening
  obtain ⟨inner, -, rfl⟩ := Option.map_eq_some_iff.mp hsize
  omega

theorem lineComment_take {left : Nat} (hleft : (input.takeWhile (· ≠ '\n')).length ≤ left) :
    lineComment (input.take left) = lineComment input := by
  rw [lineComment, takeWhile_take_of_le _ hleft, lineComment]

theorem blockComment_take {left : Nat} (hleft : size ≤ left) :
    blockComment size (input.take left) = blockComment size input := by
  rw [blockComment, List.take_take, Nat.min_eq_left hleft, blockComment]

/-! ### Literals -/

/-- An escape is read in the same way if only some of the characters behind it are left. -/
theorem readEscape_take (other : Nat) {left : Nat}
    (hescape : readEscape index rest = .ok (meant, used)) (hused : used < left) :
    readEscape other (rest.take left) = .ok (meant, used) := by
  obtain ⟨left, rfl⟩ : ∃ more, left = more + 1 := ⟨left - 1, by omega⟩
  unfold readEscape at hescape
  split at hescape
  · cases hescape
  · next c tail =>
    rw [List.take_succ_cons, readEscape]
    split at hescape
    · exact hescape
    · split at hescape
      · next hx =>
        rw [if_pos hx]
        split at hescape
        · next number hnumber =>
          split at hescape
          · cases hescape
          · next hsign =>
            cases hescape
            rw [List.take_take, Nat.min_eq_left (by omega), hnumber]
            simp only
            rw [if_neg hsign]
        · cases hescape
      · next hx =>
        rw [if_neg hx]
        split at hescape
        · next hu =>
          rw [if_pos hu]
          split at hescape
          · next hclosed =>
            simp only at hescape
            have hinside : (tail.takeWhile (· ≠ '}')).length < left := by
              split at hescape
              · cases hescape
                omega
              · cases hescape
            rw [if_pos (mem_take_of_takeWhile hclosed hinside)]
            simp only [takeWhile_take_of_le _ (Nat.le_of_lt hinside)]
            split at hescape
            · next hmeant =>
              rw [unicodeEscape_reindex other hmeant]
              exact hescape
            · cases hescape
          · cases hescape
        · next hu =>
          rw [if_neg hu]
          split at hescape
          · next hline =>
            rw [if_pos hline]
            cases hescape
            rw [← List.take_succ_cons, takeWhile_take_of_le _ (Nat.le_of_lt hused)]
          · cases hescape

/-- A literal is read in the same way if nothing stands behind its closing quote. -/
theorem readQuoted_take (otherStart otherIndex : Nat)
    (hquoted : readQuoted quote start index input = .ok (value, size)) :
    readQuoted quote otherStart otherIndex (input.take size) = .ok (value, size) := by
  fun_induction readQuoted quote start index input generalizing value size otherIndex with
  | case1 => cases hquoted
  | case2 index rest =>
      cases hquoted
      rw [List.take_succ_cons, readQuoted, if_pos rfl]
  | case3 => cases hquoted
  | case4 => cases hquoted
  | case5 index rest meant used hescape inside inner hinner hquote ih =>
      cases hquoted
      obtain ⟨hpos, -, -⟩ := readQuoted_append hinner
      rw [List.take_succ_cons, readQuoted, if_neg hquote, if_pos rfl,
        readEscape_take otherIndex hescape (by omega)]
      simp only
      rw [List.drop_take, Nat.add_sub_cancel, ih _ hinner]
  | case6 => cases hquoted
  | case7 index c rest hquote hslash inside inner hinner ih =>
      cases hquoted
      rw [List.take_succ_cons, readQuoted, if_neg hquote, if_neg hslash, ih _ hinner]

theorem readQuoted_take_of_le {left : Nat} (otherStart otherIndex : Nat)
    (hquoted : readQuoted quote start index input = .ok (value, size)) (hleft : size ≤ left) :
    readQuoted quote otherStart otherIndex (input.take left) = .ok (value, size) := by
  obtain ⟨more, hmore⟩ : input.take size <+: input.take left := List.take_prefix_take_left hleft
  rw [← hmore]
  exact (readQuoted_append (readQuoted_take start index hquoted)).2.2 otherStart otherIndex more

/-- A pattern is found without what stands behind it. -/
theorem breakOn?_take {pattern text before rest : List Char}
    (hbreak : Text.breakOn? pattern text = some (before, rest)) {left : Nat}
    (hleft : left = before.length + pattern.length) :
    Text.breakOn? pattern (text.take left) = some (before, []) := by
  induction text generalizing before left with
  | nil =>
      rw [Text.breakOn?] at hbreak
      split at hbreak
      · next hempty =>
        cases hbreak
        simp [Text.breakOn?, hempty]
      · cases hbreak
  | cons c text ih =>
      rw [Text.breakOn?] at hbreak
      split at hbreak
      · next later hafter =>
        cases hbreak
        rw [Text.after?_eq_some_iff] at hafter
        rw [hafter, hleft, List.length_nil, Nat.zero_add, List.take_left]
        have hself := Text.breakOn?_append_self pattern []
        rwa [List.append_nil] at hself
      · next hnone =>
        obtain ⟨⟨front, back⟩, hfound, heq⟩ := Option.map_eq_some_iff.mp hbreak
        cases heq
        subst hleft
        have hfront := ih hfound rfl
        rw [List.length_cons, Nat.add_right_comm, List.take_succ_cons, Text.breakOn?]
        have hafter :
            Text.after? pattern (c :: text.take (front.length + pattern.length)) = none := by
          rw [Option.eq_none_iff_forall_ne_some]
          intro later hlater
          rw [Text.after?_eq_some_iff] at hlater
          have hwhole : c :: text = pattern ++
              (later ++ text.drop (front.length + pattern.length)) := by
            rw [← List.append_assoc, ← hlater, List.cons_append, List.take_append_drop]
          rw [Text.after?_eq_some_iff.mpr hwhole] at hnone
          cases hnone
        rw [hafter, hfront]
        rfl

theorem breakOn?_take_of_le {pattern text before rest : List Char}
    (hbreak : Text.breakOn? pattern text = some (before, rest)) (hpattern : pattern ≠ [])
    {left : Nat} (hleft : before.length + pattern.length ≤ left) :
    ∃ more, Text.breakOn? pattern (text.take left) = some (before, more) := by
  obtain ⟨more, hmore⟩ : text.take (before.length + pattern.length) <+: text.take left :=
    List.take_prefix_take_left hleft
  rw [← hmore]
  exact ⟨[] ++ more, breakOn?_append (breakOn?_take hbreak rfl) hpattern⟩

/-- The mark of a literal is found in its opening characters, and in no fewer. -/
theorem literalMark?_take_eq_some_iff {mark : LiteralMark} {left : Nat} :
    literalMark? (input.take left) = some mark ↔
      literalMark? input = some mark ∧ mark.openingSize ≤ left := by
  constructor
  · intro hmark
    obtain ⟨opening, hopens, hinit⟩ := exists_opens_of_literalMark? hmark
    refine ⟨literalMark?_of_opens hopens (hinit.trans (List.take_prefix left input)), ?_⟩
    rw [← hopens.length_eq]
    exact hinit.length_le.trans (List.length_take_le left input)
  · rintro ⟨hmark, hsize⟩
    obtain ⟨opening, hopens, hinit⟩ := exists_opens_of_literalMark? hmark
    rw [← hopens.length_eq] at hsize
    exact literalMark?_of_opens hopens (List.prefix_take_iff.mpr ⟨hinit, hsize⟩)

theorem startsLifetime_take {left : Nat} (hleft : 2 ≤ left) :
    startsLifetime (rest.take left) = startsLifetime rest := by
  match rest, left, hleft with
  | [], _, _ => simp
  | [c], left + 2, _ => rfl
  | c :: d :: rest, left + 2, _ => rfl

theorem startsLifetime_take_one (hlifetime : startsLifetime rest) :
    startsLifetime (rest.take 1) := by
  match rest, hlifetime with
  | c :: rest, hlifetime =>
      simp only [startsLifetime, Bool.and_eq_true] at hlifetime
      simp [startsLifetime, hlifetime]

/-- A quote that is closed begins no lifetime, also where nothing stands behind the closing one. -/
theorem not_startsLifetime_take_one
    (hquoted : readQuoted '\x27' start index rest = .ok (value, 1)) :
    ¬startsLifetime (rest.take 1) := by
  have hone := readQuoted_take start index hquoted
  cases rest with
  | nil => intro hstarts; cases hstarts
  | cons c rest =>
      rw [List.take_succ_cons, List.take_zero] at hone ⊢
      rw [readQuoted] at hone
      split at hone
      · next hc =>
        rw [hc]
        decide
      · split at hone
        · cases hone
        · rw [readQuoted] at hone
          cases hone

/-- A literal can be read without what follows it. -/
theorem readLiteral_take (other : Nat) {left : Nat} {mark : LiteralMark}
    (hread : readLiteral index mark input = .ok stretch) (hleft : stretch.size ≤ left) :
    mark.openingSize ≤ stretch.size ∧ readLiteral other mark (input.take left) = .ok stretch := by
  cases mark with
  | raw letters hashes =>
      simp only [readLiteral] at hread ⊢
      cases hbreak : Text.breakOn? ('"' :: List.replicate hashes '#')
          (input.drop (letters + hashes + 1)) with
      | none =>
          rw [hbreak] at hread
          cases hread
      | some parts =>
          obtain ⟨value, rest⟩ := parts
          rw [hbreak] at hread
          cases hread
          simp only [Stretch.size, LiteralMark.openingSize] at hleft ⊢
          refine ⟨by omega, ?_⟩
          obtain ⟨more, hmore⟩ := breakOn?_take_of_le hbreak (List.cons_ne_nil _ _)
            (show _ ≤ left - (letters + hashes + 1) by omega)
          rw [List.drop_take, hmore]
          simp only
          rw [List.take_take, Nat.min_eq_left (by omega)]
  | quoted letters quote =>
      simp only [readLiteral] at hread ⊢
      generalize hrest : input.drop (letters + 1) = rest at hread
      rw [List.drop_take, hrest]
      split at hread
      · next hlifetime =>
        cases hread
        simp only [Stretch.size, LiteralMark.openingSize] at hleft ⊢
        refine ⟨by omega, ?_⟩
        have hword : 1 ≤ (rest.takeWhile isWordPart).length := by
          have hstarts := hlifetime.2
          cases rest with
          | nil => cases hstarts
          | cons c rest =>
              simp only [startsLifetime, Bool.and_eq_true] at hstarts
              simp [isWordPart_of_isWordStart hstarts.2]
        have hstarts : startsLifetime (rest.take (left - (letters + 1))) := by
          by_cases htwo : 2 ≤ left - (letters + 1)
          · rw [startsLifetime_take htwo]
            exact hlifetime.2
          · have hone : left - (letters + 1) = 1 := by omega
            rw [hone]
            exact startsLifetime_take_one hlifetime.2
        rw [if_pos ⟨hlifetime.1, hstarts⟩, takeWhile_take_of_le _ (by omega), List.take_take,
          Nat.min_eq_left (by omega)]
      · next hlifetime =>
        cases hquoted : readQuoted quote index (index + letters + 1) rest with
        | error fault =>
            rw [hquoted] at hread
            cases hread
        | ok found =>
            obtain ⟨value, inner⟩ := found
            rw [hquoted] at hread
            cases hread
            have hpos := (readQuoted_append hquoted).1
            simp only [Stretch.size, LiteralMark.openingSize] at hleft ⊢
            refine ⟨by omega, ?_⟩
            have hstarts :
                ¬(quote = '\x27' ∧ startsLifetime (rest.take (left - (letters + 1)))) := by
              rintro ⟨rfl, hstarts⟩
              by_cases htwo : 2 ≤ left - (letters + 1)
              · rw [startsLifetime_take htwo] at hstarts
                exact hlifetime ⟨rfl, hstarts⟩
              · have hone : left - (letters + 1) = 1 := by omega
                obtain rfl : inner = 1 := by omega
                rw [hone] at hstarts
                exact not_startsLifetime_take_one hquoted hstarts
            rw [if_neg hstarts, readQuoted_take_of_le _ _ hquoted (by omega)]
            simp only
            rw [List.take_take, Nat.min_eq_left (by omega)]

/-! ### Words and numbers -/

theorem startsRaw_mono {front : List Char} (hraw : startsRaw front)
    (hinit : front <+: input) : startsRaw input := by
  obtain ⟨more, rfl⟩ := hinit
  unfold startsRaw at hraw
  split at hraw
  · exact hraw
  · cases hraw

/-- A raw identifier has a character behind its mark. -/
theorem three_le_size_word (hraw : startsRaw input) : 3 ≤ (word input).size := by
  unfold startsRaw at hraw
  split at hraw
  · next c rest =>
    have hmark : rawMarkSize ('r' :: '#' :: c :: rest) = 2 := if_pos hraw
    rw [word_eq, Stretch.size, hmark]
    simp only [List.drop_succ_cons, List.drop_zero, List.takeWhile_cons,
      isWordPart_of_isWordStart hraw, if_true, List.length_cons]
    omega
  · cases hraw

/-- A raw mark has the same size in a text that holds its word. -/
theorem rawMarkSize_take {left : Nat} (hleft : (word input).size ≤ left) :
    rawMarkSize (input.take left) = rawMarkSize input := by
  by_cases hraw : startsRaw input
  · have htaken : startsRaw (input.take left) := by
      have hthree := Nat.le_trans (three_le_size_word hraw) hleft
      obtain ⟨more, rfl⟩ : ∃ more, left = more + 3 := ⟨left - 3, by omega⟩
      unfold startsRaw at hraw
      split at hraw
      · exact hraw
      · cases hraw
    rw [rawMarkSize, if_pos htaken, rawMarkSize, if_pos hraw]
  · have htaken : ¬startsRaw (input.take left) := by
      intro htaken
      exact hraw (startsRaw_mono htaken (List.take_prefix left input))
    rw [rawMarkSize, if_neg htaken, rawMarkSize, if_neg hraw]

theorem word_take {left : Nat} (hstart : isWordStart c) (hleft : (word (c :: rest)).size ≤ left) :
    word ((c :: rest).take left) = word (c :: rest) := by
  have hmark := rawMarkSize_take hleft
  rw [size_word rest hstart] at hleft
  simp only [word_eq, hmark, List.drop_take]
  rw [takeWhile_take_of_le _ (by omega), List.take_take, Nat.min_eq_left hleft]

/-- A fraction has the same size without what follows it. -/
theorem fractionSize_take {left : Nat} (hleft : fractionSize input ≤ left) :
    fractionSize (input.take left) = fractionSize input := by
  match input, left with
  | [], left => rw [List.take_nil]
  | c :: input, 0 =>
      rw [List.take_zero, Nat.le_zero.mp hleft]
      rfl
  | [c], left + 1 => rw [List.take_succ_cons, List.take_nil]
  | c :: d :: input, left + 1 =>
      by_cases hpoint : c = '.' ∧ d.isDigit
      · obtain ⟨rfl, hd⟩ := hpoint
        simp only [fractionSize, if_pos hd] at hleft ⊢
        obtain ⟨left, rfl⟩ : ∃ more, left = more + 1 := ⟨left - 1, by omega⟩
        simp only [List.take_succ_cons, if_pos hd]
        rw [takeWhile_take_of_le _ (by omega)]
      · have hzero (more : List Char) : fractionSize (c :: d :: more) = 0 := by
          unfold fractionSize
          split
          · next heq =>
            cases heq
            exact if_neg fun hd => hpoint ⟨rfl, hd⟩
          · rfl
        rw [hzero]
        cases left with
        | zero =>
            unfold fractionSize
            split
            · next heq => cases heq
            · rfl
        | succ left => exact hzero _

theorem number_take {left : Nat} (hdigit : c.isDigit)
    (hleft : (number (c :: rest)).size ≤ left) :
    number ((c :: rest).take left) = number (c :: rest) := by
  rw [size_number rest hdigit] at hleft
  simp only [number_eq, List.drop_take]
  rw [takeWhile_take_of_le _ (by omega), fractionSize_take (by omega), List.take_take,
    Nat.min_eq_left hleft]

/-! ### One step of the reader -/

theorem startsWith_take_eq_false {pattern : List Char} {left : Nat}
    (hstarts : ¬Text.startsWith pattern input) : ¬Text.startsWith pattern (input.take left) := by
  intro htaken
  have hinit := (prefix_of_startsWith htaken).trans (List.take_prefix left input)
  exact hstarts (startsWith_iff_isPrefixOf.mpr hinit)

theorem startsWith_take {pattern : List Char} {left : Nat} (hleft : pattern.length ≤ left)
    (hstarts : Text.startsWith pattern input) : Text.startsWith pattern (input.take left) :=
  startsWith_iff_isPrefixOf.mpr (List.prefix_take_iff.mpr ⟨prefix_of_startsWith hstarts, hleft⟩)

/-- A step does the same if some of the characters behind those that it takes are gone. -/
theorem nextStretch_take (other : Nat) {left : Nat} (hnext : nextStretch index c rest = .ok stretch)
    (hleft : stretch.extra ≤ left) : nextStretch other c (rest.take left) = .ok stretch := by
  have htake : c :: rest.take left = (c :: rest).take (left + 1) := rfl
  have hsize : stretch.size ≤ left + 1 := Nat.succ_le_succ hleft
  by_cases hblank : Text.isBlank c
  · simp only [nextStretch, if_pos hblank] at hnext ⊢
    exact hnext
  simp only [nextStretch, if_neg hblank, htake] at hnext ⊢
  by_cases hline : Text.startsWith ['/', '/'] (c :: rest)
  · rw [if_pos hline] at hnext
    cases hnext
    have hinit := prefix_of_startsWith hline
    have hslashes := (take_size_lineComment hinit).2.1.length_le
    rw [size_lineComment hinit] at hsize
    rw [if_pos (startsWith_take (Nat.le_trans hslashes hsize) hline), lineComment_take hsize]
  rw [if_neg hline] at hnext
  rw [if_neg (startsWith_take_eq_false hline)]
  by_cases hblock : Text.startsWith ['/', '*'] (c :: rest)
  · rw [if_pos hblock] at hnext
    cases hcomment : commentSize? 0 (c :: rest) with
    | none =>
        rw [hcomment] at hnext
        cases hnext
    | some size =>
        rw [hcomment] at hnext
        cases hnext
        rw [size_blockComment (commentSize?_append hcomment).1] at hsize
        have htwo := two_le_commentSize? (prefix_of_startsWith hblock) hcomment
        rw [if_pos (startsWith_take (Nat.le_trans htwo hsize) hblock),
          commentSize?_take_of_le hcomment hsize]
        simp only
        rw [blockComment_take hsize]
  rw [if_neg hblock] at hnext
  rw [if_neg (startsWith_take_eq_false hblock)]
  cases hmark : literalMark? (c :: rest) with
  | some mark =>
      rw [hmark] at hnext
      obtain ⟨hopening, hread⟩ := readLiteral_take other hnext hsize
      rw [literalMark?_take_eq_some_iff.mpr ⟨hmark, Nat.le_trans hopening hsize⟩]
      exact hread
  | none =>
      rw [hmark] at hnext
      have hnone : literalMark? ((c :: rest).take (left + 1)) = none := by
        rw [Option.eq_none_iff_forall_ne_some]
        intro mark htaken
        rw [literalMark?_take_eq_some_iff, hmark] at htaken
        cases htaken.1
      rw [hnone]
      simp only at hnext ⊢
      split at hnext
      · next hstart =>
        rw [if_pos hstart]
        cases hnext
        rw [word_take hstart hsize]
      next hstart =>
      rw [if_neg hstart]
      split at hnext
      · next hdigit =>
        rw [if_pos hdigit]
        cases hnext
        rw [number_take hdigit hsize]
      next hdigit =>
      rw [if_neg hdigit]
      split at hnext
      · cases hnext
      next hstray =>
      rw [if_neg hstray]
      split at hnext
      · next hopening =>
        rw [if_pos hopening]
        exact hnext
      next hopening =>
      rw [if_neg hopening]
      split at hnext
      · next hclosing =>
        rw [if_pos hclosing]
        exact hnext
      next hclosing =>
      rw [if_neg hclosing]
      split at hnext
      · next hcolons =>
        cases hnext
        rw [if_pos (startsWith_take hsize hcolons)]
      · next hcolons =>
        rw [if_neg (startsWith_take_eq_false hcolons)]
        exact hnext

/-- A step does the same if a line end and anything else are put somewhere behind the characters
that it takes. -/
theorem nextStretch_break (other : Nat) {left : Nat} (more : List Char)
    (hnext : nextStretch index c rest = .ok stretch) (hleft : stretch.extra ≤ left) :
    nextStretch other c (rest.take left ++ '\n' :: more) = .ok stretch :=
  nextStretch_append other more (nextStretch_take index hnext hleft)

end CrateReadme.Source
