import CrateReadme.Proofs.Source.Locality
import CrateReadme.Proofs.Source.Spelling

/-!
# Breaking a line between tokens

The tokens of a source do not depend on the layout around them: when a line is broken in front of a
token or behind one, the same tokens are read at other places. A run of the reader is copied step by
step, with the break put in where the run has passed the characters in front of it.
-/

namespace CrateReadme.Source

variable {c : Char} {input rest : List Char} {pending : List Char} {faces : List Face}
  {stretch : Stretch} {tokens : List Token}

/-- At the end of a source and with the brackets `pending` open, the text is read to its end as
tokens with the given faces. -/
def ReadsAs (pending : List Char) (input : List Char) (faces : List Face) : Prop :=
  ∀ index (brackets : List (Char × Nat)), brackets.map Prod.fst = pending →
    ∃ tokens, tokens.map Token.face = faces ∧
      Reads ⟨index + input.length, [], []⟩ ⟨index, brackets, input⟩ tokens

namespace ReadsAs

theorem nil : ReadsAs [] [] [] := by
  intro index brackets hbrackets
  rw [List.map_eq_nil_iff] at hbrackets
  rw [hbrackets]
  exact ⟨[], rfl, .done⟩

/-- A step leaves the place of the end as it is. -/
theorem index_add_length {index : Nat} (hnext : nextStretch index c rest = .ok stretch) :
    index + stretch.extra + 1 + (rest.drop stretch.extra).length = index + (c :: rest).length := by
  have hextra := extra_le_of_nextStretch hnext
  rw [List.length_drop, List.length_cons]
  omega

theorem skip (hnext : ∀ index, nextStretch index c rest = .ok stretch)
    (hnone : stretch.token? = none) (hrest : ReadsAs pending (rest.drop stretch.extra) faces) :
    ReadsAs pending (c :: rest) faces := by
  intro index brackets hbrackets
  obtain ⟨tokens, htokens, hreads⟩ := hrest (index + stretch.extra + 1) brackets hbrackets
  rw [index_add_length (hnext index)] at hreads
  exact ⟨tokens, htokens, .skip (hnext index) hnone hreads⟩

theorem token {place : Nat} {before inner : List (Char × Nat)} {cls : TokenClass}
    {text : List Char} {value : Option (List Char)}
    (hnext : ∀ index, nextStretch index c rest = .ok stretch)
    (hsome : stretch.token? = some (cls, text, value))
    (htrack : trackBrackets place before cls c = .ok inner)
    (hrest : ReadsAs (inner.map Prod.fst) (rest.drop stretch.extra) faces) :
    ReadsAs (before.map Prod.fst) (c :: rest) ((cls, text, value) :: faces) := by
  intro index brackets hbrackets
  obtain ⟨copy, hcopy, hsame⟩ := trackBrackets_append index [] htrack hbrackets
  rw [List.append_nil, List.append_nil] at hcopy
  obtain ⟨tokens, htokens, hreads⟩ := hrest (index + stretch.extra + 1) copy hsame
  rw [index_add_length (hnext index)] at hreads
  refine ⟨⟨cls, text, index, index + stretch.extra + 1, value⟩ :: tokens, ?_,
    .token (hnext index) hsome hcopy hreads⟩
  rw [List.map_cons, htokens]
  rfl

/-- A line end in front of a text changes nothing. -/
theorem lineEnd (hreads : ReadsAs pending input faces) : ReadsAs pending ('\n' :: input) faces :=
  skip (fun _ => rfl) rfl hreads

end ReadsAs

theorem nextStretch_reindex {index : Nat} (hnext : nextStretch index c rest = .ok stretch)
    (other : Nat) : nextStretch other c rest = .ok stretch := by
  have hcopy := nextStretch_take other hnext (extra_le_of_nextStretch hnext)
  rwa [List.take_length] at hcopy

/-- What is read from one place on is read in the same way from any other. -/
theorem Reads.readsAs {last index : Nat} {brackets : List (Char × Nat)}
    (hreads : Reads ⟨last, [], []⟩ ⟨index, brackets, input⟩ tokens) :
    ReadsAs (brackets.map Prod.fst) input (tokens.map Token.face) := by
  generalize hbefore : (⟨index, brackets, input⟩ : Position) = before at hreads
  induction hreads generalizing index brackets input with
  | done =>
      cases hbefore
      exact .nil
  | skip hnext hnone _ ih =>
      cases hbefore
      exact .skip (nextStretch_reindex hnext) hnone (ih rfl)
  | token hnext hsome htrack _ ih =>
      cases hbefore
      exact .token (nextStretch_reindex hnext) hsome htrack (ih rfl)

/-- A text with a line end put in behind its first `place` characters. -/
def breakLine (place : Nat) (text : List Char) : List Char :=
  text.take place ++ '\n' :: text.drop place

theorem breakLine_cons (place : Nat) (c : Char) (text : List Char) :
    breakLine (place + 1) (c :: text) = c :: breakLine place text := rfl

theorem drop_take_append {count place : Nat} (hcount : count ≤ place) {text : List Char}
    (hlength : count ≤ text.length) (more : List Char) :
    (text.take place ++ more).drop count = (text.drop count).take (place - count) ++ more := by
  have hfront : count ≤ (text.take place).length := by
    rw [List.length_take]
    omega
  rw [List.drop_append_of_le_length hfront, List.drop_take]

theorem drop_breakLine {count place : Nat} (hcount : count ≤ place) {text : List Char}
    (hlength : count ≤ text.length) :
    (breakLine place text).drop count = breakLine (place - count) (text.drop count) := by
  rw [breakLine, drop_take_append hcount hlength, breakLine, List.drop_drop,
    Nat.add_sub_cancel' hcount]

theorem nextStretch_breakLine {index place : Nat} (hnext : nextStretch index c rest = .ok stretch)
    (hplace : stretch.extra ≤ place) (other : Nat) :
    nextStretch other c (breakLine place rest) = .ok stretch :=
  nextStretch_break other (rest.drop place) hnext hplace

/-- Whether a token starts or stops at a place. -/
def IsEdge (tokens : List Token) (place : Nat) : Prop :=
  ∃ token ∈ tokens, place = token.start ∨ place = token.stop

instance (tokens : List Token) (place : Nat) : Decidable (IsEdge tokens place) :=
  inferInstanceAs (Decidable (∃ token ∈ tokens, place = token.start ∨ place = token.stop))

/-- A line may be broken in front of all that is read, and where a token starts or stops. -/
theorem Reads.readsAs_breakLine {last index : Nat} {brackets : List (Char × Nat)}
    (hreads : Reads ⟨last, [], []⟩ ⟨index, brackets, input⟩ tokens) {place : Nat}
    (hplace : place = 0 ∨ IsEdge tokens (index + place)) :
    ReadsAs (brackets.map Prod.fst) (breakLine place input) (tokens.map Token.face) := by
  generalize hbefore : (⟨index, brackets, input⟩ : Position) = before at hreads
  induction hreads generalizing index brackets input place with
  | done =>
      cases hbefore
      obtain rfl | ⟨token, hmem, -⟩ := hplace
      · exact .lineEnd .nil
      · cases hmem
  | @skip _ _ c rest stretch tokens hnext hnone hrest ih =>
      cases hbefore
      cases place with
      | zero => exact .lineEnd (Reads.readsAs (.skip hnext hnone hrest))
      | succ place =>
          -- The edges that are left are those of later tokens.
          obtain hzero | ⟨token, hmem, hedge⟩ := hplace
          · cases hzero
          have hbehind := hrest.placed.mem hmem
          have hextra : stretch.extra ≤ place := by omega
          rw [breakLine_cons]
          refine .skip (nextStretch_breakLine hnext hextra) hnone ?_
          rw [drop_breakLine hextra (extra_le_of_nextStretch hnext)]
          refine ih (Or.inr ⟨token, hmem, ?_⟩) rfl
          omega
  | @token index _ _ c rest stretch cls text value tokens hnext hsome htrack hrest ih =>
      cases hbefore
      cases place with
      | zero => exact .lineEnd (Reads.readsAs (.token hnext hsome htrack hrest))
      | succ place =>
          obtain hzero | ⟨token, hmem, hedge⟩ := hplace
          · cases hzero
          have hedges : stretch.extra ≤ place ∧
              (place - stretch.extra = 0 ∨
                IsEdge tokens (index + stretch.extra + 1 + (place - stretch.extra))) := by
            rcases List.mem_cons.mp hmem with rfl | hmem
            · simp only at hedge
              exact ⟨by omega, Or.inl (by omega)⟩
            · have hbehind := hrest.placed.mem hmem
              exact ⟨by omega, Or.inr ⟨token, hmem, by omega⟩⟩
          rw [breakLine_cons]
          refine .token (nextStretch_breakLine hnext hedges.1) hsome htrack ?_
          rw [drop_breakLine hedges.1 (extra_le_of_nextStretch hnext)]
          exact ih hedges.2 rfl

/-! ### The interpreter line -/

theorem shebangSize_eq_zero {code : List Char} (hmark : ¬['#', '!'] <+: code) :
    shebangSize code = 0 := by
  unfold shebangSize
  split
  · rfl
  · exact absurd (List.prefix_append ['#', '!'] _) hmark
  · rfl

theorem shebangSize_of_mark {rest : List Char} (hbracket : rest.head? ≠ some '[') :
    shebangSize ('#' :: '!' :: rest) = (rest.takeWhile (· ≠ '\n')).length + 2 := by
  unfold shebangSize
  split
  · next heq =>
    cases heq
    exact absurd rfl hbracket
  · next heq =>
    cases heq
    simp
  · next hmark => exact absurd rfl (hmark rest)

theorem takeWhile_breakLine {place : Nat} {text : List Char}
    (hplace : (text.takeWhile (· ≠ '\n')).length ≤ place) :
    (breakLine place text).takeWhile (· ≠ '\n') = text.takeWhile (· ≠ '\n') := by
  rw [breakLine, takeWhile_append_stop _ _ (by decide), takeWhile_take_of_le _ hplace]

/-- A line may be broken behind the interpreter line, unless the break makes one. -/
theorem shebangSize_breakLine {code : List Char} {place : Nat} (hplace : shebangSize code ≤ place)
    (hmark : ¬(place = 2 ∧ ['#', '!', '['] <+: code)) :
    shebangSize (breakLine place code) = shebangSize code := by
  by_cases hline : ['#', '!'] <+: code
  · obtain ⟨rest, rfl⟩ := hline
    change shebangSize ('#' :: '!' :: rest) ≤ place at hplace
    change shebangSize (breakLine place ('#' :: '!' :: rest)) = shebangSize ('#' :: '!' :: rest)
    by_cases hbracket : rest.head? = some '['
    · obtain ⟨inner, rfl⟩ := List.head?_eq_some_iff.mp hbracket
      match place with
      | 0 => rfl
      | 1 => rfl
      | 2 => exact absurd ⟨rfl, List.prefix_append ['#', '!', '['] inner⟩ hmark
      | place + 3 => rfl
    · rw [shebangSize_of_mark hbracket] at hplace ⊢
      obtain ⟨place, rfl⟩ : ∃ more, place = more + 2 := ⟨place - 2, by omega⟩
      have hhead : (breakLine place rest).head? ≠ some '[' := by
        cases place with
        | zero => simp [breakLine]
        | succ place =>
            cases rest with
            | nil => simp [breakLine]
            | cons c rest => exact hbracket
      rw [breakLine_cons, breakLine_cons, shebangSize_of_mark hhead,
        takeWhile_breakLine (Nat.le_of_add_le_add_right hplace)]
  · rw [shebangSize_eq_zero hline]
    apply shebangSize_eq_zero
    rintro ⟨more, hmore⟩
    match code, place with
    | [], _ => simp [breakLine] at hmore
    | _ :: _, 0 => cases hmore
    | [_], _ + 1 => simp [breakLine] at hmore
    | _ :: _ :: _, 1 => cases hmore
    | c :: d :: rest, place + 2 =>
        rw [breakLine_cons, breakLine_cons] at hmore
        cases hmore
        exact hline (List.prefix_append ['#', '!'] rest)

theorem tokenize_of_readsAs {code : List Char} {faces : List Face}
    (hreads : ReadsAs [] (code.drop (shebangSize code)) faces) :
    ∃ tokens, tokenize code = .ok tokens ∧ tokens.map Token.face = faces := by
  obtain ⟨tokens, htokens, hreads⟩ := hreads (shebangSize code) [] rfl
  refine ⟨tokens, ?_, htokens⟩
  have hfrom := hreads.tokensFrom_eq (show tokensFrom _ [] [] = .ok [] by rw [tokensFrom])
  rwa [List.append_nil] at hfrom

/-- A source with a line broken where a token starts or stops has the same tokens, apart from their
places. -/
theorem exists_tokens_of_breakLine {code : List Char} {tokens : List Token}
    (htokens : tokenize code = .ok tokens) {place : Nat} (hplace : IsEdge tokens place)
    (hmark : ¬(place = 2 ∧ ['#', '!', '['] <+: code)) :
    ∃ others, tokenize (breakLine place code) = .ok others ∧
      others.map Token.face = tokens.map Token.face := by
  have hreads := reads_of_tokenize htokens
  have hshebang : shebangSize code ≤ place := by
    obtain ⟨token, hmem, hedge⟩ := hplace
    have := hreads.placed.mem hmem
    omega
  refine tokenize_of_readsAs ?_
  rw [shebangSize_breakLine hshebang hmark, drop_breakLine hshebang (shebangSize_le code)]
  refine hreads.readsAs_breakLine (Or.inr ?_)
  rwa [Nat.add_sub_cancel' hshebang]

end CrateReadme.Source
