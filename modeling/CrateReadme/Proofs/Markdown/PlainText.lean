import CrateReadme.Proofs.Markdown.Balance
import CrateReadme.Proofs.Markdown.Construct
import CrateReadme.Proofs.Markdown.Fence
import CrateReadme.Proofs.Markdown.Glyph
import CrateReadme.Proofs.Text.Decimal

/-!
# Plain text is read as it was written

In escaped text the reader meets no construct: backslashes give the characters behind them, and the
marks that stand unescaped can neither open nor close emphasis. What it reads is joined to one text.
-/

namespace CrateReadme

/-! ### Letters, punctuation and white space -/

namespace Markdown

theorem isPunctuation_eq_false_of_isLetterOrNumeric {c : Char} (hc : Text.isLetterOrNumeric c) :
    isPunctuation c = false := by
  rw [isPunctuation]
  split
  next hascii =>
    rw [Text.isLetterOrNumeric, if_pos hascii] at hc
    have happart : c.isAlphanum → isAsciiPunctuation c = false :=
      Text.forall_ascii (by decide +kernel) hascii
    exact happart hc
  next hascii =>
    have hpunctuation : Text.Ranges.ascends 0 punctuationRanges := by decide +kernel
    exact Text.holds_eq_false_of_isLetterOrNumeric hpunctuation (by decide +kernel)
      (by decide +kernel) hc (Nat.le_of_not_lt hascii)

theorem isPunctuation_of_isAsciiPunctuation {c : Char} (hc : isAsciiPunctuation c) :
    isPunctuation c := by
  have hascii : c.toNat < 128 := by
    simp only [isAsciiPunctuation, Bool.or_eq_true, Bool.and_eq_true, decide_eq_true_eq] at hc
    omega
  rw [isPunctuation, if_pos hascii]
  exact hc

theorem isDecimal_of_isDigit {c : Char} (hc : c.isDigit) : Text.isDecimal c := by
  have hcodes : ∀ code < 58, 48 ≤ code → Text.isDecimal (Char.ofNat code) := by decide +kernel
  have hbounds : 48 ≤ c.toNat ∧ c.toNat < 58 := by
    simp only [Char.isDigit, ge_iff_le, Bool.and_eq_true, decide_eq_true_eq, UInt32.le_iff_toNat_le]
      at hc
    exact ⟨hc.1, Nat.lt_succ_of_le hc.2⟩
  have hcode := hcodes c.toNat hbounds.2 hbounds.1
  rwa [Char.ofNat_toNat] at hcode

theorem isGap_eq_false_of_isLetterOrNumeric {c : Char} (hc : Text.isLetterOrNumeric c) :
    isGap c = false := by
  rw [Bool.eq_false_iff]
  intro hgap
  have hwhite : isWhite c := Bool.or_eq_true_iff.mpr (.inl hgap)
  rw [(Escape.isWhite_apart hwhite).2] at hc
  cases hc

/-! ### Pieces without constructs -/

namespace Piece

/-- Whether a piece is text, or a mark that can neither open nor close emphasis. -/
def IsInert : Piece → Prop
  | .text content => content ≠ []
  | .special content => content ≠ []
  | .mark delimiter => delimiter.canOpen = false ∧ delimiter.canClose = false
  | .node _ => False

/-- The text that a piece is if nothing is made of it. -/
def plain (piece : Piece) : List Char :=
  match Balance.plain (Balance.tokenOf piece) with
  | .text content => content
  | _ => []

theorem IsInert.plain_ne_nil {piece : Piece} (hinert : piece.IsInert) : piece.plain ≠ [] := by
  cases piece with
  | text content => exact hinert
  | special content => exact hinert
  | mark delimiter =>
    change (if delimiter.marker = '~' then ['~', '~'] else [delimiter.marker]) ≠ []
    split <;> exact List.cons_ne_nil _ _
  | node inline => exact hinert.elim

theorem IsInert.plain_tokenOf {piece : Piece} (hinert : piece.IsInert) :
    Balance.plain (Balance.tokenOf piece) = .text piece.plain := by
  cases piece with
  | node inline => exact hinert.elim
  | _ => rfl

end Piece

namespace Balance

/-- Whether no mark can open or close emphasis and none has a partner. -/
def AreIdle (marks : Array Mark) : Prop :=
  ∀ mark ∈ marks, mark.delimiter.canClose = false ∧ mark.partner = none

theorem AreIdle.getD {marks : Array Mark} (hidle : AreIdle marks) (index : Nat) :
    (marks[index]?.getD default).delimiter.canClose = false ∧
      (marks[index]?.getD default).partner = none := by
  cases hmark : marks[index]? with
  | none => exact ⟨rfl, rfl⟩
  | some mark => exact hidle mark (Array.mem_of_getElem? hmark)

theorem AreIdle.settle {state : State} (hidle : AreIdle state.marks) (index : Nat) :
    (settle state index).marks = state.marks := by
  simp only [Balance.settle, (hidle.getD index).1, Bool.false_eq_true, if_false]

theorem AreIdle.pair {marks : Array Mark} (hidle : AreIdle marks) : pair marks = marks := by
  have hrun : ∀ (indices : List Nat) (state : State), AreIdle state.marks →
      (indices.foldl Balance.settle state).marks = state.marks := by
    intro indices
    induction indices with
    | nil => exact fun state _ => rfl
    | cons index indices ih =>
      intro state hstate
      have hsettled := hstate.settle index
      rw [List.foldl_cons, ih _ (hsettled.symm ▸ hstate), hsettled]
  exact hrun _ _ hidle

theorem AreIdle.strike {marks : Array Mark} (hidle : AreIdle marks) (tokens : Array Token) :
    strike marks tokens = (tokens, []) := by
  rw [Balance.strike, ← Array.foldl_toList]
  refine List.foldlRecOn marks.toList _ (motive := fun state => state = (tokens, [])) rfl ?_
  rintro - rfl mark hmark
  simp only [(hidle mark (Array.mem_toList_iff.mp hmark)).2]

theorem AreIdle.emphasize {marks : Array Mark} (hidle : AreIdle marks) (count : Nat)
    (tokens : Array Token) : emphasize marks count false tokens = tokens := by
  induction count with
  | zero => rfl
  | succ index ih =>
    rw [Balance.emphasize]
    simp only [(hidle.getD index).2]
    exact ih

/-- The marks of inert pieces are idle. -/
theorem areIdle_marksOf {pieces : List Piece} (hinert : ∀ piece ∈ pieces, piece.IsInert) :
    AreIdle (marksOf pieces.toArray) := by
  intro mark hmark
  obtain ⟨⟨piece, index⟩, hpiece, hmark⟩ := Array.mem_filterMap.mp hmark
  have hmem : piece ∈ pieces := by
    obtain ⟨-, hindex, hpiece⟩ := Array.mem_zipIdx hpiece
    rw [hpiece]
    exact List.mem_toArray.mp (Array.getElem_mem _)
  have hpiece := hinert piece hmem
  cases piece with
  | mark delimiter =>
    cases hmark
    exact ⟨hpiece.2, rfl⟩
  | _ => cases hmark

/-- Texts next to each other are joined to one. -/
theorem joinTexts_map_text (texts : List (List Char)) :
    joinTexts (texts.map Token.text) = if texts = [] then [] else [.text texts.flatten] := by
  induction texts with
  | nil => rfl
  | cons text texts ih =>
    rw [List.map_cons, joinTexts, ih, if_neg (List.cons_ne_nil text texts)]
    cases texts with
    | nil => simp
    | cons next texts => rfl

end Balance

/-- A text as inline content: nothing if it is empty. -/
def textContent (text : List Char) : List Inline :=
  if text = [] then [] else [.text text]

/-- Of pieces without constructs one text is left. -/
theorem balance_of_isInert {pieces : List Piece} (hinert : ∀ piece ∈ pieces, piece.IsInert) :
    balance true pieces = textContent (pieces.flatMap Piece.plain) := by
  have hidle := Balance.areIdle_marksOf hinert
  have hplain : (pieces.map Balance.tokenOf).map Balance.plain =
      (pieces.map Piece.plain).map Balance.Token.text := by
    rw [List.map_map, List.map_map]
    exact List.map_congr_left fun piece hmem => (hinert piece hmem).plain_tokenOf
  simp only [balance, hidle.pair, hidle.strike, List.foldl_nil, hidle.emphasize, if_true,
    Array.toList_map, hplain, Balance.joinTexts_map_text, List.map_eq_nil_iff]
  cases pieces with
  | nil => rfl
  | cons piece pieces =>
    have hne : (piece :: pieces).flatMap Piece.plain ≠ [] := by
      rw [List.flatMap_cons]
      exact List.append_ne_nil_of_left_ne_nil (hinert piece List.mem_cons_self).plain_ne_nil _
    rw [if_neg (List.cons_ne_nil piece pieces), textContent, if_neg hne]
    rfl

/-! ### Positions -/

namespace Scan

theorem charBefore?_size (chars : Array Char) (pos : Nat) :
    charBefore? chars chars.size pos = chars[pos]? := by
  rw [charBefore?]
  split
  next => rfl
  next hsize => exact (Array.getElem?_eq_none (Nat.le_of_not_lt hsize)).symm

/-- Skipping passes over the longest stretch of characters that are kept. -/
theorem skipWhile_eq (chars : Array Char) (keep : Char → Bool) (left pos : Nat)
    (hleft : chars.size ≤ pos + left) :
    skipWhile chars keep left pos = pos + ((chars.toList.drop pos).takeWhile keep).length := by
  induction left generalizing pos with
  | zero =>
    rw [List.drop_eq_nil_of_le (by simpa using hleft)]
    rfl
  | succ left ih =>
    rw [skipWhile, List.drop_eq_getElem?_toList_append, Array.getElem?_toList]
    cases hc : chars[pos]? with
    | none =>
      have hsize := Array.getElem?_eq_none_iff.mp hc
      rw [List.drop_eq_nil_of_le (by simpa using Nat.le_succ_of_le hsize)]
      rfl
    | some c =>
      by_cases hkeep : keep c
      · simp only [hkeep, if_true, ih (pos + 1) (by omega), Option.toList_some,
          List.singleton_append, List.takeWhile_cons_of_pos, List.length_cons]
        omega
      · simp only [hkeep, Bool.false_eq_true, if_false, Option.toList_some, List.singleton_append,
          List.takeWhile_cons_of_neg, not_false_eq_true, List.length_nil, Nat.add_zero]

/-- In a whole text all characters are passed that may be passed. -/
theorem skip_size (chars : Array Char) (keep : Char → Bool) (pos : Nat) :
    skip chars chars.size keep pos = pos + ((chars.toList.drop pos).takeWhile keep).length :=
  skipWhile_eq chars keep _ pos (by omega)

end Scan

/-! ### Character references -/

namespace Entity

theorem keep_of_untilSemicolon? {keep : Char → Bool} {limit : Nat} {text name rest : List Char}
    (hname : untilSemicolon? keep limit text = some (name, rest)) : ∀ c ∈ name, keep c := by
  fun_induction untilSemicolon? keep limit text generalizing name with
  | case1 limit text =>
    cases hname
    exact fun c hmem => absurd hmem List.not_mem_nil
  | case2 c text limit hne hkeep ih =>
    obtain ⟨⟨found, behind⟩, hfound, heq⟩ := Option.map_eq_some_iff.mp hname
    cases heq
    exact List.forall_mem_cons.mpr ⟨hkeep, ih hfound⟩
  | case3 => cases hname
  | case4 => cases hname

/-- The digits of a reference by number are the name of a reference. -/
theorem isReferenceName_of_number? {decimals hexadecimals code : Nat} {name : List Char}
    (hnumber : number? decimals hexadecimals name = some code) : Escape.IsReferenceName name := by
  rw [number?.eq_def] at hnumber
  split at hnumber
  next mark digits =>
    split at hnumber
    next hmark =>
      split at hnumber
      next hdigits => exact .hexadecimal hmark hdigits.1 (List.all_eq_true.mp hdigits.2.2)
      next => cases hnumber
    next =>
      split at hnumber
      next hdigits =>
        exact .decimal (List.cons_ne_nil mark digits) fun c hmem =>
          isDecimal_of_isDigit (List.all_eq_true.mp hdigits.2 c hmem)
      next => cases hnumber
  next => cases hnumber

/-- A character reference has a name that completes one. -/
theorem isReferenceName_of_atStart? {text shown : List Char} {length : Nat}
    (hstart : atStart? text = some (shown, length)) :
    ∃ name rest, text = '&' :: (name ++ ';' :: rest) ∧ Escape.IsReferenceName name := by
  rw [atStart?.eq_def] at hstart
  split at hstart
  next more =>
    obtain ⟨⟨name, rest⟩, hname, hstart⟩ := Option.bind_eq_some_iff.mp hstart
    refine ⟨name, rest, by rw [eq_of_untilSemicolon? hname], ?_⟩
    simp only at hstart
    split at hstart
    · obtain ⟨code, hcode, -⟩ := Option.bind_eq_some_iff.mp hstart
      exact isReferenceName_of_number? hcode
    next hnumeric =>
      split at hstart
      next hnamed =>
        have hkeep := keep_of_untilSemicolon? hname
        cases name with
        | nil => cases (Bool.and_eq_true_iff.mp hnamed).1
        | cons c name =>
          refine .named (Bool.and_eq_true_iff.mp hnamed).1 fun d hmem => ?_
          simpa [hnumeric] using hkeep d hmem
      next => cases hstart
  next => cases hstart

end Entity

/-! ### Reading escaped text -/

namespace Reader

open Escape (Glyph shown written exists_front written_append written_cons_raw isSpecial)

namespace Progress

/-- Whether what was read so far is a text without constructs. -/
structure Spells (progress : Progress) (text : List Char) : Prop where
  inert : ∀ piece ∈ progress.pieces, piece.IsInert
  plain : progress.pieces.reverse.flatMap Piece.plain ++ progress.pending.reverse = text

variable {progress : Progress} {text : List Char}

theorem Spells.write (hspells : progress.Spells text) (more : List Char) :
    (progress.write more).Spells (text ++ more) where
  inert := hspells.inert
  plain := by
    rw [← hspells.plain]
    simp [Progress.write]

theorem Spells.flush (hspells : progress.Spells text) :
    progress.flush.Spells text ∧ progress.flush.pending = [] := by
  rw [Progress.flush]
  split
  next hempty => exact ⟨hspells, List.isEmpty_iff.mp hempty⟩
  next hpending =>
    have hne : progress.pending.reverse ≠ [] := by
      rwa [Ne, List.reverse_eq_nil_iff, ← List.isEmpty_iff]
    refine ⟨⟨List.forall_mem_cons.mpr ⟨hne, hspells.inert⟩, ?_⟩, rfl⟩
    rw [← hspells.plain]
    simp [Piece.plain, Balance.tokenOf, Balance.plain]

theorem Spells.push (hspells : progress.Spells text) {piece : Piece} (hpiece : piece.IsInert) :
    (progress.push piece).Spells (text ++ piece.plain) := by
  obtain ⟨⟨hinert, hplain⟩, hpending⟩ := hspells.flush
  rw [hpending, List.reverse_nil, List.append_nil] at hplain
  refine ⟨List.forall_mem_cons.mpr ⟨hpiece, hinert⟩, ?_⟩
  rw [Progress.push, hpending, ← hplain]
  simp

end Progress

variable {source : Source} {joined : Bool} {skipper : Skipper} {nested : Nested} {stop pos : Nat}
  {progress : Progress} {memo : Memo}

/-- What is read where no construct starts: the characters that are meant. -/
structure ReadsPlain (result : Progress × Nat × Memo) (before : List Glyph)
    (passed : List Glyph) : Prop where
  spells : result.1.Spells (shown before ++ shown passed)
  next : result.2.1 = (written before ++ written passed).length

section Step

variable {front rest : List Glyph}

theorem drop_written (htext : source.chars.toList = written front ++ written rest) :
    source.chars.toList.drop (written front).length = written rest := by
  rw [htext, List.drop_left]

theorem getElem?_written (htext : source.chars.toList = written front ++ written rest)
    (index : Nat) : source.chars[(written front).length + index]? = (written rest)[index]? := by
  rw [← Array.getElem?_toList, htext, List.getElem?_append_right (Nat.le_add_right _ _),
    Nat.add_sub_cancel_left]

/-- A run of ordinary characters is read at once. -/
theorem readsPlain_run {c : Char} (hends : endsText c = false)
    (htext : source.chars.toList = written front ++ written (⟨false, c⟩ :: rest))
    (hspells : progress.Spells (shown front)) :
    ∃ passed remaining, ⟨false, c⟩ :: rest = passed ++ remaining ∧ passed ≠ [] ∧
      ReadsPlain (readConstruct source joined skipper nested source.chars.size
        (written front).length c progress memo) front passed := by
  obtain ⟨passed, remaining, hsplit, hpassed, -, hshown⟩ :=
    exists_front (fun d => !endsText d) (by decide) (⟨false, c⟩ :: rest)
  have hskip := Scan.skip_size source.chars (fun d => !endsText d) (written front).length
  rw [drop_written htext, ← hpassed] at hskip
  refine ⟨passed, remaining, hsplit, ?_, ?_, ?_⟩
  · rintro rfl
    rw [written_cons_raw, List.takeWhile_cons_of_pos (by simp [hends])] at hpassed
    cases hpassed
  · have hslice : Scan.slice source.chars (written front).length
        ((written front).length + (written passed).length) = written passed := by
      refine Scan.slice_front ?_
      rw [drop_written htext, hsplit, written_append]
      exact List.prefix_append _ _
    simp only [readConstruct, hends, Bool.not_false, if_true, hskip, hslice]
    exact hshown ▸ hspells.write (shown passed)
  · simp only [readConstruct, hends, Bool.not_false, if_true, hskip, List.length_append]

/-- A character behind a backslash stands for itself. -/
theorem readsPlain_escaped {c : Char} (hpunctuation : isAsciiPunctuation c)
    (htext : source.chars.toList = written front ++ written (⟨true, c⟩ :: rest))
    (hspells : progress.Spells (shown front)) :
    ReadsPlain (readConstruct source joined skipper nested source.chars.size
      (written front).length '\\' progress memo) front [⟨true, c⟩] := by
  have hbehind : Scan.charBefore? source.chars source.chars.size ((written front).length + 1) =
      some c := by
    rw [Scan.charBefore?_size, getElem?_written htext]
    rfl
  have hread : readConstruct source joined skipper nested source.chars.size (written front).length
      '\\' progress memo =
        (progress.push (.special [c]), (written front).length + 2, memo) := by
    have hends : endsText '\\' := by decide
    have hline : c ≠ '\n' := by
      rintro rfl
      exact absurd hpunctuation (by decide)
    simp only [readConstruct, hends, Bool.not_true, Bool.false_eq_true, if_false, hbehind,
      hpunctuation, if_true]
  rw [hread]
  refine ⟨hspells.push (show Piece.IsInert (.special [c]) from List.cons_ne_nil c []), ?_⟩
  rw [List.length_append]
  rfl

/-- A mark that starts nothing is read as a character. -/
theorem readsPlain_asText {c : Char} {after : Memo}
    (hread : readConstruct source joined skipper nested source.chars.size (written front).length c
      progress memo = (progress.write [c], (written front).length + 1, after))
    (hspells : progress.Spells (shown front)) :
    ReadsPlain (readConstruct source joined skipper nested source.chars.size
      (written front).length c progress memo) front [⟨false, c⟩] := by
  rw [hread]
  refine ⟨hspells.write [c], ?_⟩
  rw [List.length_append]
  rfl

/-- Most marks start nothing within a text. -/
theorem readConstruct_ordinary {c : Char} (hends : endsText c) (hspecial : isSpecial c = false)
    (hc : c ∉ ['\n', '!', '&', '_', '~']) :
    readConstruct source joined skipper nested stop pos c progress memo =
      (progress.write [c], pos + 1, memo) := by
  simp only [List.mem_cons, List.not_mem_nil, or_false, not_or] at hc
  simp only [readConstruct, hends, Bool.not_true, Bool.false_eq_true, if_false]
  split
  all_goals first | rfl | simp_all [isSpecial]

/-- An exclamation mark makes an image only in front of a bracket. -/
theorem readConstruct_exclamation
    (hnext : Scan.charBefore? source.chars stop (pos + 1) ≠ some '[') :
    readConstruct source joined skipper nested stop pos '!' progress memo =
      (progress.write ['!'], pos + 1, memo) := by
  have hends : endsText '!' := by decide
  simp only [readConstruct, hends, Bool.not_true, Bool.false_eq_true, if_false, imageAt, hnext]

/-- An ampersand starts a character reference only in front of a name and a semicolon. -/
theorem readConstruct_ampersand (hentity : Scan.entity? source.chars stop pos = none) :
    readConstruct source joined skipper nested stop pos '&' progress memo =
      (progress.write ['&'], pos + 1, memo) := by
  have hends : endsText '&' := by decide
  simp only [readConstruct, hends, Bool.not_true, Bool.false_eq_true, if_false, hentity]

/-- The length of a run is one if the mark stands alone. -/
theorem skip_mark {c : Char}
    (htext : source.chars.toList = written front ++ written (⟨false, c⟩ :: rest))
    (hnext : (written rest).head? ≠ some c) :
    Scan.skip source.chars source.chars.size (· = c) (written front).length =
      (written front).length + 1 := by
  have hrest : ¬(written rest).head?.any (· = c) := by
    intro hany
    obtain ⟨d, hd, heq⟩ := (Option.any_eq_true _ _).mp hany
    exact hnext (of_decide_eq_true heq ▸ hd)
  rw [Scan.skip_size, drop_written htext, written_cons_raw,
    List.takeWhile_cons_of_pos (by simp), (Text.takeWhile_eq_nil_of_head? hrest).1]
  rfl

/-- No character reference is read where none is completed. -/
theorem entity?_eq_none
    (htext : source.chars.toList = written front ++ written (⟨false, '&'⟩ :: rest))
    (hcompletes : Escape.completesReference (shown rest) = false) :
    Scan.entity? source.chars source.chars.size (written front).length = none := by
  rw [Scan.entity?]
  split
  next =>
    rw [Option.map_eq_none_iff, Option.eq_none_iff_forall_ne_some]
    rintro ⟨content, length⟩ hstart
    obtain ⟨name, behind, hslice, hname⟩ := Entity.isReferenceName_of_atStart? hstart
    have hprefix : '&' :: (name ++ ';' :: behind) <+: '&' :: written rest := by
      rw [← hslice, ← written_cons_raw, ← drop_written htext]
      exact Scan.prefix_slice _ _ _
    obtain ⟨more, hmore⟩ := (List.prefix_cons_inj '&').mp hprefix
    -- nothing is escaped up to the semicolon
    obtain ⟨passed, remaining, rfl, hpassed, hremaining, hshown⟩ :=
      exists_front (· ≠ '\\') (by decide) rest
    have hkept : ∀ c ∈ name ++ [';'], decide (c ≠ '\\') := by
      intro c hmem
      rw [decide_eq_true_eq]
      rintro rfl
      rcases List.mem_append.mp hmem with hmem | hmem
      · exact hname.not_mem hmem
      · exact absurd (List.mem_singleton.mp hmem) (by decide)
    have hfront : shown passed =
        name ++ ';' :: (behind ++ more).takeWhile (fun c => decide (c ≠ '\\')) := by
      rw [hshown, hpassed, ← hmore, List.append_assoc, List.cons_append, List.append_cons,
        List.takeWhile_append_of_pos hkept, ← List.append_cons]
    have hmeant : shown (passed ++ remaining) = name ++ ';' ::
        ((behind ++ more).takeWhile (fun c => decide (c ≠ '\\')) ++ shown remaining) := by
      rw [Escape.shown_append, hfront, List.append_assoc, List.cons_append]
    exact Bool.eq_false_iff.mp hcompletes
      (Escape.completesReference_iff.mpr ⟨name, _, hmeant, hname⟩)
  next => rfl

/-- A single tilde strikes nothing out. -/
theorem readConstruct_tilde
    (htext : source.chars.toList = written front ++ written (⟨false, '~'⟩ :: rest))
    (hnext : (written rest).head? ≠ some '~') :
    readConstruct source joined skipper nested source.chars.size (written front).length '~'
        progress memo =
      (progress.write ['~'], (written front).length + 1, memo) := by
  have hends : endsText '~' := by decide
  have hmark : source.chars[(written front).length]? = some '~' := getElem?_written htext 0
  have hlength (splitsWords : Bool) : (Scan.delimiterRun source.chars source.chars.size
      (written front).length splitsWords).2.2 = 1 := by
    simp only [Scan.delimiterRun, hmark, Option.getD_some, skip_mark htext hnext,
      Nat.add_sub_cancel_left]
  simp only [readConstruct, hends, Bool.not_true, Bool.false_eq_true, if_false, hlength]
  rfl

/-- Between letters an underscore can neither open nor close emphasis. -/
theorem readsPlain_underscore
    (htext : source.chars.toList = written front ++ written (⟨false, '_'⟩ :: rest))
    (hlast : (shown front).getLast?.any Text.isLetterOrNumeric)
    (hnext : (written rest).head?.any Text.isLetterOrNumeric)
    (hspells : progress.Spells (shown front)) :
    ReadsPlain (readConstruct source joined skipper nested source.chars.size
      (written front).length '_' progress memo) front [⟨false, '_'⟩] := by
  obtain ⟨last, hlast, hlastLetter⟩ := (Option.any_eq_true _ _).mp hlast
  obtain ⟨next, hnext, hnextLetter⟩ := (Option.any_eq_true _ _).mp hnext
  have hends : endsText '_' := by decide
  have hmark : source.chars[(written front).length]? = some '_' := getElem?_written htext 0
  have hbehind : Scan.charBefore? source.chars source.chars.size ((written front).length + 1) =
      some next := by
    rw [Scan.charBefore?_size, getElem?_written htext 1, written_cons_raw, List.getElem?_cons_succ,
      ← List.head?_eq_getElem?, hnext]
  have hne : (written front).length ≠ 0 := by
    intro hempty
    rw [← Escape.getLast?_written, List.eq_nil_of_length_eq_zero hempty] at hlast
    cases hlast
  have hfront : source.chars[(written front).length - 1]? = some last := by
    rw [← Array.getElem?_toList, htext, List.getElem?_append_left (by omega),
      ← List.getLast?_eq_getElem?, Escape.getLast?_written, hlast]
  have hskip : Scan.skip source.chars source.chars.size (· = '_') (written front).length =
      (written front).length + 1 := by
    refine skip_mark htext ?_
    rw [hnext]
    rintro ⟨⟩
    exact absurd hnextLetter (by decide)
  have hrun : Scan.delimiterRun source.chars source.chars.size (written front).length false =
      (false, false, 1) := by
    simp only [Scan.delimiterRun, hmark, Option.getD_some, hskip, hne, if_false, hfront, hbehind,
      isPunctuation_eq_false_of_isLetterOrNumeric hlastLetter,
      isPunctuation_eq_false_of_isLetterOrNumeric hnextLetter,
      isGap_eq_false_of_isLetterOrNumeric hlastLetter,
      isGap_eq_false_of_isLetterOrNumeric hnextLetter, Nat.add_sub_cancel_left]
    rfl
  have hread : readConstruct source joined skipper nested source.chars.size (written front).length
      '_' progress memo =
        (progress.push (.mark ⟨'_', 1, false, false⟩), (written front).length + 1, memo) := by
    simp only [readConstruct, hends, Bool.not_true, Bool.false_eq_true, if_false, hrun,
      (by decide : decide ('_' = '*') = false)]
    rfl
  rw [hread]
  refine ⟨hspells.push (show Piece.IsInert (.mark ⟨'_', 1, false, false⟩) from ⟨rfl, rfl⟩), ?_⟩
  rw [List.length_append]
  rfl

/-- What is written next is a backslash or the next character that is meant. -/
theorem head?_written {c : Char} (hc : c ≠ '\\') (hhead : (written rest).head? = some c) :
    (shown rest).head? = some c ∧ ∃ more, rest = ⟨false, c⟩ :: more := by
  cases rest with
  | nil => cases hhead
  | cons glyph rest =>
    obtain ⟨isEscaped, d⟩ := glyph
    cases isEscaped with
    | true =>
      cases hhead
      exact absurd rfl hc
    | false =>
      cases hhead
      exact ⟨rfl, rest, rfl⟩

/-- Letters are written as they are. -/
theorem any_head?_written {before : Option Char} (hquiet : Escape.AreQuiet before rest)
    (hhead : (shown rest).head?.any Text.isLetterOrNumeric) :
    (written rest).head?.any Text.isLetterOrNumeric := by
  cases rest with
  | nil => cases hhead
  | cons glyph rest =>
    obtain ⟨isEscaped, c⟩ := glyph
    cases isEscaped with
    | false => exact hhead
    | true =>
      have hpunctuation : isAsciiPunctuation c := hquiet.1.escaped rfl
      have hapart := isPunctuation_eq_false_of_isLetterOrNumeric hhead
      rw [isPunctuation_of_isAsciiPunctuation hpunctuation] at hapart
      cases hapart

/-- At a quiet character no construct is read. -/
theorem readsPlain_readConstruct {glyph : Glyph}
    (htext : source.chars.toList = written front ++ written (glyph :: rest))
    (hquiet : Escape.AreQuiet (shown front).getLast? (glyph :: rest))
    (hspells : progress.Spells (shown front)) {c : Char}
    (hc : Scan.charBefore? source.chars source.chars.size (written front).length = some c) :
    ∃ passed remaining, glyph :: rest = passed ++ remaining ∧ passed ≠ [] ∧
      ReadsPlain (readConstruct source joined skipper nested source.chars.size
        (written front).length c progress memo) front passed := by
  obtain ⟨hglyph, hrest⟩ := hquiet
  obtain ⟨isEscaped, d⟩ := glyph
  rw [Scan.charBefore?_size, ← Nat.add_zero (written front).length, getElem?_written htext] at hc
  have hsingle {result : Progress × Nat × Memo}
      (hreads : ReadsPlain result front [⟨isEscaped, d⟩]) :
      ∃ passed remaining, ⟨isEscaped, d⟩ :: rest = passed ++ remaining ∧ passed ≠ [] ∧
        ReadsPlain result front passed :=
    ⟨[⟨isEscaped, d⟩], rest, rfl, List.cons_ne_nil _ _, hreads⟩
  cases isEscaped with
  | true =>
    cases hc
    exact hsingle (readsPlain_escaped (hglyph.escaped rfl) htext hspells)
  | false =>
    cases hc
    have hraw : ¬(⟨false, d⟩ : Glyph).isEscaped := Bool.false_ne_true
    obtain ⟨hspecial, hline⟩ := hglyph.ordinary hraw
    cases hends : endsText d with
    | false => exact readsPlain_run hends htext hspells
    | true =>
      refine hsingle ?_
      by_cases hmark : d ∈ ['!', '&', '_', '~']
      · simp only [List.mem_cons, List.not_mem_nil, or_false] at hmark
        rcases hmark with rfl | rfl | rfl | rfl
        · refine readsPlain_asText (readConstruct_exclamation fun hnext => ?_) hspells
          rw [Scan.charBefore?_size, getElem?_written htext 1, written_cons_raw,
            List.getElem?_cons_succ, ← List.head?_eq_getElem?] at hnext
          obtain ⟨-, more, rfl⟩ := head?_written (by decide) hnext
          exact absurd (hrest.1.ordinary Bool.false_ne_true).1 (by decide)
        · exact readsPlain_asText (readConstruct_ampersand
            (entity?_eq_none htext (hglyph.reference hraw rfl))) hspells
        · obtain ⟨hlast, hnext⟩ := hglyph.score hraw rfl
          refine readsPlain_underscore htext hlast ?_ hspells
          exact any_head?_written hrest hnext
        · obtain ⟨-, hnext⟩ := hglyph.tilde hraw rfl
          exact readsPlain_asText (readConstruct_tilde htext fun hhead =>
            hnext (head?_written (by decide) hhead).1) hspells
      · refine readsPlain_asText (readConstruct_ordinary hends hspecial ?_) hspells
        rw [List.mem_cons, not_or]
        exact ⟨hline, hmark⟩

end Step

theorem length_written_pos {glyphs : List Glyph} (hne : glyphs ≠ []) :
    0 < (written glyphs).length := by
  obtain ⟨⟨isEscaped, c⟩, glyphs, rfl⟩ := List.exists_cons_of_ne_nil hne
  cases isEscaped <;> exact Nat.succ_pos _

/-- Of escaped text only text is read. -/
theorem readLoop_of_areQuiet (left : Nat) {front rest : List Glyph}
    (htext : source.chars.toList = written front ++ written rest)
    (hquiet : Escape.AreQuiet (shown front).getLast? rest)
    (hspells : progress.Spells (shown front))
    (hleft : (written rest).length ≤ left) :
    let pieces := (readLoop source joined skipper nested source.chars.size left
      (written front).length progress memo).1
    (∀ piece ∈ pieces, piece.IsInert) ∧ pieces.flatMap Piece.plain = shown (front ++ rest) := by
  have hend {front : List Glyph} {progress : Progress} (hspells : progress.Spells (shown front)) :
      (∀ piece ∈ progress.flush.pieces.reverse, piece.IsInert) ∧
        progress.flush.pieces.reverse.flatMap Piece.plain = shown (front ++ []) := by
    obtain ⟨⟨hinert, hplain⟩, hpending⟩ := hspells.flush
    rw [hpending, List.reverse_nil, List.append_nil] at hplain
    exact ⟨fun piece hmem => hinert piece (List.mem_reverse.mp hmem),
      (List.append_nil front).symm ▸ hplain⟩
  induction left generalizing front rest progress memo with
  | zero =>
    cases rest with
    | nil => exact hend hspells
    | cons glyph rest =>
      exact absurd hleft (Nat.not_le_of_lt (length_written_pos (List.cons_ne_nil glyph rest)))
  | succ left ih =>
    rw [readLoop]
    cases rest with
    | nil =>
      have hover :
          Scan.charBefore? source.chars source.chars.size (written front).length = none := by
        rw [Scan.charBefore?_size, ← Nat.add_zero (written front).length, getElem?_written htext]
        rfl
      simp only [hover]
      exact hend hspells
    | cons glyph rest =>
      cases hc : Scan.charBefore? source.chars source.chars.size (written front).length with
      | none =>
        rw [Scan.charBefore?_size, Array.getElem?_eq_none_iff, ← Array.length_toList, htext,
          List.length_append] at hc
        have hpos := length_written_pos (List.cons_ne_nil glyph rest)
        omega
      | some c =>
        simp only
        obtain ⟨passed, remaining, hsplit, hne, hreads, hnext⟩ :=
          @readsPlain_readConstruct source joined skipper nested progress memo front rest glyph
            htext hquiet hspells c hc
        generalize readConstruct source joined skipper nested source.chars.size
          (written front).length c progress memo = result at hreads hnext ⊢
        obtain ⟨progress, next, memo⟩ := result
        rw [hsplit] at htext hquiet hleft ⊢
        rw [← Escape.shown_append] at hreads
        rw [written_append, ← List.append_assoc, ← written_append] at htext
        rw [written_append, List.length_append] at hleft
        have hpos := length_written_pos hne
        have hbehind := hquiet.of_append
        rw [← List.getLast?_append, ← Escape.shown_append] at hbehind
        have hrun := @ih progress memo _ remaining htext hbehind hreads (by omega)
        rw [List.append_assoc, written_append] at hrun
        simp only at hnext
        rw [hnext]
        exact hrun

end Reader

/-- Escaped text is read as the text that is meant. -/
theorem readInline_written (references : References) {glyphs : List Escape.Glyph}
    (hquiet : Escape.AreQuiet none glyphs) :
    readInline references (Escape.written glyphs) = textContent (Escape.shown glyphs) := by
  let source : Reader.Source := ⟨(Escape.written glyphs).toArray, references⟩
  have hread (skipper : Reader.Skipper) (nested : Reader.Nested) (memo : Reader.Memo) :
      balance true (Reader.readLoop source true skipper nested source.chars.size source.chars.size 0
        ⟨[], []⟩ memo).1 = textContent (Escape.shown glyphs) := by
    obtain ⟨hinert, hplain⟩ := @Reader.readLoop_of_areQuiet source true skipper nested ⟨[], []⟩ memo
      source.chars.size [] glyphs rfl hquiet
      ⟨fun piece hmem => absurd hmem List.not_mem_nil, rfl⟩ (Nat.le_of_eq rfl)
    exact (balance_of_isInert hinert).trans (congrArg textContent hplain)
  rw [readInline, Reader.readNested]
  simp only
  rw [Reader.maxDepth, Reader.piecesAt]
  exact hread _ _ _

end Markdown

end CrateReadme
