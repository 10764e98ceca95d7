import CrateReadme.Proofs.Source.Nesting
import CrateReadme.Proofs.Text.Decimal

/-!
# Spelling tokens

A piece of text spells some tokens if it is read as them wherever it stands, as long as what follows
does not run into it. Pieces are put together one after the other, and inside brackets. What a token
is apart from its place is its face; the nesting of tokens is seen in their faces.
-/

namespace CrateReadme.Source

/-! ### Words -/

/-- Whether a text is a word, with or without the mark of a raw identifier. -/
def isWordText : List Char → Bool
  | 'r' :: '#' :: c :: rest => isWordStart c && rest.all isWordPart
  | c :: rest => isWordStart c && rest.all isWordPart
  | [] => false

/-- Whether a word in front of a text ends there and does not become the mark of a literal. -/
def endsWord : List Char → Bool
  | [] => true
  | c :: _ => !isWordPart c && c != '"' && c != '\x27' && c != '#'

theorem isBlank_eq_false_of_isWordPart {c : Char} (hpart : isWordPart c) :
    Text.isBlank c = false := by
  rw [isWordPart, Bool.or_eq_true, decide_eq_true_eq] at hpart
  rcases hpart with rfl | hpart
  · decide
  · exact Text.isBlank_eq_false_of_isLetterOrNumeric hpart

theorem isBlank_eq_false_of_isWordStart {c : Char} (hstart : isWordStart c) :
    Text.isBlank c = false :=
  isBlank_eq_false_of_isWordPart (isWordPart_of_isWordStart hstart)

theorem head?_of_endsWord {rest : List Char} (hrest : endsWord rest) :
    ∀ c ∈ rest.head?, isWordPart c = false ∧ c ≠ '"' ∧ c ≠ '\x27' ∧ c ≠ '#' := by
  intro c hc
  cases rest with
  | nil => cases hc
  | cons d rest =>
      cases hc
      simpa [endsWord, and_assoc] using hrest

theorem takeWhile_word {text rest : List Char} (htext : text.all isWordPart)
    (hrest : endsWord rest) : (text ++ rest).takeWhile isWordPart = text :=
  (Text.takeWhile_append_of_head? (List.all_eq_true.mp htext)
    fun c hmem => (head?_of_endsWord hrest c hmem).1).1

theorem head?_word {text rest : List Char} (htext : text.all isWordPart) (hrest : endsWord rest) :
    ∀ c ∈ (text ++ rest).head?, c ≠ '"' ∧ c ≠ '\x27' ∧ c ≠ '#' := by
  intro c hc
  cases text with
  | nil => exact (head?_of_endsWord hrest c hc).2
  | cons d text =>
      cases hc
      rw [List.all_cons, Bool.and_eq_true] at htext
      have hpart := htext.1
      refine ⟨?_, ?_, ?_⟩ <;>
        · rintro rfl
          exact absurd hpart (by decide)

/-- No literal starts at a word that ends. -/
theorem literalMark?_word {c : Char} {text rest : List Char} (hstart : isWordStart c)
    (htext : text.all isWordPart) (hrest : endsWord rest) :
    literalMark? (c :: (text ++ rest)) = none := by
  rw [Option.eq_none_iff_forall_ne_some]
  intro mark hmark
  obtain ⟨opening, hopens, behind, hbehind⟩ := exists_opens_of_literalMark? hmark
  obtain ⟨letters, marks, rfl, hletters, hne, hmarks⟩ := hopens.exists_letters
  obtain ⟨first, marks, rfl⟩ := List.exists_cons_of_ne_nil hne
  have hfirst := hmarks first List.mem_cons_self
  have hparts : letters.all isWordPart := by
    simp only [List.mem_cons, List.not_mem_nil, or_false] at hletters
    rcases hletters with rfl | rfl | rfl | rfl | rfl | rfl <;> decide
  have hend : isWordPart first = false := by
    simp only [List.mem_cons, List.not_mem_nil, or_false] at hfirst
    rcases hfirst with rfl | rfl | rfl <;> decide
  have hword : ∀ d ∈ c :: text, isWordPart d :=
    List.forall_mem_cons.mpr ⟨isWordPart_of_isWordStart hstart, List.all_eq_true.mp htext⟩
  -- The letters of the opening and the word go up to the first character that is no part of one.
  have hrests : rest = first :: (marks ++ behind) := by
    have hopening : (letters ++ first :: (marks ++ behind)).dropWhile isWordPart =
        first :: (marks ++ behind) :=
      (Text.takeWhile_append_of_head? (List.all_eq_true.mp hparts)
        (by rintro _ ⟨⟩; exact hend)).2
    have hspelled : (c :: text ++ rest).dropWhile isWordPart = rest :=
      (Text.takeWhile_append_of_head? hword fun d hmem => (head?_of_endsWord hrest d hmem).1).2
    rw [← hspelled, ← hopening, List.cons_append, ← hbehind, List.append_assoc, List.cons_append]
  obtain ⟨-, hquote, htick, hhash⟩ := head?_of_endsWord hrest first (by rw [hrests]; rfl)
  simp [hquote, htick, hhash] at hfirst

/-- What starts like a word and is no literal is read as a word. -/
theorem nextStretch_word {index : Nat} {c : Char} {text rest : List Char} (hstart : isWordStart c)
    (hmark : literalMark? (c :: (text ++ rest)) = none)
    (hword : word (c :: (text ++ rest)) =
      { extra := text.length, token? := some (.word, c :: text, none) }) :
    nextStretch index c (text ++ rest) =
      .ok { extra := text.length, token? := some (.word, c :: text, none) } := by
  have hslash : '/' ≠ c := by
    rintro rfl
    exact absurd hstart (by decide)
  have hcomment (pattern : List Char) :
      Text.startsWith ('/' :: pattern) (c :: (text ++ rest)) = false := by
    rw [Text.startsWith, Text.after?, if_neg hslash]
    rfl
  simp only [nextStretch, isBlank_eq_false_of_isWordStart hstart, hcomment, hmark, hstart, hword,
    Bool.false_eq_true, if_false, if_true]

/-- The mark of a raw identifier in front of a word makes one. -/
theorem nextStretch_raw (index : Nat) {c : Char} {text rest : List Char} (hstart : isWordStart c)
    (htake : (c :: rest).takeWhile isWordPart = c :: text) :
    nextStretch index 'r' ('#' :: c :: rest) =
      .ok { extra := text.length + 2, token? := some (.word, 'r' :: '#' :: c :: text, none) } := by
  have hquote : c ≠ '"' := by
    rintro rfl
    exact absurd hstart (by decide)
  have hhash : c ≠ '#' := by
    rintro rfl
    exact absurd hstart (by decide)
  obtain ⟨behind, hbehind⟩ := List.takeWhile_prefix isWordPart
  rw [htake, List.cons_append, List.cons.injEq] at hbehind
  obtain ⟨-, rfl⟩ := hbehind
  change nextStretch index 'r' ('#' :: c :: text ++ behind) = _
  refine nextStretch_word rfl ?_ ?_
  · simp [literalMark?, rawMark?, hquote, hhash]
  · have hraw : rawMarkSize ('r' :: '#' :: c :: (text ++ behind)) = 2 := by
      rw [rawMarkSize, startsRaw, if_pos hstart]
    rw [word_eq]
    simp only [List.cons_append, hraw, List.drop_succ_cons, List.drop_zero, htake]
    simp [Nat.add_comm 2]

/-! ### Faces -/

/-- What a token is apart from its place: its class, its text and what it stands for. -/
abbrev Face := TokenClass × List Char × Option (List Char)

def Token.face (token : Token) : Face :=
  (token.cls, token.text, token.value)

namespace Face

abbrev word (text : List Char) : Face :=
  (.word, text, none)

abbrev mark (text : List Char) : Face :=
  (.punctuation, text, none)

def group (left right : Char) (inside : List Face) : List Face :=
  (.opening, [left], none) :: (inside ++ [(.closing, [right], none)])

end Face

theorem Token.eq_of_face {token : Token} {cls : TokenClass} {text : List Char}
    {value : Option (List Char)} (hface : token.face = (cls, text, value)) :
    ∃ start stop, token = ⟨cls, text, start, stop, value⟩ := by
  obtain ⟨tokenCls, tokenText, start, stop, tokenValue⟩ := token
  cases hface
  exact ⟨start, stop, rfl⟩

theorem Token.reads_of_face {token : Token} {cls : TokenClass} {text : List Char}
    {value : Option (List Char)} (hface : token.face = (cls, text, value)) (mark : String) :
    token.reads mark = decide (text = mark.toList) := by
  obtain ⟨start, stop, rfl⟩ := Token.eq_of_face hface
  rfl

/-- A token that is not a bracket makes a cell of its own. -/
theorem Token.cellsOf_of_face {token : Token} {cls : TokenClass} {text : List Char}
    {value : Option (List Char)} (hface : token.face = (cls, text, value))
    (hplain : cls ≠ .opening ∧ cls ≠ .closing) (rest : List Token) :
    cellsOf (token :: rest) = ⟨token, 1⟩ :: cellsOf rest := by
  obtain ⟨start, stop, rfl⟩ := Token.eq_of_face hface
  exact cellsOf_plain hplain.1 hplain.2 rest

/-- Wherever the text stands in front of something that it is apart from, it is read as tokens with
the given faces. -/
def Spells (apart : List Char → Prop) (text : List Char)
    (faces : List Face) : Prop :=
  ∀ index pending rest, apart rest →
    ∃ tokens, tokens.map Token.face = faces ∧
      Reads ⟨index + text.length, pending, rest⟩ ⟨index, pending, text ++ rest⟩ tokens

/-- The text may stand in front of anything. -/
def Anywhere (_ : List Char) : Prop :=
  True

namespace Spells

variable {apart farther : List Char → Prop} {text more : List Char}
  {faces others : List Face}

theorem nil (apart : List Char → Prop) : Spells apart [] [] :=
  fun _ _ _ _ => ⟨[], rfl, .done⟩

theorem mono (hspells : Spells apart text faces) (hapart : ∀ rest, farther rest → apart rest) :
    Spells farther text faces :=
  fun index pending rest hrest => hspells index pending rest (hapart rest hrest)

theorem append (hspells : Spells apart text faces) (hmore : Spells farther more others)
    (hapart : ∀ rest, farther rest → apart (more ++ rest)) :
    Spells farther (text ++ more) (faces ++ others) := by
  intro index pending rest hrest
  obtain ⟨front, hfront, hreads⟩ := hspells index pending (more ++ rest) (hapart rest hrest)
  obtain ⟨back, hback, hbehind⟩ := hmore (index + text.length) pending rest hrest
  refine ⟨front ++ back, by rw [List.map_append, hfront, hback], ?_⟩
  rw [List.append_assoc, List.length_append, ← Nat.add_assoc]
  exact hreads.trans hbehind

/-- One step of the reader spells one token, if it is not a bracket. -/
theorem of_nextStretch {c : Char} {cls : TokenClass} {value : Option (List Char)}
    (hnext : ∀ index rest, apart rest → nextStretch index c (text ++ rest) =
      .ok { extra := text.length, token? := some (cls, c :: text, value) })
    (hplain : cls ≠ .opening ∧ cls ≠ .closing) :
    Spells apart (c :: text) [(cls, c :: text, value)] := by
  intro index pending rest hrest
  have htrack : trackBrackets index pending cls c = .ok pending := by
    cases cls with
    | opening => exact absurd rfl hplain.1
    | closing => exact absurd rfl hplain.2
    | _ => rfl
  refine ⟨[⟨cls, c :: text, index, index + text.length + 1, value⟩], rfl,
    .token (hnext index rest hrest) rfl htrack ?_⟩
  simp only [List.drop_left]
  exact .done

theorem blank {c : Char} (hblank : Text.isBlank c) : Spells Anywhere [c] [] := by
  intro index pending rest _
  have hnext : nextStretch index c rest = .ok { extra := 0 } := by
    simp only [nextStretch, hblank, if_true]
  exact ⟨[], rfl, .skip hnext rfl .done⟩

/-- A word is spelled by itself, in front of what ends it. -/
theorem word (hword : isWordText text) : Spells (endsWord ·) text [.word text] := by
  unfold isWordText at hword
  split at hword
  · next c text =>
    rw [Bool.and_eq_true] at hword
    refine of_nextStretch (fun index rest hrest => ?_) (by decide)
    have hparts : (c :: text).all isWordPart := by
      rw [List.all_cons, isWordPart_of_isWordStart hword.1, hword.2]
      rfl
    exact nextStretch_raw index hword.1 (takeWhile_word hparts hrest)
  · next c text _ =>
    rw [Bool.and_eq_true] at hword
    refine of_nextStretch (fun index rest hrest => ?_) (by decide)
    have hparts : (c :: text).all isWordPart := by
      rw [List.all_cons, isWordPart_of_isWordStart hword.1, hword.2]
      rfl
    have htake := takeWhile_word hparts hrest
    refine nextStretch_word hword.1 (literalMark?_word hword.1 hword.2 hrest) ?_
    have hraw : rawMarkSize (c :: (text ++ rest)) = 0 := by
      rw [rawMarkSize, if_neg]
      intro hraw
      unfold startsRaw at hraw
      split at hraw
      · next heq =>
        rw [List.cons.injEq] at heq
        have hhead := head?_word hword.2 hrest '#' (by rw [heq.2]; rfl)
        exact hhead.2.2 rfl
      · cases hraw
    rw [word_eq]
    rw [List.cons_append] at htake
    simp only [hraw, List.drop_zero, htake]
    simp
  · cases hword

/-- Brackets around a spelled text spell a group. -/
theorem group {left right : Char} (hpartner : partner? left = some right)
    (hspells : Spells apart text faces) (hapart : ∀ rest, apart (right :: rest)) :
    Spells Anywhere (left :: (text ++ [right]))
      (Face.group left right faces) := by
  intro index pending rest _
  obtain ⟨tokens, htokens, hreads⟩ :=
    hspells (index + 1) ((left, index) :: pending) (right :: rest) (hapart rest)
  have hclosing : isClosing right := by
    unfold partner? at hpartner
    split at hpartner <;> cases hpartner <;> rfl
  have hlast : Reads ⟨index + 1 + text.length + 1, pending, rest⟩
      ⟨index + 1 + text.length, (left, index) :: pending, right :: rest⟩
      [⟨.closing, [right], index + 1 + text.length, index + 1 + text.length + 1, none⟩] :=
    .token (nextStretch_closing rest hclosing) rfl (by simp [trackBrackets, hpartner]) .done
  refine ⟨⟨.opening, [left], index, index + 1, none⟩ :: (tokens ++
    [⟨.closing, [right], index + 1 + text.length, index + 1 + text.length + 1, none⟩]), ?_, ?_⟩
  · rw [List.map_cons, List.map_append, htokens]
    rfl
  · have hplace : index + (left :: (text ++ [right])).length = index + 1 + text.length + 1 := by
      simp only [List.length_cons, List.length_append, List.length_nil]
      omega
    have htext : left :: (text ++ [right]) ++ rest = left :: (text ++ right :: rest) := by simp
    rw [hplace, htext]
    exact .token (nextStretch_opening _ (by rw [hpartner]; rfl)) rfl rfl (hreads.trans hlast)

end Spells

/-- A source that spells tokens, apart from its end, is accepted with these tokens. -/
theorem Spells.tokenize {apart : List Char → Prop} {code : List Char}
    {faces : List Face} (hspells : Spells apart code faces)
    (hend : apart []) (hshebang : shebangSize code = 0) :
    ∃ tokens, tokenize code = .ok tokens ∧ tokens.map Token.face = faces := by
  obtain ⟨tokens, htokens, hreads⟩ := hspells 0 [] [] hend
  refine ⟨tokens, ?_, htokens⟩
  have hfrom := hreads.tokensFrom_eq (show tokensFrom _ [] [] = .ok [] by rw [tokensFrom])
  rw [List.append_nil, List.append_nil] at hfrom
  rw [Source.tokenize, hshebang, List.drop_zero]
  exact hfrom

/-! ### Texts that can be read on their own -/

/-- Brackets are tracked in the same way inside others. -/
theorem trackBrackets_append {index : Nat} (other : Nat) {pending inner copy : List (Char × Nat)}
    {cls : TokenClass} {c : Char} (outer : List (Char × Nat))
    (htrack : trackBrackets index pending cls c = .ok inner)
    (hcopy : copy.map Prod.fst = pending.map Prod.fst) :
    ∃ inner', trackBrackets other (copy ++ outer) cls c = .ok (inner' ++ outer) ∧
      inner'.map Prod.fst = inner.map Prod.fst := by
  cases cls with
  | opening =>
      cases htrack
      exact ⟨(c, other) :: copy, rfl, by rw [List.map_cons, List.map_cons, hcopy]⟩
  | closing =>
      obtain ⟨left, place, rfl, hpartner⟩ := exists_pending_of_trackBrackets htrack
      rw [List.map_cons, List.map_eq_cons_iff] at hcopy
      obtain ⟨⟨copyLeft, copyPlace⟩, copy, rfl, hleft, hrest⟩ := hcopy
      cases hleft
      exact ⟨copy, by simp [trackBrackets, hpartner], hrest⟩
  | _ =>
      cases htrack
      exact ⟨copy, rfl, hcopy⟩

/-- What was read can be read elsewhere, in front of another line and with other brackets around it.
-/
theorem Reads.lift {last index : Nat} {pending : List (Char × Nat)} {input : List Char}
    {tokens : List Token} (hreads : Reads ⟨last, [], []⟩ ⟨index, pending, input⟩ tokens)
    (other : Nat) (copy outer : List (Char × Nat)) (more : List Char)
    (hcopy : copy.map Prod.fst = pending.map Prod.fst) :
    ∃ copies, copies.map Token.face = tokens.map Token.face ∧
      Reads ⟨other + input.length, outer, '\n' :: more⟩
        ⟨other, copy ++ outer, input ++ '\n' :: more⟩ copies := by
  generalize hbefore : (⟨index, pending, input⟩ : Position) = before at hreads
  induction hreads generalizing index pending input other copy with
  | done =>
      cases hbefore
      rw [List.map_nil, List.map_eq_nil_iff] at hcopy
      rw [hcopy]
      exact ⟨[], rfl, .done⟩
  | @skip _ _ c rest stretch _ hnext hnone _ ih =>
      cases hbefore
      have hextra := extra_le_of_nextStretch hnext
      obtain ⟨copies, hcopies, hreads⟩ := ih (other + stretch.extra + 1) copy hcopy rfl
      refine ⟨copies, hcopies, .skip (nextStretch_append other more hnext) hnone ?_⟩
      have hplace : other + stretch.extra + 1 + (rest.drop stretch.extra).length =
          other + (c :: rest).length := by
        rw [List.length_drop, List.length_cons]
        omega
      rw [hplace] at hreads
      rw [List.append_eq, List.drop_append_of_le_length hextra]
      exact hreads
  | @token index _ _ c rest stretch cls text value _ hnext hsome htrack _ ih =>
      cases hbefore
      have hextra := extra_le_of_nextStretch hnext
      obtain ⟨inner, hinner, hsame⟩ := trackBrackets_append other outer htrack hcopy
      obtain ⟨copies, hcopies, hreads⟩ := ih (other + stretch.extra + 1) inner hsame rfl
      refine ⟨⟨cls, text, other, other + stretch.extra + 1, value⟩ :: copies, ?_,
        .token (nextStretch_append other more hnext) hsome hinner ?_⟩
      · rw [List.map_cons, List.map_cons, hcopies]
        rfl
      · have hplace : other + stretch.extra + 1 + (rest.drop stretch.extra).length =
            other + (c :: rest).length := by
          rw [List.length_drop, List.length_cons]
          omega
        rw [hplace] at hreads
        rw [List.append_eq, List.drop_append_of_le_length hextra]
        exact hreads

/-- A text that is accepted on its own spells its tokens, as long as a line ends behind it. -/
theorem Spells.of_tokensFrom {text : List Char} {tokens : List Token}
    (htokens : tokensFrom 0 [] text = .ok tokens) :
    Spells Anywhere (text ++ ['\n']) (tokens.map Token.face) := by
  have hline : Spells (fun rest => ∃ more, rest = '\n' :: more) text (tokens.map Token.face) := by
    rintro index pending rest ⟨more, rfl⟩
    have hreads := reads_of_tokensFrom htokens
    exact hreads.lift index [] pending more rfl
  have hboth := hline.append (Spells.blank (c := '\n') rfl) (fun rest _ => ⟨rest, rfl⟩)
  rwa [List.append_nil] at hboth

/-! ### Nesting by faces -/

theorem Token.reads_of_face_eq {token other : Token} (hface : token.face = other.face)
    (text : String) : token.reads text = other.reads text := by
  simp only [Token.face, Prod.mk.injEq] at hface
  rw [Token.reads, Token.reads, hface.2.1]

/-- Tokens with the same faces are nested in the same way. -/
theorem Nested.of_faces_eq {stops : List String} {tokens others : List Token}
    (hnested : Nested stops tokens) (hfaces : others.map Token.face = tokens.map Token.face) :
    Nested stops others := by
  induction hnested generalizing others with
  | nil =>
      rw [List.map_nil, List.map_eq_nil_iff] at hfaces
      rw [hfaces]
      exact .nil
  | plain hopening hclosing hstops _ ih =>
      rw [List.map_cons, List.map_eq_cons_iff] at hfaces
      obtain ⟨other, rest, rfl, hface, hrest⟩ := hfaces
      have hcls : other.cls = _ := congrArg Prod.fst hface
      refine .plain ?_ ?_ (fun stop hstop => ?_) (ih hrest)
      · rwa [hcls]
      · rwa [hcls]
      · rw [Token.reads_of_face_eq hface]
        exact hstops stop hstop
  | group hpairs hstops _ _ ihinner ihrest =>
      rw [List.map_cons, List.map_eq_cons_iff] at hfaces
      obtain ⟨opening, behind, rfl, hopening, hbehind⟩ := hfaces
      rw [List.map_append, List.map_cons, List.map_eq_append_iff] at hbehind
      obtain ⟨inner, tail, rfl, hinner, htail⟩ := hbehind
      rw [List.map_eq_cons_iff] at htail
      obtain ⟨closing, rest, rfl, hclosing, hrest⟩ := htail
      obtain ⟨left, right, hleft, hright, hpartner⟩ := hpairs.partner
      simp only [Token.face, Prod.mk.injEq] at hopening hclosing
      refine .group ⟨?_, ?_, left, right, ?_, ?_, hpartner⟩ (fun stop hstop => ?_)
        (ihinner hinner) (ihrest hrest)
      · rw [hopening.1, hpairs.cls_opening]
      · rw [hclosing.1, hpairs.cls_closing]
      · rw [hopening.2.1, hleft]
      · rw [hclosing.2.1, hright]
      · rw [Token.reads, hopening.2.1]
        exact hstops stop hstop

/-- Tokens that are spelled are well nested. -/
theorem Spells.nested {apart : List Char → Prop} {text : List Char} {faces : List Face}
    (hspells : Spells apart text faces) (hend : apart []) {tokens : List Token}
    (htokens : tokens.map Token.face = faces) : Nested [] tokens := by
  obtain ⟨copies, hcopies, hreads⟩ := hspells 0 [] [] hend
  have hnested : Nested [] copies := by
    cases hreads.closes with
    | done hnested => exact hnested
  exact hnested.of_faces_eq (htokens.trans hcopies.symm)

end CrateReadme.Source
