import CrateReadme.Proofs.Source.Nesting
import Mathlib.Data.List.TakeWhile

/-!
# The tokens divide the source

Every character of an accepted source belongs to one token or to the layout around the tokens: white
space and comments that document nothing. The reader takes the source piece by piece. A piece that
gives no token is layout, and the text of any other piece is the text of its token. So the pieces,
put together again, are the source.
-/

namespace CrateReadme.Source

/-! ### Layout -/

/-- The text runs to the end of the outermost of `depth` block comments that are open at its start,
and no further. -/
inductive ClosesComments : (depth : Nat) → List Char → Prop
  | last : ClosesComments 1 ['*', '/']
  | closes {depth : Nat} {text : List Char} (htext : ClosesComments (depth + 1) text) :
      ClosesComments (depth + 2) ('*' :: '/' :: text)
  | opens {depth : Nat} {text : List Char} (htext : ClosesComments (depth + 1) text) :
      ClosesComments depth ('/' :: '*' :: text)
  | inside {depth : Nat} {c : Char} {text : List Char} (hopens : ¬['/', '*'] <+: c :: text)
      (hcloses : ¬['*', '/'] <+: c :: text) (htext : ClosesComments depth text) :
      ClosesComments depth (c :: text)

def IsBlockComment (text : List Char) : Prop :=
  ∃ inside, text = '/' :: '*' :: inside ∧ ClosesComments 1 inside

/-- The block comment documents something. -/
def IsBlockDoc (comment : List Char) : Prop :=
  ['/', '*', '!'] <+: comment ∨
    (['/', '*', '*'] <+: comment ∧ ¬['/', '*', '*', '*'] <+: comment ∧
      comment ≠ ['/', '*', '*', '/'])

/-- The line comment documents something. -/
def IsLineDoc (comment : List Char) : Prop :=
  ['/', '/', '!'] <+: comment ∨
    (['/', '/', '/'] <+: comment ∧ ¬['/', '/', '/', '/'] <+: comment)

/-- The line ends where `rest` follows it. -/
def EndsLine (line rest : List Char) : Prop :=
  '\n' ∉ line ∧ ∀ c ∈ rest.head?, c = '\n'

/-- In front of `rest`, the text consists of white space and of complete comments that document
nothing. -/
inductive IsLayout (rest : List Char) : List Char → Prop
  | nil : IsLayout rest []
  | blank {c : Char} {text : List Char} (hblank : Text.isBlank c) (htext : IsLayout rest text) :
      IsLayout rest (c :: text)
  | lineComment {comment text : List Char} (hslashes : ['/', '/'] <+: comment)
      (hline : EndsLine comment (text ++ rest)) (hdoc : ¬IsLineDoc comment)
      (htext : IsLayout rest text) : IsLayout rest (comment ++ text)
  | blockComment {comment text : List Char} (hcomment : IsBlockComment comment)
      (hdoc : ¬IsBlockDoc comment) (htext : IsLayout rest text) : IsLayout rest (comment ++ text)

/-- An interpreter line in front of `rest`: it begins with `#!` and not with `#![`. -/
def IsInterpreterLine (line rest : List Char) : Prop :=
  ['#', '!'] <+: line ∧ ¬['#', '!', '['] <+: line ∧ EndsLine line rest

/-! ### Division -/

/-- The text of a token that covers some characters: these characters, but for a line comment
without the carriage returns at its end. -/
def coveredText (covered : List Char) : List Char :=
  if ['/', '/'] <+: covered then Text.trimEnd (· = '\r') covered else covered

/-- From `first` on, the tokens and the layout between them make up the source: every token covers
some characters and has their text, and what stands in front of the first token, between two tokens
and behind the last one is layout. -/
inductive Divides (code : List Char) : (first : Nat) → List Token → Prop
  | nil {first : Nat} (hfirst : first ≤ code.length)
      (hlayout : IsLayout [] (code.drop first)) : Divides code first []
  | cons {first : Nat} {token : Token} {tokens : List Token} (hfirst : first ≤ token.start)
      (hlayout : IsLayout (code.drop token.start) (code.extract first token.start))
      (hcovers : token.start < token.stop) (hstop : token.stop ≤ code.length)
      (htext : token.text = coveredText (code.extract token.start token.stop))
      (hrest : Divides code token.stop tokens) : Divides code first (token :: tokens)

/-! ### Prefixes -/

theorem prefix_of_startsWith {pattern text : List Char} (hstarts : Text.startsWith pattern text) :
    pattern <+: text := by
  obtain ⟨rest, hafter⟩ := Option.isSome_iff_exists.mp hstarts
  exact ⟨rest, (Text.after?_eq_some_iff.mp hafter).symm⟩

theorem startsWith_iff_isPrefixOf {pattern text : List Char} :
    Text.startsWith pattern text ↔ pattern <+: text := by
  refine ⟨prefix_of_startsWith, ?_⟩
  rintro ⟨rest, rfl⟩
  rw [Text.startsWith, Text.after?_eq_some_iff.mpr rfl]
  rfl

/-- What stands behind the characters that a trimmed text ends with does not matter for a pattern
that ends with another character. -/
theorem prefix_trimEnd_iff {drop : Char → Bool} {front text : List Char} {last : Char}
    (hlast : drop last = false) :
    front ++ [last] <+: Text.trimEnd drop text ↔ front ++ [last] <+: text := by
  have htrim : Text.trimEnd drop text <+: text := by
    have hsuffix : text.reverse.dropWhile drop <:+ text.reverse := List.dropWhile_suffix drop
    rwa [← List.reverse_prefix, List.reverse_reverse] at hsuffix
  refine ⟨fun hfront => hfront.trans htrim, ?_⟩
  rintro ⟨rest, rfl⟩
  rw [Text.trimEnd, List.reverse_append, List.reverse_append, List.dropWhile_append]
  split
  · rw [List.reverse_singleton, List.singleton_append, List.dropWhile_cons_of_neg (by simp [hlast])]
    simp
  · rw [List.reverse_append]
    simp

/-! ### Pieces of a source -/

theorem endsLine_takeWhile (input : List Char) :
    EndsLine (input.takeWhile (· ≠ '\n')) (input.dropWhile (· ≠ '\n')) := by
  refine ⟨fun hmem => ?_, fun c hc => ?_⟩
  · have hkept := List.mem_takeWhile_imp hmem
    simp at hkept
  · have hfirst := List.head?_dropWhile_not (fun d => decide (d ≠ '\n')) input
    rw [hc] at hfirst
    simpa using hfirst

theorem size_lineComment {input : List Char} (hslashes : ['/', '/'] <+: input) :
    (lineComment input).size = (input.takeWhile (· ≠ '\n')).length := by
  obtain ⟨rest, rfl⟩ := hslashes
  simp [Stretch.size, lineComment]

theorem text_lineComment {input : List Char} {token : TokenClass × List Char × Option (List Char)}
    (hsome : (lineComment input).token? = some token) :
    token.2.1 = Text.trimEnd (· = '\r') (input.takeWhile (· ≠ '\n')) := by
  simp only [lineComment] at hsome
  split at hsome
  · cases hsome
    rfl
  · cases hsome
  · cases hsome
    rfl
  · cases hsome

/-- A line comment without a token is no documentation. -/
theorem not_isLineDoc_of_lineComment {input : List Char}
    (hnone : (lineComment input).token? = none) :
    ¬IsLineDoc (input.takeWhile (· ≠ '\n')) := by
  intro hdoc
  simp only [lineComment] at hnone
  generalize input.takeWhile (· ≠ '\n') = line at hnone hdoc
  have htrim (front : List Char) (last : Char) (hlast : last ≠ '\r') :
      front ++ [last] <+: Text.trimEnd (· = '\r') line ↔ front ++ [last] <+: line :=
    prefix_trimEnd_iff (by simpa using hlast)
  rcases hdoc with hinner | ⟨houter, hfour⟩
  · obtain ⟨value, hvalue⟩ := (htrim ['/', '/'] '!' (by decide)).mpr hinner
    rw [← hvalue] at hnone
    cases hnone
  · obtain ⟨value, hvalue⟩ := (htrim ['/', '/'] '/' (by decide)).mpr houter
    have hfour' := mt (htrim ['/', '/', '/'] '/' (by decide)).mp hfour
    rw [← hvalue] at hnone hfour'
    cases value with
    | nil => cases hnone
    | cons c value =>
        by_cases hc : c = '/'
        · subst hc
          exact hfour' ⟨value, rfl⟩
        · simp [hc] at hnone

/-- What is left of a block comment after its first characters is closed behind the characters that
are counted. -/
theorem closesComments_of_commentSize? {depth size : Nat} {text : List Char} (hdepth : 1 ≤ depth)
    (hsize : commentSize? depth text = some size) : ClosesComments depth (text.take size) := by
  fun_induction commentSize? depth text generalizing size with
  | case1 => cases hsize
  | case2 depth rest ih =>
      obtain ⟨inner, hinner, rfl⟩ := Option.map_eq_some_iff.mp hsize
      exact .opens (ih (by omega) hinner)
  | case3 depth rest hlast =>
      cases hsize
      obtain rfl : depth = 1 := Nat.le_antisymm hlast hdepth
      exact .last
  | case4 depth rest hlast ih =>
      obtain ⟨inner, hinner, rfl⟩ := Option.map_eq_some_iff.mp hsize
      obtain ⟨outer, rfl⟩ : ∃ outer, depth = outer + 2 := ⟨depth - 2, by omega⟩
      exact .closes (ih (by omega) hinner)
  | case5 depth c rest hopens hcloses ih =>
      obtain ⟨inner, hinner, rfl⟩ := Option.map_eq_some_iff.mp hsize
      have hinit : c :: rest.take inner <+: c :: rest := List.take_prefix (inner + 1) (c :: rest)
      refine .inside (fun hmark => ?_) (fun hmark => ?_) (ih hdepth hinner)
      · obtain ⟨more, hmore⟩ := hmark.trans hinit
        cases hmore
        exact hopens more rfl rfl
      · obtain ⟨more, hmore⟩ := hmark.trans hinit
        cases hmore
        exact hcloses more rfl rfl

theorem isBlockComment_of_commentSize? {size : Nat} {input : List Char}
    (hopening : ['/', '*'] <+: input) (hsize : commentSize? 0 input = some size) :
    IsBlockComment (input.take size) := by
  obtain ⟨inside, rfl⟩ := hopening
  obtain ⟨inner, hinner, rfl⟩ := Option.map_eq_some_iff.mp hsize
  exact ⟨inside.take inner, rfl, closesComments_of_commentSize? (by omega) hinner⟩

theorem text_blockComment {size : Nat} {input : List Char}
    {token : TokenClass × List Char × Option (List Char)}
    (hsome : (blockComment size input).token? = some token) : token.2.1 = input.take size := by
  simp only [blockComment] at hsome
  split at hsome
  · cases hsome
    rfl
  · cases hsome
  · cases hsome
  · cases hsome
    rfl
  · cases hsome

/-- A block comment without a token is no documentation. -/
theorem not_isBlockDoc_of_blockComment {size : Nat} {input : List Char}
    (hnone : (blockComment size input).token? = none) : ¬IsBlockDoc (input.take size) := by
  simp only [blockComment] at hnone
  generalize input.take size = comment at hnone
  rintro (⟨value, rfl⟩ | ⟨⟨value, rfl⟩, hthree, hempty⟩)
  · cases hnone
  · cases value with
    | nil => cases hnone
    | cons c value =>
        by_cases hc : c = '*'
        · subst hc
          exact hthree ⟨value, rfl⟩
        · by_cases hempty' : c = '/' ∧ value = []
          · obtain ⟨rfl, rfl⟩ := hempty'
            exact hempty rfl
          · simp_all

theorem size_blockComment {size : Nat} {input : List Char} (hsize : 1 ≤ size) :
    (blockComment size input).size = size :=
  Nat.sub_add_cancel hsize

/-- A literal that is read gives one token with the text that was read. -/
theorem token?_readLiteral {index : Nat} {mark : LiteralMark} {input : List Char}
    {stretch : Stretch} (hread : readLiteral index mark input = .ok stretch) :
    ∃ cls value, (cls = .literal ∨ cls = .lifetime) ∧
      stretch.token? = some (cls, input.take stretch.size, value) := by
  cases mark with
  | raw letters hashes =>
      simp only [readLiteral] at hread
      split at hread
      · cases hread
      · next value _ _ =>
        cases hread
        refine ⟨.literal, some value, Or.inl rfl, ?_⟩
        rw [Stretch.size, Nat.sub_add_cancel (by omega)]
  | quoted letters quote =>
      simp only [readLiteral] at hread
      split at hread
      · cases hread
        refine ⟨.lifetime, none, Or.inr rfl, ?_⟩
        rw [Stretch.size, Nat.sub_add_cancel (by omega)]
      · split at hread
        · cases hread
        · next value _ _ =>
          cases hread
          refine ⟨.literal, some value, Or.inl rfl, ?_⟩
          rw [Stretch.size, Nat.sub_add_cancel (by omega)]

theorem size_word {c : Char} (rest : List Char) (hstart : isWordStart c) :
    (word (c :: rest)).size = rawMarkSize (c :: rest) +
      (((c :: rest).drop (rawMarkSize (c :: rest))).takeWhile isWordPart).length := by
  rw [word_eq, Stretch.size, Nat.sub_add_cancel]
  rw [rawMarkSize]
  split
  · omega
  · simp [isWordPart_of_isWordStart hstart]

theorem token?_word {c : Char} (rest : List Char) (hstart : isWordStart c) :
    (word (c :: rest)).token? = some (.word, (c :: rest).take (word (c :: rest)).size, none) := by
  rw [size_word rest hstart, word_eq]

theorem size_number {c : Char} (rest : List Char) (hdigit : c.isDigit) :
    (number (c :: rest)).size = ((c :: rest).takeWhile isNumberPart).length +
      fractionSize ((c :: rest).drop ((c :: rest).takeWhile isNumberPart).length) := by
  have hpart : isNumberPart c := by simp [isNumberPart, Char.isAlphanum, hdigit]
  rw [number_eq, Stretch.size, Nat.sub_add_cancel]
  simp only [List.takeWhile_cons, hpart, if_true, List.length_cons]
  omega

theorem token?_number {c : Char} (rest : List Char) (hdigit : c.isDigit) :
    (number (c :: rest)).token? =
      some (.literal, (c :: rest).take (number (c :: rest)).size, none) := by
  rw [size_number rest hdigit, number_eq]

/-- A piece that is neither white space nor a comment gives a token with its text. -/
theorem token?_of_nextStretch {index : Nat} {c : Char} {rest : List Char} {stretch : Stretch}
    (hnext : nextStretch index c rest = .ok stretch) (hblank : ¬Text.isBlank c)
    (hline : ¬Text.startsWith ['/', '/'] (c :: rest))
    (hblock : ¬Text.startsWith ['/', '*'] (c :: rest)) :
    ∃ cls value, stretch.token? = some (cls, (c :: rest).take stretch.size, value) := by
  cases isStep_of_nextStretch hnext with
  | blank hc => exact absurd hc hblank
  | lineComment hmark => exact absurd hmark hline
  | blockComment hmark => exact absurd hmark hblock
  | literal hread =>
      obtain ⟨cls, value, -, htoken⟩ := token?_readLiteral hread
      exact ⟨cls, value, htoken⟩
  | word hstart => exact ⟨_, _, token?_word rest hstart⟩
  | number hdigit => exact ⟨_, _, token?_number rest hdigit⟩
  | colons hmark =>
      obtain ⟨more, hmore⟩ := prefix_of_startsWith hmark
      rw [← hmore]
      exact ⟨_, _, rfl⟩
  | opening | closing | mark => exact ⟨_, _, rfl⟩

/-- A line comment at the start of a text, up to the end of the line. -/
theorem take_size_lineComment {input : List Char} (hslashes : ['/', '/'] <+: input) :
    input.take (lineComment input).size = input.takeWhile (· ≠ '\n') ∧
      ['/', '/'] <+: input.takeWhile (· ≠ '\n') ∧
      EndsLine (input.takeWhile (· ≠ '\n')) (input.drop (lineComment input).size) := by
  rw [size_lineComment hslashes, take_length_takeWhile, drop_length_takeWhile]
  refine ⟨rfl, ?_, endsLine_takeWhile input⟩
  obtain ⟨more, rfl⟩ := hslashes
  exact ⟨more.takeWhile (· ≠ '\n'), by simp⟩

/-- The text of a token is the text of the piece that gives it. -/
theorem text_of_nextStretch {index : Nat} {c : Char} {rest : List Char} {stretch : Stretch}
    (hnext : nextStretch index c rest = .ok stretch)
    {token : TokenClass × List Char × Option (List Char)} (hsome : stretch.token? = some token) :
    token.2.1 = coveredText ((c :: rest).take stretch.size) := by
  by_cases hblank : Text.isBlank c
  · simp only [nextStretch, if_pos hblank] at hnext
    cases hnext
    cases hsome
  by_cases hline : Text.startsWith ['/', '/'] (c :: rest)
  · simp only [nextStretch, if_neg hblank, if_pos hline] at hnext
    cases hnext
    obtain ⟨htake, hslashes, -⟩ := take_size_lineComment (prefix_of_startsWith hline)
    rw [htake, coveredText, if_pos hslashes, text_lineComment hsome]
  have hplain : ¬['/', '/'] <+: (c :: rest).take stretch.size := by
    intro hslashes
    exact hline (startsWith_iff_isPrefixOf.mpr (hslashes.trans (List.take_prefix _ _)))
  rw [coveredText, if_neg hplain]
  by_cases hblock : Text.startsWith ['/', '*'] (c :: rest)
  · simp only [nextStretch, if_neg hblank, if_neg hline, if_pos hblock] at hnext
    split at hnext
    · cases hnext
    · next size hsize =>
      cases hnext
      rw [text_blockComment hsome, size_blockComment (commentSize?_append hsize).1]
  · obtain ⟨cls, value, htoken⟩ := token?_of_nextStretch hnext hblank hline hblock
    rw [htoken] at hsome
    cases hsome
    rfl

/-- A piece that gives no token is layout in front of layout. -/
theorem isLayout_of_nextStretch {index : Nat} {c : Char} {rest : List Char} {stretch : Stretch}
    (hnext : nextStretch index c rest = .ok stretch) (hnone : stretch.token? = none)
    {layout more : List Char} (hrest : rest.drop stretch.extra = layout ++ more)
    (hlayout : IsLayout more layout) :
    IsLayout more ((c :: rest).take stretch.size ++ layout) := by
  by_cases hblank : Text.isBlank c
  · simp only [nextStretch, if_pos hblank] at hnext
    cases hnext
    exact .blank hblank hlayout
  by_cases hline : Text.startsWith ['/', '/'] (c :: rest)
  · simp only [nextStretch, if_neg hblank, if_pos hline] at hnext
    cases hnext
    obtain ⟨htake, hslashes, hends⟩ := take_size_lineComment (prefix_of_startsWith hline)
    have hdrop : (c :: rest).drop (lineComment (c :: rest)).size = layout ++ more := hrest
    rw [hdrop] at hends
    rw [htake]
    exact .lineComment hslashes hends (not_isLineDoc_of_lineComment hnone) hlayout
  by_cases hblock : Text.startsWith ['/', '*'] (c :: rest)
  · simp only [nextStretch, if_neg hblank, if_neg hline, if_pos hblock] at hnext
    split at hnext
    · cases hnext
    · next size hsize =>
      cases hnext
      rw [size_blockComment (commentSize?_append hsize).1]
      exact .blockComment (isBlockComment_of_commentSize? (prefix_of_startsWith hblock) hsize)
        (not_isBlockDoc_of_blockComment hnone) hlayout
  · obtain ⟨cls, value, htoken⟩ := token?_of_nextStretch hnext hblank hline hblock
    rw [hnone] at htoken
    cases htoken

/-! ### The whole source -/

theorem Divides.first_le {code : List Char} {first : Nat} {tokens : List Token}
    (hdivides : Divides code first tokens) : first ≤ code.length := by
  induction hdivides with
  | nil hfirst => exact hfirst
  | cons hfirst _ hcovers hstop => omega

theorem extract_append_extract {code : List Char} {first middle stop : Nat}
    (hfirst : first ≤ middle) (hmiddle : middle ≤ stop) :
    code.extract first middle ++ code.extract middle stop = code.extract first stop := by
  obtain ⟨front, rfl⟩ := Nat.exists_eq_add_of_le hfirst
  obtain ⟨back, rfl⟩ := Nat.exists_eq_add_of_le hmiddle
  simp only [List.extract_eq_take_drop, Nat.add_sub_cancel_left]
  rw [Nat.add_assoc, Nat.add_sub_cancel_left, List.take_add, List.drop_drop]

theorem extract_append_drop {code : List Char} {first middle : Nat} (hfirst : first ≤ middle) :
    code.extract first middle ++ code.drop middle = code.drop first := by
  obtain ⟨front, rfl⟩ := Nat.exists_eq_add_of_le hfirst
  rw [List.extract_eq_take_drop, Nat.add_sub_cancel_left, ← List.drop_drop,
    List.take_append_drop]

/-- A piece of layout in front of a divided part of the source belongs to the layout there. -/
theorem Divides.skip {code : List Char} {first next : Nat} {tokens : List Token}
    (hdivides : Divides code next tokens) (hnext : first ≤ next)
    (hpiece : ∀ layout more, code.drop next = layout ++ more → IsLayout more layout →
      IsLayout more (code.extract first next ++ layout)) :
    Divides code first tokens := by
  cases hdivides with
  | nil hfirst hlayout =>
      refine .nil (Nat.le_trans hnext hfirst) ?_
      rw [← extract_append_drop hnext]
      exact hpiece _ [] (List.append_nil _).symm hlayout
  | cons hfirst hlayout hcovers hstop htext hrest =>
      refine .cons (Nat.le_trans hnext hfirst) ?_ hcovers hstop htext hrest
      rw [← extract_append_extract hnext hfirst]
      exact hpiece _ _ (extract_append_drop hfirst).symm hlayout

/-- What is read up to the end of the source divides it. -/
theorem Reads.divides {code : List Char} {index : Nat} {pending : List (Char × Nat)}
    {input : List Char} {tokens : List Token}
    (hreads : Reads ⟨code.length, [], []⟩ ⟨index, pending, input⟩ tokens)
    (hinput : code.drop index = input) : Divides code index tokens := by
  generalize hbefore : (⟨index, pending, input⟩ : Position) = before at hreads
  -- The piece in front of what is still to be read is a slice of the source.
  have hpiece {c : Char} {rest : List Char} {stretch : Stretch} {index : Nat}
      (hinput : code.drop index = c :: rest) :
      code.extract index (index + stretch.extra + 1) = (c :: rest).take stretch.size ∧
        code.drop (index + stretch.extra + 1) = rest.drop stretch.extra := by
    have hsize : index + stretch.extra + 1 - index = stretch.size := by
      rw [Stretch.size]
      omega
    rw [List.extract_eq_take_drop, hsize, hinput, Nat.add_assoc, ← List.drop_drop, hinput]
    exact ⟨rfl, List.drop_succ_cons⟩
  induction hreads generalizing index pending input with
  | done =>
      cases hbefore
      refine .nil (Nat.le_refl _) ?_
      rw [List.drop_length]
      exact .nil
  | skip hnext hnone _ ih =>
      cases hbefore
      obtain ⟨hslice, hdrop⟩ := hpiece hinput
      refine (ih hdrop rfl).skip (by omega) fun layout more hrest hlayout => ?_
      rw [hslice]
      exact isLayout_of_nextStretch hnext hnone (hdrop.symm.trans hrest) hlayout
  | @token index _ _ _ _ stretch _ _ _ _ hnext hsome _ _ ih =>
      cases hbefore
      obtain ⟨hslice, hdrop⟩ := hpiece hinput
      have hrest := ih hdrop rfl
      refine .cons (Nat.le_refl _) ?_ (by simp only; omega) hrest.first_le ?_ hrest
      · rw [List.extract_eq_take_drop, Nat.sub_self, List.take_zero]
        exact .nil
      · rw [hslice]
        exact text_of_nextStretch hnext hsome

/-- An interpreter line is passed over at the very start of a source. -/
theorem isInterpreterLine_of_shebangSize {code : List Char} (hsize : shebangSize code ≠ 0) :
    IsInterpreterLine (code.take (shebangSize code)) (code.drop (shebangSize code)) := by
  unfold shebangSize at hsize ⊢
  split at hsize
  · exact absurd rfl hsize
  · next rest hbracket =>
    rw [take_length_takeWhile, drop_length_takeWhile]
    refine ⟨⟨rest.takeWhile (· ≠ '\n'), by simp⟩, ?_, endsLine_takeWhile _⟩
    intro hmark
    obtain ⟨more, hmore⟩ := hmark.trans (List.takeWhile_prefix _)
    cases hmore
    exact hbracket more rfl
  · exact absurd rfl hsize

/-- The tokens of an accepted source divide it. They stand in order, cover some characters each and
have the text of these characters; all that is left over is white space and complete comments that
document nothing, and at most one interpreter line at the very start. -/
theorem divides_of_tokenize {code : List Char} {tokens : List Token}
    (htokens : tokenize code = .ok tokens) :
    ∃ first, Divides code first tokens ∧
      (first = 0 ∨ IsInterpreterLine (code.take first) (code.drop first)) := by
  refine ⟨shebangSize code, (reads_of_tokenize htokens).divides rfl, ?_⟩
  by_cases hsize : shebangSize code = 0
  · exact Or.inl hsize
  · exact Or.inr (isInterpreterLine_of_shebangSize hsize)

/-- Nested comments, a lifetime, a raw string, a number and a documentation line with a carriage
return at its end, behind an interpreter line. -/
theorem divides_of_tokenize_comments :
    let code := "#!/run\n/* a /* b */ */ 'a r#\"x\"# // c\n1.5::b/// d\r".toList
    ∃ tokens, tokenize code = .ok tokens ∧ tokens.length = 6 ∧
      ∃ first, Divides code first tokens ∧
        (first = 0 ∨ IsInterpreterLine (code.take first) (code.drop first)) := by
  intro code
  have hlength : (tokenize code).toOption.map List.length = some 6 := by
    unfold code
    decide +kernel
  cases htokens : tokenize code with
  | error fault =>
      rw [htokens] at hlength
      cases hlength
  | ok tokens =>
      rw [htokens] at hlength
      exact ⟨tokens, rfl, Option.some.inj hlength, divides_of_tokenize htokens⟩

end CrateReadme.Source
