import CrateReadme.Markdown.Escape
import CrateReadme.Markdown.Block.Basic
import CrateReadme.Proofs.Markdown.CodeSpan
import CrateReadme.Proofs.Text.Decimal

/-!
# Escaped text

Plain text is written character by character, some characters behind a backslash. Whether one
stands behind a backslash is decided by its neighbours, so that the written text is taken apart into
the same characters again. White space at its ends is written as it is.
-/

namespace CrateReadme.Markdown.Escape

/-- Whether a character that stands behind `before` and in front of `after` is escaped, outside a
cell. -/
def isEscaped (before : Option Char) (c : Char) (after : List Char) : Bool :=
  isSpecial c ||
    (c = '_' && !(before.any Text.isLetterOrNumeric && after.head?.any Text.isLetterOrNumeric)) ||
    (c = '~' && (before = some '~' || after.head? = some '~')) ||
    (c = '&' && completesReference after)

/-- A character of a text and whether it is written behind a backslash. -/
structure Glyph where
  isEscaped : Bool
  char : Char

def Glyph.written (glyph : Glyph) : List Char :=
  if glyph.isEscaped then ['\\', glyph.char] else [glyph.char]

def written (glyphs : List Glyph) : List Char :=
  glyphs.flatMap Glyph.written

def shown (glyphs : List Glyph) : List Char :=
  glyphs.map Glyph.char

/-- The characters of a text behind `before`, each escaped as it must be. -/
def glyphsOf : (before : Option Char) → List Char → List Glyph
  | _, [] => []
  | before, c :: text => ⟨isEscaped before c text, c⟩ :: glyphsOf (some c) text

/-- Whether no construct starts at a character between others: it is escaped, which only punctuation
can be, or nothing makes it a mark. -/
structure Glyph.IsQuiet (glyph : Glyph) (before : Option Char) (after : List Char) : Prop where
  escaped : glyph.isEscaped → isAsciiPunctuation glyph.char
  ordinary : ¬glyph.isEscaped → isSpecial glyph.char = false ∧ glyph.char ≠ '\n'
  score : ¬glyph.isEscaped → glyph.char = '_' →
    before.any Text.isLetterOrNumeric ∧ after.head?.any Text.isLetterOrNumeric
  tilde : ¬glyph.isEscaped → glyph.char = '~' → before ≠ some '~' ∧ after.head? ≠ some '~'
  reference : ¬glyph.isEscaped → glyph.char = '&' → completesReference after = false

/-- Whether no construct starts at any of the characters that stand behind `before`. -/
def AreQuiet : (before : Option Char) → List Glyph → Prop
  | _, [] => True
  | before, glyph :: glyphs =>
    glyph.IsQuiet before (shown glyphs) ∧ AreQuiet (some glyph.char) glyphs

theorem shown_append (front back : List Glyph) :
    shown (front ++ back) = shown front ++ shown back :=
  List.map_append

theorem written_append (front back : List Glyph) :
    written (front ++ back) = written front ++ written back :=
  List.flatMap_append

theorem written_cons (glyph : Glyph) (glyphs : List Glyph) :
    written (glyph :: glyphs) = glyph.written ++ written glyphs :=
  List.flatMap_cons

theorem written_cons_raw (c : Char) (glyphs : List Glyph) :
    written (⟨false, c⟩ :: glyphs) = c :: written glyphs :=
  rfl

theorem written_cons_escaped (c : Char) (glyphs : List Glyph) :
    written (⟨true, c⟩ :: glyphs) = '\\' :: c :: written glyphs :=
  rfl

theorem shown_glyphsOf (before : Option Char) (text : List Char) :
    shown (glyphsOf before text) = text := by
  induction text generalizing before with
  | nil => rfl
  | cons c text ih => exact congrArg (c :: ·) (ih (some c))

theorem written_glyphsOf (before : Option Char) (text : List Char) :
    written (glyphsOf before text) = chars false before text := by
  induction text generalizing before with
  | nil => rfl
  | cons c text ih =>
    have hchar : (⟨isEscaped before c text, c⟩ : Glyph).written = char false before c text := by
      simp [Glyph.written, char, isEscaped]
    rw [glyphsOf, written_cons, hchar, ih, chars]

/-- A character other than a line break is quiet if it is escaped where it has to be. -/
theorem isQuiet_glyph (before : Option Char) {c : Char} (hc : c ≠ '\n') (after : List Char) :
    (⟨isEscaped before c after, c⟩ : Glyph).IsQuiet before after where
  escaped := by
    intro hescaped
    have hspecial : ['\\', '`', '*', '[', ']', '<'].all isAsciiPunctuation := by decide
    simp only [isEscaped, Bool.or_eq_true, Bool.and_eq_true, decide_eq_true_eq] at hescaped
    rcases hescaped with ((hspecial' | ⟨rfl, -⟩) | ⟨rfl, -⟩) | ⟨rfl, -⟩
    · exact List.all_eq_true.mp hspecial c (of_decide_eq_true hspecial')
    all_goals rfl
  ordinary := by
    intro hescaped
    simp only [isEscaped, Bool.or_eq_true, not_or, Bool.not_eq_true] at hescaped
    exact ⟨hescaped.1.1.1, hc⟩
  score := by
    rintro hescaped rfl
    simp only [isEscaped, Bool.or_eq_true, not_or, Bool.not_eq_true, decide_true, Bool.true_and,
      Bool.not_eq_false'] at hescaped
    exact Bool.and_eq_true_iff.mp hescaped.1.1.2
  tilde := by
    rintro hescaped rfl
    simpa [isEscaped, isSpecial] using hescaped
  reference := by
    rintro hescaped rfl
    simpa [isEscaped, isSpecial] using hescaped

theorem areQuiet_glyphsOf (before : Option Char) {text : List Char} (htext : '\n' ∉ text) :
    AreQuiet before (glyphsOf before text) := by
  induction text generalizing before with
  | nil => trivial
  | cons c text ih =>
    rw [List.mem_cons, not_or] at htext
    refine ⟨?_, ih (some c) htext.2⟩
    rw [shown_glyphsOf]
    exact isQuiet_glyph before (Ne.symm htext.1) text

/-- Escaping one more punctuation character leaves the others alone. -/
theorem AreQuiet.escape {before : Option Char} {front back : List Glyph} {glyph : Glyph}
    (hquiet : AreQuiet before (front ++ glyph :: back)) (hglyph : isAsciiPunctuation glyph.char) :
    AreQuiet before (front ++ ⟨true, glyph.char⟩ :: back) := by
  induction front generalizing before with
  | nil =>
    refine ⟨⟨fun _ => hglyph, ?_, ?_, ?_, ?_⟩, hquiet.2⟩
    all_goals exact fun hnot => absurd rfl hnot
  | cons first front ih =>
    refine ⟨?_, ih hquiet.2⟩
    have hsame : shown (front ++ ⟨true, glyph.char⟩ :: back) = shown (front ++ glyph :: back) := by
      rw [shown_append, shown_append]
      rfl
    exact hsame ▸ hquiet.1

/-! ### Character references -/

/-- What stands between the ampersand and the semicolon of a character reference. -/
inductive IsReferenceName : List Char → Prop
  | decimal {digits : List Char} (hne : digits ≠ []) (hdigits : ∀ c ∈ digits, Text.isDecimal c) :
    IsReferenceName ('#' :: digits)
  | hexadecimal {mark : Char} {digits : List Char} (hmark : mark = 'x' ∨ mark = 'X')
    (hne : digits ≠ []) (hdigits : ∀ c ∈ digits, Entity.isHexDigit c) :
    IsReferenceName ('#' :: mark :: digits)
  | named {c : Char} {rest : List Char} (hfirst : c.isAlpha)
    (hname : ∀ d ∈ c :: rest, d.isAlphanum) : IsReferenceName (c :: rest)

theorem IsReferenceName.not_mem {name : List Char} (hname : IsReferenceName name) :
    '\\' ∉ name := by
  have hdecimal : ¬Text.isDecimal '\\' := by decide
  have hhex : ¬Entity.isHexDigit '\\' := by decide
  have halphanum : ¬Char.isAlphanum '\\' := by decide
  intro hmem
  cases hname with
  | decimal hne hdigits =>
    exact hdecimal (hdigits _ (List.mem_of_ne_of_mem (by decide) hmem))
  | @hexadecimal mark digits hmark hne hdigits =>
    have hslash : '\\' ≠ mark := by rcases hmark with rfl | rfl <;> decide
    have hrest : '\\' ∈ mark :: digits := List.mem_of_ne_of_mem (by decide) hmem
    exact hhex (hdigits _ (List.mem_of_ne_of_mem hslash hrest))
  | named hfirst hname => exact halphanum (hname _ hmem)

/-- Kept characters in front of a semicolon are a name that the semicolon closes. -/
theorem closes_iff {keep : Char → Bool} (hkeep : ¬keep ';') {text : List Char} :
    text.head?.any keep && decide ((text.dropWhile keep).head? = some ';') ↔
      ∃ name rest, text = name ++ ';' :: rest ∧ name ≠ [] ∧ ∀ c ∈ name, keep c := by
  rw [Bool.and_eq_true, decide_eq_true_eq]
  constructor
  · rintro ⟨hhead, hdrop⟩
    obtain ⟨rest, hrest⟩ := List.head?_eq_some_iff.mp hdrop
    refine ⟨text.takeWhile keep, rest, ?_, ?_, fun c hmem => List.mem_takeWhile_imp hmem⟩
    · rw [← hrest, List.takeWhile_append_dropWhile]
    · cases text with
      | nil => cases hhead
      | cons c text =>
        have hc : keep c := hhead
        rw [List.takeWhile_cons_of_pos hc]
        exact List.cons_ne_nil _ _
  · rintro ⟨name, rest, rfl, hne, hname⟩
    rw [List.dropWhile_append_of_pos hname, List.dropWhile_cons_of_neg hkeep]
    obtain ⟨c, name, rfl⟩ := List.exists_cons_of_ne_nil hne
    exact ⟨hname c List.mem_cons_self, rfl⟩

/-- A text completes a character reference if a name and a semicolon start it. -/
theorem completesReference_iff {text : List Char} :
    completesReference text ↔ ∃ name rest, text = name ++ ';' :: rest ∧ IsReferenceName name := by
  have hdecimal : ¬Text.isDecimal ';' := by decide
  have hhex : ¬Entity.isHexDigit ';' := by decide
  have halphanum : ¬Char.isAlphanum ';' := by decide
  constructor
  · intro hcompletes
    rw [completesReference.eq_def] at hcompletes
    split at hcompletes
    next text =>
      rw [Bool.or_eq_true, closes_iff hdecimal] at hcompletes
      rcases hcompletes with ⟨digits, rest, rfl, hne, hdigits⟩ | hcompletes
      · exact ⟨'#' :: digits, rest, rfl, .decimal hne hdigits⟩
      · split at hcompletes
        next mark text =>
          rw [Bool.and_eq_true, closes_iff hhex] at hcompletes
          obtain ⟨hmark, digits, rest, rfl, hne, hdigits⟩ := hcompletes
          exact ⟨'#' :: mark :: digits, rest, rfl, .hexadecimal (by simpa using hmark) hne hdigits⟩
        next => cases hcompletes
    next c text _ =>
      rw [Bool.and_eq_true, closes_iff halphanum] at hcompletes
      obtain ⟨hfirst, name, rest, htext, hne, hname⟩ := hcompletes
      obtain ⟨d, name, rfl⟩ := List.exists_cons_of_ne_nil hne
      obtain ⟨rfl, rfl⟩ := List.cons.inj htext
      exact ⟨c :: name, rest, rfl, .named hfirst hname⟩
    next => cases hcompletes
  · rintro ⟨name, rest, rfl, hname⟩
    cases hname with
    | decimal hne hdigits =>
      refine Bool.or_eq_true_iff.mpr (.inl ?_)
      rw [List.append_eq, closes_iff hdecimal]
      exact ⟨_, rest, rfl, hne, hdigits⟩
    | hexadecimal hmark hne hdigits =>
      refine Bool.or_eq_true_iff.mpr (.inr (Bool.and_eq_true_iff.mpr ⟨by simpa using hmark, ?_⟩))
      rw [List.append_eq, closes_iff hhex]
      exact ⟨_, rest, rfl, hne, hdigits⟩
    | @named c name hfirst hname =>
      rw [completesReference.eq_def]
      split
      next more heq =>
        rw [(List.cons.inj heq).1] at hfirst
        exact absurd hfirst (by decide)
      next d more _ heq =>
        simp only
        rw [Bool.and_eq_true, closes_iff halphanum]
        exact ⟨(List.cons.inj heq).1 ▸ hfirst, c :: name, rest, rfl, List.cons_ne_nil c name, hname⟩
      next heq => cases heq

/-! ### The start of a line -/

/-- What starts a block has one of eight marks behind its digits. -/
theorem startsBlock_spec {text : List Char} (hstarts : startsBlock text) :
    ∃ c rest, text.drop (text.takeWhile Text.isDecimal).length = c :: rest ∧
      c ∈ ['>', '#', '-', '+', '*', '=', '.', ')'] := by
  cases text with
  | nil => cases hstarts
  | cons c text =>
    simp only [startsBlock, Bool.or_eq_true, Bool.and_eq_true, decide_eq_true_eq] at hstarts
    have hfirst (hc : c ∈ ['>', '#', '-', '+', '*', '=']) :
        ∃ d rest, (c :: text).drop ((c :: text).takeWhile Text.isDecimal).length = d :: rest ∧
          d ∈ ['>', '#', '-', '+', '*', '=', '.', ')'] := by
      have hmarks : ['>', '#', '-', '+', '*', '='].all (fun d => !Text.isDecimal d) := by decide
      have hdecimal : ¬Text.isDecimal c := by simpa using List.all_eq_true.mp hmarks c hc
      refine ⟨c, text, by rw [List.takeWhile_cons_of_neg hdecimal]; rfl, ?_⟩
      exact List.mem_append_left ['.', ')'] hc
    rcases hstarts with (((rfl | ⟨⟨rfl, -⟩, -⟩) | ⟨hc, -⟩) | ⟨rfl, -⟩) | ⟨-, hnumber⟩
    · exact hfirst (by decide)
    · exact hfirst (by decide)
    · exact hfirst (by simp only [List.mem_cons, List.not_mem_nil, or_false] at hc ⊢; tauto)
    · exact hfirst (by decide)
    · split at hnumber
      next mark rest hrest =>
        simp only [Bool.and_eq_true, Bool.or_eq_true, decide_eq_true_eq] at hnumber
        refine ⟨mark, rest, hrest, ?_⟩
        rcases hnumber.1 with rfl | rfl <;> decide
      next => cases hnumber

/-- A text that starts no block starts none with the backslash either. -/
theorem startsBlock_escaped {digits : List Char} (hdigits : ∀ c ∈ digits, Text.isDecimal c)
    (rest : List Char) : startsBlock (digits ++ '\\' :: rest) = false := by
  rw [Bool.eq_false_iff]
  intro hstarts
  obtain ⟨c, more, hdrop, hc⟩ := startsBlock_spec hstarts
  have hslash : ∀ c ∈ ('\\' :: rest).head?, Text.isDecimal c = false := by
    intro c hmem
    cases hmem
    decide
  rw [(Text.takeWhile_append_of_head? hdigits hslash).1, List.drop_left] at hdrop
  obtain ⟨rfl, -⟩ := List.cons.inj hdrop
  exact absurd hc (by decide)

/-- Characters other than the backslash that start a written text are not escaped. -/
theorem exists_front (keep : Char → Bool) (hslash : ¬keep '\\') (glyphs : List Glyph) :
    ∃ front back, glyphs = front ++ back ∧ written front = (written glyphs).takeWhile keep ∧
      written back = (written glyphs).drop ((written glyphs).takeWhile keep).length ∧
      shown front = written front := by
  induction glyphs with
  | nil => exact ⟨[], [], rfl, rfl, rfl, rfl⟩
  | cons glyph glyphs ih =>
    obtain ⟨isEscaped, c⟩ := glyph
    by_cases hkept : isEscaped = false ∧ keep c
    · obtain ⟨rfl, hc⟩ := hkept
      obtain ⟨front, back, rfl, hfront, hback, hshown⟩ := ih
      refine ⟨⟨false, c⟩ :: front, back, rfl, ?_, ?_, congrArg (c :: ·) hshown⟩
      · rw [written_cons_raw, written_cons_raw, List.takeWhile_cons_of_pos hc, hfront]
      · rw [hback, written_cons_raw, List.takeWhile_cons_of_pos hc]
        rfl
    · have hnone : (written (⟨isEscaped, c⟩ :: glyphs)).takeWhile keep = [] := by
        cases isEscaped with
        | false => exact List.takeWhile_cons_of_neg fun hc => hkept ⟨rfl, hc⟩
        | true => exact List.takeWhile_cons_of_neg hslash
      refine ⟨[], ⟨isEscaped, c⟩ :: glyphs, rfl, ?_, ?_, rfl⟩ <;> rw [hnone] <;> rfl

/-- At the start of a line a text is written so that no construct starts in it and no block with
it. -/
theorem exists_areQuiet_text {text : List Char} (htext : '\n' ∉ text) :
    ∃ glyphs, Escape.text false true text = written glyphs ∧ shown glyphs = text ∧
      AreQuiet none glyphs ∧ startsBlock (written glyphs) = false := by
  have hwritten := written_glyphsOf none text
  have hquiet := areQuiet_glyphsOf none htext
  have hshown := shown_glyphsOf none text
  rw [Escape.text, Bool.true_and, ← hwritten]
  generalize glyphsOf none text = glyphs at hquiet hshown
  split
  next hstarts =>
    obtain ⟨front, back, rfl, hfront, hback, -⟩ :=
      exists_front Text.isDecimal (by decide) glyphs
    obtain ⟨c, rest, hdrop, hc⟩ := startsBlock_spec hstarts
    simp only [← hfront]
    rw [← hfront] at hback hdrop
    rw [hdrop]
    rw [← hback] at hdrop
    have hdigits : ∀ d ∈ written front, Text.isDecimal d := fun d hd =>
      List.mem_takeWhile_imp (hfront ▸ hd)
    have hslash : c ≠ '\\' := by
      rintro rfl
      exact absurd hc (by decide)
    have hmark : isAsciiPunctuation c := by
      have hmarks : ['>', '#', '-', '+', '*', '=', '.', ')'].all isAsciiPunctuation := by decide
      exact List.all_eq_true.mp hmarks c hc
    obtain ⟨glyph, back, rfl, rfl, hrest⟩ : ∃ glyph more, back = glyph :: more ∧
        glyph = ⟨false, c⟩ ∧ written more = rest := by
      cases back with
      | nil => cases hdrop
      | cons glyph back =>
        obtain ⟨isEscaped, d⟩ := glyph
        rw [written_cons] at hdrop
        cases isEscaped with
        | true => exact absurd (List.cons.inj hdrop).1.symm hslash
        | false =>
          obtain ⟨rfl, hrest⟩ := List.cons.inj hdrop
          exact ⟨_, back, rfl, rfl, hrest⟩
    have hline : written (front ++ ⟨true, c⟩ :: back) = written front ++ '\\' :: c :: rest := by
      rw [written_append, written_cons, hrest]
      rfl
    refine ⟨front ++ ⟨true, c⟩ :: back, hline.symm, ?_, hquiet.escape hmark, ?_⟩
    · rw [← hshown, shown_append, shown_append]
      rfl
    · rw [hline]
      exact startsBlock_escaped hdigits _
  next hstarts => exact ⟨glyphs, rfl, hshown, hquiet, Bool.eq_false_iff.mpr hstarts⟩

/-- A written text ends in the last character that is meant. -/
theorem getLast?_written (glyphs : List Glyph) :
    (written glyphs).getLast? = (shown glyphs).getLast? := by
  rcases List.eq_nil_or_concat glyphs with rfl | ⟨glyphs, ⟨isEscaped, c⟩, rfl⟩
  · rfl
  · rw [List.concat_eq_append, written_append, shown_append]
    cases isEscaped with
    | false => exact List.getLast?_concat.trans List.getLast?_concat.symm
    | true =>
      rw [written_cons_escaped, List.append_cons]
      exact List.getLast?_concat.trans List.getLast?_concat.symm

/-! ### White space around a text -/

/-- White space is neither punctuation nor a letter or number. -/
theorem isWhite_apart {c : Char} (hwhite : isWhite c) :
    isAsciiPunctuation c = false ∧ Text.isLetterOrNumeric c = false := by
  have hcodes : ∀ code ∈ [0x09, 0x0a, 0x0b, 0x0c, 0x0d, 0x20, 0xa0, 0x1680, 0x202f, 0x205f,
      0x3000] ++ [0x2028, 0x2029, 0xfeff] ++ List.range' 0x2000 11,
      isAsciiPunctuation (Char.ofNat code) = false ∧
        (Text.isBlank (Char.ofNat code) ∨
          code = 0xfeff ∧ Text.isLetterOrNumeric (Char.ofNat code) = false) := by
    decide +kernel
  obtain ⟨hpunctuation, hletter⟩ := hcodes c.toNat <| by
    simp only [isWhite, isGap, Bool.or_eq_true, Bool.and_eq_true, decide_eq_true_eq] at hwhite
    rw [List.mem_append, List.mem_append, List.mem_range'_1]
    rcases hwhite with (hgap | hspace) | hmark
    · exact .inl (.inl hgap)
    · exact .inr ⟨hspace.1, Nat.lt_succ_of_le hspace.2⟩
    · exact .inl (.inr hmark)
  rw [Char.ofNat_toNat] at hpunctuation hletter
  refine ⟨hpunctuation, ?_⟩
  rcases hletter with hblank | ⟨-, hletter⟩
  · rw [Bool.eq_false_iff]
    intro hletter
    rw [Text.isBlank_eq_false_of_isLetterOrNumeric hletter] at hblank
    cases hblank
  · exact hletter

/-- Glyphs stay quiet without those in front of them. -/
theorem AreQuiet.of_append {before : Option Char} {front back : List Glyph}
    (hquiet : AreQuiet before (front ++ back)) :
    AreQuiet ((shown front).getLast?.or before) back := by
  induction front generalizing before with
  | nil => exact hquiet
  | cons glyph front ih =>
    have hback := ih hquiet.2
    have hlast : (shown (glyph :: front)).getLast?.or before =
        (shown front).getLast?.or (some glyph.char) := by
      cases front with
      | nil => rfl
      | cons next front =>
        rw [shown, List.map_cons, List.map_cons, List.getLast?_cons_cons, shown, List.map_cons]
        cases hlast : (next.char :: front.map Glyph.char).getLast? with
        | none => exact absurd hlast (by simp)
        | some last => rfl
    rwa [hlast]

/-- What stands behind white space is as quiet as at the start of a text. -/
theorem AreQuiet.none_of {before : Option Char} {glyphs : List Glyph}
    (hquiet : AreQuiet before glyphs) (hbefore : ¬before.any Text.isLetterOrNumeric) :
    AreQuiet none glyphs := by
  cases glyphs with
  | nil => trivial
  | cons glyph glyphs =>
    obtain ⟨⟨hescaped, hordinary, hscore, htilde, hreference⟩, hrest⟩ := hquiet
    refine ⟨⟨hescaped, hordinary, fun hraw hc => absurd (hscore hraw hc).1 hbefore, ?_,
      hreference⟩, hrest⟩
    exact fun hraw hc => ⟨nofun, (htilde hraw hc).2⟩

theorem completesReference_append {text : List Char} (htext : completesReference text)
    (more : List Char) : completesReference (text ++ more) := by
  obtain ⟨name, rest, rfl, hname⟩ := completesReference_iff.mp htext
  refine completesReference_iff.mpr ⟨name, rest ++ more, ?_, hname⟩
  rw [List.append_assoc, List.cons_append]

/-- What stands in front of white space is as quiet as at the end of a text. -/
theorem AreQuiet.front {before : Option Char} {front back : List Glyph}
    (hquiet : AreQuiet before (front ++ back))
    (hback : ¬(shown back).head?.any Text.isLetterOrNumeric) : AreQuiet before front := by
  induction front generalizing before with
  | nil => trivial
  | cons glyph front ih =>
    have hglyph : glyph.IsQuiet before (shown front ++ shown back) :=
      shown_append front back ▸ hquiet.1
    obtain ⟨hescaped, hordinary, hscore, htilde, hreference⟩ := hglyph
    refine ⟨⟨hescaped, hordinary, fun hraw hc => ⟨(hscore hraw hc).1, ?_⟩,
      fun hraw hc => ⟨(htilde hraw hc).1, ?_⟩, fun hraw hc => ?_⟩, ih hquiet.2⟩
    · have hnext := (hscore hraw hc).2
      cases front with
      | nil => exact absurd hnext hback
      | cons next front => exact hnext
    · have hnext := (htilde hraw hc).2
      cases front with
      | nil => exact nofun
      | cons next front => exact hnext
    · rw [Bool.eq_false_iff]
      intro hcompletes
      exact Bool.eq_false_iff.mp (hreference hraw hc) (completesReference_append hcompletes _)

def Glyph.isWhite (glyph : Glyph) : Bool :=
  Markdown.isWhite glyph.char

/-- Escaped characters are punctuation. -/
theorem AreQuiet.isAsciiPunctuation {before : Option Char} {glyphs : List Glyph}
    (hquiet : AreQuiet before glyphs) :
    ∀ glyph ∈ glyphs, glyph.isEscaped → isAsciiPunctuation glyph.char := by
  induction glyphs generalizing before with
  | nil => exact fun glyph hmem => absurd hmem List.not_mem_nil
  | cons first glyphs ih => exact List.forall_mem_cons.mpr ⟨hquiet.1.escaped, ih hquiet.2⟩

section Trim

variable {glyphs : List Glyph}
  (hescaped : ∀ glyph ∈ glyphs, glyph.isEscaped → isAsciiPunctuation glyph.char)

include hescaped

/-- White space in front is written as it is. -/
theorem dropWhile_written :
    (written glyphs).dropWhile isWhite = written (glyphs.dropWhile Glyph.isWhite) := by
  induction glyphs with
  | nil => rfl
  | cons glyph glyphs ih =>
    obtain ⟨hglyph, hmore⟩ := List.forall_mem_cons.mp hescaped
    obtain ⟨isEscaped, c⟩ := glyph
    by_cases hc : isWhite c
    · cases isEscaped with
      | true => exact absurd (hglyph rfl) (by simp [(isWhite_apart hc).1])
      | false =>
        rw [written_cons_raw, List.dropWhile_cons_of_pos hc, ih hmore]
        have hwhite : Glyph.isWhite ⟨false, c⟩ := hc
        rw [List.dropWhile_cons_of_pos hwhite]
    · have hnot : ¬Glyph.isWhite ⟨isEscaped, c⟩ := hc
      have hkept := List.dropWhile_cons_of_neg (l := glyphs) hnot
      rw [hkept]
      cases isEscaped with
      | false => exact List.dropWhile_cons_of_neg hc
      | true => exact List.dropWhile_cons_of_neg (by decide)

/-- White space behind is written as it is. -/
theorem rdropWhile_written :
    (written glyphs).rdropWhile isWhite =
      written (glyphs.rdropWhile Glyph.isWhite) := by
  induction glyphs using List.reverseRecOn with
  | nil => rfl
  | append_singleton glyphs glyph ih =>
    obtain ⟨hmore, hglyph⟩ := List.forall_mem_append.mp hescaped
    obtain ⟨isEscaped, c⟩ := glyph
    by_cases hc : isWhite c
    · cases isEscaped with
      | true =>
        exact absurd (List.forall_mem_singleton.mp hglyph rfl) (by simp [(isWhite_apart hc).1])
      | false =>
        have hwhite : Glyph.isWhite ⟨false, c⟩ := hc
        rw [List.rdropWhile_concat_pos _ _ _ hwhite, ← ih hmore, written_append]
        exact List.rdropWhile_concat_pos _ _ _ hc
    · have hnot : ¬Glyph.isWhite ⟨isEscaped, c⟩ := hc
      have hkept := List.rdropWhile_concat_neg _ glyphs _ hnot
      rw [hkept, written_append]
      cases isEscaped with
      | false => exact List.rdropWhile_concat_neg _ _ _ hc
      | true =>
        rw [written_cons_escaped, List.append_cons]
        exact List.rdropWhile_concat_neg _ _ _ hc

end Trim

theorem shown_dropWhile (glyphs : List Glyph) :
    shown (glyphs.dropWhile Glyph.isWhite) = (shown glyphs).dropWhile isWhite :=
  (List.dropWhile_map ..).symm

theorem shown_rdropWhile (glyphs : List Glyph) :
    shown (glyphs.rdropWhile Glyph.isWhite) = (shown glyphs).rdropWhile isWhite := by
  have hreverse : (shown glyphs).reverse = shown glyphs.reverse := List.map_reverse.symm
  rw [List.rdropWhile, List.rdropWhile, hreverse, ← shown_dropWhile]
  exact List.map_reverse

/-- White space is no letter, wherever it stands. -/
theorem not_any_isLetterOrNumeric {c? : Option Char} {glyphs : List Glyph}
    (hglyphs : ∀ glyph ∈ glyphs, glyph.isWhite) (hc : ∀ c, c? = some c → c ∈ shown glyphs) :
    ¬c?.any Text.isLetterOrNumeric := by
  intro hany
  obtain ⟨c, hc?, hletter⟩ := (Option.any_eq_true _ _).mp hany
  obtain ⟨glyph, hmem, rfl⟩ := List.mem_map.mp (hc c hc?)
  rw [(isWhite_apart (hglyphs glyph hmem)).2] at hletter
  cases hletter

/-- White space around a written text is the white space around the text that is meant. -/
theorem exists_trimWhite_written {glyphs : List Glyph} (hquiet : AreQuiet none glyphs) :
    ∃ trimmed, trimWhite (written glyphs) = written trimmed ∧
      shown trimmed = trimWhite (shown glyphs) ∧ AreQuiet none trimmed := by
  have hescaped := hquiet.isAsciiPunctuation
  let rest := glyphs.dropWhile Glyph.isWhite
  refine ⟨rest.rdropWhile Glyph.isWhite, ?_, ?_, ?_⟩
  · have hrest : ∀ glyph ∈ rest, glyph.isEscaped → isAsciiPunctuation glyph.char :=
      fun glyph hmem => hescaped glyph ((List.dropWhile_suffix Glyph.isWhite).subset hmem)
    rw [← rdropWhile_written hrest, ← dropWhile_written hescaped]
    rfl
  · rw [shown_rdropWhile, shown_dropWhile]
    rfl
  · have hstart : AreQuiet none rest := by
      rw [← List.takeWhile_append_dropWhile (p := Glyph.isWhite) (l := glyphs)] at hquiet
      refine hquiet.of_append.none_of ?_
      rw [Option.or_none]
      exact not_any_isLetterOrNumeric (fun glyph hmem => List.mem_takeWhile_imp hmem)
        fun c hlast => List.mem_of_getLast? hlast
    have hsplit : rest.rdropWhile Glyph.isWhite ++ rest.rtakeWhile Glyph.isWhite = rest :=
      List.rdropWhile_append_rtakeWhile
    rw [← hsplit] at hstart
    refine hstart.front ?_
    exact not_any_isLetterOrNumeric (fun glyph hmem => List.mem_rtakeWhile_imp hmem)
      fun c hhead => List.mem_of_head? hhead

end CrateReadme.Markdown.Escape
