import CrateReadme.Markdown.Destination
import CrateReadme.Markdown.Entity
import CrateReadme.Markdown.Printer
import CrateReadme.Proofs.Text.Decimal
import Mathlib.Data.List.TakeDrop
import Mathlib.Data.List.TakeWhile

/-!
# Labels and destinations that stay as they are

A label in small letters, digits and underscores is compared in capital letters. Placeholders with
different numbers are therefore different labels. A word of letters, digits, hyphens and underscores
is an address without protocol and host. Nothing in it is escaped, by markdown or for an address,
and it is safe to follow.
-/

namespace CrateReadme.Text

/-- A text of which all characters are kept is one run. -/
theorem runsOf_of_all (keep : Char → Bool) {text : List Char} (hne : text ≠ [])
    (hkeep : ∀ c ∈ text, keep c) : runsOf keep text = [text] := by
  induction text with
  | nil => exact absurd rfl hne
  | cons c text ih =>
      have hc := hkeep c List.mem_cons_self
      cases text with
      | nil => simp [runsOf, hc]
      | cons d text =>
          have hd := hkeep d (List.mem_cons_of_mem c List.mem_cons_self)
          have hmore := ih (List.cons_ne_nil d text) fun e hmem =>
            hkeep e (List.mem_cons_of_mem c hmem)
          unfold runsOf
          rw [if_pos hc, hmore]
          simp [hd]

/-- A character that is its own lowercase form wherever it stands. -/
def IsSmall (c : Char) : Prop :=
  c ≠ 'Σ' ∧ lowerChar c = [c]

instance (c : Char) : Decidable (IsSmall c) :=
  inferInstanceAs (Decidable (c ≠ 'Σ' ∧ lowerChar c = [c]))

theorem lowerFrom_of_isSmall {text : List Char} (htext : ∀ c ∈ text, IsSmall c)
    (before : List Char) : lowerFrom before text = text := by
  induction text generalizing before with
  | nil => rfl
  | cons c text ih =>
      obtain ⟨hsigma, hsmall⟩ := htext c List.mem_cons_self
      rw [lowerFrom, ih (fun d hmem => htext d (List.mem_cons_of_mem c hmem)), lowerAt]
      simp [hsigma, hsmall]

theorem exists_digitChar_of_mem_decimal {n : Nat} {c : Char} (hmem : c ∈ decimal n) :
    ∃ digit < 10, c = digitChar digit := by
  obtain ⟨first, rest, hdecimal, hfirst, hrest, -, -⟩ := exists_digits n
  rw [hdecimal] at hmem
  rcases List.mem_cons.mp hmem with rfl | hmem
  · exact ⟨first, hfirst, rfl⟩
  · obtain ⟨digit, hdigit, rfl⟩ := List.mem_map.mp hmem
    exact ⟨digit, hrest digit hdigit, rfl⟩

theorem decimal_inj {left right : Nat} (heq : decimal left = decimal right) : left = right := by
  have hvalue := natural?_decimal left
  rw [heq, natural?_decimal] at hvalue
  exact (Option.some.inj hvalue).symm

end CrateReadme.Text

namespace CrateReadme.Markdown

/-! ### Labels -/

/-- Characters of labels that are read, and compared but for their case, as they are written. -/
def IsLabelChar (c : Char) : Prop :=
  c ∉ ['[', ']', '\\', '\n', '\r', '\x00'] ∧ isWhite c = false ∧ Text.IsSmall c

instance (c : Char) : Decidable (IsLabelChar c) :=
  inferInstanceAs (Decidable
    (c ∉ ['[', ']', '\\', '\n', '\r', '\x00'] ∧ isWhite c = false ∧ Text.IsSmall c))

theorem isLabelChar_of_all {label : List Char} (hall : label.all fun c => IsLabelChar c) {c : Char}
    (hmem : c ∈ label) : IsLabelChar c :=
  of_decide_eq_true (List.all_eq_true.mp hall c hmem)

theorem isLabelChar_digitChar {digit : Nat} (hdigit : digit < 10) :
    IsLabelChar (Text.digitChar digit) ∧
      Text.upperChar (Text.digitChar digit) = [Text.digitChar digit] := by
  revert digit
  decide

theorem Label.normalize_of_isLabelChar {label : List Char} (hne : label ≠ [])
    (hlabel : ∀ c ∈ label, IsLabelChar c) : Label.normalize label = Text.upper label := by
  have hruns := Text.runsOf_of_all (fun c => !isWhite c) hne fun c hmem => by
    simp [(hlabel c hmem).2.1]
  rw [Label.normalize, hruns, Text.joinWith, Text.lower,
    Text.lowerFrom_of_isSmall fun c hmem => (hlabel c hmem).2.2]

theorem toList_placeholder (number : Nat) :
    (placeholder number).toList = "__link".toList ++ Text.decimal number := by
  simp [placeholder, Text.decimalString]

theorem isLabelChar_of_mem_placeholder {number : Nat} {c : Char}
    (hmem : c ∈ (placeholder number).toList) : IsLabelChar c := by
  rw [toList_placeholder] at hmem
  rcases List.mem_append.mp hmem with hmem | hmem
  · exact isLabelChar_of_all (by decide +kernel) hmem
  · obtain ⟨digit, hdigit, rfl⟩ := Text.exists_digitChar_of_mem_decimal hmem
    exact (isLabelChar_digitChar hdigit).1

theorem upper_of_upperChar {text : List Char} (htext : ∀ c ∈ text, Text.upperChar c = [c]) :
    Text.upper text = text := by
  induction text with
  | nil => rfl
  | cons c text ih =>
      have hmore := ih fun d hmem => htext d (List.mem_cons_of_mem c hmem)
      rw [Text.upper] at hmore
      rw [Text.upper, List.flatMap_cons, htext c List.mem_cons_self, hmore, List.singleton_append]

theorem upper_decimal (number : Nat) : Text.upper (Text.decimal number) = Text.decimal number :=
  upper_of_upperChar fun c hmem => by
    obtain ⟨digit, hdigit, rfl⟩ := Text.exists_digitChar_of_mem_decimal hmem
    exact (isLabelChar_digitChar hdigit).2

theorem normalize_placeholder (number : Nat) :
    Label.normalize (placeholder number).toList = "__LINK".toList ++ Text.decimal number := by
  rw [Label.normalize_of_isLabelChar (by simp [toList_placeholder])
    fun c => isLabelChar_of_mem_placeholder, toList_placeholder, Text.upper, List.flatMap_append]
  exact congrArg _ (upper_decimal number)

theorem normalize_placeholder_inj {left right : Nat}
    (heq : Label.normalize (placeholder left).toList = Label.normalize (placeholder right).toList) :
    left = right := by
  rw [normalize_placeholder, normalize_placeholder] at heq
  exact Text.decimal_inj (List.append_cancel_left heq)

/-! ### Destinations -/

namespace Entity

theorem inAttribute?_eq_none {c : Char} (hc : c ≠ '&') (text : List Char) :
    inAttribute? (c :: text) = none := by
  rw [inAttribute?.eq_2]
  rintro more heq
  exact hc (List.cons.inj heq).1

/-- A text without backslashes and ampersands has nothing to undo. -/
theorem unescape_eq_self {text : List Char} (htext : ∀ c ∈ text, c ≠ '\\' ∧ c ≠ '&') :
    unescape text = text := by
  rw [unescape]
  induction text with
  | nil => rfl
  | cons c text ih =>
      obtain ⟨hescape, hreference⟩ := htext c List.mem_cons_self
      have hmore := ih fun d hmem => htext d (List.mem_cons_of_mem c hmem)
      simp [unescapeLoop, hescape, inAttribute?_eq_none hreference, hmore]

end Entity

/-- Characters that stand in the path of an address as they are and do not end it, and that a text
is not stripped of. -/
structure IsPathChar (c : Char) : Prop where
  isAddressChar : Address.isAddressChar c
  isInside : c ∉ [':', '/', '#', '?']
  isBlank : Text.isBlank c = false
  lowerChar : ':' ∉ Text.lowerChar c

namespace Address

theorem escape_eq_self {text : List Char} (htext : ∀ c ∈ text, isAddressChar c) :
    escape text = text := by
  induction text with
  | nil => rfl
  | cons c text ih =>
      have hmore := ih fun d hmem => htext d (List.mem_cons_of_mem c hmem)
      simp [escape, htext c List.mem_cons_self, hmore]

theorem splitProtocol_of_not_mem {text : List Char} (htext : ':' ∉ text) :
    splitProtocol text = ([], text) := by
  rw [splitProtocol]
  split
  next c name rest hspan =>
    have hmem : ':' ∈ text := by
      rw [List.span_eq_takeWhile_dropWhile, Prod.mk.injEq] at hspan
      rw [← List.takeWhile_append_dropWhile (p := isProtocolChar) (l := text), hspan.2]
      simp
    exact absurd hmem htext
  next => rfl

end Address

/-- A text of path characters is an address with nothing but a path. -/
theorem ofText_of_isPathChar {text : List Char} (htext : ∀ c ∈ text, IsPathChar c) :
    Address.ofText text =
      { protocol := [], slashes := false, user := [], host := [], portDigits := [], path := text
        query := [], fragment := [] } := by
  have hnone (mark : Char) (hmark : mark ∈ [':', '/', '#', '?']) : mark ∉ text := fun hmem =>
    (htext mark hmem).isInside hmark
  have hslash : Text.startsWith ['/', '/'] text = false := by
    cases text with
    | nil => rfl
    | cons c text =>
        have hne : '/' ≠ c := by
          rintro rfl
          exact hnone '/' (by decide) List.mem_cons_self
        simp [Text.startsWith, Text.after?, hne]
  have hkept (mark : Char) (hmark : mark ∉ text) : ∀ c ∈ text, !decide (c = mark) := by
    intro c hmem
    have hne : c ≠ mark := by
      rintro rfl
      exact hmark hmem
    simp [hne]
  have htake (mark : Char) (hmark : mark ∉ text) :
      text.takeWhile (fun c => !decide (c = mark)) = text :=
    List.takeWhile_eq_self_iff.mpr (hkept mark hmark)
  have hdrop (mark : Char) (hmark : mark ∉ text) :
      text.dropWhile (fun c => !decide (c = mark)) = [] :=
    List.dropWhile_eq_nil_iff.mpr (hkept mark hmark)
  have hquery := hnone '?' (by decide)
  have hfragment := hnone '#' (by decide)
  simp [Address.ofText, Text.strip_eq_self fun c hmem => (htext c hmem).isBlank,
    Address.splitProtocol_of_not_mem (hnone ':' (by decide)), hslash, htake '#' hfragment,
    hdrop '#' hfragment, htake '?' hquery, hdrop '?' hquery, Address.splitPort, Address.cutHost,
    Address.isHostPart, Text.joinWith]

/-- A destination of such characters is kept as it is. -/
theorem normalizeDestination_of_isPathChar {text : List Char} (htext : ∀ c ∈ text, IsPathChar c) :
    normalizeDestination text = text := by
  have hescape := Address.escape_eq_self fun c hmem => (htext c hmem).isAddressChar
  simp [normalizeDestination, ofText_of_isPathChar htext, Address.hasNamedHost, Address.toText,
    Address.escape, hescape]

/-- A character is not in the small letters of a text if no character of the text gives it. -/
theorem lower_not_mem {mark : Char} (hmark : mark ≠ 'ς') {text : List Char}
    (htext : ∀ c ∈ text, mark ∉ Text.lowerChar c) : mark ∉ Text.lower text := by
  have hfrom : ∀ before, mark ∉ Text.lowerFrom before text := by
    induction text with
    | nil => exact fun _ => List.not_mem_nil
    | cons c text ih =>
        intro before hmem
        rw [Text.lowerFrom] at hmem
        rcases List.mem_append.mp hmem with hmem | hmem
        · rw [Text.lowerAt] at hmem
          split at hmem
          · exact hmark (List.mem_singleton.mp hmem)
          · exact htext c List.mem_cons_self hmem
        · exact ih (fun d hd => htext d (List.mem_cons_of_mem c hd)) (c :: before) hmem
  exact hfrom []

theorem startsWith_eq_false {pattern text : List Char} {c : Char} (hpattern : c ∈ pattern)
    (htext : c ∉ text) : Text.startsWith pattern text = false := by
  rw [Text.startsWith, Option.isSome_eq_false_iff, Option.isNone_iff_eq_none]
  cases hafter : Text.after? pattern text with
  | none => rfl
  | some rest =>
      rw [Text.after?_eq_some_iff] at hafter
      exact absurd (by rw [hafter]; exact List.mem_append_left rest hpattern) htext

/-- A destination without a colon names no protocol that could be unsafe. -/
theorem isSafeDestination_of_isPathChar {text : List Char} (htext : ∀ c ∈ text, IsPathChar c) :
    isSafeDestination text := by
  have hcolon : ':' ∉ Text.lower (Text.strip text) := by
    rw [Text.strip_eq_self fun c hmem => (htext c hmem).isBlank]
    exact lower_not_mem (by decide) fun c hmem => (htext c hmem).lowerChar
  have hnone (pattern : String) (hpattern : ':' ∈ pattern.toList) :
      Text.startsWith pattern.toList (Text.lower (Text.strip text)) = false :=
    startsWith_eq_false hpattern hcolon
  simp only [isSafeDestination, List.any_cons, List.any_nil, hnone "vbscript:" (by decide),
    hnone "javascript:" (by decide), hnone "file:" (by decide), hnone "data:" (by decide),
    Bool.or_false, Bool.not_false, Bool.true_or]

end CrateReadme.Markdown
