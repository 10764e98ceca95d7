import CrateReadme.Proofs.Text.Decimal
import CrateReadme.Version.Basic
import Mathlib.Data.Char
import Mathlib.Data.List.Lex
import Mathlib.Data.List.TakeWhile

/-!
# Precedence is a total preorder

Names compare like lists of characters, and well-formed tags like the lists of their parts.
-/

namespace CrateReadme.Version

/-! ## Names -/

theorem compareText_eq_lt_iff {left right : List Char} :
    compareText left right = .lt ↔ left < right := by
  induction left, right using compareText.induct with
  | case1 => simp [compareText]
  | case2 => simp [compareText]
  | case3 => simp [compareText]
  | case4 a left b right ih =>
      have heq : a.toNat = b.toNat ↔ a = b := Char.toNat_inj
      rw [compareText, List.cons_lt_cons_iff, Ordering.then_eq_lt, Nat.compare_eq_lt,
        Nat.compare_eq_eq, ih, heq]
      rfl

theorem compareText_swap (left right : List Char) :
    (compareText left right).swap = compareText right left := by
  induction left, right using compareText.induct with
  | case1 => rfl
  | case2 => rfl
  | case3 => rfl
  | case4 a left b right ih =>
      rw [compareText, compareText, Ordering.swap_then, Nat.compare_swap, ih]

theorem compareText_ne_gt_iff {left right : List Char} :
    compareText left right ≠ .gt ↔ left ≤ right := by
  rw [Ne, ← Ordering.swap_eq_lt, compareText_swap, compareText_eq_lt_iff, not_lt]

theorem compareText_eq_eq_iff {left right : List Char} :
    compareText left right = .eq ↔ left = right := by
  induction left, right using compareText.induct with
  | case1 => simp [compareText]
  | case2 => simp [compareText]
  | case3 => simp [compareText]
  | case4 a left b right ih =>
      rw [compareText, Ordering.then_eq_eq, Nat.compare_eq_eq, ih, Char.toNat_inj,
        List.cons.injEq]

instance : Std.LawfulEqCmp compareText where
  compare_self := compareText_eq_eq_iff.mpr rfl
  eq_of_compare := compareText_eq_eq_iff.mp

instance : Std.TransCmp compareText where
  eq_swap := (compareText_swap _ _).symm
  isLE_trans hleft hright := by
    rw [Ordering.isLE_iff_ne_gt] at hleft hright ⊢
    rw [← Ne, compareText_ne_gt_iff] at hleft hright ⊢
    exact le_trans hleft hright

/-! ## Parts -/

instance : Std.LawfulEqCmp Part.compare where
  compare_self {part} := by
    cases part with
    | number value => exact Nat.compare_eq_eq.mpr rfl
    | name text => exact compareText_eq_eq_iff.mpr rfl
  eq_of_compare {left right} heq := by
    cases left <;> cases right <;> simp_all [Part.compare]

instance : Std.TransCmp Part.compare where
  eq_swap {left right} := by
    cases left <;> cases right <;>
      simp [Part.compare, compareText_swap, Nat.compare_swap]
  isLE_trans {first second third} hleft hright := by
    cases first with
    | number m =>
        cases third with
        | number k =>
            cases second with
            | number n => exact Std.TransOrd.isLE_trans (α := Nat) hleft hright
            | name t => cases hright
        | name u => rfl
    | name s =>
        cases second with
        | number n => cases hleft
        | name t =>
            cases third with
            | number k => cases hright
            | name u =>
                have htrans := @Std.TransCmp.isLE_trans _ compareText _ s t u
                exact htrans hleft hright

theorem all_isDigit_of_ofText_eq_number {text : List Char} {value : Nat}
    (heq : Part.ofText text = .number value) :
    text.all Char.isDigit ∧ (Text.natural? 10 text).getD 0 = value := by
  unfold Part.ofText at heq
  split at heq
  · rename_i hdigits
    rw [Bool.and_eq_true] at hdigits
    cases heq
    exact ⟨hdigits.2, rfl⟩
  · cases heq

theorem eq_of_ofText_eq_name {text name : List Char} (heq : Part.ofText text = .name name) :
    text = name := by
  unfold Part.ofText at heq
  split at heq
  · cases heq
  · cases heq
    rfl

theorem number?_of_isPrePart {part : List Char} (haccept : isPrePart part)
    (hdigits : part.all Char.isDigit) : (number? part).isSome := by
  have hnone : part.dropWhile Text.isDecimal = [] := by
    rw [List.dropWhile_eq_nil_iff]
    intro c hmem
    obtain ⟨digit, hdigit, rfl⟩ := Text.exists_digit_of_isDigit (List.all_eq_true.mp hdigits c hmem)
    exact Text.isDecimal_digitChar hdigit
  rw [isPrePart, hnone, Bool.or_false] at haccept
  exact haccept

/-- A number in ASCII digits is spelled in only one way. -/
theorem decimal_natural? {text : List Char} (hdigits : text.all Char.isDigit)
    (hnumber : (number? text).isSome) : Text.decimal ((Text.natural? 10 text).getD 0) = text := by
  obtain ⟨digits, hall, rfl⟩ := Text.exists_digits_of_all_isDigit hdigits
  cases digits with
  | nil => cases hnumber
  | cons first rest =>
      have hfirst := hall first (by simp)
      have hrest : ∀ digit ∈ rest, digit < 10 := fun digit hmem => hall digit (by simp [hmem])
      rcases Nat.eq_zero_or_pos first with rfl | hpos
      · cases rest with
        | nil => decide +kernel
        | cons second rest => cases hnumber
      · rw [List.map_cons, Text.natural?_map_digitChar hfirst hrest, Option.getD_some,
          Text.decimal_foldl_digits hpos hfirst hrest]

theorem ofText_injective {left right : List Char} (hleft : isPrePart left)
    (hright : isPrePart right) (heq : Part.ofText left = Part.ofText right) : left = right := by
  cases hpart : Part.ofText right with
  | number value =>
      obtain ⟨hleftDigits, hleftValue⟩ := all_isDigit_of_ofText_eq_number (heq.trans hpart)
      obtain ⟨hrightDigits, hrightValue⟩ := all_isDigit_of_ofText_eq_number hpart
      rw [← decimal_natural? hleftDigits (number?_of_isPrePart hleft hleftDigits), hleftValue,
        ← hrightValue, decimal_natural? hrightDigits (number?_of_isPrePart hright hrightDigits)]
  | name text =>
      rw [eq_of_ofText_eq_name (heq.trans hpart), eq_of_ofText_eq_name hpart]

/-! ## Tags -/

/-- The parts of a tag, as far as order is concerned. -/
def partsOf (tag : List Char) : List Part :=
  (tag.splitOn '.').map Part.ofText

/-- What some parts take up in a tag, with a dot after every part. -/
def span : List (List Char) → Nat
  | [] => 0
  | part :: parts => part.length + 1 + span parts

theorem length_intercalate_dot {parts : List (List Char)} (hparts : parts ≠ []) :
    (['.'].intercalate parts).length + 1 = span parts := by
  induction parts with
  | nil => exact absurd rfl hparts
  | cons part parts ih =>
      cases parts with
      | nil => simp [span]
      | cons next parts =>
          have hrest := ih (by simp)
          rw [List.intercalate_cons_cons]
          simp only [span, List.length_append, List.length_singleton] at hrest ⊢
          omega

/-- Comparing parts and then their spans is comparing the parts as lists. -/
theorem compareParts_then_span {left right : List (List Char)}
    (hleft : ∀ part ∈ left, isPrePart part) (hright : ∀ part ∈ right, isPrePart part) :
    (compareParts (left.map Part.ofText) (right.map Part.ofText)).then
        (compare (span left) (span right)) =
      List.compareLex Part.compare (left.map Part.ofText) (right.map Part.ofText) := by
  induction left generalizing right with
  | nil =>
      cases right with
      | nil => rfl
      | cons part right =>
          have hlt : span [] < span (part :: right) := by
            rw [span, span]
            omega
          rw [List.map_nil, List.map_cons, List.compareLex_nil_cons, compareParts]
          · exact Nat.compare_eq_lt.mpr hlt
          · simp
  | cons part left ih =>
      cases right with
      | nil =>
          have hlt : span [] < span (part :: left) := by
            rw [span, span]
            omega
          rw [List.map_nil, List.map_cons, List.compareLex_cons_nil, compareParts]
          · exact Nat.compare_eq_gt.mpr hlt
          · simp
      | cons other right =>
          have hrest := @ih right (fun text hmem => hleft text (by simp [hmem]))
            fun text hmem => hright text (by simp [hmem])
          rw [List.map_cons, List.map_cons, compareParts, List.compareLex_cons_cons,
            Ordering.then_assoc, ← hrest]
          cases hpart : (Part.ofText part).compare (Part.ofText other) with
          | lt => rfl
          | gt => rfl
          | eq =>
              have heq := ofText_injective (hleft part (by simp)) (hright other (by simp))
                (Std.LawfulEqCmp.eq_of_compare hpart)
              have hspan : compare (span (part :: left)) (span (other :: right)) =
                  compare (span left) (span right) := by
                rw [heq, span, span, Nat.compare_eq_ite_lt, Nat.compare_eq_ite_lt]
                simp only [Nat.add_lt_add_iff_left]
              rw [hspan]

theorem length_add_one (tag : List Char) : tag.length + 1 = span (tag.splitOn '.') := by
  have hspan := length_intercalate_dot (List.splitOn_ne_nil '.' tag)
  rwa [List.intercalate_splitOn] at hspan

theorem compareTags_eq {left right : List Char} (hleft : allParts isPrePart left)
    (hright : allParts isPrePart right) :
    compareTags left right = List.compareLex Part.compare (partsOf left) (partsOf right) := by
  have hlength : compare left.length right.length =
      compare (span (left.splitOn '.')) (span (right.splitOn '.')) := by
    rw [← length_add_one, ← length_add_one, Nat.compare_eq_ite_lt, Nat.compare_eq_ite_lt]
    simp only [Nat.add_lt_add_iff_right]
  rw [compareTags, hlength]
  exact compareParts_then_span (List.all_eq_true.mp hleft) (List.all_eq_true.mp hright)

theorem compareTags_nil_left {tag : List Char} (hne : tag ≠ []) : compareTags [] tag ≠ .eq := by
  intro heq
  rw [compareTags, Ordering.then_eq_eq, Nat.compare_eq_eq] at heq
  exact hne (List.length_eq_zero_iff.mp heq.2.symm)

theorem compareTags_nil_right {tag : List Char} (hne : tag ≠ []) : compareTags tag [] ≠ .eq := by
  intro heq
  rw [compareTags, Ordering.then_eq_eq, Nat.compare_eq_eq] at heq
  exact hne (List.length_eq_zero_iff.mp heq.2)

theorem pre_ne_empty (version : Version) : version.pre ≠ some "" := by
  intro hpre
  have hspelled := version.pre_spelled "" (by simp [hpre])
  revert hspelled
  decide

/-- The parts of the pre-release tag of a version, if it has one. -/
def preParts (version : Version) : Option (List Part) :=
  version.pre.map fun tag => partsOf tag.toList

/-- Missing parts come last. -/
def comparePreParts : Option (List Part) → Option (List Part) → Ordering
  | none, none => .eq
  | none, some _ => .gt
  | some _, none => .lt
  | some left, some right => List.compareLex Part.compare left right

instance : Std.LawfulEqCmp comparePreParts where
  compare_self {parts} := by
    cases parts with
    | none => rfl
    | some parts => exact Std.ReflCmp.compare_self (α := List Part)
  eq_of_compare {left right} heq := by
    cases left with
    | none => cases right <;> trivial
    | some left =>
        cases right with
        | none => cases heq
        | some right =>
            have hparts := @Std.LawfulEqCmp.eq_of_compare _ (List.compareLex Part.compare) _ _ _ heq
            rw [hparts]

instance : Std.TransCmp comparePreParts where
  eq_swap {left right} := by
    cases left with
    | none => cases right <;> rfl
    | some left =>
        cases right with
        | none => rfl
        | some right => exact Std.OrientedCmp.eq_swap (α := List Part)
  isLE_trans {first second third} hleft hright := by
    cases third with
    | none => cases first <;> rfl
    | some third =>
        cases second with
        | none => cases hright
        | some second =>
            cases first with
            | none => cases hleft
            | some first =>
                have htrans := @Std.TransCmp.isLE_trans _ (List.compareLex Part.compare) _
                exact htrans hleft hright

theorem comparePre_none_some {tag : String} (hne : tag ≠ "") :
    comparePre none (some tag) = .gt := by
  have htags : compareTags [] tag.toList ≠ .eq := compareTags_nil_left (by simpa using hne)
  simp only [comparePre, Option.getD_none, Option.getD_some, String.toList_empty,
    List.isEmpty_nil, if_true]

theorem comparePre_some_none {tag : String} (hne : tag ≠ "") :
    comparePre (some tag) none = .lt := by
  have hlist : tag.toList ≠ [] := by simpa using hne
  have htags := compareTags_nil_right hlist
  simp only [comparePre, Option.getD_none, Option.getD_some, String.toList_empty,
    List.isEmpty_nil, if_true]
  rw [if_neg (by simpa using hne)]

theorem comparePre_some_some {left right : String} (hleft : left ≠ "") (hright : right ≠ "") :
    comparePre (some left) (some right) = compareTags left.toList right.toList := by
  simp only [comparePre, Option.getD_some]
  split
  · rename_i heq
    exact heq.symm
  · rw [if_neg (by simpa using hleft), if_neg (by simpa using hright)]

theorem comparePre_eq (left right : Version) :
    comparePre left.pre right.pre = comparePreParts left.preParts right.preParts := by
  have hleftNe := left.pre_ne_empty
  have hrightNe := right.pre_ne_empty
  rw [preParts, preParts]
  cases hleft : left.pre with
  | none =>
      cases hright : right.pre with
      | none => rfl
      | some tag => exact comparePre_none_some (by simpa [hright] using hrightNe)
  | some tag =>
      cases hright : right.pre with
      | none => exact comparePre_some_none (by simpa [hleft] using hleftNe)
      | some other =>
          rw [comparePre_some_some (by simpa [hleft] using hleftNe)
            (by simpa [hright] using hrightNe)]
          exact compareTags_eq (left.pre_spelled tag hleft) (right.pre_spelled other hright)

/-! ## Versions -/

theorem precedence_eq_compareLex :
    precedence = compareLex (compareOn major) (compareLex (compareOn minor)
      (compareLex (compareOn patch) fun left right =>
        comparePreParts left.preParts right.preParts)) := by
  funext left right
  rw [precedence, comparePre_eq]
  rfl

instance : Std.TransCmp fun left right : Version =>
    comparePreParts left.preParts right.preParts where
  eq_swap := Std.OrientedCmp.eq_swap (α := Option (List Part))
  isLE_trans := Std.TransCmp.isLE_trans (α := Option (List Part))

/-- Precedence is a total preorder. -/
instance : Std.TransCmp precedence := by
  rw [precedence_eq_compareLex]
  infer_instance

end CrateReadme.Version
