import CrateReadme.Text.Integer
import Mathlib.Data.List.Induction

/-!
# Decimal numbers read back

A number in decimal is a run of ASCII digits that starts with zero only if it is the number zero.
Its value as an unsigned number is the number itself. What holds of all ASCII characters is decided
by evaluation, and what holds of all characters by walking along the tables of their classes.
-/

namespace CrateReadme.Text

/-- The digits of a number in decimal, and how they make up the number. -/
theorem exists_digits (n : Nat) :
    ∃ first rest, decimal n = digitChar first :: rest.map digitChar ∧
      first < 10 ∧ (∀ digit ∈ rest, digit < 10) ∧
      rest.foldl (fun value digit => value * 10 + digit) first = n ∧
      (first = 0 → rest = []) := by
  induction n using Nat.strongRecOn with
  | ind n ih =>
      by_cases hsmall : n < 10
      · refine ⟨n, [], ?_, hsmall, by simp, rfl, fun _ => rfl⟩
        rw [decimal, if_pos hsmall, List.map_nil]
      · obtain ⟨first, rest, hdecimal, hfirst, hrest, hvalue, hzero⟩ := ih (n / 10) (by omega)
        refine ⟨first, rest ++ [n % 10], ?_, hfirst, ?_, ?_, ?_⟩
        · rw [decimal, if_neg hsmall, hdecimal]
          simp
        · intro digit hmem
          rcases List.mem_append.mp hmem with hmem | hmem
          · exact hrest digit hmem
          · rw [List.mem_singleton.mp hmem]
            omega
        · rw [List.foldl_append, hvalue]
          simp only [List.foldl_cons, List.foldl_nil]
          omega
        · intro hfirstzero
          have hnone := hzero hfirstzero
          rw [hnone, hfirstzero, List.foldl_nil] at hvalue
          omega

theorem digitValue?_digitChar {digit : Nat} (hdigit : digit < 10) :
    digitValue? 10 (digitChar digit) = some digit := by
  revert digit
  decide

theorem isDecimal_digitChar {digit : Nat} (hdigit : digit < 10) :
    isDecimal (digitChar digit) = true := by
  revert digit
  decide

theorem digitChar_ne_underscore {digit : Nat} (hdigit : digit < 10) :
    digitChar digit ≠ '_' := by
  revert digit
  decide

theorem readDigits?_cons {base digit : Nat} {c : Char} (hdigit : digitValue? base c = some digit)
    (hunderscore : c ≠ '_') (value : Nat) (text : List Char) :
    readDigits? base value (c :: text) = readDigits? base (value * base + digit) text := by
  rw [readDigits?.eq_def]
  split
  · rename_i heq
    cases heq
  · rename_i heq
    exact absurd (List.cons.inj heq).1 hunderscore
  · rename_i heq
    cases heq
    rw [hdigit]

theorem readDigits?_map_digitChar {digits : List Nat} (hdigits : ∀ digit ∈ digits, digit < 10)
    (value : Nat) :
    readDigits? 10 value (digits.map digitChar) =
      some (digits.foldl (fun value digit => value * 10 + digit) value) := by
  induction digits generalizing value with
  | nil => rfl
  | cons digit digits ih =>
      have hdigit := hdigits digit (by simp)
      rw [List.map_cons, readDigits?_cons (digitValue?_digitChar hdigit)
        (digitChar_ne_underscore hdigit)]
      exact ih (fun other hmem => hdigits other (by simp [hmem])) _

theorem natural?_map_digitChar {first : Nat} {rest : List Nat} (hfirst : first < 10)
    (hrest : ∀ digit ∈ rest, digit < 10) :
    natural? 10 (digitChar first :: rest.map digitChar) =
      some (rest.foldl (fun value digit => value * 10 + digit) first) := by
  rw [natural?, digitValue?_digitChar hfirst]
  exact readDigits?_map_digitChar hrest first

theorem natural?_decimal (n : Nat) : natural? 10 (decimal n) = some n := by
  obtain ⟨first, rest, hdecimal, hfirst, hrest, hvalue, -⟩ := exists_digits n
  rw [hdecimal, natural?_map_digitChar hfirst hrest, hvalue]

theorem le_foldl_digits (first : Nat) (rest : List Nat) :
    first ≤ rest.foldl (fun value digit => value * 10 + digit) first := by
  induction rest generalizing first with
  | nil => exact Nat.le_refl first
  | cons digit rest ih =>
      have hfirst : first ≤ first * 10 + digit := by omega
      exact Nat.le_trans hfirst (ih (first * 10 + digit))

/-- Digits that do not start with zero are the ones that their number is written with. -/
theorem decimal_foldl_digits {first : Nat} {rest : List Nat} (hpos : 0 < first)
    (hfirst : first < 10) (hrest : ∀ digit ∈ rest, digit < 10) :
    decimal (rest.foldl (fun value digit => value * 10 + digit) first) =
      digitChar first :: rest.map digitChar := by
  induction rest using List.reverseRecOn with
  | nil => rw [List.foldl_nil, decimal, if_pos hfirst, List.map_nil]
  | append_singleton rest digit ih =>
      have hdigit := hrest digit (by simp)
      have hvalue := ih fun other hmem => hrest other (by simp [hmem])
      have hlarge := le_foldl_digits first rest
      rw [List.foldl_append, List.foldl_cons, List.foldl_nil, decimal, if_neg (by omega),
        Nat.mul_comm, Nat.mul_add_div (by omega), Nat.div_eq_of_lt hdigit, Nat.add_zero,
        Nat.mul_add_mod, Nat.mod_eq_of_lt hdigit, hvalue]
      simp

theorem exists_digit_of_isDigit {c : Char} (hdigit : c.isDigit) :
    ∃ digit < 10, c = digitChar digit := by
  simp only [Char.isDigit, Bool.and_eq_true, decide_eq_true_eq] at hdigit
  have hlow : 48 ≤ c.toNat := hdigit.1
  have hhigh : c.toNat ≤ 57 := hdigit.2
  refine ⟨c.toNat - 48, by omega, ?_⟩
  rw [digitChar, show 48 + (c.toNat - 48) = c.toNat by omega, Char.ofNat_toNat]

theorem exists_digits_of_all_isDigit {text : List Char} (hdigits : text.all Char.isDigit) :
    ∃ digits : List Nat, (∀ digit ∈ digits, digit < 10) ∧ text = digits.map digitChar := by
  induction text with
  | nil => exact ⟨[], by simp, rfl⟩
  | cons c text ih =>
      rw [List.all_cons, Bool.and_eq_true] at hdigits
      obtain ⟨digit, hdigit, rfl⟩ := exists_digit_of_isDigit hdigits.1
      obtain ⟨digits, hall, rfl⟩ := ih hdigits.2
      exact ⟨digit :: digits, by simpa using ⟨hdigit, hall⟩, rfl⟩

theorem isDecimal_of_mem_decimal {n : Nat} {c : Char} (hmem : c ∈ decimal n) :
    isDecimal c = true := by
  obtain ⟨first, rest, hdecimal, hfirst, hrest, -, -⟩ := exists_digits n
  rw [hdecimal] at hmem
  rcases List.mem_cons.mp hmem with rfl | hmem
  · exact isDecimal_digitChar hfirst
  · obtain ⟨digit, hdigit, rfl⟩ := List.mem_map.mp hmem
    exact isDecimal_digitChar (hrest digit hdigit)

/-- A property of the first 128 codes is one of every ASCII character. -/
@[elab_as_elim]
theorem forall_ascii {motive : Char → Prop} (hcodes : ∀ code < 128, motive (Char.ofNat code))
    {c : Char} (hascii : c.toNat < 128) : motive c := by
  have hcode := hcodes c.toNat hascii
  rwa [Char.ofNat_toNat] at hcode

theorem toNat_lt_of_isAlphanum {c : Char} (hascii : c.isAlphanum) : c.toNat < 128 := by
  have hranges : ((decide ('A'.val ≤ c.val ∧ c.val ≤ 'Z'.val) ||
      decide ('a'.val ≤ c.val) && decide (c.val ≤ 'z'.val)) ||
      decide ('0'.val ≤ c.val) && decide (c.val ≤ '9'.val)) = true := hascii
  simp only [Bool.or_eq_true, Bool.and_eq_true, decide_eq_true_eq, UInt32.le_iff_toNat_le]
    at hranges
  have hcode : c.toNat = c.val.toNat := rfl
  have hupper : 'Z'.val.toNat = 90 := rfl
  have hlower : 'z'.val.toNat = 122 := rfl
  have hdigit : '9'.val.toNat = 57 := rfl
  omega

/-! ### Tables of characters -/

namespace Ranges

/-- Whether the ranges of a table, from `low` on, ascend. -/
def ascends : (low : Nat) → Ranges → Bool
  | _, [] => true
  | low, range :: table => low ≤ range.1 && range.1 ≤ range.2 && ascends range.2 table

/-- Whether no two ranges of two tables meet, going up in both of them; `left` bounds the steps. -/
def liesApart : (left : Nat) → Ranges → Ranges → Bool
  | 0, _, _ => false
  | _, [], _ => true
  | _, _, [] => true
  | left + 1, range :: table, other :: others =>
    if range.2 < other.1 then liesApart left table (other :: others)
    else other.2 < range.1 && liesApart left (range :: table) others

theorem ascends_cons {low : Nat} {range : Nat × Nat} {table : Ranges}
    (hascends : ascends low (range :: table)) :
    low ≤ range.1 ∧ range.1 ≤ range.2 ∧ ascends range.2 table := by
  simpa [ascends, and_assoc] using hascends

theorem le_of_ascends {low : Nat} {table : Ranges} (hascends : ascends low table) :
    ∀ range ∈ table, low ≤ range.1 := by
  induction table generalizing low with
  | nil => exact fun range hmem => absurd hmem List.not_mem_nil
  | cons first table ih =>
    obtain ⟨hlow, hfirst, hrest⟩ := ascends_cons hascends
    exact List.forall_mem_cons.mpr ⟨hlow, fun range hmem =>
      Nat.le_trans (Nat.le_trans hlow hfirst) (ih hrest range hmem)⟩

/-- A character lies in one of two tables that ascend and lie apart, at most. -/
theorem holds_eq_false_of_liesApart (left low : Nat) {otherLow : Nat} {table others : Ranges}
    {c : Char} (hapart : liesApart left table others) (htable : ascends low table)
    (hothers : ascends otherLow others) (hholds : table.holds c) : others.holds c = false := by
  rw [Bool.eq_false_iff]
  intro hother
  obtain ⟨range, hrange, hfirst, hlast⟩ := holds_iff.mp hholds
  obtain ⟨other, hmem, hstart, hstop⟩ := holds_iff.mp hother
  induction left generalizing table others low otherLow with
  | zero => cases hapart
  | succ left ih =>
    cases table with
    | nil => exact List.not_mem_nil hrange
    | cons front table =>
      cases others with
      | nil => exact List.not_mem_nil hmem
      | cons ahead others =>
        obtain ⟨-, hfront, htable'⟩ := ascends_cons htable
        obtain ⟨-, hahead, hothers'⟩ := ascends_cons hothers
        rw [liesApart] at hapart
        split at hapart
        next hbefore =>
          rcases List.mem_cons.mp hrange with rfl | hrange
          · have hle : ahead.1 ≤ other.1 := by
              rcases List.mem_cons.mp hmem with rfl | hmem
              · exact Nat.le_refl _
              · exact Nat.le_trans hahead (le_of_ascends hothers' other hmem)
            omega
          · exact ih _ hapart htable' hothers (holds_iff.mpr ⟨range, hrange, hfirst, hlast⟩)
              hother hrange hmem
        next =>
          rw [Bool.and_eq_true, decide_eq_true_eq] at hapart
          rcases List.mem_cons.mp hmem with rfl | hmem
          · have hle : front.1 ≤ range.1 := by
              rcases List.mem_cons.mp hrange with rfl | hrange
              · exact Nat.le_refl _
              · exact Nat.le_trans hfront (le_of_ascends htable' range hrange)
            omega
          · exact ih _ hapart.2 htable hothers' hholds
              (holds_iff.mpr ⟨other, hmem, hstart, hstop⟩) hrange hmem

end Ranges

theorem ascends_letterRanges : letterRanges.ascends 0 := by
  decide +kernel

theorem ascends_numericRanges : numericRanges.ascends 0 := by
  decide +kernel

/-- A letter or number beyond ASCII is in no table that lies apart from those of letters and
numbers. -/
theorem holds_eq_false_of_isLetterOrNumeric {low : Nat} {table : Ranges}
    (htable : table.ascends low) (hletters : Ranges.liesApart 2000 letterRanges table)
    (hnumbers : Ranges.liesApart 2000 numericRanges table) {c : Char} (hc : isLetterOrNumeric c)
    (hbeyond : 128 ≤ c.toNat) : table.holds c = false := by
  rw [isLetterOrNumeric, if_neg (Nat.not_lt_of_le hbeyond), Bool.or_eq_true] at hc
  rcases hc with hc | hc
  · exact Ranges.holds_eq_false_of_liesApart 2000 0 hletters ascends_letterRanges htable hc
  · exact Ranges.holds_eq_false_of_liesApart 2000 0 hnumbers ascends_numericRanges htable hc

theorem isBlank_eq_false_of_isLetterOrNumeric {c : Char} (hc : isLetterOrNumeric c) :
    isBlank c = false := by
  by_cases hascii : c.toNat < 128
  · rw [isLetterOrNumeric, if_pos hascii] at hc
    have happart : c.isAlphanum → isBlank c = false := forall_ascii (by decide +kernel) hascii
    exact happart hc
  · have hblanks : blankRanges.ascends 0 := by decide
    exact holds_eq_false_of_isLetterOrNumeric hblanks (by decide +kernel) (by decide +kernel) hc
      (Nat.le_of_not_lt hascii)

end CrateReadme.Text
