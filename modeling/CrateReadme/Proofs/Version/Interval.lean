import CrateReadme.Proofs.Version.Precedence
import CrateReadme.Version.Requirement
import Mathlib.Data.List.Forall2
import Mathlib.Data.Prod.Lex
import Mathlib.Order.WithBot

/-!
# Requirements as intervals

A comparator stands for a half-open interval of version numbers, whose ends follow from the operator
and from the numbers that are written after it. Only a version with exactly the three written
numbers is decided by the pre-release tags instead. The main statement gives what a requirement
accepts in these terms, without the order of tests that the comparators go through.
-/

namespace CrateReadme

/-- The three numbers of a version in lexicographic order. -/
abbrev Triple := ℕ ×ₗ ℕ ×ₗ ℕ

def triple (major minor patch : ℕ) : Triple :=
  toLex (major, toLex (minor, patch))

@[simp]
theorem triple_lt_iff {a b c a' b' c' : ℕ} :
    triple a b c < triple a' b' c' ↔
      a < a' ∨ a = a' ∧ (b < b' ∨ b = b' ∧ c < c') := by
  simp [triple, Prod.Lex.toLex_lt_toLex]

@[simp]
theorem triple_le_iff {a b c a' b' c' : ℕ} :
    triple a b c ≤ triple a' b' c' ↔
      a < a' ∨ a = a' ∧ (b < b' ∨ b = b' ∧ c ≤ c') := by
  simp [triple, Prod.Lex.toLex_le_toLex]

@[simp]
theorem triple_inj {a b c a' b' c' : ℕ} :
    triple a b c = triple a' b' c' ↔ a = a' ∧ b = b' ∧ c = c' := by
  simp [triple]

def Version.triple (version : Version) : Triple :=
  CrateReadme.triple version.major version.minor version.patch

namespace Comparator

/-- The numbers of a comparator if all three are written. -/
def full? (comparator : Comparator) : Option Triple := do
  return triple (← comparator.major) (← comparator.minor) (← comparator.patch)

/-- The written numbers, filled up with zeros. -/
def base (comparator : Comparator) : Triple :=
  triple (comparator.major.getD 0) (comparator.minor.getD 0) (comparator.patch.getD 0)

def bumpMajor (comparator : Comparator) : Triple :=
  triple (comparator.major.getD 0 + 1) 0 0

def bumpMinor (comparator : Comparator) : Triple :=
  triple (comparator.major.getD 0) (comparator.minor.getD 0 + 1) 0

def bumpPatch (comparator : Comparator) : Triple :=
  triple (comparator.major.getD 0) (comparator.minor.getD 0) (comparator.patch.getD 0 + 1)

/-- The first triple after all those that begin with the written numbers. -/
def bumpLast (comparator : Comparator) : Triple :=
  if comparator.minor = none then comparator.bumpMajor
  else if comparator.patch = none then comparator.bumpMinor
  else comparator.bumpPatch

def low (comparator : Comparator) : Triple :=
  match comparator.op with
  | .greater => comparator.bumpLast
  | .less | .lessEq => triple 0 0 0
  | .exact | .greaterEq | .tilde | .caret | .wildcard => comparator.base

/-- The least triple beyond those that a comparator allows. Compatibility ends where the left-most
number that is not zero changes, or the last written one if all are zero. -/
def high (comparator : Comparator) : WithTop Triple :=
  match comparator.op with
  | .greater | .greaterEq => ⊤
  | .less => comparator.base
  | .exact | .lessEq => comparator.bumpLast
  | .wildcard => if comparator.major = none then ⊤ else comparator.bumpLast
  | .tilde => if comparator.minor = none then comparator.bumpMajor else comparator.bumpMinor
  | .caret =>
    if comparator.major ≠ some 0 ∨ comparator.minor = none then comparator.bumpMajor
    else if comparator.minor ≠ some 0 ∨ comparator.patch = none then comparator.bumpMinor
    else comparator.bumpPatch

/-- The interval of a comparator holds the numbers of a version. -/
def Covers (comparator : Comparator) (version : Version) : Prop :=
  comparator.low ≤ version.triple ∧ (version.triple : WithTop Triple) < comparator.high

/-- The relation in which an operator wants the pre-release tag of a version with the written
numbers to stand to the written tag. -/
def RelatesPre (comparator : Comparator) (version : Version) : Prop :=
  match comparator.op with
  | .exact => version.pre = comparator.pre
  | .greater => comparator.comparePre version = .gt
  | .less => comparator.comparePre version = .lt
  | .greaterEq => version.pre = comparator.pre ∨ comparator.comparePre version = .gt
  | .lessEq => version.pre = comparator.pre ∨ comparator.comparePre version = .lt
  | .tilde | .caret => comparator.comparePre version ≠ .lt
  | .wildcard => True

/-- Numbers are written from the left without gaps, a wildcard stands for at least the last one, and
a tag follows three numbers only. -/
structure IsWritten (comparator : Comparator) : Prop where
  major_of_op : comparator.op ≠ .wildcard → comparator.major.isSome
  major_of_minor : comparator.minor.isSome → comparator.major.isSome
  minor_of_patch : comparator.patch.isSome → comparator.minor.isSome
  patch_of_pre : comparator.pre.isSome → comparator.patch.isSome
  no_patch_of_op : comparator.op = .wildcard → comparator.patch = none

theorem component_ne_absent {text rest : List Char} {component : Component}
    (hread : readComponent? text = some (component, rest)) : component ≠ .absent := by
  cases text with
  | nil => simp [readComponent?] at hread
  | cons c text =>
      simp only [readComponent?] at hread
      split at hread
      · rintro rfl
        simp at hread
      · rintro rfl
        simp at hread

theorem readOperator_ne_wildcard (text : List Char) :
    (readOperator text).1 ≠ some .wildcard := by
  fun_cases readOperator text <;> simp

/-- A comparator has a first component, and no sign stands for the wildcard operator. -/
theorem written_of_read {text : List Char} {written : Written}
    (hread : readWritten? text = some written) :
    written.major ≠ .absent ∧ written.op ≠ some .wildcard := by
  simp only [readWritten?, Option.bind_eq_bind, Option.bind_eq_some_iff] at hread
  obtain ⟨⟨major, rest⟩, hmajor, hwritten⟩ := hread
  split at hwritten
  · cases hwritten
    exact ⟨component_ne_absent hmajor, readOperator_ne_wildcard _⟩
  · cases hwritten

theorem isSome_number_of_ne {component : Component} (habsent : component ≠ .absent)
    (hanything : component ≠ .anything) : component.number?.isSome := by
  cases component <;> simp_all [Component.number?]

theorem isSome_of_hasGap_eq_false {written : Written} (hgap : written.hasGap = false) :
    (written.minor.number?.isSome → written.major.number?.isSome) ∧
      (written.patch.number?.isSome → written.minor.number?.isSome) := by
  simp only [Written.hasGap] at hgap
  cases hmajor : written.major.number? <;> cases hminor : written.minor.number? <;>
    simp_all

/-- Reading a comparator gives one whose parts fit together. -/
theorem isWritten_of_parse {text : List Char} {comparator : Comparator}
    (hparse : parse text = .ok comparator) : comparator.IsWritten := by
  simp only [parse] at hparse
  split at hparse
  · cases hparse
  rename_i written hread
  obtain ⟨habsent, hsign⟩ := written_of_read hread
  split_ifs at hparse with hgap hwildcard hop hpre hpartial
  · cases hparse
    obtain ⟨hminor, -⟩ := isSome_of_hasGap_eq_false (by simpa using hgap)
    exact ⟨by simp, hminor, by simp, by simp, by simp⟩
  · cases hparse
    obtain ⟨-, hpatch⟩ := isSome_of_hasGap_eq_false (by simpa using hgap)
    have hanything : written.major ≠ .anything := by
      intro hmajor
      simp [Written.hasWildcard, hmajor] at hwildcard
    have hmajor := isSome_number_of_ne habsent hanything
    refine ⟨fun _ => hmajor, fun _ => hmajor, hpatch, fun hpre => ?_, fun hop => ?_⟩
    · cases hnumber : written.patch.number? with
      | none => simp_all
      | some patch => rfl
    · cases hwritten : written.op with
      | none => simp [hwritten] at hop
      | some op => simp_all

/-- The numbers of a comparator that are written: one, two or three. -/
theorem IsWritten.shape {comparator : Comparator} (hwritten : comparator.IsWritten)
    (hmajor : comparator.major.isSome) :
    ∃ major, comparator.major = some major ∧
      ((comparator.minor = none ∧ comparator.patch = none) ∨
        ∃ minor, comparator.minor = some minor ∧
          (comparator.patch = none ∨ ∃ patch, comparator.patch = some patch)) := by
  obtain ⟨major, hmajor⟩ := Option.isSome_iff_exists.mp hmajor
  refine ⟨major, hmajor, ?_⟩
  cases hminor : comparator.minor with
  | none =>
      have hpatch : comparator.patch = none := by
        simpa [hminor] using mt hwritten.minor_of_patch
      exact Or.inl ⟨rfl, hpatch⟩
  | some minor =>
      refine Or.inr ⟨minor, rfl, ?_⟩
      cases comparator.patch with
      | none => exact Or.inl rfl
      | some patch => exact Or.inr ⟨patch, rfl⟩

/-! ## Single operators -/

section Operators

variable {comparator : Comparator} {version : Version}
variable (hwritten : comparator.IsWritten) (hmajor : comparator.major.isSome)
variable (hfull : comparator.full? ≠ some version.triple)

include hwritten hmajor

theorem base_lt_bumpLast : comparator.base < comparator.bumpLast := by
  obtain ⟨major, hmajor, ⟨hminor, hpatch⟩ | ⟨minor, hminor, hpatch | ⟨patch, hpatch⟩⟩⟩ :=
    hwritten.shape hmajor
  all_goals
    simp [base, bumpLast, bumpMajor, bumpMinor, bumpPatch, hminor, hpatch]

include hfull

theorem matchesExact_iff :
    comparator.matchesExact version ↔
      comparator.base ≤ version.triple ∧ version.triple < comparator.bumpLast := by
  obtain ⟨major, hmajor, ⟨hminor, hpatch⟩ | ⟨minor, hminor, hpatch | ⟨patch, hpatch⟩⟩⟩ :=
    hwritten.shape hmajor
  · simp [matchesExact, base, bumpLast, bumpMajor, Version.triple, hmajor, hminor, hpatch]
    omega
  · simp [matchesExact, base, bumpLast, bumpMinor, Version.triple, hmajor, hminor, hpatch]
    omega
  · simp [full?, Version.triple, hmajor, hminor, hpatch] at hfull
    simp [matchesExact, base, bumpLast, bumpPatch, Version.triple, hmajor, hminor, hpatch]
    omega

/-- A version is beyond a comparator if and only if it is at or above the next step of its last
number. -/
theorem matchesBeyond_gt_iff :
    comparator.matchesBeyond .gt version ↔ comparator.bumpLast ≤ version.triple := by
  obtain ⟨major, hmajor, ⟨hminor, hpatch⟩ | ⟨minor, hminor, hpatch | ⟨patch, hpatch⟩⟩⟩ :=
    hwritten.shape hmajor
  · simp only [matchesBeyond, hmajor, hminor, Option.getD_some]
    split_ifs <;>
      simp [Nat.compare_eq_gt, bumpLast, bumpMajor, Version.triple, hmajor, hminor] <;> omega
  · simp only [matchesBeyond, hmajor, hminor, hpatch, Option.getD_some]
    split_ifs <;>
      simp [Nat.compare_eq_gt, bumpLast, bumpMinor, Version.triple, hmajor, hminor, hpatch] <;>
      omega
  · simp [full?, Version.triple, hmajor, hminor, hpatch] at hfull
    simp only [matchesBeyond, hmajor, hminor, hpatch, Option.getD_some]
    split_ifs <;>
      simp [Nat.compare_eq_gt, bumpLast, bumpPatch, Version.triple, hmajor, hminor, hpatch] <;>
      omega

/-- A version is below a comparator if and only if its numbers are below those written. -/
theorem matchesBeyond_lt_iff :
    comparator.matchesBeyond .lt version ↔ version.triple < comparator.base := by
  obtain ⟨major, hmajor, ⟨hminor, hpatch⟩ | ⟨minor, hminor, hpatch | ⟨patch, hpatch⟩⟩⟩ :=
    hwritten.shape hmajor
  · simp only [matchesBeyond, hmajor, hminor, Option.getD_some]
    split_ifs <;>
      simp [Nat.compare_eq_lt, base, Version.triple, hmajor, hminor, hpatch]
    omega
  · simp only [matchesBeyond, hmajor, hminor, hpatch, Option.getD_some]
    split_ifs <;>
      simp [Nat.compare_eq_lt, base, Version.triple, hmajor, hminor, hpatch] <;> omega
  · simp [full?, Version.triple, hmajor, hminor, hpatch] at hfull
    simp only [matchesBeyond, hmajor, hminor, hpatch, Option.getD_some]
    split_ifs <;>
      simp [Nat.compare_eq_lt, base, Version.triple, hmajor, hminor, hpatch] <;> omega

/-- A tilde accepts what is at or above its base and below the next minor, or major, version. -/
theorem matchesTilde_iff :
    comparator.matchesTilde version ↔
      comparator.base ≤ version.triple ∧
        version.triple <
          if comparator.minor = none then comparator.bumpMajor else comparator.bumpMinor := by
  obtain ⟨major, hmajor, ⟨hminor, hpatch⟩ | ⟨minor, hminor, hpatch | ⟨patch, hpatch⟩⟩⟩ :=
    hwritten.shape hmajor
  · simp [matchesTilde, base, bumpMajor, Version.triple, hmajor, hminor, hpatch]
    omega
  · simp [matchesTilde, base, bumpMinor, Version.triple, hmajor, hminor, hpatch]
    omega
  · simp [full?, Version.triple, hmajor, hminor, hpatch] at hfull
    simp only [matchesTilde, base, bumpMinor, Version.triple, hmajor, hminor, hpatch]
    by_cases hequal : version.patch = patch
    · simp [hequal]
      grind
    · simp [hequal]
      omega

/-- A caret accepts what is at or above its base and below the next step of a number: the first that
is not zero or the last that is written. -/
theorem matchesCaret_iff :
    comparator.matchesCaret version ↔
      comparator.base ≤ version.triple ∧
        version.triple <
          if comparator.major ≠ some 0 ∨ comparator.minor = none then comparator.bumpMajor
          else if comparator.minor ≠ some 0 ∨ comparator.patch = none then comparator.bumpMinor
          else comparator.bumpPatch := by
  obtain ⟨major, hmajor, ⟨hminor, hpatch⟩ | ⟨minor, hminor, hpatch | ⟨patch, hpatch⟩⟩⟩ :=
    hwritten.shape hmajor
  · simp [matchesCaret, base, bumpMajor, Version.triple, hmajor, hminor, hpatch]
    omega
  · rcases Nat.eq_zero_or_pos major with rfl | hpos
    · simp [matchesCaret, base, bumpMinor, Version.triple, hmajor, hminor, hpatch]
      omega
    · simp [matchesCaret, base, bumpMajor, Version.triple, hmajor, hminor, hpatch, hpos,
        hpos.ne']
      omega
  · simp [full?, Version.triple, hmajor, hminor, hpatch] at hfull
    rcases Nat.eq_zero_or_pos major with rfl | hpos
    · rcases Nat.eq_zero_or_pos minor with rfl | hminorpos
      · simp [matchesCaret, base, bumpPatch, Version.triple, hmajor, hminor, hpatch]
        grind
      · simp [matchesCaret, base, bumpMinor, Version.triple, hmajor, hminor, hpatch, hminorpos,
          hminorpos.ne']
        grind
    · simp [matchesCaret, base, bumpMajor, Version.triple, hmajor, hminor, hpatch, hpos, hpos.ne']
      grind

end Operators

/-- A wildcard accepts what it covers. -/
theorem matchesWildcard_iff {comparator : Comparator} {version : Version}
    (hwritten : comparator.IsWritten) (hop : comparator.op = .wildcard) :
    comparator.matchesWildcard version ↔ comparator.Covers version := by
  have hpatch : comparator.patch = none := hwritten.no_patch_of_op hop
  cases hmajor : comparator.major with
  | none =>
      have hminor : comparator.minor = none := by
        simpa [hmajor] using mt hwritten.major_of_minor
      simp [matchesWildcard, Covers, low, high, base, Version.triple, hop, hmajor, hminor, hpatch,
        Nat.pos_iff_ne_zero]
      omega
  | some major =>
      cases hminor : comparator.minor with
      | none =>
          simp [matchesWildcard, Covers, low, high, base, bumpLast, bumpMajor, Version.triple, hop,
            hmajor, hminor, hpatch]
          omega
      | some minor =>
          simp [matchesWildcard, Covers, low, high, base, bumpLast, bumpMinor, Version.triple, hop,
            hmajor, hminor, hpatch]
          omega

/-! ## Comparators and requirements -/

/-- The numbers of a version decide, unless they are the three written ones. -/
theorem accepts_iff_covers {comparator : Comparator} {version : Version}
    (hwritten : comparator.IsWritten) (hfull : comparator.full? ≠ some version.triple) :
    comparator.accepts version ↔ comparator.Covers version := by
  have hzero : triple 0 0 0 ≤ version.triple := by
    simp [Version.triple]
    omega
  cases hop : comparator.op with
  | wildcard => simpa [accepts, hop] using matchesWildcard_iff hwritten hop
  | exact =>
      have hmajor := hwritten.major_of_op (by simp [hop])
      simp [accepts, Covers, low, high, hop, matchesExact_iff hwritten hmajor hfull]
  | greater =>
      have hmajor := hwritten.major_of_op (by simp [hop])
      simp [accepts, Covers, low, high, hop, matchesBeyond_gt_iff hwritten hmajor hfull]
  | greaterEq =>
      have hmajor := hwritten.major_of_op (by simp [hop])
      have hbase := base_lt_bumpLast hwritten hmajor
      simp only [accepts, Covers, low, high, hop, Bool.or_eq_true,
        matchesExact_iff hwritten hmajor hfull, matchesBeyond_gt_iff hwritten hmajor hfull,
        WithTop.coe_lt_top, and_true]
      constructor
      · rintro (⟨hle, -⟩ | hle)
        · exact hle
        · exact hbase.le.trans hle
      · intro hle
        exact (lt_or_ge version.triple comparator.bumpLast).imp (fun hlt => ⟨hle, hlt⟩) id
  | less =>
      have hmajor := hwritten.major_of_op (by simp [hop])
      simp [accepts, Covers, low, high, hop, hzero, matchesBeyond_lt_iff hwritten hmajor hfull]
  | lessEq =>
      have hmajor := hwritten.major_of_op (by simp [hop])
      have hbase := base_lt_bumpLast hwritten hmajor
      simp only [accepts, Covers, low, high, hop, hzero, Bool.or_eq_true,
        matchesExact_iff hwritten hmajor hfull, matchesBeyond_lt_iff hwritten hmajor hfull,
        WithTop.coe_lt_coe, true_and]
      constructor
      · rintro (⟨-, hlt⟩ | hlt)
        · exact hlt
        · exact hlt.trans hbase
      · intro hlt
        exact (le_or_gt comparator.base version.triple).imp (fun hle => ⟨hle, hlt⟩) id
  | tilde =>
      have hmajor := hwritten.major_of_op (by simp [hop])
      simp only [accepts, Covers, low, high, hop, matchesTilde_iff hwritten hmajor hfull]
      split_ifs <;> simp
  | caret =>
      have hmajor := hwritten.major_of_op (by simp [hop])
      simp only [accepts, Covers, low, high, hop, matchesCaret_iff hwritten hmajor hfull]
      split_ifs <;> simp

theorem full?_eq_some_iff {comparator : Comparator} {version : Version} :
    comparator.full? = some version.triple ↔
      comparator.major = some version.major ∧ comparator.minor = some version.minor ∧
        comparator.patch = some version.patch := by
  cases hmajor : comparator.major <;> cases hminor : comparator.minor <;>
    cases hpatch : comparator.patch <;> simp [full?, Version.triple, hmajor, hminor, hpatch]

/-- The pre-release tags decide about a version with the three written numbers. -/
theorem accepts_iff_relatesPre {comparator : Comparator} {version : Version}
    (hwritten : comparator.IsWritten) (hfull : comparator.full? = some version.triple) :
    comparator.accepts version ↔ comparator.RelatesPre version := by
  obtain ⟨hmajor, hminor, hpatch⟩ := full?_eq_some_iff.mp hfull
  have hexact : comparator.matchesExact version ↔ version.pre = comparator.pre := by
    simp [matchesExact, hmajor, hminor, hpatch]
  have hbeyond (order : Ordering) : comparator.matchesBeyond order version ↔
      comparator.comparePre version = order := by
    simp [matchesBeyond, hmajor, hminor, hpatch]
  cases hop : comparator.op with
  | wildcard =>
      have hnone := hwritten.no_patch_of_op hop
      simp [hnone] at hpatch
  | exact => simp [accepts, RelatesPre, hop, hexact]
  | greater => simp [accepts, RelatesPre, hop, hbeyond]
  | greaterEq => simp [accepts, RelatesPre, hop, hexact, hbeyond]
  | less => simp [accepts, RelatesPre, hop, hbeyond]
  | lessEq => simp [accepts, RelatesPre, hop, hexact, hbeyond]
  | tilde => simp [accepts, RelatesPre, hop, matchesTilde, hmajor, hminor, hpatch]
  | caret => simp [accepts, RelatesPre, hop, matchesCaret, hmajor, hminor, hpatch]

theorem admitsPre_iff {comparator : Comparator} {version : Version} :
    comparator.admitsPre version ↔
      comparator.full? = some version.triple ∧ comparator.pre ≠ none := by
  rw [full?_eq_some_iff, ← Option.isSome_iff_ne_none]
  simp [admitsPre, and_assoc, and_comm]

end Comparator

namespace Requirement

theorem isPreRelease_iff (version : Version) : isPreRelease version ↔ version.pre ≠ none := by
  have hempty := version.pre_ne_empty
  cases hpre : version.pre with
  | none => simp [isPreRelease, hpre]
  | some tag => simp_all [isPreRelease]

/-- Reading one text after the other gives the list of what each of them is read as. -/
theorem mapM_eq_ok_iff {parts : List (List Char)} {comparators : List Comparator} :
    parts.mapM Comparator.parse = .ok comparators ↔
      List.Forall₂ (fun part comparator => Comparator.parse part = .ok comparator) parts
        comparators := by
  induction parts generalizing comparators with
  | nil => simp [pure, Except.pure, eq_comm]
  | cons part parts ih =>
      rw [List.mapM_cons, List.forall₂_cons_left_iff]
      simp only [← ih]
      cases Comparator.parse part <;> cases parts.mapM Comparator.parse <;>
        simp [bind, Except.bind, pure, Except.pure, eq_comm]

theorem parse_eq_ok_iff {text : String} {requirement : Requirement} :
    parse text = .ok requirement ↔ Text.strip text.toList ≠ [] ∧
      List.Forall₂ (fun part comparator => Comparator.parse part = .ok comparator)
        ((Text.strip text.toList).splitOn ',') requirement.comparators := by
  rw [← mapM_eq_ok_iff, ← List.isEmpty_eq_false_iff]
  simp only [parse]
  cases hempty : (Text.strip text.toList).isEmpty with
  | true => simp [throw, throwThe, MonadExceptOf.throw, bind, Except.bind]
  | false =>
    obtain ⟨others⟩ := requirement
    cases ((Text.strip text.toList).splitOn ',').mapM Comparator.parse <;>
      simp [bind, Except.bind, pure, Except.pure]

theorem exists_parse_of_mem {text : String} {requirement : Requirement}
    (hparse : parse text = .ok requirement) {comparator : Comparator}
    (hmem : comparator ∈ requirement.comparators) :
    ∃ part, Comparator.parse part = .ok comparator := by
  obtain ⟨-, hparts⟩ := parse_eq_ok_iff.mp hparse
  generalize requirement.comparators = comparators at hmem hparts
  generalize (Text.strip text.toList).splitOn ',' = parts at hparts
  induction hparts with
  | nil => cases hmem
  | cons hfirst _ ih =>
      rcases List.mem_cons.mp hmem with rfl | hmem
      · exact ⟨_, hfirst⟩
      · exact ih hmem

theorem isWritten_of_parse {text : String} {requirement : Requirement}
    (hparse : parse text = .ok requirement) :
    ∀ comparator ∈ requirement.comparators, comparator.IsWritten := by
  intro comparator hmem
  obtain ⟨part, hpart⟩ := exists_parse_of_mem hparse hmem
  exact Comparator.isWritten_of_parse hpart

end Requirement
end CrateReadme
