import CrateReadme.Package.Dependency
import CrateReadme.Proofs.Text.Search
import CrateReadme.Proofs.Version.Interval
import CrateReadme.Proofs.Version.Spelling

/-!
# Requirements read back

A comparator is written without blanks: the sign of its operator, its numbers in ASCII digits, a
star where the numbers end in a wildcard, and its tag. Reading takes every such text apart where it
was put together, with blanks in front and build metadata behind. So the text of a requirement that
was read is read as the same comparators, and a requirement for exactly one version accepts no other
numbers and no other tag.
-/

namespace CrateReadme

open Version (marked)

namespace Comparator

/-! ## Written comparators -/

def Component.spelling : Component → List Char
  | .number value => Text.decimal value
  | .anything => ['*']
  | .absent => []

/-- A component behind the first one as it is written. -/
def Component.further : Component → List Char
  | .absent => []
  | component => '.' :: component.spelling

def signOf (op : Option Operator) : List Char :=
  op.elim [] fun op => op.sign.toList

/-- A comparator as it is written: a sign, three components and two tags. -/
def spelling (op : Option Operator) (major minor patch : Component) (pre build : Option String) :
    List Char :=
  signOf op ++ (major.spelling ++ (minor.further ++ (patch.further ++
    (marked '-' pre ++ marked '+' build))))

/-- Whether a text may stand as a tag. -/
def IsTag (tag : String) : Prop :=
  tag.toList ≠ [] ∧ ∀ c ∈ tag.toList, isTagChar c

variable {text rest : List Char} {op : Option Operator} {major minor patch component : Component}
  {pre build tag : Option String} {mark : Char}

/-! ### Characters -/

/-- The characters of a comparator that is written without blanks. -/
def isSpelling (c : Char) : Bool :=
  isTagChar c || ['*', '+', '=', '>', '<', '~', '^'].contains c

theorem isTagChar_of_mem_decimal {n : Nat} {c : Char} (hmem : c ∈ Text.decimal n) :
    isTagChar c := by
  obtain ⟨first, digits, hdecimal, hfirst, hdigits, -⟩ := Text.exists_digits n
  have hall : ∀ digit < 10, isTagChar (Text.digitChar digit) := by decide
  rw [hdecimal] at hmem
  rcases List.mem_cons.mp hmem with rfl | hmem
  · exact hall first hfirst
  · obtain ⟨digit, hdigit, rfl⟩ := List.mem_map.mp hmem
    exact hall digit (hdigits digit hdigit)

theorem toNat_lt_of_isTagChar {c : Char} (hc : isTagChar c) : c.toNat < 128 := by
  simp only [isTagChar, Bool.or_eq_true, decide_eq_true_eq] at hc
  rcases hc with (halphanum | rfl) | rfl
  · exact Text.toNat_lt_of_isAlphanum halphanum
  · decide
  · decide

theorem isBlank_eq_false_of_isSpelling {c : Char} (hc : isSpelling c) :
    Text.isBlank c = false ∧ c ≠ ',' := by
  have hascii : c.toNat < 128 := by
    rw [isSpelling, Bool.or_eq_true, List.contains_iff_mem] at hc
    rcases hc with htag | hsign
    · exact toNat_lt_of_isTagChar htag
    · have hsigns : ['*', '+', '=', '>', '<', '~', '^'].all (·.toNat < 128) := by decide
      exact of_decide_eq_true (List.all_eq_true.mp hsigns c hsign)
  have happart : isSpelling c → Text.isBlank c = false ∧ c ≠ ',' :=
    Text.forall_ascii (by decide +kernel) hascii
  exact happart hc

theorem isSpelling_of_mem_component {c : Char} (hmem : c ∈ component.spelling) : isSpelling c := by
  cases component with
  | absent => cases hmem
  | anything =>
      rw [List.mem_singleton.mp hmem]
      decide
  | number value => rw [isSpelling, isTagChar_of_mem_decimal hmem, Bool.true_or]

theorem isSpelling_of_mem_further {c : Char} (hmem : c ∈ component.further) : isSpelling c := by
  have hbehind (hmem : c ∈ '.' :: component.spelling) : isSpelling c := by
    rcases List.mem_cons.mp hmem with rfl | hmem
    · decide
    · exact isSpelling_of_mem_component hmem
  cases component with
  | absent => cases hmem
  | anything => exact hbehind hmem
  | number value => exact hbehind hmem

theorem isSpelling_of_mem_marked {c : Char} (hmark : isSpelling mark)
    (htag : ∀ text ∈ tag, IsTag text) (hmem : c ∈ marked mark tag) : isSpelling c := by
  cases tag with
  | none => cases hmem
  | some text =>
      rcases List.mem_cons.mp hmem with rfl | hmem
      · exact hmark
      · rw [isSpelling, (htag text rfl).2 c hmem, Bool.true_or]

theorem isSpelling_of_mem_signOf {c : Char} (hmem : c ∈ signOf op) : isSpelling c := by
  have hsigns : ∀ op, (signOf op).all isSpelling := by
    intro op
    cases op with
    | none => rfl
    | some op => cases op <;> rfl
  exact List.all_eq_true.mp (hsigns op) c hmem

theorem isSpelling_of_mem_spelling (hpre : ∀ text ∈ pre, IsTag text)
    (hbuild : ∀ text ∈ build, IsTag text) {c : Char}
    (hmem : c ∈ spelling op major minor patch pre build) : isSpelling c := by
  simp only [spelling, List.mem_append] at hmem
  rcases hmem with hsign | hmajor | hminor | hpatch | htag | htag
  · exact isSpelling_of_mem_signOf hsign
  · exact isSpelling_of_mem_component hmajor
  · exact isSpelling_of_mem_further hminor
  · exact isSpelling_of_mem_further hpatch
  · exact isSpelling_of_mem_marked (by decide) hpre htag
  · exact isSpelling_of_mem_marked (by decide) hbuild htag

/-! ### Reading the parts -/

/-- A text that starts with no accepted character: reading these comes to an end there. -/
def Stops (accept : Char → Bool) (rest : List Char) : Prop :=
  ∀ c ∈ rest.head?, accept c = false

theorem stops_further {accept : Char → Bool} (hdot : accept '.' = false)
    (hrest : Stops accept rest) : Stops accept (component.further ++ rest) := by
  cases component with
  | absent => exact hrest
  | anything => simpa [Stops, Component.further] using hdot
  | number value => simpa [Stops, Component.further] using hdot

theorem stops_marked {accept : Char → Bool} (hmark : accept mark = false)
    (hrest : Stops accept rest) : Stops accept (marked mark tag ++ rest) := by
  cases tag with
  | none => exact hrest
  | some text => simpa [Stops, marked] using hmark

theorem exists_digit_of_component (hcomponent : component ≠ .absent) (rest : List Char) :
    ∃ c tail, component.spelling ++ rest = c :: tail ∧ (c.isDigit ∨ c = '*') := by
  cases component with
  | absent => exact absurd rfl hcomponent
  | anything => exact ⟨'*', rest, rfl, Or.inr rfl⟩
  | number value =>
      obtain ⟨first, digits, hdecimal, hfirst, -⟩ := Text.exists_digits value
      have hdigit : ∀ digit < 10, (Text.digitChar digit).isDigit := by decide
      refine ⟨Text.digitChar first, digits.map Text.digitChar ++ rest, ?_, Or.inl (hdigit _ hfirst)⟩
      rw [Component.spelling, hdecimal, List.cons_append]

/-- A component is read back in front of anything but a digit. -/
theorem readComponent?_spelling (hcomponent : component ≠ .absent)
    (hrest : Stops Text.isDecimal rest) :
    readComponent? (component.spelling ++ rest) = some (component, rest) := by
  cases component with
  | absent => exact absurd rfl hcomponent
  | anything => simp [Component.spelling, readComponent?]
  | number value =>
      obtain ⟨htake, hdrop⟩ :=
        Text.takeWhile_append_of_head? (fun _ => Text.isDecimal_of_mem_decimal (n := value)) hrest
      obtain ⟨first, digits, hdecimal, hfirst, -⟩ := Text.exists_digits value
      have hwild : ∀ digit < 10, ¬(Text.digitChar digit = '*' ∨ Text.digitChar digit = 'x' ∨
          Text.digitChar digit = 'X') := by
        decide
      rw [Component.spelling]
      rw [hdecimal, List.cons_append] at htake hdrop ⊢
      simp only [readComponent?, if_neg (hwild first hfirst), htake, hdrop]
      rw [← hdecimal, Text.natural?_decimal]
      rfl

theorem readFurther_further (hrest : Stops Text.isDecimal rest)
    (hdot : component = .absent → rest.head? ≠ some '.') :
    readFurther (component.further ++ rest) = (component, rest) := by
  have hbehind (hcomponent : component ≠ .absent) :
      readFurther ('.' :: (component.spelling ++ rest)) = (component, rest) := by
    rw [readFurther, readComponent?_spelling hcomponent hrest, Option.getD_some]
  cases component with
  | absent =>
      rw [Component.further, List.nil_append, readFurther.eq_def]
      split
      · exact absurd rfl (hdot rfl)
      · rfl
  | anything => exact hbehind (by simp)
  | number value => exact hbehind (by simp)

/-- A tag is read back behind its mark. -/
theorem readTag_marked (htag : ∀ text ∈ tag, IsTag text) (hrest : Stops isTagChar rest)
    (hmark : rest.head? ≠ some mark) :
    readTag mark (marked mark tag ++ rest) = (tag.map String.toList, rest) := by
  cases tag with
  | none =>
      rw [marked, List.nil_append]
      cases rest with
      | nil => rfl
      | cons c rest =>
          have hc : c ≠ mark := by simpa using hmark
          simp [readTag, hc]
  | some text =>
      obtain ⟨hne, hchars⟩ := htag text rfl
      obtain ⟨htake, hdrop⟩ := Text.takeWhile_append_of_head? hchars hrest
      simp [marked, readTag, htake, hdrop, List.isEmpty_eq_false_iff.mpr hne]

theorem readOperator_signOf (hop : op ≠ some .wildcard) {c : Char} (hc : c.isDigit ∨ c = '*')
    (rest : List Char) : readOperator (signOf op ++ c :: rest) = (op, c :: rest) := by
  have hplain : c ≠ '>' ∧ c ≠ '<' ∧ c ≠ '=' ∧ c ≠ '~' ∧ c ≠ '^' := by
    refine ⟨?_, ?_, ?_, ?_, ?_⟩ <;> rintro rfl <;> revert hc <;> decide
  cases op with
  | none => simp [signOf, readOperator, hplain]
  | some op => cases op <;> simp_all [signOf, Operator.sign, readOperator]

/-- A written comparator is read as it was put together. -/
theorem readWritten?_spelling (hop : op ≠ some .wildcard) (hmajor : major ≠ .absent)
    (hgap : minor = .absent → patch = .absent) (hpre : ∀ text ∈ pre, IsTag text)
    (hbuild : ∀ text ∈ build, IsTag text) :
    readWritten? (spelling op major minor patch pre build) =
      some ⟨op, major, minor, patch, pre.map String.toList⟩ := by
  have hsolid (sign : Option Operator) : ∀ c ∈ spelling sign major minor patch pre build,
      Text.isBlank c = false := fun c hmem =>
    (isBlank_eq_false_of_isSpelling (isSpelling_of_mem_spelling hpre hbuild hmem)).1
  -- What stands behind each part stops the reading of that part.
  have hnothing (accept : Char → Bool) : Stops accept [] := fun c hc => by cases hc
  have hend {accept : Char → Bool} (hplus : accept '+' = false) :
      Stops accept (marked '+' build) := by
    simpa using stops_marked hplus (hnothing accept)
  have htags : Stops Text.isDecimal (marked '-' pre ++ marked '+' build) :=
    stops_marked (by decide) (hend (by decide))
  have hpatchStops : Stops Text.isDecimal (patch.further ++ (marked '-' pre ++ marked '+' build)) :=
    stops_further (by decide) htags
  have hminorStops : Stops Text.isDecimal
      (minor.further ++ (patch.further ++ (marked '-' pre ++ marked '+' build))) :=
    stops_further (by decide) hpatchStops
  have hdot : (marked '-' pre ++ marked '+' build).head? ≠ some '.' := by
    cases pre <;> cases build <;> simp [marked]
  have hplus : (marked '+' build).head? ≠ some '-' := by
    cases build <;> simp [marked]
  have hoperator : readOperator ((spelling op major minor patch pre build).dropWhile Text.isBlank) =
      (op, spelling none major minor patch pre build) := by
    obtain ⟨c, tail, htail, hc⟩ := exists_digit_of_component hmajor
      (minor.further ++ (patch.further ++ (marked '-' pre ++ marked '+' build)))
    rw [Text.dropWhile_isBlank_eq_self (hsolid op), spelling, htail, readOperator_signOf hop hc,
      spelling, htail]
    rfl
  have hminorRead := readFurther_further hpatchStops fun habsent => by
    rw [hgap habsent]
    exact hdot
  have hpatchRead : readFurther (patch.further ++ (marked '-' pre ++ marked '+' build)) =
      (patch, marked '-' pre ++ marked '+' build) :=
    readFurther_further htags fun _ => hdot
  have hbuildRead : readTag '+' (marked '+' build) = (build.map String.toList, []) := by
    simpa using readTag_marked hbuild (hnothing isTagChar) (show none ≠ some '+' by simp)
  have hmajorRead := readComponent?_spelling hmajor hminorStops
  have hpreRead := readTag_marked hpre (hend (by decide)) hplus
  have hwhole : spelling none major minor patch pre build =
      major.spelling ++ (minor.further ++ (patch.further ++
        (marked '-' pre ++ marked '+' build))) := rfl
  simp only [readWritten?, hoperator, Text.dropWhile_isBlank_eq_self (hsolid none)]
  simp only [hwhole, hmajorRead, hminorRead, hpatchRead, hpreRead, hbuildRead,
    Option.bind_eq_bind, Option.bind_some, List.all_nil, if_true]
  rfl

/-! ### Reading what was read -/

/-- The parts of a comparator fit together, and its tag may stand behind its numbers. -/
structure IsSpelled (comparator : Comparator) : Prop extends comparator.IsWritten where
  tag : ∀ text ∈ comparator.pre, IsTag text

variable {comparator : Comparator}

theorem isTag_of_readTag {tag : List Char} (hread : (readTag mark text).1 = some tag) :
    IsTag (String.ofList tag) := by
  cases text with
  | nil => cases hread
  | cons c text =>
      rw [readTag] at hread
      split at hread
      · rename_i hstarts
        obtain rfl := Option.some.inj hread
        rw [IsTag, String.toList_ofList]
        exact ⟨by simpa using hstarts.2, List.all_eq_true.mp List.all_takeWhile⟩
      · cases hread

theorem isTag_of_readWritten? {written : Written} (hread : readWritten? text = some written) :
    ∀ tag ∈ written.pre, IsTag (String.ofList tag) := by
  simp only [readWritten?, Option.bind_eq_bind, Option.bind_eq_some_iff] at hread
  obtain ⟨⟨major, rest⟩, -, hwritten⟩ := hread
  split at hwritten
  · cases hwritten
    exact fun tag => isTag_of_readTag
  · cases hwritten

/-- Reading a comparator gives one that can be written. -/
theorem isSpelled_of_parse (hparse : parse text = .ok comparator) : comparator.IsSpelled := by
  refine ⟨isWritten_of_parse hparse, ?_⟩
  simp only [parse] at hparse
  split at hparse
  · cases hparse
  rename_i written hread
  have htag := isTag_of_readWritten? hread
  split_ifs at hparse
  · cases hparse
    simp
  · cases hparse
    intro text hmem
    obtain ⟨tag, hpre, rfl⟩ := Option.map_eq_some_iff.mp hmem
    exact htag tag hpre

theorem readWritten?_cons_blank {c : Char} (hc : Text.isBlank c) (text : List Char) :
    readWritten? (c :: text) = readWritten? text := by
  rw [readWritten?, readWritten?, List.dropWhile_cons_of_pos hc]

/-- A blank in front of a comparator does not matter. -/
theorem parse_cons_blank {c : Char} (hc : Text.isBlank c) (hparse : parse text = .ok comparator) :
    parse (c :: text) = .ok comparator := by
  simp only [parse, readWritten?_cons_blank hc] at hparse ⊢
  cases hread : readWritten? text with
  | none =>
      rw [hread] at hparse
      cases hparse
  | some written =>
      simp only [hread] at hparse ⊢
      split_ifs at hparse ⊢
      all_goals exact hparse

def Component.ofNumber (number : Option Nat) : Component :=
  number.elim .absent .number

/-- The component that a number is written as where a wildcard stands for numbers. -/
def Component.ofWildcard (number : Option Nat) : Component :=
  number.elim .anything .number

theorem IsSpelled.ne_empty (hspelled : comparator.IsSpelled) : comparator.pre ≠ some "" :=
  fun hpre => (hspelled.tag "" hpre).1 rfl

theorem toList_numbers (hwritten : comparator.IsWritten) (hmajor : comparator.major.isSome) :
    (".".intercalate ([comparator.major, comparator.minor, comparator.patch].filterMap
        (·.map Text.decimalString))).toList =
      (Component.ofNumber comparator.major).spelling ++
        ((Component.ofNumber comparator.minor).further ++
          (Component.ofNumber comparator.patch).further) := by
  obtain ⟨major, hmajor, ⟨hminor, hpatch⟩ | ⟨minor, hminor, hpatch | ⟨patch, hpatch⟩⟩⟩ :=
    hwritten.shape hmajor
  all_goals
    simp [Component.ofNumber, Component.spelling, Component.further, Text.decimalString, hmajor,
      hminor, hpatch]

/-- The text of a comparator is the spelling of its operator, its numbers and its tag. -/
theorem toList_render (hspelled : comparator.IsSpelled) (hop : comparator.op ≠ .wildcard) :
    comparator.render.toList =
      spelling (some comparator.op) (.ofNumber comparator.major) (.ofNumber comparator.minor)
        (.ofNumber comparator.patch) comparator.pre none := by
  have hnumbers := toList_numbers hspelled.toIsWritten (hspelled.major_of_op hop)
  have hempty := hspelled.ne_empty
  unfold render
  split
  · exact absurd ‹_› hop
  · rw [String.toList_append, String.toList_append, hnumbers, spelling]
    cases hpre : comparator.pre with
    | none => simp [signOf, marked]
    | some tag =>
        have hne : tag ≠ "" := by simpa [hpre] using hempty
        simp [signOf, marked, hne]

/-- The text of a wildcard ends in a star. -/
theorem toList_render_wildcard (hwritten : comparator.IsWritten) (hop : comparator.op = .wildcard) :
    comparator.render.toList =
      spelling none (.ofWildcard comparator.major)
        (if comparator.major = none then .absent else .ofWildcard comparator.minor)
        (if comparator.minor = none then .absent else .anything) none none := by
  have hminor := hwritten.major_of_minor
  unfold render
  split
  · cases hmajor : comparator.major with
    | none =>
        have hnone : comparator.minor = none := by simpa [hmajor] using hminor
        simp [spelling, signOf, Component.ofWildcard, Component.spelling, Component.further, marked,
          hnone]
    | some major =>
        cases comparator.minor <;>
          simp [spelling, signOf, Component.ofWildcard, Component.spelling, Component.further,
            marked, Text.decimalString]
  · exact absurd hop ‹_›

/-- A wildcard is read back from its text. -/
theorem parse_render_wildcard (hspelled : comparator.IsSpelled)
    (hop : comparator.op = .wildcard) : parse comparator.render.toList = .ok comparator := by
  have hminor := hspelled.major_of_minor
  have hpatch := hspelled.no_patch_of_op hop
  have hpre : comparator.pre = none := by simpa [hpatch] using hspelled.patch_of_pre
  have hnone : ∀ text ∈ (none : Option String), IsTag text := by simp
  have hread : readWritten? comparator.render.toList =
      some ⟨none, .ofWildcard comparator.major,
        if comparator.major = none then .absent else .ofWildcard comparator.minor,
        if comparator.minor = none then .absent else .anything, none⟩ := by
    rw [toList_render_wildcard hspelled.toIsWritten hop,
      readWritten?_spelling (by simp) ?_ ?_ hnone hnone, Option.map_none]
    · cases comparator.major <;> simp [Component.ofWildcard]
    · cases hmajor : comparator.major <;> cases hnumber : comparator.minor <;>
        simp_all [Component.ofWildcard]
  obtain ⟨op, major, minor, patch, pre⟩ := comparator
  dsimp only at hop hpatch hpre hread hminor
  subst hop hpatch hpre
  rw [parse, hread]
  cases major <;> cases minor <;>
    simp_all [Written.hasGap, Written.hasWildcard, Component.number?, Component.ofWildcard]

/-- A comparator is read back from its text. -/
theorem parse_render_numbers (hspelled : comparator.IsSpelled)
    (hop : comparator.op ≠ .wildcard) : parse comparator.render.toList = .ok comparator := by
  have hshape := hspelled.shape (hspelled.major_of_op hop)
  have hpartial := hspelled.patch_of_pre
  have hread : readWritten? comparator.render.toList =
      some ⟨some comparator.op, .ofNumber comparator.major, .ofNumber comparator.minor,
        .ofNumber comparator.patch, comparator.pre.map String.toList⟩ := by
    rw [toList_render hspelled hop]
    refine readWritten?_spelling (by simpa using hop) ?_ ?_ hspelled.tag (by simp)
    · obtain ⟨major, hmajor, -⟩ := hshape
      simp [hmajor, Component.ofNumber]
    · obtain ⟨-, -, ⟨hminor, hpatch⟩ | ⟨minor, hminor, -⟩⟩ := hshape
      · simp [hpatch, Component.ofNumber]
      · simp [hminor, Component.ofNumber]
  obtain ⟨op, major, minor, patch, pre⟩ := comparator
  dsimp only at hop hread hshape hpartial
  rw [parse, hread]
  obtain ⟨major, rfl, ⟨rfl, rfl⟩ | ⟨minor, rfl, rfl | ⟨patch, rfl⟩⟩⟩ := hshape
  all_goals
    cases pre <;>
      simp_all [Written.hasGap, Written.hasWildcard, Component.number?, Component.ofNumber]

/-- The text of a comparator is read as that comparator. -/
theorem parse_render (hspelled : comparator.IsSpelled) :
    parse comparator.render.toList = .ok comparator := by
  by_cases hop : comparator.op = .wildcard
  · exact parse_render_wildcard hspelled hop
  · exact parse_render_numbers hspelled hop

theorem isSpelling_of_mem_render (hspelled : comparator.IsSpelled) {c : Char}
    (hmem : c ∈ comparator.render.toList) : isSpelling c := by
  by_cases hop : comparator.op = .wildcard
  · rw [toList_render_wildcard hspelled.toIsWritten hop] at hmem
    exact isSpelling_of_mem_spelling (by simp) (by simp) hmem
  · rw [toList_render hspelled hop] at hmem
    exact isSpelling_of_mem_spelling hspelled.tag (by simp) hmem

theorem render_ne_empty (hspelled : comparator.IsSpelled) : comparator.render.toList ≠ [] := by
  intro hempty
  have hparse := parse_render hspelled
  rw [hempty] at hparse
  cases hparse

end Comparator

/-! ## Lists of comparators -/

namespace Requirement

variable {text : String} {requirement : Requirement}

/-- Comparators behind commas, with a blank in front of all but the first one. -/
theorem intercalate_comma_blank (first : List Char) (others : List (List Char)) :
    [',', ' '].intercalate (first :: others) =
      [','].intercalate (first :: others.map (' ' :: ·)) := by
  induction others generalizing first with
  | nil => rfl
  | cons second others ih =>
      have hblank : [',', ' '].intercalate ((' ' :: second) :: others) =
          ' ' :: [',', ' '].intercalate (second :: others) := by
        cases others with
        | nil => rfl
        | cons third others => rw [List.intercalate_cons_cons, List.intercalate_cons_cons]; rfl
      rw [List.intercalate_cons_cons, List.map_cons, List.intercalate_cons_cons, ← ih, hblank]
      simp

theorem toList_render (requirement : Requirement) :
    requirement.render.toList =
      [',', ' '].intercalate (requirement.comparators.map (·.render.toList)) := by
  rw [render, String.toList_intercalate, List.map_map]
  rfl

theorem strip_render (hspelled : ∀ comparator ∈ requirement.comparators, comparator.IsSpelled)
    (hne : requirement.comparators ≠ []) :
    Text.strip requirement.render.toList = requirement.render.toList := by
  have hsolid : Text.IsSolid requirement.render.toList := by
    rw [toList_render]
    refine Text.IsSolid.intercalate (by simpa using hne) ?_ _
    intro part hmem
    obtain ⟨comparator, hcomparator, rfl⟩ := List.mem_map.mp hmem
    have hwell := hspelled comparator hcomparator
    exact Text.isSolid_of_forall (Comparator.render_ne_empty hwell) fun c hc =>
      (Comparator.isBlank_eq_false_of_isSpelling (Comparator.isSpelling_of_mem_render hwell hc)).1
  exact hsolid.strip_eq_self

/-- The text of a requirement is split into the texts of its comparators. -/
theorem splitOn_render {first : Comparator} {others : List Comparator}
    (hspelled : ∀ comparator ∈ first :: others, comparator.IsSpelled) :
    (render ⟨first :: others⟩).toList.splitOn ',' =
      first.render.toList :: others.map (' ' :: ·.render.toList) := by
  have hcomma : ∀ comparator ∈ first :: others, ',' ∉ comparator.render.toList := by
    intro comparator hmem hc
    exact (Comparator.isBlank_eq_false_of_isSpelling
      (Comparator.isSpelling_of_mem_render (hspelled _ hmem) hc)).2 rfl
  obtain ⟨hfirst, hothers⟩ := List.forall_mem_cons.mp hcomma
  have hmap : (others.map (·.render.toList)).map (' ' :: ·) =
      others.map (' ' :: ·.render.toList) := by
    rw [List.map_map]
    rfl
  rw [toList_render, List.map_cons, intercalate_comma_blank, hmap]
  refine List.splitOn_intercalate ',' ?_ (List.cons_ne_nil _ _)
  intro part hmem
  rcases List.mem_cons.mp hmem with rfl | hmem
  · exact hfirst
  · obtain ⟨comparator, hcomparator, rfl⟩ := List.mem_map.mp hmem
    simpa using hothers comparator hcomparator

/-- The text of a requirement that was read is read as the same requirement. -/
theorem parse_render (hparse : parse text = .ok requirement) :
    parse requirement.render = .ok requirement := by
  have hspelled : ∀ comparator ∈ requirement.comparators, comparator.IsSpelled := by
    intro comparator hmem
    obtain ⟨part, hpart⟩ := exists_parse_of_mem hparse hmem
    exact Comparator.isSpelled_of_parse hpart
  obtain ⟨-, hparts⟩ := parse_eq_ok_iff.mp hparse
  obtain ⟨_ | ⟨first, others⟩⟩ := requirement
  · rw [List.forall₂_nil_right_iff] at hparts
    exact absurd hparts (List.splitOn_ne_nil _ _)
  have hstrip := strip_render hspelled (List.cons_ne_nil _ _)
  obtain ⟨hfirst, hothers⟩ := List.forall_mem_cons.mp hspelled
  rw [parse_eq_ok_iff, hstrip, splitOn_render hspelled]
  refine ⟨?_, .cons (Comparator.parse_render hfirst) ?_⟩
  · intro hempty
    have hsplit := splitOn_render hspelled
    rw [hempty] at hsplit
    exact absurd (List.cons.inj hsplit).1.symm (Comparator.render_ne_empty hfirst)
  · rw [List.forall₂_map_left_iff, List.forall₂_same]
    exact fun comparator hmem =>
      Comparator.parse_cons_blank (by decide) (Comparator.parse_render (hothers comparator hmem))

/-- Reading the text of a requirement that was read gives the same comparators, and so the text of
what is read then is the same text. -/
theorem parse_render_canonical {text : String} {requirement : Requirement}
    (hparse : parse text = .ok requirement) :
    parse requirement.render = .ok requirement ∧
      (parse requirement.render).map render = .ok requirement.render := by
  rw [parse_render hparse]
  exact ⟨rfl, rfl⟩

/-- Unicode digits, a leading zero, wildcards behind a sign, a tag and build metadata, with white
space of several kinds. -/
theorem parse_render_canonical_three_comparators :
    let text := "\t >= ١.02.3-rc.1+b.7 ,=4.x.*\n,\u00a0~ 5.6 "
    ∃ requirement, parse text = .ok requirement ∧
      requirement.render = ">=1.2.3-rc.1, 4.*, ~5.6" ∧
      parse requirement.render = .ok requirement ∧
      (parse requirement.render).map render = .ok requirement.render := by
  have hparse : parse "\t >= ١.02.3-rc.1+b.7 ,=4.x.*\n,\u00a0~ 5.6 " = .ok
      ⟨[{ op := .greaterEq, major := some 1, minor := some 2, patch := some 3, pre := "rc.1" },
        { op := .wildcard, major := some 4 },
        { op := .tilde, major := some 5, minor := some 6 }]⟩ := by
    decide +kernel
  exact ⟨_, hparse, by decide +kernel, parse_render_canonical hparse⟩

end Requirement

/-! ## The own version of a package -/

namespace Version

variable {text : List Char} {version : Version}

theorem mem_of_mem_cutAt {mark c : Char} :
    (c ∈ (cutAt mark text).1 → c ∈ text) ∧ ∀ tag ∈ (cutAt mark text).2, c ∈ tag → c ∈ text := by
  constructor
  · exact fun hmem => List.takeWhile_subset _ hmem
  · intro tag htag hmem
    simp only [cutAt] at htag
    split at htag
    · cases htag
    · cases htag
      exact List.mem_of_mem_drop hmem

theorem tag?_eq_some {accept : List Char → Bool} {found : Option (List Char)}
    {tag : { tag : Option String // ∀ text ∈ tag, allParts accept text.toList }}
    (htag : tag? accept found = some tag) : found = tag.val.map String.toList := by
  cases found with
  | none =>
      cases htag
      rfl
  | some text =>
      rw [tag?] at htag
      split at htag
      · cases htag
        simp
      · cases htag

/-- The tags of a version stand in the text that spells it. -/
theorem mem_of_mem_tag (hversion : ofChars? text = some version) :
    (∀ tag ∈ version.pre, ∀ c ∈ tag.toList, c ∈ text) ∧
      ∀ tag ∈ version.build, ∀ c ∈ tag.toList, c ∈ text := by
  simp only [ofChars?] at hversion
  split at hversion
  · simp only [Option.bind_eq_bind, Option.bind_eq_some_iff] at hversion
    obtain ⟨pre, hpre, build, hbuild, major, -, minor, -, patch, -, hversion⟩ := hversion
    have hpre := tag?_eq_some hpre
    have hbuild := tag?_eq_some hbuild
    cases hversion
    constructor
    · intro tag htag c hc
      have hfront : tag.toList ∈ (cutAt '-' (cutAt '+' text).1).2 := by
        rw [hpre]
        exact Option.mem_map_of_mem _ htag
      exact mem_of_mem_cutAt.1 (mem_of_mem_cutAt.2 _ hfront hc)
    · intro tag htag c hc
      have hback : tag.toList ∈ (cutAt '+' text).2 := by
        rw [hbuild]
        exact Option.mem_map_of_mem _ htag
      exact mem_of_mem_cutAt.2 _ hback hc
  · cases hversion

/-- The tags of a version consist of characters of its text. -/
theorem mem_of_mem_tag_of_parse {text : String} (hparse : parse text = .ok version) :
    (∀ tag ∈ version.pre, ∀ c ∈ tag.toList, c ∈ text.toList) ∧
      ∀ tag ∈ version.build, ∀ c ∈ tag.toList, c ∈ text.toList := by
  have hstrip : ∀ c ∈ Text.strip text.toList, c ∈ text.toList := fun c hmem =>
    (Text.strip_sublist text.toList).subset hmem
  have hread : ∃ chars, ofChars? chars = some version ∧ ∀ c ∈ chars, c ∈ text.toList := by
    simp only [parse] at hparse
    split at hparse
    · rename_i found hfound
      cases hparse
      unfold ofText? at hfound
      rw [String.toList_ofList] at hfound
      split at hfound
      · rename_i front hreverse
        refine ⟨front.reverse, hfound, fun c hmem => hstrip c ?_⟩
        rw [← List.mem_reverse, hreverse]
        exact List.mem_cons_of_mem _ (List.mem_reverse.mp hmem)
      · exact ⟨_, hfound, hstrip⟩
    · cases hparse
  obtain ⟨chars, hversion, hchars⟩ := hread
  obtain ⟨hpre, hbuild⟩ := mem_of_mem_tag hversion
  exact ⟨fun tag htag c hc => hchars c (hpre tag htag c hc),
    fun tag htag c hc => hchars c (hbuild tag htag c hc)⟩

theorem build_ne_empty (version : Version) : version.build ≠ some "" := by
  intro hbuild
  have hspelled := version.build_spelled "" (by simp [hbuild])
  revert hspelled
  decide

theorem isTagChar_of_isSpelling {c : Char} (hspelling : isSpelling c) (hascii : c.toNat < 128) :
    Comparator.isTagChar c := by
  have hwithin : isSpelling c → Comparator.isTagChar c :=
    Text.forall_ascii (by decide +kernel) hascii
  exact hwithin hspelling

/-- The tags of a version that is spelled in ASCII characters may stand in a comparator. -/
theorem isTag_of_parse {text : String} (hascii : ∀ c ∈ text.toList, c.toNat < 128)
    (hparse : parse text = .ok version) :
    (∀ tag ∈ version.pre, Comparator.IsTag tag) ∧ ∀ tag ∈ version.build, Comparator.IsTag tag := by
  obtain ⟨hpre, hbuild⟩ := mem_of_mem_tag_of_parse hparse
  constructor
  · intro tag htag
    refine ⟨fun hempty => version.pre_ne_empty ?_, fun c hc => ?_⟩
    · rw [← String.toList_eq_nil_iff.mp hempty]
      exact htag
    · exact isTagChar_of_isSpelling (version.isSpelling_of_mem_pre tag htag c hc)
        (hascii c (hpre tag htag c hc))
  · intro tag htag
    refine ⟨fun hempty => version.build_ne_empty ?_, fun c hc => ?_⟩
    · rw [← String.toList_eq_nil_iff.mp hempty]
      exact htag
    · exact isTagChar_of_isSpelling (version.isSpelling_of_mem_build tag htag c hc)
        (hascii c (hbuild tag htag c hc))

end Version

/-- The comparator that only accepts the numbers and the tag of a version. -/
def Comparator.exactly (version : Version) : Comparator where
  op := .exact
  major := version.major
  minor := version.minor
  patch := version.patch
  pre := version.pre

namespace Requirement

/-- An exact requirement accepts the versions with the same numbers and the same pre-release tag. -/
theorem accepts_exactly_iff (version other : Version) :
    accepts ⟨[.exactly version]⟩ other ↔
      other.major = version.major ∧ other.minor = version.minor ∧ other.patch = version.patch ∧
        other.pre = version.pre := by
  have hmatches : (Comparator.exactly version).accepts other ↔
      version.major = other.major ∧ version.minor = other.minor ∧ version.patch = other.patch ∧
        other.pre = version.pre := by
    rw [Comparator.exactly, Comparator.accepts, Comparator.matchesExact]
    simp [and_assoc]
  have hadmits (hmajor : version.major = other.major) (hminor : version.minor = other.minor)
      (hpatch : version.patch = other.patch) (hsame : other.pre = version.pre)
      (hpre : isPreRelease other) : (Comparator.exactly version).admitsPre other := by
    rw [isPreRelease_iff, hsame, ← Option.isSome_iff_ne_none] at hpre
    simp [Comparator.exactly, Comparator.admitsPre, hmajor, hminor, hpatch, hpre]
  simp only [accepts, List.all_cons, List.all_nil, List.any_cons, List.any_nil, Bool.and_true,
    Bool.or_false, Bool.and_eq_true, Bool.or_eq_true, Bool.not_eq_true', hmatches]
  constructor
  · rintro ⟨⟨hmajor, hminor, hpatch, hsame⟩, -⟩
    exact ⟨hmajor.symm, hminor.symm, hpatch.symm, hsame⟩
  · rintro ⟨hmajor, hminor, hpatch, hsame⟩
    refine ⟨⟨hmajor.symm, hminor.symm, hpatch.symm, hsame⟩, ?_⟩
    by_cases hpre : isPreRelease other
    · exact .inr (hadmits hmajor.symm hminor.symm hpatch.symm hsame hpre)
    · exact .inl (Bool.not_eq_true _ ▸ hpre)

/-- The text of an exact requirement is read as the requirement. -/
theorem parse_exact {version : Version} (hpre : ∀ tag ∈ version.pre, Comparator.IsTag tag)
    (hbuild : ∀ tag ∈ version.build, Comparator.IsTag tag) :
    parse ("=" ++ version.render) = .ok ⟨[.exactly version]⟩ := by
  have htext : ("=" ++ version.render).toList = Comparator.spelling (some .exact)
      (.number version.major) (.number version.minor) (.number version.patch) version.pre
        version.build := by
    rw [String.toList_append, Version.toList_render]
    simp [Comparator.spelling, Comparator.signOf, Operator.sign, Comparator.Component.spelling,
      Comparator.Component.further]
  have hchars : ∀ c ∈ ("=" ++ version.render).toList, Text.isBlank c = false ∧ c ≠ ',' := by
    rw [htext]
    exact fun c hmem => Comparator.isBlank_eq_false_of_isSpelling
      (Comparator.isSpelling_of_mem_spelling hpre hbuild hmem)
  have hcomma : ',' ∉ ("=" ++ version.render).toList := fun hmem => (hchars _ hmem).2 rfl
  have hread : Comparator.parse ("=" ++ version.render).toList = .ok (.exactly version) := by
    rw [Comparator.parse, htext, Comparator.readWritten?_spelling (by simp) (by simp) (by simp) hpre
      hbuild]
    simp [Comparator.Written.hasGap, Comparator.Written.hasWildcard, Comparator.Component.number?,
      Comparator.exactly]
  rw [parse_eq_ok_iff, Text.strip_eq_self fun c hmem => (hchars c hmem).1,
    List.splitOn_eq_singleton hcomma]
  exact ⟨by simp, .cons hread .nil⟩

end Requirement

namespace Dependency

/-- The row of a package in its own table requires the version of the package, and accepts just the
versions with its numbers and its tag. -/
theorem own_accepts_iff {text : String} (hascii : ∀ c ∈ text.toList, c.toNat < 128)
    {version : Version} (hparse : Version.parse text = .ok version) (name : String) :
    ∃ requirement, Requirement.parse ("=" ++ version.render) = .ok requirement ∧
      own name version =
        .ok { ident := libNameOf name, published := name, requirement, version } ∧
      ∀ other, requirement.accepts other ↔
        other.major = version.major ∧ other.minor = version.minor ∧
          other.patch = version.patch ∧ other.pre = version.pre := by
  obtain ⟨hpre, hbuild⟩ := Version.isTag_of_parse hascii hparse
  have hrequirement := Requirement.parse_exact hpre hbuild
  refine ⟨_, hrequirement, ?_, Requirement.accepts_exactly_iff version⟩
  rw [own, hrequirement]
  rfl

theorem own_accepts_iff_release_candidate :
    (∀ c ∈ " 1.2.3-rc.1-x+b.7 ".toList, c.toNat < 128) ∧
      ∃ version, Version.parse " 1.2.3-rc.1-x+b.7 " = .ok version ∧
        ∃ requirement, Requirement.parse ("=" ++ version.render) = .ok requirement ∧
          own "my-crate" version = .ok
            { ident := libNameOf "my-crate", published := "my-crate", requirement, version } ∧
          ∀ other, requirement.accepts other ↔
            other.major = version.major ∧ other.minor = version.minor ∧
              other.patch = version.patch ∧ other.pre = version.pre := by
  have hascii : ∀ c ∈ " 1.2.3-rc.1-x+b.7 ".toList, c.toNat < 128 := by
    simp
  have hread : (Version.parse " 1.2.3-rc.1-x+b.7 ").toOption.isSome := by
    decide +kernel
  obtain ⟨version, hversion⟩ := Option.isSome_iff_exists.mp hread
  have hparse : Version.parse " 1.2.3-rc.1-x+b.7 " = .ok version := by
    cases hresult : Version.parse " 1.2.3-rc.1-x+b.7 " with
    | error => rw [hresult] at hversion; cases hversion
    | ok found => rw [hresult] at hversion; cases hversion; rfl
  exact ⟨hascii, version, hparse, own_accepts_iff hascii hparse "my-crate"⟩

end Dependency

end CrateReadme
