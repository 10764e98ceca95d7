import CrateReadme.Proofs.Text.Decimal
import CrateReadme.Proofs.Text.Search
import CrateReadme.Version.Basic

/-!
# Versions read back

The text of a version spells that version. The characters of numbers and tags are kept apart from
the marks between them, so each part of the text is found where it was written.
-/

namespace CrateReadme.Version

/-! ## Characters of a version -/

/-- The characters of numbers and tags, the dots between their parts included. -/
def isSpelling (c : Char) : Bool :=
  Text.isDecimal c || isTagChar c || c = '.'

theorem isSpelling_of_isDecimal {c : Char} (hdecimal : Text.isDecimal c) : isSpelling c := by
  simp [isSpelling, hdecimal]

theorem isSpelling_of_isTagChar {c : Char} (htag : isTagChar c) : isSpelling c := by
  simp [isSpelling, htag]

theorem isDecimal_of_le {c : Char} (hone : '1' ≤ c) (hnine : c ≤ '9') : Text.isDecimal c := by
  have hlow : 49 ≤ c.toNat := hone
  have hhigh : c.toNat ≤ 57 := hnine
  have hdigit : c.isDigit := by
    rw [Char.isDigit, Bool.and_eq_true, decide_eq_true_eq, decide_eq_true_eq]
    exact ⟨show 48 ≤ c.toNat by omega, hnine⟩
  rw [Text.isDecimal, Text.decimalValue?, if_pos (by omega), if_pos hdigit]
  rfl

/-- What is read as a number consists of digits. -/
theorem isDecimal_of_number? {text : List Char} (hnumber : (number? text).isSome) :
    ∀ c ∈ text, Text.isDecimal c := by
  unfold number? at hnumber
  split at hnumber
  · intro c hmem
    rw [List.mem_singleton.mp hmem]
    decide
  · split at hnumber
    · rename_i first rest _ hdigits
      obtain ⟨hone, hnine, hrest⟩ := hdigits
      intro c hmem
      rcases List.mem_cons.mp hmem with rfl | hmem
      · exact isDecimal_of_le hone hnine
      · exact List.all_eq_true.mp hrest c hmem
    · cases hnumber
  · cases hnumber

/-- Part of a tag consists of characters that a spelling may have. -/
theorem isSpelling_of_isPrePart {part : List Char} (haccept : isPrePart part) :
    ∀ c ∈ part, isSpelling c := by
  rw [isPrePart, Bool.or_eq_true] at haccept
  rcases haccept with hnumber | hname
  · exact fun c hmem => isSpelling_of_isDecimal (isDecimal_of_number? hnumber c hmem)
  · intro c hmem
    rw [← List.takeWhile_append_dropWhile (p := Text.isDecimal) (l := part)] at hmem
    rcases List.mem_append.mp hmem with hdigit | hlater
    · have hdigits := List.all_takeWhile (p := Text.isDecimal) (l := part)
      exact isSpelling_of_isDecimal (List.all_eq_true.mp hdigits c hdigit)
    · apply isSpelling_of_isTagChar
      split at hname
      · rename_i first rest heq
        rw [Bool.and_eq_true] at hname
        rw [heq] at hlater
        rcases List.mem_cons.mp hlater with rfl | hlater
        · have hfirst := hname.1
          simp only [isTagChar, Char.isAlphanum]
          grind
        · exact List.all_eq_true.mp hname.2 c hlater
      · cases hname

theorem isSpelling_of_isBuildPart {part : List Char} (haccept : isBuildPart part) :
    ∀ c ∈ part, isSpelling c := by
  rw [isBuildPart, Bool.and_eq_true] at haccept
  exact fun c hmem => isSpelling_of_isTagChar (List.all_eq_true.mp haccept.2 c hmem)

theorem isSpelling_of_allParts {accept : List Char → Bool} {text : List Char}
    (hparts : ∀ part, accept part → ∀ c ∈ part, isSpelling c) (haccept : allParts accept text) :
    ∀ c ∈ text, isSpelling c := by
  intro c hmem
  have htext : ['.'].intercalate (text.splitOn '.') = text := List.intercalate_splitOn '.'
  rw [← htext] at hmem
  rcases Text.mem_intercalate hmem with hdot | ⟨part, hpart, hc⟩
  · rw [List.mem_singleton.mp hdot]
    decide
  · exact hparts part (List.all_eq_true.mp haccept part hpart) c hc

/-! ## Numbers -/

theorem one_le_digitChar {digit : Nat} (hdigit : digit < 10) (hpos : digit ≠ 0) :
    '1' ≤ Text.digitChar digit ∧ Text.digitChar digit ≤ '9' := by
  revert digit
  decide

/-- A number is read back from its digits. -/
theorem number?_decimal (n : Nat) : number? (Text.decimal n) = some n := by
  have hvalue := Text.natural?_decimal n
  obtain ⟨first, rest, hdecimal, hfirst, hrest, -, hzero⟩ := Text.exists_digits n
  have hlater : (rest.map Text.digitChar).all Text.isDecimal := by
    rw [List.all_map, List.all_eq_true]
    exact fun digit hmem => Text.isDecimal_digitChar (hrest digit hmem)
  by_cases hfirstzero : first = 0
  · rw [hdecimal, hzero hfirstzero, hfirstzero] at hvalue
    rw [hdecimal, hzero hfirstzero, hfirstzero, ← hvalue]
    rfl
  · obtain ⟨hone, hnine⟩ := one_le_digitChar hfirst hfirstzero
    rw [hdecimal] at hvalue ⊢
    unfold number?
    split
    · rename_i heq
      rw [(List.cons.inj heq).1] at hone
      exact absurd hone (by decide)
    · rename_i heq
      cases heq
      rw [if_pos ⟨hone, hnine, hlater⟩, hvalue]
    · rename_i heq
      cases heq

/-! ## Texts -/

/-- What stands behind a mark, if anything. -/
def marked (mark : Char) : Option String → List Char
  | some tag => mark :: tag.toList
  | none => []

theorem toList_render (version : Version) :
    version.render.toList =
      Text.decimal version.major ++ '.' :: Text.decimal version.minor ++
        '.' :: Text.decimal version.patch ++ marked '-' version.pre ++
          marked '+' version.build := by
  cases hpre : version.pre <;> cases hbuild : version.build <;>
    simp [render, hpre, hbuild, marked, Text.decimalString]

theorem cutAt_append_marked {mark : Char} {before : List Char} (hmark : mark ∉ before)
    (tag : Option String) :
    cutAt mark (before ++ marked mark tag) = (before, tag.map String.toList) := by
  have hkeep : ∀ c ∈ before, decide (c ≠ mark) = true := fun c hmem =>
    decide_eq_true fun heq => hmark (heq ▸ hmem)
  have hstop : ∀ c ∈ (marked mark tag).head?, decide (c ≠ mark) = false := by
    cases tag <;> simp [marked]
  have hbefore := (Text.takeWhile_append_of_head? hkeep hstop).1
  simp only [cutAt, hbefore]
  cases tag <;> simp [marked]

theorem tag?_map_toList {accept : List Char → Bool} {tag : Option String}
    (haccept : ∀ text ∈ tag, allParts accept text.toList) :
    tag? accept (tag.map String.toList) = some ⟨tag, haccept⟩ := by
  cases tag with
  | none => rfl
  | some text => simp [tag?, haccept text rfl]

theorem not_mem_decimal {mark : Char} (hmark : Text.isDecimal mark = false) (n : Nat) :
    mark ∉ Text.decimal n := by
  intro hmem
  rw [Text.isDecimal_of_mem_decimal hmem] at hmark
  cases hmark

theorem isSpelling_of_mem_pre (version : Version) :
    ∀ tag ∈ version.pre, ∀ c ∈ tag.toList, isSpelling c := fun tag hmem =>
  isSpelling_of_allParts (fun _ => isSpelling_of_isPrePart) (version.pre_spelled tag hmem)

theorem isSpelling_of_mem_build (version : Version) :
    ∀ tag ∈ version.build, ∀ c ∈ tag.toList, isSpelling c := fun tag hmem =>
  isSpelling_of_allParts (fun _ => isSpelling_of_isBuildPart) (version.build_spelled tag hmem)

theorem not_mem_marked {c mark : Char} {tag : Option String} (hmark : c ≠ mark)
    (hspelling : isSpelling c = false) (htag : ∀ text ∈ tag, ∀ d ∈ text.toList, isSpelling d) :
    c ∉ marked mark tag := by
  intro hmem
  cases tag with
  | none => simp [marked] at hmem
  | some text =>
      rcases List.mem_cons.mp hmem with heq | hmem
      · exact hmark heq
      · rw [htag text rfl c hmem] at hspelling
        cases hspelling

/-- A version is read back from its text. -/
theorem ofChars?_render (version : Version) : ofChars? version.render.toList = some version := by
  have hplus : '+' ∉ Text.decimal version.major ++ '.' :: Text.decimal version.minor ++
      '.' :: Text.decimal version.patch ++ marked '-' version.pre := by
    have hpre := not_mem_marked (show '+' ≠ '-' by decide) (by decide)
      version.isSpelling_of_mem_pre
    simp [not_mem_decimal (show Text.isDecimal '+' = false by decide), hpre]
  have hminus : '-' ∉ Text.decimal version.major ++ '.' :: Text.decimal version.minor ++
      '.' :: Text.decimal version.patch := by
    simp [not_mem_decimal (show Text.isDecimal '-' = false by decide)]
  have hdot := not_mem_decimal (show Text.isDecimal '.' = false by decide)
  have hnumbers : (Text.decimal version.major ++ '.' :: Text.decimal version.minor ++
      '.' :: Text.decimal version.patch).splitOn '.' =
        [Text.decimal version.major, Text.decimal version.minor, Text.decimal version.patch] := by
    rw [List.append_assoc, List.cons_append,
      List.splitOn_append_cons_self_of_not_mem (hdot _),
      List.splitOn_append_cons_self_of_not_mem (hdot _), List.splitOn_eq_singleton (hdot _)]
  simp only [ofChars?, toList_render, cutAt_append_marked hplus, cutAt_append_marked hminus,
    hnumbers, tag?_map_toList version.pre_spelled, tag?_map_toList version.build_spelled,
    number?_decimal]
  rfl

/-- The text of a version holds numbers, tags and the signs between them only. -/
theorem not_mem_render {c : Char} (hspelling : isSpelling c = false) (hplus : c ≠ '+')
    (version : Version) : c ∉ version.render.toList := by
  have hdecimal : Text.isDecimal c = false := by
    rw [Bool.eq_false_iff]
    intro hdecimal
    rw [isSpelling_of_isDecimal hdecimal] at hspelling
    cases hspelling
  have hdash : c ≠ '-' := by
    rintro rfl
    exact absurd hspelling (by decide)
  have hdot : c ≠ '.' := by
    rintro rfl
    exact absurd hspelling (by decide)
  have hpre := not_mem_marked hdash hspelling version.isSpelling_of_mem_pre
  have hbuild := not_mem_marked hplus hspelling version.isSpelling_of_mem_build
  rw [toList_render]
  simp [not_mem_decimal hdecimal, hpre, hbuild, hdot]

/-- The text of a version spells that version. -/
theorem ofText?_render (version : Version) : ofText? version.render = some version := by
  unfold ofText?
  split
  · rename_i heq
    have hmem : '\n' ∈ version.render.toList.reverse := by
      rw [heq]
      simp
    exact absurd (List.mem_reverse.mp hmem) (not_mem_render (by decide) (by decide) version)
  · exact ofChars?_render version

theorem render_injective {version other : Version} (hrender : version.render = other.render) :
    version = other := by
  have hread := version.ofText?_render
  rw [hrender, other.ofText?_render] at hread
  exact (Option.some.inj hread).symm

end CrateReadme.Version
