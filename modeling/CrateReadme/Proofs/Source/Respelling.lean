import CrateReadme.Source.Outline

/-!
# Spelling words as raw identifiers

What the outline of a crate root takes from a word is its name, and the mark of a raw identifier is
no part of that. So words may be marked without any effect, except where a word is looked at as it
is written: in front of a declaration and as its keyword, and as the first word of an absolute path.
A map of cells that forgets places and marks words elsewhere is followed through all readers.
-/

namespace CrateReadme.Source

/-- The texts that mean something wherever they stand. -/
def fixedTexts : List String :=
  ["#", "[", "(", "\x7b", "!", ";", "=", ",", "*", "::", "as", "mut", "where", "crate"]

/-- A word that may be written with the mark of a raw identifier. -/
structure Token.MayBeRaw (token : Token) : Prop where
  cls : token.cls = .word
  plain : plainName token.text = token.text
  reads : ∀ text ∈ fixedTexts, token.reads text = false

/-- A cell with the same token at any place, which may have got the mark of a raw identifier. -/
structure Cell.Respells (other cell : Cell) : Prop where
  cls : other.token.cls = cell.token.cls
  value : other.token.value = cell.token.value
  extent : other.extent = cell.extent
  text : other.token.text = cell.token.text ∨
    other.token.text = 'r' :: '#' :: cell.token.text ∧ cell.token.MayBeRaw

/-- A map of cells that respells them. -/
def IsRespelling (f : Cell → Cell) : Prop :=
  ∀ cell, (f cell).Respells cell

/-- The text of a cell stays as it is. -/
def IsKept (f : Cell → Cell) (cell : Cell) : Prop :=
  (f cell).token.text = cell.token.text

/-- A text without the mark of a raw identifier. -/
def IsUnmarked (text : String) : Prop :=
  text.toList.take 2 ≠ ['r', '#']

instance (text : String) : Decidable (IsUnmarked text) :=
  inferInstanceAs (Decidable (text.toList.take 2 ≠ ['r', '#']))

theorem isUnmarked_of_mem_fixedTexts : ∀ text ∈ fixedTexts, IsUnmarked text := by
  decide +kernel

variable {f : Cell → Cell} {cell : Cell} {text : String}

/-! ### One cell -/

theorem IsKept.reads (hkept : IsKept f cell) (text : String) :
    (f cell).reads text = cell.reads text := by
  rw [Cell.reads, Token.reads, hkept]
  rfl

namespace IsRespelling

variable (hf : IsRespelling f)

include hf

theorem cls (cell : Cell) : (f cell).token.cls = cell.token.cls :=
  (hf cell).cls

theorem plainName (cell : Cell) :
    plainName (f cell).token.text = Source.plainName cell.token.text := by
  rcases (hf cell).text with htext | ⟨htext, hraw⟩
  · rw [htext]
  · rw [htext, hraw.plain]
    rfl

/-- What reads as an unmarked text has not been marked. -/
theorem isKept_of_reads (htext : IsUnmarked text) (hreads : (f cell).reads text) :
    IsKept f cell := by
  rcases (hf cell).text with hsame | ⟨hmarked, -⟩
  · exact hsame
  · rw [Cell.reads, Token.reads, hmarked, decide_eq_true_eq] at hreads
    rw [IsUnmarked, ← hreads] at htext
    exact absurd rfl htext

/-- A cell reads as before if it is kept where it matters. -/
theorem reads_eq (htext : IsUnmarked text) (hkept : cell.reads text → IsKept f cell) :
    (f cell).reads text = cell.reads text := by
  rw [Bool.eq_iff_iff]
  constructor
  · intro hreads
    rwa [← (hf.isKept_of_reads htext hreads).reads]
  · intro hreads
    rwa [(hkept hreads).reads]

theorem reads_fixed (htext : text ∈ fixedTexts) (cell : Cell) :
    (f cell).reads text = cell.reads text := by
  refine hf.reads_eq (isUnmarked_of_mem_fixedTexts text htext) fun hreads => ?_
  rcases (hf cell).text with hsame | ⟨-, hraw⟩
  · exact hsame
  · have hnot : cell.reads text = false := hraw.reads text htext
    rw [hnot] at hreads
    cases hreads

/-! ### Readers that look at a few cells -/

variable (cells : List Cell)

theorem classAt_map (ahead : Nat) : classAt (cells.map f) ahead = classAt cells ahead := by
  rw [classAt, List.getElem?_map, Option.map_map, classAt]
  congr 1
  funext cell
  exact hf.cls cell

theorem readsAt_map (htext : text ∈ fixedTexts) (ahead : Nat) :
    readsAt (cells.map f) text ahead = readsAt cells text ahead := by
  rw [readsAt, List.getElem?_map, readsAt]
  cases cells[ahead]? with
  | none => rfl
  | some cell => exact hf.reads_fixed htext cell

/-- A cell further on reads as before if it is kept where it matters. -/
theorem readsAt_eq (htext : IsUnmarked text) {ahead : Nat}
    (hkept : ∀ cell ∈ cells[ahead]?, cell.reads text → IsKept f cell) :
    readsAt (cells.map f) text ahead = readsAt cells text ahead := by
  rw [readsAt, List.getElem?_map, readsAt]
  cases hcell : cells[ahead]? with
  | none => rfl
  | some cell => exact hf.reads_eq htext (hkept cell hcell)

theorem nameAt?_map (ahead : Nat) : nameAt? (cells.map f) ahead = nameAt? cells ahead := by
  rw [nameAt?, List.getElem?_map, nameAt?]
  cases cells[ahead]? with
  | none => rfl
  | some cell => simp only [Option.map_some, hf.cls, hf.plainName]

theorem afterGroup_map : afterGroup (cells.map f) = (afterGroup cells).map f := by
  cases cells with
  | nil => rfl
  | cons cell rest =>
      rw [List.map_cons, afterGroup, (hf cell).extent, ← List.map_drop]
      rfl

theorem groupBody_map : groupBody (cells.map f) = (groupBody cells).map f := by
  cases cells with
  | nil => rfl
  | cons cell rest =>
      rw [List.map_cons, groupBody, (hf cell).extent, ← List.map_take]
      rfl

/-! ### Readers that skip groups -/

theorem afterSemicolon_map : afterSemicolon (cells.map f) = (afterSemicolon cells).map f := by
  fun_induction afterSemicolon cells with
  | case1 => rw [List.map_nil, afterSemicolon]
  | case2 cell rest hopening ih =>
      rw [List.map_cons, afterSemicolon, hf.cls, if_pos hopening, ← List.map_cons,
        hf.afterGroup_map, ih]
  | case3 cell rest hopening hmark =>
      rw [List.map_cons, afterSemicolon, hf.cls, if_neg hopening, hf.reads_fixed (by decide),
        if_pos hmark]
  | case4 cell rest hopening hmark ih =>
      rw [List.map_cons, afterSemicolon, hf.cls, if_neg hopening, hf.reads_fixed (by decide),
        if_neg hmark, ih]

/-- A respelling keeps where a body ends. -/
theorem afterBody_map : afterBody (cells.map f) = (afterBody cells).map f := by
  fun_induction afterBody cells with
  | case1 => rw [List.map_nil, afterBody]
  | case2 cell rest hbrace =>
      rw [List.map_cons, afterBody, hf.reads_fixed (by decide), if_pos hbrace, ← List.map_cons,
        hf.afterGroup_map]
  | case3 cell rest hbrace hopening ih =>
      rw [List.map_cons, afterBody, hf.reads_fixed (by decide), if_neg hbrace, hf.cls,
        if_pos hopening, ← List.map_cons, hf.afterGroup_map, ih]
  | case4 cell rest hbrace hopening hmark =>
      rw [List.map_cons, afterBody, hf.reads_fixed (by decide), if_neg hbrace, hf.cls,
        if_neg hopening, hf.reads_fixed (by decide), if_pos hmark]
  | case5 cell rest hbrace hopening hmark ih =>
      rw [List.map_cons, afterBody, hf.reads_fixed (by decide), if_neg hbrace, hf.cls,
        if_neg hopening, hf.reads_fixed (by decide), if_neg hmark, ih]

/-- A respelling keeps what is a trait alias. -/
theorem isTraitAlias_map : isTraitAlias (cells.map f) = isTraitAlias cells := by
  fun_induction isTraitAlias cells with
  | case1 => rw [List.map_nil, isTraitAlias]
  | case2 cell rest hstops =>
      rw [List.map_cons, isTraitAlias, hf.reads_fixed (by decide), hf.reads_fixed (by decide),
        hf.reads_fixed (by decide), if_pos hstops]
  | case3 cell rest hstops hequals =>
      rw [List.map_cons, isTraitAlias, hf.reads_fixed (by decide), hf.reads_fixed (by decide),
        hf.reads_fixed (by decide), if_neg hstops, hf.reads_fixed (by decide), if_pos hequals]
  | case4 cell rest hstops hequals hopening ih =>
      rw [List.map_cons, isTraitAlias, hf.reads_fixed (by decide), hf.reads_fixed (by decide),
        hf.reads_fixed (by decide), if_neg hstops, hf.reads_fixed (by decide), if_neg hequals,
        hf.cls, if_pos hopening, ← List.map_cons, hf.afterGroup_map, ih]
  | case5 cell rest hstops hequals hopening ih =>
      rw [List.map_cons, isTraitAlias, hf.reads_fixed (by decide), hf.reads_fixed (by decide),
        hf.reads_fixed (by decide), if_neg hstops, hf.reads_fixed (by decide), if_neg hequals,
        hf.cls, if_neg hopening, ih]

theorem afterMacroCall_map : afterMacroCall (cells.map f) = (afterMacroCall cells).map f := by
  have hreads (cells : List Cell) (text : String) (htext : text ∈ fixedTexts) :=
    hf.readsAt_map cells htext
  simp only [afterMacroCall, hf.classAt_map, ← List.map_drop, ← apply_ite (List.map f),
    hf.afterGroup_map, hreads _ "\x7b" (by decide), hreads _ ";" (by decide)]

theorem crateAliasNode?_map (visibility : Visibility) :
    crateAliasNode? visibility (cells.map f) = crateAliasNode? visibility cells := by
  rw [crateAliasNode?, hf.readsAt_map _ (by decide), hf.nameAt?_map, hf.nameAt?_map,
    crateAliasNode?]

end IsRespelling

/-! ### What stands in front of a declaration -/

theorem mem_take_of_suffix {cells after : List Cell} (hsuffix : after <:+ cells) {count : Nat}
    (hmem : cell ∈ after.take count) : cell ∈ cells.take (cells.length - after.length + count) := by
  obtain ⟨front, rfl⟩ := hsuffix
  rw [List.length_append, Nat.add_sub_cancel, List.take_length_add_append]
  exact List.mem_append_right front hmem

theorem afterGroup_suffix (cells : List Cell) : afterGroup cells <:+ cells := by
  cases cells with
  | nil => exact List.suffix_refl _
  | cons cell rest => exact (List.drop_suffix _ rest).trans (List.suffix_cons cell rest)

/-- The inside of a group is passed over with the group. -/
theorem mem_take_of_groupBody {cells : List Cell} (hmem : cell ∈ groupBody cells) :
    cell ∈ cells.take (cells.length - (afterGroup cells).length) := by
  cases cells with
  | nil => cases hmem
  | cons bracket rest =>
      have hsize : (bracket :: rest).length - (afterGroup (bracket :: rest)).length =
          min (bracket.extent - 1) rest.length + 1 := by
        rw [afterGroup, List.length_drop, List.length_cons]
        omega
      rw [hsize, List.take_succ_cons, ← List.take_eq_take_min]
      exact List.mem_cons_of_mem _ ((List.take_prefix_take_left (by omega)).subset hmem)

theorem readAttributes_suffix (cells : List Cell) : (readAttributes cells).2 <:+ cells := by
  fun_induction readAttributes cells with
  | case1 => exact List.suffix_refl _
  | case2 cell rest _ ih => exact ih.trans (List.suffix_cons cell rest)
  | case3 cell rest _ _ attributes after hrest _ ih =>
      rw [hrest] at ih
      exact ih.trans ((afterGroup_suffix rest).trans (List.suffix_cons cell rest))
  | case4 cell rest _ _ attributes after hrest _ _ _ ih =>
      rw [hrest] at ih
      exact ih.trans ((afterGroup_suffix rest).trans (List.suffix_cons cell rest))
  | case5 => exact List.suffix_refl _

theorem readVisibility_suffix (cells : List Cell) : (readVisibility cells).2 <:+ cells := by
  unfold readVisibility
  split
  · exact List.suffix_refl _
  · next cell rest =>
    split
    · split
      · exact (afterGroup_suffix rest).trans (List.suffix_cons cell rest)
      · exact List.suffix_cons cell rest
    · exact List.suffix_refl _

theorem afterFunctionQualifiers_suffix (cells : List Cell) :
    afterFunctionQualifiers cells <:+ cells := by
  unfold afterFunctionQualifiers
  split
  · exact (List.dropWhile_suffix _).trans (List.drop_suffix 1 cells)
  · exact List.suffix_refl _

theorem afterConvention_suffix (cells : List Cell) : afterConvention cells <:+ cells := by
  unfold afterConvention
  split
  · split
    · exact List.drop_suffix 2 cells
    · split
      · exact List.drop_suffix 1 cells
      · exact List.suffix_refl _
  · exact List.suffix_refl _

theorem fromKeyword_suffix (cells : List Cell) : fromKeyword cells <:+ cells :=
  (afterConvention_suffix _).trans
    ((afterFunctionQualifiers_suffix _).trans (List.dropWhile_suffix isQualifier))

/-- Where an attribute is kept with all behind it, its inside is kept, and so are the attributes
behind it. -/
theorem kept_of_attribute {rest after : List Cell} {attributes : List Attribute}
    (hrest : readAttributes (afterGroup rest) = (attributes, after))
    (hkept : ∀ other ∈ (cell :: rest).take ((cell :: rest).length - after.length),
      IsKept f other) :
    (∀ other ∈ (afterGroup rest).take ((afterGroup rest).length - after.length), IsKept f other) ∧
      ∀ other ∈ groupBody rest, IsKept f other := by
  have hgroup := (afterGroup_suffix rest).length_le
  have hafter : after.length ≤ (afterGroup rest).length := by
    have hlength := readAttributes_length_le (afterGroup rest)
    rwa [hrest] at hlength
  rw [List.length_cons, show rest.length + 1 - after.length = rest.length - after.length + 1 by
    omega, List.take_succ_cons] at hkept
  constructor
  · intro other hmem
    have htaken := mem_take_of_suffix (afterGroup_suffix rest) hmem
    refine hkept other (List.mem_cons_of_mem _ ?_)
    rwa [show rest.length - (afterGroup rest).length +
      ((afterGroup rest).length - after.length) = rest.length - after.length by omega] at htaken
  · intro other hmem
    refine hkept other (List.mem_cons_of_mem _ ?_)
    exact (List.take_prefix_take_left (by omega)).subset (mem_take_of_groupBody hmem)

def Attribute.map (f : Cell → Cell) (attr : Attribute) : Attribute :=
  { attr with arguments := attr.arguments.map f }

namespace IsRespelling

variable (hf : IsRespelling f) (cells : List Cell)

include hf

theorem readVisibility_map (hkept : ∀ cell ∈ cells.head?, cell.reads "pub" → IsKept f cell) :
    readVisibility (cells.map f) = ((readVisibility cells).1, (readVisibility cells).2.map f) := by
  cases cells with
  | nil => rfl
  | cons cell rest =>
      rw [List.map_cons, readVisibility, readVisibility, hf.reads_eq (by decide) (hkept cell rfl),
        hf.readsAt_map _ (by decide), hf.afterGroup_map]
      split
      · split <;> rfl
      · rfl

/-- A respelling goes through the attributes whose cells it keeps. -/
theorem readAttributes_map
    (hkept : ∀ cell ∈ cells.take (cells.length - (readAttributes cells).2.length),
      IsKept f cell) :
    readAttributes (cells.map f) =
        ((readAttributes cells).1.map (Attribute.map f), (readAttributes cells).2.map f) ∧
      ∀ attr ∈ (readAttributes cells).1, ∀ cell ∈ attr.arguments, IsKept f cell := by
  fun_induction readAttributes cells with
  | case1 =>
      rw [List.map_nil, readAttributes]
      exact ⟨rfl, fun _ hmem => absurd hmem List.not_mem_nil⟩
  | case2 cell rest hdoc ih =>
      have hrest := readAttributes_length_le rest
      obtain ⟨hmap, harguments⟩ := ih fun other hmem => hkept other (by
        rw [List.length_cons, Nat.succ_sub hrest, List.take_succ_cons]
        exact List.mem_cons_of_mem cell hmem)
      rw [List.map_cons, readAttributes, hf.cls, if_pos hdoc]
      exact ⟨hmap, harguments⟩
  | case3 cell rest hdoc hmark attributes after hrest hbody ih =>
      have hlater := kept_of_attribute hrest hkept
      rw [hrest] at ih
      obtain ⟨hmap, harguments⟩ := ih hlater.1
      rw [List.map_cons, readAttributes, hf.cls, if_neg hdoc, hf.reads_fixed (by decide),
        hf.readsAt_map _ (by decide), if_pos hmark, hf.afterGroup_map, hmap, hf.groupBody_map, hbody]
      exact ⟨rfl, harguments⟩
  | case4 cell rest hdoc hmark attributes after hrest first arguments hbody ih =>
      have hlater := kept_of_attribute hrest hkept
      rw [hrest] at ih
      obtain ⟨hmap, harguments⟩ := ih hlater.1
      have hinside := hlater.2
      rw [hbody, List.forall_mem_cons] at hinside
      have hname : (f first).token.text = first.token.text := hinside.1
      rw [List.map_cons, readAttributes, hf.cls, if_neg hdoc, hf.reads_fixed (by decide),
        hf.readsAt_map _ (by decide), if_pos hmark, hf.afterGroup_map, hmap, hf.groupBody_map, hbody]
      simp only [List.map_cons, hname, List.forall_mem_cons]
      exact ⟨rfl, hinside.2, harguments⟩
  | case5 cell rest hdoc hmark =>
      rw [List.map_cons, readAttributes, hf.cls, if_neg hdoc, hf.reads_fixed (by decide),
        hf.readsAt_map _ (by decide), if_neg hmark]
      exact ⟨rfl, fun _ hmem => absurd hmem List.not_mem_nil⟩

theorem isQualifier_eq (hkept : isQualifier cell → IsKept f cell) :
    isQualifier (f cell) = isQualifier cell := by
  have hreads (word : String) (hword : word ∈ ["default", "unsafe", "async", "auto", "safe"])
      (hunmarked : IsUnmarked word) : (f cell).reads word = cell.reads word :=
    hf.reads_eq hunmarked fun hreads => hkept (List.any_eq_true.mpr ⟨word, hword, hreads⟩)
  simp only [isQualifier, List.any_cons, List.any_nil, hreads "default" (by decide) (by decide),
    hreads "unsafe" (by decide) (by decide), hreads "async" (by decide) (by decide),
    hreads "auto" (by decide) (by decide), hreads "safe" (by decide) (by decide)]

theorem dropWhile_map (hkept : ∀ cell ∈ cells.takeWhile isQualifier, IsKept f cell) :
    (cells.map f).dropWhile isQualifier = (cells.dropWhile isQualifier).map f := by
  induction cells with
  | nil => rfl
  | cons cell rest ih =>
      rw [List.map_cons, List.dropWhile_cons, List.dropWhile_cons]
      cases hqualifier : isQualifier cell with
      | true =>
          rw [List.takeWhile_cons_of_pos hqualifier, List.forall_mem_cons] at hkept
          rw [hf.isQualifier_eq fun _ => hkept.1, hqualifier]
          exact ih hkept.2
      | false =>
          rw [hf.isQualifier_eq fun htrue => absurd htrue (by rw [hqualifier]; decide), hqualifier]
          rfl

/-- A respelling goes through the qualifiers of a function if it keeps them. -/
theorem afterFunctionQualifiers_map
    (hkept : ∀ cell ∈ cells.take (cells.length + 1 - (afterFunctionQualifiers cells).length),
      IsKept f cell) :
    afterFunctionQualifiers (cells.map f) = (afterFunctionQualifiers cells).map f := by
  have hsuffix := (afterFunctionQualifiers_suffix cells).length_le
  have hfirst (cell : Cell) (hcell : cell ∈ cells[0]?) : IsKept f cell := by
    refine hkept cell ?_
    cases cells with
    | nil => cases hcell
    | cons first rest =>
        cases hcell
        rw [Nat.sub_add_comm hsuffix, List.take_succ_cons]
        exact List.mem_cons_self
  have hconst : readsAt (cells.map f) "const" 0 = readsAt cells "const" 0 :=
    hf.readsAt_eq cells (by decide) fun cell hcell _ => hfirst cell hcell
  rw [afterFunctionQualifiers, afterFunctionQualifiers, hconst]
  cases htrue : readsAt cells "const" 0 with
  | false => rfl
  | true =>
      -- A function's qualifiers are passed over up to its keyword, which is kept.
      have hpassed (hnext : ["fn", "unsafe", "async", "extern"].any (readsAt cells · 1)) :
          ∀ cell ∈ (cells.drop 1).take (((cells.drop 1).takeWhile isQualifier).length + 1),
            IsKept f cell := by
        intro cell hmem
        have hlength := congrArg List.length
          (List.takeWhile_append_dropWhile (p := isQualifier) (l := cells.drop 1))
        have hrest : (cells.drop 1).length = cells.length - 1 := List.length_drop
        rw [List.length_append] at hlength
        have htaken := mem_take_of_suffix (List.drop_suffix 1 cells) hmem
        refine hkept cell ((List.take_prefix_take_left ?_).subset htaken)
        rw [afterFunctionQualifiers, htrue, Bool.true_and, if_pos hnext]
        omega
      have hword (word : String) (hmem : word ∈ ["fn", "unsafe", "async", "extern"])
          (hunmarked : IsUnmarked word) : readsAt (cells.map f) word 1 = readsAt cells word 1 := by
        refine hf.readsAt_eq cells hunmarked fun cell hcell hreads => ?_
        have hnext : ["fn", "unsafe", "async", "extern"].any (readsAt cells · 1) := by
          refine List.any_eq_true.mpr ⟨word, hmem, ?_⟩
          rw [readsAt, hcell]
          exact hreads
        refine hpassed hnext cell ?_
        match cells, hcell with
        | _ :: next :: rest, hcell =>
            cases hcell
            exact List.mem_cons_self
      have hwords : ["fn", "unsafe", "async", "extern"].any (readsAt (cells.map f) · 1) =
          ["fn", "unsafe", "async", "extern"].any (readsAt cells · 1) := by
        simp only [List.any_cons, List.any_nil, hword "fn" (by decide) (by decide),
          hword "unsafe" (by decide) (by decide), hword "async" (by decide) (by decide),
          hword "extern" (by decide) (by decide)]
      rw [hwords]
      split
      · next hnext =>
        rw [← List.map_drop, hf.dropWhile_map]
        intro cell hmem
        have hprefix : (cells.drop 1).takeWhile isQualifier <+: cells.drop 1 :=
          List.takeWhile_prefix _
        rw [List.prefix_iff_eq_take.mp hprefix] at hmem
        exact hpassed hnext cell ((List.take_prefix_take_left (Nat.le_succ _)).subset hmem)
      · rfl

/-- A respelling goes through a calling convention if it keeps it. -/
theorem afterConvention_map
    (hkept : ∀ cell ∈ cells.take (cells.length + 1 - (afterConvention cells).length),
      IsKept f cell) :
    afterConvention (cells.map f) = (afterConvention cells).map f := by
  have hfirst (cell : Cell) (hcell : cell ∈ cells[0]?) : IsKept f cell := by
    refine hkept cell ?_
    cases cells with
    | nil => cases hcell
    | cons first rest =>
        cases hcell
        rw [Nat.sub_add_comm (afterConvention_suffix _).length_le, List.take_succ_cons]
        exact List.mem_cons_self
  have hextern : readsAt (cells.map f) "extern" 0 = readsAt cells "extern" 0 :=
    hf.readsAt_eq cells (by decide) fun cell hcell _ => hfirst cell hcell
  rw [afterConvention, afterConvention, hextern, hf.classAt_map]
  cases htrue : readsAt cells "extern" 0 with
  | false => rfl
  | true =>
      rw [if_pos rfl, if_pos rfl]
      split
      · exact (List.map_drop ..).symm
      · next hplain =>
        have hfunction : readsAt (cells.map f) "fn" 1 = readsAt cells "fn" 1 := by
          refine hf.readsAt_eq cells (by decide) fun cell hcell hreads => hkept cell ?_
          match cells, hcell with
          | first :: next :: rest, hcell =>
              cases hcell
              have hone : readsAt (first :: cell :: rest) "fn" 1 := hreads
              rw [afterConvention, if_pos htrue, if_neg hplain, if_pos hone]
              simp
        rw [hfunction]
        split
        · exact (List.map_drop ..).symm
        · rfl

/-- The keyword of a declaration is found where it is kept with all that stands in front of it. -/
theorem fromKeyword_map
    (hkept : ∀ cell ∈ cells.take (cells.length + 1 - (fromKeyword cells).length), IsKept f cell) :
    fromKeyword (cells.map f) = (fromKeyword cells).map f := by
  have hqualified : cells.dropWhile isQualifier <:+ cells := List.dropWhile_suffix _
  have hfunction := afterFunctionQualifiers_suffix (cells.dropWhile isQualifier)
  have hconvention := afterConvention_suffix (afterFunctionQualifiers (cells.dropWhile isQualifier))
  have hle := hqualified.length_le
  have hle' := hfunction.length_le
  have hle'' := hconvention.length_le
  have hwhile : ∀ cell ∈ cells.takeWhile isQualifier, IsKept f cell := by
    intro cell hmem
    have hlength := congrArg List.length
      (List.takeWhile_append_dropWhile (p := isQualifier) (l := cells))
    rw [List.length_append] at hlength
    rw [List.prefix_iff_eq_take.mp (List.takeWhile_prefix isQualifier)] at hmem
    refine hkept cell ((List.take_prefix_take_left ?_).subset hmem)
    rw [fromKeyword]
    omega
  rw [fromKeyword, hf.dropWhile_map cells hwhile, hf.afterFunctionQualifiers_map,
    hf.afterConvention_map, fromKeyword]
  · intro cell hmem
    have htaken := mem_take_of_suffix (hfunction.trans hqualified) hmem
    refine hkept cell ((List.take_prefix_take_left ?_).subset htaken)
    rw [fromKeyword]
    omega
  · intro cell hmem
    have htaken := mem_take_of_suffix hqualified hmem
    refine hkept cell ((List.take_prefix_take_left ?_).subset htaken)
    rw [fromKeyword]
    omega

end IsRespelling

/-! ### Trees -/

namespace UseTree

mutual

/-- The first words of the absolute paths of a tree. -/
def absoluteHeads (cells : List Cell) : List Cell :=
  match cells with
  | [] => []
  | cell :: rest =>
    if cell.reads "::" then
      match rest with
      | [] => []
      | next :: more =>
        if next.token.cls = .word then next :: absoluteHeadsAfterWord more
        else absoluteHeads (next :: more)
    else if cell.reads "*" then
      []
    else if cell.reads "\x7b" then
      absoluteHeadsOfMembers ((afterGroup (cell :: rest)).length + 1) rest
    else if cell.token.cls = .word then
      absoluteHeadsAfterWord rest
    else
      []
termination_by (cells.length, 0)
decreasing_by
  all_goals exact Prod.Lex.left _ _ (by simp only [List.length_cons]; omega)

/-- The first words of the absolute paths behind the first word of a tree. -/
def absoluteHeadsAfterWord (cells : List Cell) : List Cell :=
  match cells with
  | [] => []
  | cell :: rest => if cell.reads "::" then absoluteHeads rest else []
termination_by (cells.length, 1)
decreasing_by exact Prod.Lex.left _ _ (Nat.lt_succ_self rest.length)

/-- The first words of the absolute paths of the members of a group. -/
def absoluteHeadsOfMembers (outside : Nat) (cells : List Cell) : List Cell :=
  match cells with
  | [] => []
  | cell :: rest =>
    if rest.length + 1 ≤ outside then
      []
    else if cell.reads "," then
      absoluteHeadsOfMembers outside rest
    else
      absoluteHeads (cell :: rest) ++
        if (read (cell :: rest)).2.length < rest.length + 1 then
          absoluteHeadsOfMembers outside (read (cell :: rest)).2
        else
          absoluteHeadsOfMembers outside rest
termination_by (cells.length, 1)
decreasing_by
  · exact Prod.Lex.left _ _ (Nat.lt_succ_self rest.length)
  · exact Prod.Lex.right _ Nat.zero_lt_one
  · exact Prod.Lex.left _ _ (by assumption)
  · exact Prod.Lex.left _ _ (Nat.lt_succ_self rest.length)

end

theorem readAfterWord_congr {word other : List Char} (hname : plainName word = plainName other)
    (cells : List Cell) : readAfterWord word cells = readAfterWord other cells := by
  rw [readAfterWord.eq_def, readAfterWord.eq_def, hname]

mutual

/-- A tree is read in the same way if the first words of absolute paths are kept. -/
theorem read_map (hf : IsRespelling f) (cells : List Cell)
    (hkept : ∀ cell ∈ absoluteHeads cells, IsKept f cell) :
    read (cells.map f) = ((read cells).1, (read cells).2.map f) := by
  match cells with
  | [] =>
      rw [List.map_nil, read]
      rfl
  | cell :: rest =>
      have hreads {text : String} (htext : text ∈ fixedTexts) := hf.reads_fixed htext cell
      rw [List.map_cons]
      unfold read
      unfold absoluteHeads at hkept
      simp only [hreads (show "::" ∈ fixedTexts by decide), hreads (show "*" ∈ fixedTexts by decide),
        hreads (show "\x7b" ∈ fixedTexts by decide), hf.cls]
      by_cases hcolons : cell.reads "::"
      · simp only [if_pos hcolons] at hkept ⊢
        cases hrest : rest with
        | nil => rfl
        | cons next more =>
            simp only [hrest, List.map_cons, hf.cls] at hkept ⊢
            by_cases hword : next.token.cls = .word
            · simp only [if_pos hword, List.forall_mem_cons] at hkept ⊢
              have hnext : (f next).token.text = next.token.text := hkept.1
              rw [hnext]
              exact readAfterWord_map hf _ more hkept.2
            · simp only [if_neg hword] at hkept ⊢
              exact read_map hf (next :: more) hkept
      simp only [if_neg hcolons] at hkept ⊢
      by_cases hstar : cell.reads "*"
      · simp only [if_pos hstar]
      simp only [if_neg hstar] at hkept ⊢
      by_cases hbrace : cell.reads "\x7b"
      · simp only [if_pos hbrace] at hkept ⊢
        rw [← List.map_cons, hf.afterGroup_map, List.length_map, readMembers_map hf _ rest hkept]
      simp only [if_neg hbrace] at hkept ⊢
      by_cases hword : cell.token.cls = .word
      · simp only [if_pos hword] at hkept ⊢
        rw [readAfterWord_congr (hf.plainName cell)]
        exact readAfterWord_map hf cell.token.text rest hkept
      · simp only [if_neg hword]
        rfl
termination_by (cells.length, 0)
decreasing_by
  all_goals
    subst_vars
    exact Prod.Lex.left _ _ (by simp only [List.length_cons]; omega)

theorem readAfterWord_map (hf : IsRespelling f) (word : List Char) (cells : List Cell)
    (hkept : ∀ cell ∈ absoluteHeadsAfterWord cells, IsKept f cell) :
    readAfterWord word (cells.map f) =
      ((readAfterWord word cells).1, (readAfterWord word cells).2.map f) := by
  match cells with
  | [] =>
      rw [List.map_nil, readAfterWord]
      rfl
  | cell :: rest =>
      have hreads {text : String} (htext : text ∈ fixedTexts) := hf.reads_fixed htext cell
      rw [List.map_cons]
      unfold readAfterWord
      unfold absoluteHeadsAfterWord at hkept
      simp only [hreads (show "::" ∈ fixedTexts by decide), hreads (show "as" ∈ fixedTexts by decide)]
      by_cases hcolons : cell.reads "::"
      · simp only [if_pos hcolons] at hkept ⊢
        rw [read_map hf rest hkept]
      simp only [if_neg hcolons]
      by_cases has : cell.reads "as"
      · simp only [if_pos has]
        rw [hf.nameAt?_map, List.map_drop]
      · simp only [if_neg has]
        rfl
termination_by (cells.length, 1)
decreasing_by exact Prod.Lex.left _ _ (Nat.lt_succ_self rest.length)

theorem readMembers_map (hf : IsRespelling f) (outside : Nat) (cells : List Cell)
    (hkept : ∀ cell ∈ absoluteHeadsOfMembers outside cells, IsKept f cell) :
    readMembers outside (cells.map f) = readMembers outside cells := by
  match cells with
  | [] => rw [List.map_nil]
  | cell :: rest =>
      have hreads := hf.reads_fixed (show "," ∈ fixedTexts by decide) cell
      rw [List.map_cons]
      unfold readMembers
      unfold absoluteHeadsOfMembers at hkept
      simp only [hreads, List.length_map]
      by_cases hend : rest.length + 1 ≤ outside
      · simp only [if_pos hend]
      simp only [if_neg hend] at hkept ⊢
      by_cases hcomma : cell.reads ","
      · simp only [if_pos hcomma] at hkept ⊢
        exact readMembers_map hf outside rest hkept
      simp only [if_neg hcomma, List.forall_mem_append] at hkept ⊢
      rw [← List.map_cons, read_map hf (cell :: rest) hkept.1]
      simp only [List.length_map]
      by_cases hshorter : (read (cell :: rest)).2.length < rest.length + 1
      · simp only [if_pos hshorter] at hkept ⊢
        rw [readMembers_map hf outside (read (cell :: rest)).2 hkept.2]
      · simp only [if_neg hshorter] at hkept ⊢
        rw [readMembers_map hf outside rest hkept.2]
termination_by (cells.length, 1)
decreasing_by
  · exact Prod.Lex.left _ _ (Nat.lt_succ_self rest.length)
  · exact Prod.Lex.right _ Nat.zero_lt_one
  · exact Prod.Lex.left _ _ hshorter
  · exact Prod.Lex.left _ _ (Nat.lt_succ_self rest.length)

end

end UseTree

/-! ### Declarations -/

/-- A pair under a map of the cells that follow. -/
def mapAfter {α : Type} (f : Cell → Cell) (found : α × List Cell) : α × List Cell :=
  (found.1, found.2.map f)

namespace IsRespelling

variable (hf : IsRespelling f)

include hf

/-- A respelling keeps what a function with its attributes declares. -/
theorem functionNode?_map {attributes : List Attribute}
    (hkept : ∀ attr ∈ attributes, ∀ cell ∈ attr.arguments, IsKept f cell)
    (visibility : Visibility) :
    functionNode? (attributes.map (Attribute.map f)) visibility =
      functionNode? attributes visibility := by
  funext name
  have hfind (wanted : List Char) :
      (attributes.map (Attribute.map f)).reverse.find? (fun attr => attr.name = wanted) =
        (attributes.reverse.find? fun attr => attr.name = wanted).map (Attribute.map f) := by
    rw [← List.map_reverse, List.find?_map]
    rfl
  simp only [functionNode?, hfind, Option.isSome_map]
  cases hattr : attributes.reverse.find? fun attr => attr.name = "proc_macro_derive".toList with
  | none => rfl
  | some attr =>
      have hmem : attr ∈ attributes := List.mem_reverse.mp (List.mem_of_find?_eq_some hattr)
      simp only [Option.map_some, Attribute.map, List.getElem?_map]
      cases hcell : attr.arguments[1]? with
      | none => rfl
      | some cell =>
          have hname : (f cell).token.text = cell.token.text :=
            hkept attr hmem cell (List.mem_of_getElem? hcell)
          simp only [Option.map_some, hf.cls, hname]

theorem bodyItem?_map {keyword : Cell} (hkept : IsKept f keyword) (rest : List Cell) :
    bodyItem? (f keyword) (rest.map f) = bodyItem? keyword rest := by
  simp only [bodyItem?, hkept.reads, hf.classAt_map]

omit hf in
theorem valueItem?_map {keyword : Cell} (hkept : IsKept f keyword) :
    valueItem? (f keyword) = valueItem? keyword := by
  simp only [valueItem?, hkept.reads]

/-- A respelling goes through what a keyword starts. -/
theorem readKeyword_map {attributes : List Attribute} {keyword : Cell} {rest : List Cell}
    (hattributes : ∀ attr ∈ attributes, ∀ cell ∈ attr.arguments, IsKept f cell)
    (hkeyword : IsKept f keyword)
    (hheads : keyword.reads "use" → ∀ cell ∈ UseTree.absoluteHeads rest, IsKept f cell)
    (visibility : Visibility) :
    readKeyword (attributes.map (Attribute.map f)) visibility (f keyword) (rest.map f) =
      mapAfter f (readKeyword attributes visibility keyword rest) := by
  have hexported : ((attributes.map (Attribute.map f)).any fun attr =>
      attr.name = "macro_export".toList) =
        attributes.any fun attr => attr.name = "macro_export".toList := by
    rw [List.any_map]
    rfl
  have hreads (cells : List Cell) {text : String} (htext : text ∈ fixedTexts) (ahead : Nat) :=
    hf.readsAt_map cells htext ahead
  unfold readKeyword
  simp only [← List.map_cons, hexported, hkeyword.reads, hf.cls, hf.bodyItem?_map hkeyword,
    valueItem?_map hkeyword, hreads _ (show "mut" ∈ fixedTexts by decide),
    hreads _ (show "crate" ∈ fixedTexts by decide), hreads _ (show "!" ∈ fixedTexts by decide),
    hf.classAt_map, hf.nameAt?_map, hf.functionNode?_map hattributes, hf.crateAliasNode?_map,
    ← List.map_drop, hf.isTraitAlias_map, hf.afterBody_map, hf.afterSemicolon_map,
    hf.afterGroup_map, hf.afterMacroCall_map]
  -- Both sides make the same choices. The first ones are made by name: `split` would look for more
  -- of them in everything that follows.
  by_cases hfunction : keyword.reads "fn"
  · rw [if_pos hfunction, if_pos hfunction]
    rfl
  rw [if_neg hfunction, if_neg hfunction]
  cases bodyItem? keyword rest with
  | some kind =>
      simp only
      split <;> rfl
  | none =>
  simp only
  cases valueItem? keyword with
  | some kind => rfl
  | none =>
  simp only
  by_cases huse : keyword.reads "use"
  · rw [if_pos huse, if_pos huse, UseTree.read_map hf rest (hheads huse)]
    simp only [hf.afterSemicolon_map]
    rfl
  rw [if_neg huse, if_neg huse]
  repeat' split
  all_goals rfl

end IsRespelling

/-- What a declaration begins with, from its attributes up to its keyword. -/
def declarationOf (cells : List Cell) : List Cell :=
  fromKeyword (readVisibility (readAttributes cells).2).2

/-- The cells of a declaration that are looked at as they are written: those in front of its name,
and the first words of its absolute paths. -/
def headCells (cells : List Cell) : List Cell :=
  cells.take (cells.length + 1 - (declarationOf cells).length) ++
    match declarationOf cells with
    | [] => []
    | keyword :: rest => if keyword.reads "use" then UseTree.absoluteHeads rest else []

/-- A respelling goes through an item whose head it keeps. -/
theorem IsRespelling.readItem_map (hf : IsRespelling f) {cells : List Cell}
    (hkept : ∀ cell ∈ headCells cells, IsKept f cell) :
    readItem (cells.map f) = mapAfter f (readItem cells) := by
  obtain ⟨hfront, hheads⟩ := List.forall_mem_append.mp hkept
  have hattributes := readAttributes_suffix cells
  have hvisibility := readVisibility_suffix (readAttributes cells).2
  have hkeyword := fromKeyword_length_le (readVisibility (readAttributes cells).2).2
  have hle := hattributes.length_le
  have hle' := hvisibility.length_le
  -- What each reader passes over lies in front of the name.
  obtain ⟨hmap, harguments⟩ := hf.readAttributes_map cells fun cell hmem => by
    refine hfront cell ((List.take_prefix_take_left ?_).subset hmem)
    rw [declarationOf]
    omega
  have hfirst {after : List Cell} (hsuffix : after <:+ cells)
      (hafter : (declarationOf cells).length ≤ after.length) (cell : Cell)
      (hcell : cell ∈ after.head?) : IsKept f cell := by
    have hone : cell ∈ after.take 1 := by
      obtain ⟨rest, rfl⟩ := List.head?_eq_some_iff.mp hcell
      exact List.mem_cons_self
    have htaken := mem_take_of_suffix hsuffix hone
    have hshort := hsuffix.length_le
    exact hfront cell ((List.take_prefix_take_left (by omega)).subset htaken)
  have hdeclaration := hf.fromKeyword_map (readVisibility (readAttributes cells).2).2
    fun cell hmem => by
      have htaken := mem_take_of_suffix (hvisibility.trans hattributes) hmem
      refine hfront cell ((List.take_prefix_take_left ?_).subset htaken)
      rw [declarationOf]
      omega
  have hvisible : ∀ cell ∈ (readAttributes cells).2.head?, cell.reads "pub" → IsKept f cell :=
    fun cell hcell _ => hfirst hattributes (by rw [declarationOf]; omega) cell hcell
  rw [readItem, hmap]
  simp only [hf.readVisibility_map _ hvisible, hdeclaration]
  rw [readItem]
  simp only
  cases hcells : fromKeyword (readVisibility (readAttributes cells).2).2 with
  | nil => rfl
  | cons keyword rest =>
      refine hf.readKeyword_map harguments ?_ ?_ _
      · have hsuffix := (fromKeyword_suffix _).trans (hvisibility.trans hattributes)
        exact hfirst hsuffix (Nat.le_refl _) keyword (by rw [hcells]; rfl)
      · intro huse
        simp only [declarationOf, hcells, if_pos huse] at hheads
        exact hheads

/-! ### Outlines -/

/-- The cells of a crate root that are looked at as they are written: the insides of inner
attributes and the heads of declarations. -/
def fixedCells (cells : List Cell) : List Cell :=
  match cells with
  | [] => []
  | cell :: rest =>
    if cell.token.cls = .innerDoc then
      fixedCells rest
    else if cell.reads "#" && readsAt rest "!" 0 && readsAt rest "[" 1 then
      groupBody (rest.drop 1) ++ fixedCells (afterGroup (rest.drop 1))
    else
      headCells (cell :: rest) ++ fixedCells (readItem (cell :: rest)).2
termination_by cells.length
decreasing_by
  · simp
  · have hgroup := (afterGroup_suffix (rest.drop 1)).length_le
    rw [List.length_drop] at hgroup
    simp only [List.length_cons]
    omega
  · exact Nat.lt_succ_of_le (readItem_length_lt cell rest)

/-- Two outlines are the same apart from the places of what was found. -/
structure Outline.SaysAs (outline other : Outline) : Prop where
  docs : outline.docs = other.docs
  nodes : outline.nodes.map (Node.withSpan none) = other.nodes.map (Node.withSpan none)
  unexpanded : outline.unexpanded.length = other.unexpanded.length

theorem Node.withSpan_withSpan (span other : Option Span) (node : Node) :
    (node.withSpan span).withSpan other = node.withSpan other := by
  cases node <;> rfl

/-- What begins with a token has a place. -/
theorem isSome_spanUpTo (code : List Char) (cell : Cell) (rest after : List Cell) :
    (spanUpTo code (cell :: rest) after).isSome := by
  have hlast : (cell :: rest).length - after.length - 1 < (cell :: rest).length := by
    rw [List.length_cons]
    omega
  rw [spanUpTo, List.getElem?_eq_getElem hlast]
  rfl

theorem Outline.SaysAs.addAttribute {outline other : Outline} (hagree : outline.SaysAs other)
    (hf : IsRespelling f) {body : List Cell} (hkept : ∀ cell ∈ body, IsKept f cell)
    {span otherSpan : Option Span} (hspan : span.isSome) (hother : otherSpan.isSome) :
    (outline.addAttribute (body.map f) span).SaysAs (other.addAttribute body otherSpan) := by
  obtain ⟨place, rfl⟩ := Option.isSome_iff_exists.mp hspan
  obtain ⟨otherPlace, rfl⟩ := Option.isSome_iff_exists.mp hother
  match body with
  | [] => exact hagree
  | [_] => exact hagree
  | [_, _] => exact hagree
  | name :: equals :: first :: more =>
      have hdocs (text : List Char) :
          ({ outline with docs := text :: outline.docs } : Outline).SaysAs
            { other with docs := text :: other.docs } :=
        ⟨congrArg (text :: ·) hagree.docs, hagree.nodes, hagree.unexpanded⟩
      have hcall : ({ outline with unexpanded := place :: outline.unexpanded } : Outline).SaysAs
          { other with unexpanded := otherPlace :: other.unexpanded } :=
        ⟨hagree.docs, hagree.nodes, congrArg (· + 1) hagree.unexpanded⟩
      have hname := (hkept name (by simp)).reads "doc"
      have hequals := hf.reads_fixed (show "=" ∈ fixedTexts by decide) equals
      simp only [List.map_cons, Outline.addAttribute, hname, hequals, hf.cls, (hf first).value]
      split
      · cases more with
        | cons next more => exact hcall
        | nil =>
            cases first.token.cls with
            | literal =>
                cases first.token.value with
                | none => exact hcall
                | some text => exact hdocs text
            | _ => exact hcall
      · exact hagree

/-- A crate root says the same if its words are respelled where they are not looked at as they are
written. -/
theorem Outline.saysAs_map (hf : IsRespelling f) {cells : List Cell}
    (hkept : ∀ cell ∈ fixedCells cells, IsKept f cell) (code other : List Char) :
    (Outline.ofCells other (cells.map f)).SaysAs (Outline.ofCells code cells) := by
  have hreads (cells : List Cell) {text : String} (htext : text ∈ fixedTexts) (ahead : Nat) :=
    hf.readsAt_map cells htext ahead
  fun_induction Outline.ofCells code cells with
  | case1 =>
      rw [List.map_nil, Outline.ofCells]
      exact ⟨rfl, rfl, rfl⟩
  | case2 cell rest hdoc outline ih =>
      rw [fixedCells, if_pos hdoc] at hkept
      have hrest := ih hkept
      rw [List.map_cons, Outline.ofCells, hf.cls, if_pos hdoc, (hf cell).value]
      exact ⟨congrArg (cell.token.value.getD [] :: ·) hrest.docs, hrest.nodes, hrest.unexpanded⟩
  | case3 cell rest hdoc hmark after ih =>
      rw [fixedCells, if_neg hdoc, if_pos hmark, List.forall_mem_append] at hkept
      rw [List.map_cons, Outline.ofCells, hf.cls, if_neg hdoc, hf.reads_fixed (by decide),
        hreads _ (by decide), hreads _ (by decide), if_pos hmark, ← List.map_drop,
        hf.afterGroup_map, hf.groupBody_map]
      exact (ih hkept.2).addAttribute hf hkept.1 (isSome_spanUpTo _ _ _ _)
        (isSome_spanUpTo _ _ _ _)
  | case4 cell rest hdoc hmark item outline node hnode placed ih =>
      rw [fixedCells, if_neg hdoc, if_neg hmark, List.forall_mem_append] at hkept
      have hrest := ih hkept.2
      have hitem := hf.readItem_map hkept.1
      rw [List.map_cons] at hitem ⊢
      rw [Outline.ofCells, hf.cls, if_neg hdoc, hf.reads_fixed (by decide), hreads _ (by decide),
        hreads _ (by decide), if_neg hmark, hitem]
      simp only [mapAfter, item, hnode]
      refine ⟨hrest.docs, ?_, hrest.unexpanded⟩
      simp only [List.map_cons, Node.withSpan_withSpan, placed]
      rw [hrest.nodes]
  | case5 cell rest hdoc hmark item outline hnode ih =>
      rw [fixedCells, if_neg hdoc, if_neg hmark, List.forall_mem_append] at hkept
      have hitem := hf.readItem_map hkept.1
      rw [List.map_cons] at hitem ⊢
      rw [Outline.ofCells, hf.cls, if_neg hdoc, hf.reads_fixed (by decide), hreads _ (by decide),
        hreads _ (by decide), if_neg hmark, hitem]
      simp only [mapAfter, item, hnode]
      exact ih hkept.2

end CrateReadme.Source
