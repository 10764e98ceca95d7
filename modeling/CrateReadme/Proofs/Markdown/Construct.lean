import CrateReadme.Markdown.Inline.Scan
import CrateReadme.Proofs.Markdown.Spelling
import CrateReadme.Proofs.Text.Search
import Mathlib.Data.List.Infix
import Mathlib.Data.List.TakeDrop
import Mathlib.Data.List.TakeWhile

/-!
# Where the constructs of a text end

A tag ends in a bracket, a character reference in a semicolon, a code span in a backquote. None of
them ends in a backslash, so that what stands behind a construct is never escaped.
-/

namespace CrateReadme.Markdown

/-! ### Tags -/

namespace Html

theorem suffix_of_mem_blankEnds {text rest : List Char} (hrest : rest ∈ blankEnds text) :
    rest <:+ text := by
  induction text with
  | nil =>
    obtain rfl := List.mem_singleton.mp hrest
    exact List.suffix_refl []
  | cons c text ih =>
    rcases List.mem_append.mp hrest with hrest | hrest
    · split at hrest
      · exact (ih hrest).trans (List.suffix_cons c text)
      · exact absurd hrest List.not_mem_nil
    · obtain rfl := List.mem_singleton.mp hrest
      exact List.suffix_refl _

theorem suffix_of_mem_plainEnds {text rest : List Char} (hrest : rest ∈ plainEnds text) :
    rest <:+ text := by
  induction text with
  | nil => exact absurd hrest List.not_mem_nil
  | cons c text ih =>
    rw [plainEnds] at hrest
    split at hrest
    · rcases List.mem_append.mp hrest with hrest | hrest
      · exact (ih hrest).trans (List.suffix_cons c text)
      · split at hrest
        · rw [List.mem_singleton.mp hrest]
          exact List.suffix_cons c text
        · exact absurd hrest List.not_mem_nil
    · exact absurd hrest List.not_mem_nil

theorem suffix_of_tail?_dropWhile {text rest : List Char} {keep : Char → Bool}
    (hrest : rest ∈ ((text.dropWhile keep).tail?).toList) : rest <:+ text := by
  obtain ⟨c, hdrop⟩ : ∃ c, text.dropWhile keep = c :: rest := by
    cases hdrop : text.dropWhile keep with
    | nil => simp [hdrop] at hrest
    | cons c more => exact ⟨c, by simp_all⟩
  exact (hdrop ▸ List.suffix_cons c rest).trans (List.dropWhile_suffix keep)

theorem suffix_of_mem_valueEnds {text rest : List Char} (hrest : rest ∈ valueEnds text) :
    rest <:+ text := by
  rw [valueEnds.eq_def] at hrest
  split at hrest
  · exact (suffix_of_tail?_dropWhile hrest).trans (List.suffix_cons _ _)
  · exact (suffix_of_tail?_dropWhile hrest).trans (List.suffix_cons _ _)
  · exact suffix_of_mem_plainEnds hrest

theorem suffix_of_mem_attributeEnds {text rest : List Char} (hrest : rest ∈ attributeEnds text) :
    rest <:+ text := by
  rw [attributeEnds, List.span_eq_takeWhile_dropWhile] at hrest
  split at hrest
  next => exact absurd hrest List.not_mem_nil
  next => exact absurd hrest List.not_mem_nil
  next white c more _ hspan =>
    have hmore : more <:+ text := by
      rw [Prod.mk.injEq] at hspan
      exact (hspan.2 ▸ List.suffix_cons c more).trans (List.dropWhile_suffix Text.isBlank)
    split at hrest
    · simp only at hrest
      have hname := (List.dropWhile_suffix fun d => d.isAlphanum || d ∈ [':', '.', '_', '-']).trans
        hmore
      split at hrest
      next value hvalue =>
        obtain ⟨start, hstart, hrest⟩ := List.mem_flatMap.mp hrest
        have hequals := hvalue ▸ List.dropWhile_suffix (l := List.dropWhile _ more) Text.isBlank
        calc rest
          _ <:+ start := suffix_of_mem_valueEnds hrest
          _ <:+ value := suffix_of_mem_blankEnds hstart
          _ <:+ '=' :: value := List.suffix_cons '=' value
          _ <:+ _ := hequals
          _ <:+ text := hname
      next =>
        rw [List.mem_singleton.mp hrest]
        exact hname
    · exact absurd hrest List.not_mem_nil

theorem suffix_tagEnd? {left : Nat} {text rest : List Char} (hend : tagEnd? left text = some rest) :
    '>' :: rest <:+ text := by
  induction left generalizing text with
  | zero => cases hend
  | succ left ih =>
    simp only [tagEnd?, Option.orElse_eq_orElse, Option.orElse_eq_or, Option.or_eq_some_iff] at hend
    rcases hend with hend | ⟨-, hend⟩
    · obtain ⟨more, hmore, hend⟩ := List.exists_of_findSome?_eq_some hend
      exact (ih hend).trans (suffix_of_mem_attributeEnds hmore)
    · split at hend
      next more hmore =>
        cases hend
        exact (hmore ▸ List.suffix_cons '/' ('>' :: rest)).trans (List.dropWhile_suffix _)
      next more hmore =>
        cases hend
        exact hmore ▸ List.dropWhile_suffix _
      next => cases hend

theorem suffix_openTag? {text rest : List Char} (hend : openTag? text = some rest) :
    '>' :: rest <:+ text := by
  rw [openTag?.eq_def] at hend
  split at hend
  next c more =>
    split at hend
    · calc '>' :: rest
        _ <:+ more.dropWhile isTagChar := suffix_tagEnd? hend
        _ <:+ more := List.dropWhile_suffix isTagChar
        _ <:+ c :: more := List.suffix_cons c more
        _ <:+ '<' :: c :: more := List.suffix_cons '<' (c :: more)
    · cases hend
  next => cases hend

theorem suffix_closeTag? {text rest : List Char} (hend : closeTag? text = some rest) :
    '>' :: rest <:+ text := by
  rw [closeTag?.eq_def] at hend
  split at hend
  next c more =>
    split at hend
    · split at hend
      next behind hbehind =>
        cases hend
        calc '>' :: rest
          _ <:+ more.dropWhile isTagChar := hbehind ▸ List.dropWhile_suffix _
          _ <:+ more := List.dropWhile_suffix isTagChar
          _ <:+ c :: more := List.suffix_cons c more
          _ <:+ '/' :: c :: more := List.suffix_cons '/' (c :: more)
          _ <:+ '<' :: '/' :: c :: more := List.suffix_cons '<' ('/' :: c :: more)
      next => cases hend
    · cases hend
  next => cases hend

theorem suffix_commentEnd? {text rest : List Char} (hend : commentEnd? text = some rest) :
    '>' :: rest <:+ text := by
  fun_induction commentEnd? text with
  | case1 more =>
    cases hend
    exact (List.suffix_cons '-' _).trans (List.suffix_cons '-' _)
  | case2 c text _ ih =>
    exact (ih hend).trans ((List.suffix_cons c text).trans
      ((List.suffix_cons '-' _).trans (List.suffix_cons '-' _)))
  | case3 => cases hend
  | case4 c text _ _ _ ih =>
    exact (ih hend).trans ((List.suffix_cons c text).trans (List.suffix_cons '-' _))
  | case5 => cases hend
  | case6 c text _ _ _ _ _ ih => exact (ih hend).trans (List.suffix_cons c text)
  | case7 => cases hend

theorem suffix_comment? {text rest : List Char} (hend : comment? text = some rest) :
    '>' :: rest <:+ text := by
  rw [comment?] at hend
  split at hend
  next more hafter =>
    cases hend
    exact ⟨_, (Text.after?_eq_some_iff.mp hafter).symm⟩
  next more hafter =>
    cases hend
    exact (List.suffix_cons '-' _).trans ⟨_, (Text.after?_eq_some_iff.mp hafter).symm⟩
  next body hafter =>
    exact (suffix_commentEnd? hend).trans ⟨_, (Text.after?_eq_some_iff.mp hafter).symm⟩
  next => cases hend

theorem suffix_enclosed? {start stop : String} {text rest : List Char}
    (hstop : ['>'] <:+ stop.toList) (hend : enclosed? start stop text = some rest) :
    '>' :: rest <:+ text := by
  simp only [enclosed?, Option.bind_eq_bind, Option.bind_eq_some_iff, Option.pure_def,
    Option.some.injEq] at hend
  obtain ⟨body, hbody, ⟨before, behind⟩, hbreak, rfl⟩ := hend
  obtain ⟨front, hfront⟩ := hstop
  refine List.IsSuffix.trans ⟨before ++ front, ?_⟩ ⟨_, (Text.after?_eq_some_iff.mp hbody).symm⟩
  rw [Text.eq_of_breakOn? hbreak, ← hfront]
  simp

theorem suffix_declaration? {text rest : List Char} (hend : declaration? text = some rest) :
    '>' :: rest <:+ text := by
  rw [declaration?.eq_def] at hend
  split at hend
  next c more =>
    split at hend
    · split at hend
      next d behind hbehind =>
        cases hend
        have hd : d = '>' := by
          have hhead := List.head?_dropWhile_not (· ≠ '>') more
          rw [hbehind] at hhead
          simpa using hhead
        calc '>' :: rest
          _ <:+ more := hd ▸ hbehind ▸ List.dropWhile_suffix _
          _ <:+ c :: more := List.suffix_cons c more
          _ <:+ '!' :: c :: more := List.suffix_cons '!' (c :: more)
          _ <:+ '<' :: '!' :: c :: more := List.suffix_cons '<' ('!' :: c :: more)
      next => cases hend
    · cases hend
  next => cases hend

/-- A tag or the like ends in a bracket. -/
theorem suffix_inline? {text rest : List Char} (hend : inline? text = some rest) :
    '>' :: rest <:+ text := by
  simp only [inline?, Option.orElse_eq_orElse, Option.orElse_eq_or, Option.or_eq_some_iff] at hend
  rcases hend with hend | ⟨-, hend | ⟨-, hend | ⟨-, hend | ⟨-, hend | ⟨-, hend⟩⟩⟩⟩⟩
  · exact suffix_openTag? hend
  · exact suffix_closeTag? hend
  · exact suffix_comment? hend
  · exact suffix_enclosed? (by decide) hend
  · exact suffix_declaration? hend
  · exact suffix_enclosed? (by decide) hend

end Html

/-! ### Character references -/

namespace Entity

/-- What is read up to a semicolon stands in front of it. -/
theorem eq_of_untilSemicolon? {keep : Char → Bool} {limit : Nat} {text name rest : List Char}
    (hname : untilSemicolon? keep limit text = some (name, rest)) :
    text = name ++ ';' :: rest := by
  fun_induction untilSemicolon? keep limit text generalizing name with
  | case1 limit text =>
    cases hname
    rfl
  | case2 c text limit hne hkeep ih =>
    obtain ⟨⟨found, behind⟩, hfound, heq⟩ := Option.map_eq_some_iff.mp hname
    cases heq
    rw [ih hfound]
    rfl
  | case3 => cases hname
  | case4 => cases hname

/-- A character reference takes its text up to a semicolon. -/
theorem eq_of_atStart? {text shown : List Char} {length : Nat}
    (hstart : atStart? text = some (shown, length)) :
    ∃ name rest, text = '&' :: (name ++ ';' :: rest) ∧ length = name.length + 2 := by
  rw [atStart?.eq_def] at hstart
  split at hstart
  next more =>
    obtain ⟨⟨name, rest⟩, hname, hstart⟩ := Option.bind_eq_some_iff.mp hstart
    refine ⟨name, rest, by rw [eq_of_untilSemicolon? hname], ?_⟩
    simp only at hstart
    split at hstart
    · obtain ⟨code, -, hcode⟩ := Option.bind_eq_some_iff.mp hstart
      cases hcode
      rfl
    · split at hstart
      · obtain ⟨chars, -, hchars⟩ := Option.bind_eq_some_iff.mp hstart
        cases hchars
        rfl
      · cases hstart
  next => cases hstart

end Entity

/-! ### Destinations and titles -/

namespace LinkParts

theorem suffix_angled? {taken text found rest : List Char}
    (hfound : angled? taken text = some (found, rest)) : rest <:+ text := by
  fun_induction angled? taken text with
  | case1 => cases hfound
  | case2 taken ih => exact (ih hfound).trans (List.suffix_cons '\\' [])
  | case3 taken c text ih =>
    exact (ih hfound).trans ((List.suffix_cons c text).trans (List.suffix_cons '\\' _))
  | case4 =>
    cases hfound
    exact List.suffix_cons '>' _
  | case5 => cases hfound
  | case6 taken c text _ _ _ _ ih => exact (ih hfound).trans (List.suffix_cons c text)

theorem suffix_bare? {depth : Nat} {taken text found rest : List Char}
    (hfound : bare? depth taken text = some (found, rest)) : rest <:+ text := by
  fun_induction bare? depth taken text with
  | case1 | case5 | case8 =>
    cases hfound
    exact List.suffix_refl _
  | case3 =>
    cases hfound
    exact List.suffix_cons '\\' []
  | case7 depth taken c text _ ih =>
    exact (ih hfound).trans ((List.suffix_cons c text).trans (List.suffix_cons '\\' _))
  | case10 depth taken text _ _ _ _ ih => exact (ih hfound).trans (List.suffix_cons '(' text)
  | case12 depth taken text _ _ _ _ ih => exact (ih hfound).trans (List.suffix_cons ')' text)
  | case13 depth taken c text _ _ _ _ _ ih => exact (ih hfound).trans (List.suffix_cons c text)
  | case2 | case4 | case6 | case9 | case11 => cases hfound

theorem suffix_destination? {text found rest : List Char}
    (hfound : destination? text = some (found, rest)) : rest <:+ text := by
  rw [destination?.eq_def] at hfound
  split at hfound
  next more =>
    obtain ⟨⟨raw, behind⟩, hraw, heq⟩ := Option.map_eq_some_iff.mp hfound
    cases heq
    exact (suffix_angled? hraw).trans (List.suffix_cons '<' more)
  next =>
    split at hfound
    next c raw behind hraw =>
      cases hfound
      exact suffix_bare? hraw
    next => cases hfound

theorem suffix_scanTitle {closing : Char} {taken text title rest : List Char}
    (hclosed : scanTitle closing taken text = .closed title rest) : rest <:+ text := by
  fun_induction scanTitle closing taken text with
  | case1 | case2 | case5 => cases hclosed
  | case3 taken c text ih =>
    exact (ih hclosed).trans ((List.suffix_cons c text).trans (List.suffix_cons '\\' _))
  | case4 =>
    cases hclosed
    exact List.suffix_cons _ _
  | case6 taken c text _ _ _ _ ih => exact (ih hclosed).trans (List.suffix_cons c text)

theorem suffix_title? {text title rest : List Char} (htitle : title? text = some (title, rest)) :
    rest <:+ text := by
  rw [title?.eq_def] at htitle
  split at htitle
  next => cases htitle
  next c more =>
    split at htitle
    next closing hclosing =>
      split at htitle
      next found behind hfound =>
        cases htitle
        exact (suffix_scanTitle hfound).trans (List.suffix_cons c more)
      next => cases htitle
    next => cases htitle

end LinkParts

/-- What is left behind the destination and the title is an end of the text. -/
theorem Scan.suffix_resource? {text : List Char} {resource : Resource}
    (hresource : resource? text = some resource) : resource.rest <:+ text := by
  have hstart : text.dropWhile isLinkSpace <:+ text := List.dropWhile_suffix isLinkSpace
  rw [resource?] at hresource
  split at hresource
  next => cases hresource
  next c start hdrop =>
  rw [hdrop] at hstart
  simp only at hresource
  split at hresource
  next =>
    cases hresource
    exact hstart
  next raw behind hraw =>
  have hbehind : (if isSafeDestination (normalizeDestination raw) then
      (normalizeDestination raw, behind) else ([], c :: start)).2 <:+ text := by
    split
    · exact (LinkParts.suffix_destination? hraw).trans hstart
    · exact hstart
  generalize (if isSafeDestination (normalizeDestination raw) then
      (normalizeDestination raw, behind) else ([], c :: start)) = found at hresource hbehind
  have hspaced := (List.dropWhile_suffix isLinkSpace).trans hbehind
  split at hresource
  next title rest htitle =>
    split at hresource
    · cases hresource
      exact (List.dropWhile_suffix isLinkSpace).trans
        ((LinkParts.suffix_title? htitle).trans hspaced)
    · cases hresource
      exact hspaced
  next =>
    cases hresource
    exact hspaced

/-! ### Positions -/

namespace Scan

variable {chars : Array Char} {stop pos next : Nat}

theorem charBefore?_eq_some_iff {c : Char} :
    charBefore? chars stop pos = some c ↔ pos < stop ∧ chars[pos]? = some c := by
  by_cases hstop : pos < stop <;> simp [charBefore?, hstop]

theorem lt_size_of_getElem? {c : Char} (hc : chars[pos]? = some c) : pos < chars.size :=
  (Array.getElem?_eq_some_iff.mp hc).1

theorem slice_eq_take_drop (chars : Array Char) (start stop : Nat) :
    slice chars start stop = (chars.toList.drop start).take (stop - start) := by
  rw [slice, Array.toList_extract, List.extract_eq_take_drop]

theorem prefix_slice (chars : Array Char) (start stop : Nat) :
    slice chars start stop <+: chars.toList.drop start := by
  rw [slice_eq_take_drop]
  exact List.take_prefix _ _

theorem slice_append {middle : Nat} (hfirst : pos ≤ middle) (hsecond : middle ≤ next) :
    slice chars pos middle ++ slice chars middle next = slice chars pos next := by
  have hdrop : chars.toList.drop middle = (chars.toList.drop pos).drop (middle - pos) := by
    rw [List.drop_drop, Nat.add_sub_cancel' hfirst]
  rw [slice_eq_take_drop, slice_eq_take_drop, slice_eq_take_drop, hdrop, ← List.take_add]
  congr 1
  omega

theorem slice_singleton {c : Char} (hc : chars[pos]? = some c) :
    slice chars pos (pos + 1) = [c] := by
  rw [← Array.getElem?_toList] at hc
  rw [slice_eq_take_drop, List.drop_eq_getElem?_toList_append, hc, Nat.add_sub_cancel_left]
  rfl

theorem slice_cons {c : Char} (hc : chars[pos]? = some c) (hnext : pos < next) :
    slice chars pos next = c :: slice chars (pos + 1) next := by
  rw [← slice_append (Nat.le_succ pos) hnext, slice_singleton hc]
  rfl

theorem slice_front {front : List Char} (hfront : front <+: chars.toList.drop pos) :
    slice chars pos (pos + front.length) = front := by
  rw [slice_eq_take_drop, Nat.add_sub_cancel_left]
  exact (List.prefix_iff_eq_take.mp hfront).symm

theorem getElem?_of_slice {start index : Nat} {c : Char}
    (hc : (slice chars start stop)[index]? = some c) : chars[start + index]? = some c := by
  obtain ⟨hindex, hc⟩ := List.getElem?_eq_some_iff.mp hc
  have hdrop := List.prefix_iff_getElem?.mp (prefix_slice chars start stop) index hindex
  rw [List.getElem?_drop, hc] at hdrop
  rw [← Array.getElem?_toList, hdrop]

/-- The place of a character from the number of characters behind it. -/
theorem getElem?_of_suffix {start : Nat} {c : Char} {rest : List Char} (hstop : stop ≤ chars.size)
    (hrest : c :: rest <:+ slice chars start stop) :
    start < stop - rest.length ∧ chars[stop - rest.length - 1]? = some c := by
  obtain ⟨front, hfront⟩ := hrest
  have hlength := congrArg List.length hfront
  have hsize : chars.toList.length = chars.size := Array.length_toList
  rw [slice_eq_take_drop, List.length_append, List.length_cons, List.length_take, List.length_drop,
    hsize] at hlength
  have hplace : stop - rest.length - 1 = start + front.length := by omega
  refine ⟨by omega, ?_⟩
  have hc : (slice chars start stop)[front.length]? = some c := by
    rw [← hfront, List.getElem?_append_right (Nat.le_refl _), Nat.sub_self]
    rfl
  exact hplace ▸ getElem?_of_slice hc

/-- Whether what stands at a position is not escaped by what is in front of it. -/
def Lands (chars : Array Char) (pos : Nat) : Prop :=
  chars.size ≤ pos ∨ Label.endsInEscape (chars.toList.take pos) = false

theorem take_succ_eq {c : Char} (hc : chars[pos]? = some c) :
    chars.toList.take (pos + 1) = chars.toList.take pos ++ [c] := by
  rw [List.take_add_one, Array.getElem?_toList, hc]
  rfl

/-- Behind a character other than a backslash nothing is escaped. -/
theorem lands_succ {c : Char} (hc : chars[pos]? = some c) (hescape : c ≠ '\\') :
    Lands chars (pos + 1) :=
  .inr (take_succ_eq hc ▸ Label.endsInEscape_concat hescape _)

theorem Lands.endsInEscape (hlands : Lands chars pos) (hin : pos < chars.size) :
    Label.endsInEscape (chars.toList.take pos) = false :=
  hlands.resolve_left (Nat.not_le_of_lt hin)

/-- Behind an escaped character nothing is escaped. -/
theorem Lands.escape {c : Char} (hlands : Lands chars pos) (hescape : chars[pos]? = some '\\')
    (hc : chars[pos + 1]? = some c) : Lands chars (pos + 2) := by
  have hfront := hlands.endsInEscape (lt_size_of_getElem? hescape)
  refine .inr ?_
  rw [take_succ_eq hc, take_succ_eq hescape, List.append_assoc, Label.endsInEscape_append hfront]
  exact Label.endsInEscape_escape c []

/-- Whether a construct at `pos` ends with `c` in front of `next`. -/
def EndsIn (chars : Array Char) (c : Char) (pos next : Nat) : Prop :=
  pos < next ∧ chars[next - 1]? = some c

theorem EndsIn.lands {c : Char} (hends : EndsIn chars c pos next) (hescape : c ≠ '\\') :
    Lands chars next := by
  obtain ⟨hlt, hc⟩ := hends
  have hnext := lands_succ hc hescape
  rwa [Nat.sub_add_cancel (Nat.one_le_of_lt hlt)] at hnext

/-- Skipping passes over characters that are kept, and it stops early only in front of one that is
not. -/
theorem skipWhile_spec (chars : Array Char) (keep : Char → Bool) (left pos : Nat) :
    let last := skipWhile chars keep left pos
    pos ≤ last ∧
      (∀ place, pos ≤ place → place < last → ∃ c, chars[place]? = some c ∧ keep c) ∧
      (last < pos + left → ∀ c, chars[last]? = some c → keep c = false) := by
  induction left generalizing pos with
  | zero =>
    exact ⟨Nat.le_refl pos, fun place hle hlt => absurd hlt (Nat.not_lt_of_le hle),
      fun hlt => absurd hlt (Nat.lt_irrefl pos)⟩
  | succ left ih =>
    rw [skipWhile]
    cases hc : chars[pos]? with
    | none =>
      refine ⟨Nat.le_refl pos, fun place hle hlt => absurd hlt (Nat.not_lt_of_le hle), ?_⟩
      exact fun _ c hc' => absurd (hc.symm.trans hc') (by simp)
    | some c =>
      by_cases hkeep : keep c
      · simp only [if_pos hkeep]
        obtain ⟨hle, hkept, hend⟩ := ih (pos + 1)
        refine ⟨Nat.le_of_succ_le hle, fun place hfirst hlast => ?_, fun hlast => hend (by omega)⟩
        rcases Nat.eq_or_lt_of_le hfirst with rfl | hlt
        · exact ⟨c, hc, hkeep⟩
        · exact hkept place hlt hlast
      · simp only [if_neg hkeep]
        refine ⟨Nat.le_refl pos, fun place hle hlt => absurd hlt (Nat.not_lt_of_le hle), ?_⟩
        intro _ d hd
        cases hc.symm.trans hd
        exact Bool.eq_false_iff.mpr hkeep

/-- Characters are passed up to the first one, before `stop`, that may not be passed. -/
theorem skip_spec (chars : Array Char) (stop : Nat) (keep : Char → Bool) (pos : Nat) :
    let last := skip chars stop keep pos
    pos ≤ last ∧
      (∀ place, pos ≤ place → place < last → ∃ c, chars[place]? = some c ∧ keep c) ∧
      (last < stop → ∀ c, chars[last]? = some c → keep c = false) := by
  obtain ⟨hle, hkept, hend⟩ := skipWhile_spec chars keep (stop - pos) pos
  exact ⟨hle, hkept, fun hlast => hend (Nat.lt_of_lt_of_le hlast (by omega))⟩

/-- A character that may be passed is passed. -/
theorem lt_skip {keep : Char → Bool} {c : Char} (hstop : pos < stop) (hc : chars[pos]? = some c)
    (hkeep : keep c) : pos < skip chars stop keep pos := by
  obtain ⟨hle, -, hend⟩ := skip_spec chars stop keep pos
  refine Nat.lt_of_le_of_ne hle fun heq => ?_
  rw [← heq] at hend
  exact absurd hkeep (by simp [hend hstop c hc])

theorem Lands.skip (hlands : Lands chars pos) {keep : Char → Bool} (hkeep : keep '\\' = false) :
    Lands chars (skip chars stop keep pos) := by
  obtain ⟨hle, hkept, -⟩ := skip_spec chars stop keep pos
  rcases Nat.eq_or_lt_of_le hle with heq | hlt
  · exact heq ▸ hlands
  · obtain ⟨c, hc, hkept⟩ := hkept _ (Nat.le_sub_one_of_lt hlt) (Nat.sub_one_lt_of_lt hlt)
    refine EndsIn.lands ⟨hlt, hc⟩ ?_
    rintro rfl
    exact absurd hkept (by simp [hkeep])

theorem endsIn_closingTicks? {length left start after : Nat}
    (hticks : closingTicks? chars length left pos = some (start, after)) :
    EndsIn chars '`' pos after := by
  induction left generalizing pos with
  | zero => cases hticks
  | succ left ih =>
    rw [closingTicks?] at hticks
    simp only at hticks
    obtain ⟨hle, -, hend⟩ := skip_spec chars chars.size (· ≠ '`') pos
    split at hticks
    next hstart =>
      have htick := hend hstart _ (Array.getElem?_eq_getElem hstart)
      obtain ⟨hle', hkept, -⟩ := skip_spec chars chars.size (· = '`')
        (Scan.skip chars chars.size (· ≠ '`') pos + 1)
      split at hticks
      next =>
        cases hticks
        refine ⟨by omega, ?_⟩
        -- the run goes beyond its first backquote, or ends there
        rcases Nat.eq_or_lt_of_le hle' with heq | hlt
        · rw [← heq, Nat.add_sub_cancel, Array.getElem?_eq_getElem hstart]
          simpa using htick
        · obtain ⟨c, hc, hkept⟩ := hkept _ (Nat.le_sub_one_of_lt hlt) (Nat.sub_one_lt_of_lt hlt)
          rw [hc]
          simpa using hkept
      next =>
        obtain ⟨hlt, hlast⟩ := ih hticks
        exact ⟨by omega, hlast⟩
    next => cases hticks

theorem endsIn_codeSpan? {code : List Char} (hspan : codeSpan? chars stop pos = some (code, next)) :
    EndsIn chars '`' pos next := by
  obtain ⟨⟨start, after⟩, hticks, heq⟩ := Option.map_eq_some_iff.mp hspan
  cases heq
  obtain ⟨hlt, hlast⟩ := endsIn_closingTicks? hticks
  obtain ⟨hle, -, -⟩ := skip_spec chars stop (· = '`') pos
  exact ⟨by omega, hlast⟩

theorem endsIn_autolink? {shown : List Char}
    (hlink : autolink? chars stop pos = some (shown, next)) :
    EndsIn chars '>' pos next := by
  simp only [autolink?] at hlink
  split at hlink
  next hafter =>
    have hnext : next = pos + 1 + ((slice chars (pos + 1) stop).takeWhile
        fun c => c ≠ '<' && c ≠ '>').length + 1 := by
      split at hlink
      next =>
        split at hlink
        next => exact (Prod.mk.inj (Option.some.inj hlink)).2.symm
        next => cases hlink
      next => cases hlink
    exact ⟨by omega, hnext ▸ (charBefore?_eq_some_iff.mp hafter).2⟩
  next => cases hlink

theorem endsIn_html? {tag : List Char} (htag : html? chars stop pos = some (tag, next)) :
    EndsIn chars '>' pos next := by
  rw [html?] at htag
  split at htag
  next =>
    obtain ⟨rest, hrest, heq⟩ := Option.map_eq_some_iff.mp htag
    cases heq
    exact getElem?_of_suffix (Nat.le_refl _) (Html.suffix_inline? hrest)
  next => cases htag

theorem endsIn_entity? {content : List Char}
    (hentity : entity? chars stop pos = some (content, next)) : EndsIn chars ';' pos next := by
  rw [entity?] at hentity
  split at hentity
  next =>
    obtain ⟨⟨shown, length⟩, hfound, heq⟩ := Option.map_eq_some_iff.mp hentity
    cases heq
    obtain ⟨name, rest, htext, rfl⟩ := Entity.eq_of_atStart? hfound
    refine ⟨by simp, ?_⟩
    have hlast : (slice chars pos (pos + 40))[name.length + 1]? = some ';' := by
      rw [htext, List.getElem?_cons_succ, List.getElem?_append_right (Nat.le_refl _), Nat.sub_self]
      rfl
    exact getElem?_of_slice hlast
  next => cases hentity

theorem endsIn_resource? {start : Nat} {resource : Resource} (hstop : stop ≤ chars.size)
    (hresource : resource? (slice chars start stop) = some resource)
    (hclosed : resource.rest.head? = some ')') :
    EndsIn chars ')' start (stop - resource.rest.length + 1) := by
  obtain ⟨rest, hrest⟩ := List.head?_eq_some_iff.mp hclosed
  have hsuffix := suffix_resource? hresource
  rw [hrest] at hsuffix ⊢
  obtain ⟨hlt, hc⟩ := getElem?_of_suffix hstop hsuffix
  have hnext : stop - (')' :: rest).length + 1 = stop - rest.length := by
    rw [List.length_cons]
    omega
  rw [hnext]
  exact ⟨hlt, hc⟩

end Scan

end CrateReadme.Markdown
