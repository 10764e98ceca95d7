import CrateReadme.Markdown.Inline.Reader
import CrateReadme.Proofs.Markdown.Anchor
import CrateReadme.Proofs.Markdown.Construct

/-!
# References as they are written

What the reader takes for a reference without definition is written in one of the forms of
references, around the label that was looked up. The label that the reader keeps is found in these
characters again.
-/

namespace CrateReadme.Markdown

namespace Label

theorem endsInEscape_of_bracket (before behind : List Char) :
    endsInEscape (before ++ '[' :: behind) = endsInEscape behind := by
  rw [← List.singleton_append, ← List.append_assoc,
    endsInEscape_append (endsInEscape_concat (by decide) before)]

/-- Behind a bracket inside a text in brackets, the text goes on up to its closing bracket. -/
theorem exists_of_bracket {mark shown before behind : List Char}
    (hshown : endsInEscape shown = false)
    (hfront : mark ++ '[' :: (shown ++ [']']) = before ++ '[' :: behind) :
    ∃ inside, behind = inside ++ [']'] ∧ endsInEscape inside = false := by
  rcases List.eq_nil_or_concat behind with rfl | ⟨inside, c, hconcat⟩
  · have hlast := congrArg List.getLast? hfront
    simp [List.getLast?_cons] at hlast
  · rw [List.concat_eq_append] at hconcat
    have hends : (mark ++ '[' :: shown) ++ [']'] = (before ++ '[' :: inside) ++ [c] := by
      rw [List.append_assoc, List.append_assoc, List.cons_append, List.cons_append, hfront, hconcat]
    obtain ⟨hstart, hc⟩ := List.append_inj' hends rfl
    refine ⟨inside, by rw [hconcat, List.singleton_inj.mp hc], ?_⟩
    rw [← endsInEscape_of_bracket before, ← hstart, endsInEscape_of_bracket, hshown]

end Label

inductive Reference where
  /-- A text and a label, each in brackets. -/
  | full (shown label : List Char)
  /-- A label in brackets and empty brackets. -/
  | collapsed (label : List Char)
  /-- A label in brackets. -/
  | shortcut (label : List Char)
  /-- A text in brackets, then what looks like a destination in parentheses but is none, and
  brackets right behind the place where it fails. -/
  | stray (shown failure second : List Char)

namespace Reference

def text : Reference → List Char
  | full shown label => '[' :: (shown ++ ']' :: '[' :: (label ++ [']']))
  | collapsed label => '[' :: (label ++ [']', '[', ']'])
  | shortcut label => '[' :: (label ++ [']'])
  | stray shown failure second =>
    '[' :: (shown ++ ']' :: '(' :: (failure ++ '[' :: (second ++ [']'])))

def label : Reference → List Char
  | full _ label | collapsed label | shortcut label => label
  | stray shown _ second => if second.isEmpty then shown else second

/-- Whether the brackets follow each other. -/
def isStandard : Reference → Bool
  | stray _ _ _ => false
  | _ => true

/-- Whether the label is kept as written: every bracket and backslash in it must be escaped, without
escaping a line end, and only in front of empty brackets it may end in an opening bracket. -/
def keepsLabel : Reference → Bool
  | collapsed label => Label.isPlain label
  | reference => Label.isPlain reference.label && reference.label.getLast? ≠ some '['

/-- Whether the label, and the brackets around it, are what they seem: no bracket that ends the text
shown is escaped. -/
def IsSettled : Reference → Prop
  | full shown _ => Label.endsInEscape shown = false
  | _ => True

/-- The label is found in the characters of the reference, in front of which the mark of an image
may stand, exactly if it is kept. -/
theorem ofSource?_eq_some_iff {reference : Reference} (hstandard : reference.isStandard)
    (hsettled : reference.IsSettled) (hlabel : reference.label ≠ []) {mark : List Char}
    (hmark : '[' ∉ mark) :
    Label.ofSource? (mark ++ reference.text) = some reference.label ↔ reference.keepsLabel := by
  have hnone {tail : List Char} : ∀ before behind, mark = before ++ '[' :: behind →
      Label.closing? (behind ++ tail) = none := by
    rintro before behind rfl
    exact absurd (List.mem_append_right before List.mem_cons_self) hmark
  cases reference with
  | full shown label =>
    have hsplit : mark ++ (full shown label).text =
        (mark ++ '[' :: (shown ++ [']'])) ++ '[' :: (label ++ [']']) := by
      simp [text]
    rw [hsplit, keepsLabel, Bool.and_eq_true, decide_eq_true_eq]
    · refine Label.ofSource?_append hlabel fun before behind hfront => ?_
      obtain ⟨inside, rfl, hinside⟩ := Label.exists_of_bracket hsettled hfront
      rw [List.append_assoc]
      exact Label.closing?_eq_none hinside ⟨List.cons_ne_nil _ _, by simp⟩
    · exact fun _ heq => by cases heq
  | collapsed label => exact Label.ofSource?_collapsed hnone
  | shortcut label =>
    rw [text, keepsLabel, Bool.and_eq_true, decide_eq_true_eq]
    · exact Label.ofSource?_append hlabel hnone
    · exact fun _ heq => by cases heq
  | stray shown failure second => cases hstandard

end Reference

def imageMark (isImage : Bool) : List Char :=
  if isImage then ['!'] else []

/-- Whether a link or image, if it has no definition, is a reference with the given characters that
is collected with the label found in them, or with the normal form of its label if none is found.
What is found is the label as written exactly if it is kept. -/
def Anchor.IsSpelled (definitions : Definitions) (anchor : Anchor) (source : List Char) : Prop :=
  ∀ key, anchor.target.destination = .undefined key →
    anchor.isNumbered ∧ anchor.target.raw = (Label.ofSource? source).getD key ∧
      ∃ reference : Reference, source = imageMark anchor.isImage ++ reference.text ∧
        key = Label.normalize reference.label ∧ definitions.lookup key = none ∧
        (reference.isStandard → (Label.ofSource? source = some reference.label ↔
          reference.keepsLabel))

/-! ### The reader -/

namespace Reader

/-- Whether a text in brackets may be closed at a place. -/
def ClosesAt (chars : Array Char) (place : Nat) : Prop :=
  chars[place]? = some ']' ∧ Scan.Lands chars place

/-- Whether a part of a text may end at a place: at its end or where brackets close. -/
def IsStop (chars : Array Char) (stop : Nat) : Prop :=
  stop = chars.size ∨ ClosesAt chars stop

/-- Whether what is known of constructs is that they move on and end in nothing that escapes. -/
def Memo.IsSafe (chars : Array Char) (memo : Memo) : Prop :=
  ∀ pos next, memo.end? pos = some next → pos < next ∧ Scan.Lands chars next

/-- Whether a step from `pos` moves on, ends in nothing that escapes and leaves what is known
safe. -/
structure Moves (chars : Array Char) (pos : Nat) (result : Nat × Memo) : Prop where
  lt_next : pos < result.1
  lands : Scan.Lands chars result.1
  isSafe : result.2.IsSafe chars

/-- Whether going over constructs in front of `stop` moves on and ends in nothing that escapes. -/
def Skipper.IsSafe (chars : Array Char) (stop : Nat) (skipper : Skipper) : Prop :=
  ∀ pos c memo, memo.IsSafe chars → pos < stop → chars[pos]? = some c → Scan.Lands chars pos →
    Moves chars pos (skipper pos memo)

theorem Memo.isSafe_empty (chars : Array Char) (size : Nat) : (Memo.empty size).IsSafe chars := by
  intro pos next hnext
  rw [Memo.end?, Memo.empty, Array.getElem?_replicate] at hnext
  split at hnext <;> cases hnext

theorem Memo.IsSafe.setEnd {chars : Array Char} {memo : Memo} (hmemo : memo.IsSafe chars)
    {pos next : Nat} (hlt : pos < next) (hlands : Scan.Lands chars next) :
    (memo.setEnd pos next).IsSafe chars := by
  intro place last hlast
  rw [Memo.end?, Memo.setEnd, Array.getElem?_setIfInBounds] at hlast
  split at hlast
  next hplace =>
    split at hlast
    next =>
      cases hlast
      exact ⟨hplace ▸ hlt, hlands⟩
    next => cases hlast
  next => exact hmemo place last hlast

/-- A search leaves what is known safe, and what it finds, if it finds anything, is `good`. -/
inductive Finds {α : Type} (chars : Array Char) (good : α → Prop) : Option α × Memo → Prop
  | none {memo : Memo} (hsafe : memo.IsSafe chars) : Finds chars good (none, memo)
  | some {memo : Memo} {found : α} (hsafe : memo.IsSafe chars) (hgood : good found) :
    Finds chars good (some found, memo)

theorem Finds.imp {α : Type} {chars : Array Char} {good other : α → Prop}
    {result : Option α × Memo} (hfinds : Finds chars good result)
    (himp : ∀ found, good found → other found) : Finds chars other result := by
  cases hfinds with
  | none hsafe => exact .none hsafe
  | some hsafe hgood => exact .some hsafe (himp _ hgood)

/-- Whether brackets that are open at `pos` may be closed at a place, in front of `stop`. -/
def IsClose (chars : Array Char) (stop pos close : Nat) : Prop :=
  pos ≤ close ∧ close < stop ∧ ClosesAt chars close

section

variable {source : Source} {skipper : Skipper} {stop : Nat}

/-- The search for the end of a label finds a place where it closes, if it finds one. -/
theorem finds_labelLoop (hskipper : skipper.IsSafe source.chars stop) (simple : Bool)
    (left depth : Nat) {pos : Nat} {memo : Memo} (hmemo : memo.IsSafe source.chars)
    (hlands : Scan.Lands source.chars pos) :
    Finds source.chars (IsClose source.chars stop pos)
      (labelLoop source skipper stop simple left depth pos memo) := by
  induction left generalizing depth pos memo with
  | zero => exact .none hmemo
  | succ left ih =>
    rw [labelLoop]
    cases hbefore : Scan.charBefore? source.chars stop pos with
    | none => exact .none hmemo
    | some c =>
      obtain ⟨hstop, hc⟩ := Scan.charBefore?_eq_some_iff.mp hbefore
      simp only
      split
      next hends => exact .some hmemo ⟨Nat.le_refl pos, hstop, hends.1 ▸ hc, hlands⟩
      next =>
        have hmoves := hskipper pos c memo hmemo hstop hc hlands
        have hmore (depth : Nat) := (ih depth hmoves.isSafe hmoves.lands).imp fun close hclose =>
          hclose.imp_left (Nat.le_trans (Nat.le_of_lt hmoves.lt_next))
        split
        · split
          · exact hmore _
          · split
            · exact .none hmoves.isSafe
            · exact hmore _
        · exact hmore _

theorem finds_labelEnd (hskipper : skipper.IsSafe source.chars stop) (simple : Bool) {pos : Nat}
    {memo : Memo} (hmemo : memo.IsSafe source.chars) (hopen : source.chars[pos]? = some '[') :
    Finds source.chars (IsClose source.chars stop (pos + 1))
      (labelEnd source skipper stop simple pos memo) :=
  finds_labelLoop hskipper simple _ 1 hmemo (Scan.lands_succ hopen (by decide))

/-- What stands between brackets does not escape the closing one. -/
theorem endsInEscape_slice {opening close : Nat} (hopen : source.chars[opening]? = some '[')
    (hlt : opening < close) (hclose : ClosesAt source.chars close) :
    Label.endsInEscape (Scan.slice source.chars (opening + 1) close) = false := by
  have hwhole := hclose.2.endsInEscape (Scan.lt_size_of_getElem? hclose.1)
  have hsplit : source.chars.toList.take close =
      source.chars.toList.take opening ++ '[' :: Scan.slice source.chars (opening + 1) close := by
    rw [← Scan.slice_cons hopen hlt, Scan.slice_eq_take_drop, ← List.take_add,
      Nat.add_sub_cancel' (Nat.le_of_lt hlt)]
  rwa [hsplit, Label.endsInEscape_of_bracket] at hwhole

theorem slice_brackets {chars : Array Char} {opening close : Nat}
    (hopen : chars[opening]? = some '[') (hlt : opening < close)
    (hclose : chars[close]? = some ']') :
    Scan.slice chars opening (close + 1) =
      '[' :: (Scan.slice chars (opening + 1) close ++ [']']) := by
  rw [Scan.slice_cons hopen (Nat.lt_succ_of_lt hlt),
    ← Scan.slice_append hlt (Nat.le_succ close), Scan.slice_singleton hclose]

/-- A label without definition is not blank. -/
theorem find?_eq_undefined {references : References} {label key title : List Char}
    (hfound : references.find? label = some (.undefined key, title)) :
    key = Label.normalize label ∧ references.definitions.lookup key = none ∧ label ≠ [] := by
  rw [References.find?] at hfound
  split at hfound
  next => cases hfound
  next hnone =>
    split at hfound
    next hopen =>
      cases hfound
      refine ⟨rfl, hnone, ?_⟩
      rintro rfl
      rw [Bool.and_eq_true] at hopen
      exact absurd hopen.2 (by decide)
    next => cases hfound

/-- Whether a link or image that was found for the brackets from `opening` to `close` is a
reference, if it has no definition, and ends in nothing that escapes. -/
structure Match.IsReference (source : Source) (opening close : Nat) (found : Match) : Prop where
  labelEnd_eq : found.labelEnd = close
  lt_next : close < found.next
  lands : Scan.Lands source.chars found.next
  exists_reference : ∀ key, found.destination = .undefined key → ∃ reference : Reference,
    Scan.slice source.chars opening found.next = reference.text ∧ reference.IsSettled ∧
      reference.label ≠ [] ∧ key = Label.normalize reference.label ∧
      source.references.definitions.lookup key = none

theorem isReference_of_find? (reference : Reference) {opening close next : Nat}
    {destination : Destination} {title : List Char}
    (htext : Scan.slice source.chars opening next = reference.text)
    (hsettled : reference.IsSettled) (hnext : close < next) (hlands : Scan.Lands source.chars next)
    (hfound : source.references.find? reference.label = some (destination, title)) :
    Match.IsReference source opening close ⟨destination, title, close, next⟩ := by
  refine ⟨rfl, hnext, hlands, fun key hkey => ⟨reference, htext, hsettled, ?_⟩⟩
  simp only at hkey
  rw [hkey] at hfound
  obtain ⟨hnormal, hnone, hlabel⟩ := find?_eq_undefined hfound
  exact ⟨hlabel, hnormal, hnone⟩

/-- The characters of a reference whose second brackets stand at `pos`. -/
theorem exists_reference {opening close pos last : Nat} (hopen : source.chars[opening]? = some '[')
    (hlt : opening < close) (hclose : ClosesAt source.chars close)
    (hbehind : pos = close + 1 ∨ close + 1 < pos ∧ source.chars[close + 1]? = some '(')
    (hsecond : source.chars[pos]? = some '[') (hlast : pos < last)
    (hends : ClosesAt source.chars last) :
    let shown := Scan.slice source.chars (opening + 1) close
    let second := Scan.slice source.chars (pos + 1) last
    ∃ reference : Reference, Scan.slice source.chars opening (last + 1) = reference.text ∧
      reference.IsSettled ∧ reference.label = if second.isEmpty then shown else second := by
  intro shown second
  have hfirst := slice_brackets hopen hlt hclose.1
  have hbrackets := slice_brackets hsecond hlast hends.1
  rcases hbehind with rfl | ⟨hgap, hparen⟩
  · have hwhole : Scan.slice source.chars opening (last + 1) =
        '[' :: (shown ++ [']']) ++ '[' :: (second ++ [']']) := by
      rw [← Scan.slice_append (Nat.le_succ_of_le (Nat.le_of_lt hlt)) (by omega), hfirst, hbrackets]
    cases hempty : second.isEmpty with
    | true =>
      refine ⟨.collapsed shown, ?_, trivial, rfl⟩
      rw [hwhole, List.isEmpty_iff.mp hempty]
      simp [Reference.text]
    | false =>
      refine ⟨.full shown second, ?_, endsInEscape_slice hopen hlt hclose, rfl⟩
      rw [hwhole]
      simp [Reference.text]
  · refine ⟨.stray shown (Scan.slice source.chars (close + 2) pos) second, ?_, trivial, rfl⟩
    have hgap' := Scan.slice_cons hparen hgap
    rw [← Scan.slice_append (Nat.le_succ_of_le (Nat.le_of_lt hlt)) (by omega), hfirst,
      ← Scan.slice_append (Nat.le_of_lt hgap) (by omega), hbrackets, hgap']
    simp [Reference.text, shown, second]

/-- The search for second brackets at `pos`. -/
theorem finds_second (hskipper : skipper.IsSafe source.chars stop) (pos : Nat) {memo : Memo}
    (hmemo : memo.IsSafe source.chars) :
    Finds source.chars
      (fun last => source.chars[pos]? = some '[' ∧ pos < last ∧ ClosesAt source.chars last)
      (if Scan.charBefore? source.chars stop pos = some '[' then
        labelEnd source skipper stop false pos memo else (none, memo)) := by
  split
  next hbracket =>
    have hopen := (Scan.charBefore?_eq_some_iff.mp hbracket).2
    exact (finds_labelEnd hskipper false hmemo hopen).imp fun last hlast =>
      ⟨hopen, hlast.1, hlast.2.2⟩
  next => exact .none hmemo

/-- The search for a reference whose first brackets stand at `opening` and `close`. -/
theorem finds_referenceAt (hskipper : skipper.IsSafe source.chars stop) {opening close pos : Nat}
    {memo : Memo} (hmemo : memo.IsSafe source.chars) (hopen : source.chars[opening]? = some '[')
    (hlt : opening < close) (hclose : ClosesAt source.chars close)
    (hbehind : pos = close + 1 ∨ close + 1 < pos ∧ source.chars[close + 1]? = some '(') :
    Finds source.chars (Match.IsReference source opening close)
      (referenceAt source skipper stop (opening + 1) close pos memo) := by
  rw [referenceAt]
  have hsecond := finds_second hskipper pos hmemo
  generalize (if Scan.charBefore? source.chars stop pos = some '[' then
    labelEnd source skipper stop false pos memo else (none, memo)) = second at hsecond
  cases hsecond with
  | none hsafe =>
    simp only [List.isEmpty_nil, if_true]
    split
    next destination title hfound =>
      exact .some hsafe (isReference_of_find? (.shortcut _) (slice_brackets hopen hlt hclose.1)
        trivial (Nat.lt_succ_self close) (Scan.lands_succ hclose.1 (by decide)) hfound)
    next => exact .none hsafe
  | @some _ last hsafe hlast =>
    obtain ⟨hbracket, hlast, hends⟩ := hlast
    obtain ⟨reference, htext, hsettled, hlabel⟩ :=
      exists_reference hopen hlt hclose hbehind hbracket hlast hends
    simp only [← hlabel]
    split
    next destination title hfound =>
      exact .some hsafe (isReference_of_find? reference htext hsettled (by omega)
        (Scan.lands_succ hends.1 (by decide)) hfound)
    next => exact .none hsafe

/-- Whether what was found for a link or image at `pos` is written as such: its text ends before
`stop` at a bracket that is not escaped, it ends in nothing that escapes, and without a definition
it is a reference. -/
structure Match.IsWritten (source : Source) (isImage : Bool) (stop pos : Nat) (found : Match) :
    Prop where
  opens : imageMark isImage ++ ['['] <+: source.chars.toList.drop pos
  lt_labelEnd : pos + (imageMark isImage).length < found.labelEnd
  labelEnd_lt : found.labelEnd < stop
  closesAt : ClosesAt source.chars found.labelEnd
  labelEnd_lt_next : found.labelEnd < found.next
  lands : Scan.Lands source.chars found.next
  isSpelled : Anchor.IsSpelled source.references.definitions
    ⟨isImage, found.destination, found.title,
      Label.ofSource? (Scan.slice source.chars pos found.next)⟩
    (Scan.slice source.chars pos found.next)

/-- A match of a reference is written in the source. -/
theorem Match.IsReference.isWritten (isImage : Bool) {pos close : Nat} {found : Match}
    (hreference : found.IsReference source (pos + (imageMark isImage).length) close)
    (hopens : imageMark isImage ++ ['['] <+: source.chars.toList.drop pos)
    (hlt : pos + (imageMark isImage).length < close) (hstop : close < stop)
    (hclose : ClosesAt source.chars close) : found.IsWritten source isImage stop pos := by
  obtain ⟨rfl, hnext, hlands, hspelled⟩ := hreference
  refine ⟨hopens, hlt, hstop, hclose, hnext, hlands, fun key hkey => ?_⟩
  obtain ⟨reference, htext, hsettled, hlabel, hnormal, hnone⟩ := hspelled key hkey
  simp only at hkey
  have hsource : Scan.slice source.chars pos found.next = imageMark isImage ++ reference.text := by
    rw [← htext, ← Scan.slice_append (Nat.le_add_right pos (imageMark isImage).length) (by omega),
      Scan.slice_front ((List.prefix_append _ _).trans hopens)]
  have hmark : '[' ∉ imageMark isImage := by cases isImage <;> decide
  refine ⟨?_, ?_, reference, hsource, hnormal, hnone, fun hstandard => ?_⟩
  · simp [Anchor.isNumbered, Target.isLocal, hkey]
  · simp only [Target.raw, hkey]
  · rw [hsource]
    exact Reference.ofSource?_eq_some_iff hstandard hsettled hlabel hmark

theorem Match.IsWritten.pos_lt_labelEnd {isImage : Bool} {pos : Nat} {found : Match}
    (hwritten : found.IsWritten source isImage stop pos) : pos < found.labelEnd :=
  Nat.lt_of_le_of_lt (Nat.le_add_right pos _) hwritten.lt_labelEnd

theorem IsStop.le_size {chars : Array Char} (hends : IsStop chars stop) : stop ≤ chars.size :=
  hends.elim Nat.le_of_eq fun hcloses => Nat.le_of_lt (Scan.lt_size_of_getElem? hcloses.1)

/-- Behind the last character in front of a stop nothing is escaped, even if it is a backslash. -/
theorem IsStop.lands_of_last {chars : Array Char} {pos : Nat} (hends : IsStop chars stop)
    (hstop : pos < stop) (hlast : Scan.charBefore? chars stop (pos + 1) = none) :
    Scan.Lands chars (pos + 1) := by
  by_cases hsize : chars.size ≤ pos + 1
  · exact .inl hsize
  · have hnext : stop = pos + 1 := by
      refine Nat.le_antisymm (Nat.le_of_not_lt fun hmore => ?_) hstop
      rw [Scan.charBefore?, if_pos hmore, Array.getElem?_eq_none_iff] at hlast
      exact hsize hlast
    exact hnext ▸ (hends.resolve_left (by omega)).2

/-- What was found behind an opening parenthesis and is closed by another is written as a link. -/
theorem isWritten_of_resource? (isImage : Bool) {pos close : Nat}
    (hopens : imageMark isImage ++ ['['] <+: source.chars.toList.drop pos)
    (hlt : pos + (imageMark isImage).length < close) (hstop : close < stop)
    (hsize : stop ≤ source.chars.size) (hclose : ClosesAt source.chars close)
    {resource : Scan.Resource}
    (hresource : Scan.resource? (Scan.slice source.chars (close + 2) stop) = some resource)
    (hclosed : resource.rest.head? = some ')') :
    Match.IsWritten source isImage stop pos ⟨.address resource.destination, resource.title, close,
      stop - resource.rest.length + 1⟩ := by
  have hends := Scan.endsIn_resource? hsize hresource hclosed
  refine ⟨hopens, hlt, hstop, hclose, ?_, hends.lands (by decide), fun key hkey => by cases hkey⟩
  have hbehind := hends.1
  simp only
  omega

/-- The search for a link at an opening bracket. -/
theorem finds_linkAt (hskipper : skipper.IsSafe source.chars stop) {pos : Nat} {memo : Memo}
    (hmemo : memo.IsSafe source.chars) (hsize : stop ≤ source.chars.size)
    (hopen : source.chars[pos]? = some '[') :
    Finds source.chars (Match.IsWritten source false stop pos)
      (linkAt source skipper stop pos memo) := by
  have hopens : ['['] <+: source.chars.toList.drop pos :=
    Scan.slice_singleton hopen ▸ Scan.prefix_slice source.chars pos (pos + 1)
  rw [linkAt]
  have hlabel := finds_labelEnd hskipper true hmemo hopen
  generalize labelEnd source skipper stop true pos memo = label at hlabel
  cases hlabel with
  | none hsafe => exact .none hsafe
  | @some memo close hsafe hclose =>
    obtain ⟨hlt, hstop, hclose⟩ := hclose
    have hreference (place : Nat) (hbehind : place = close + 1 ∨
        close + 1 < place ∧ source.chars[close + 1]? = some '(') :
        Finds source.chars (Match.IsWritten source false stop pos)
          (referenceAt source skipper stop (pos + 1) close place memo) :=
      (finds_referenceAt hskipper hsafe hopen hlt hclose hbehind).imp fun found hfound =>
        hfound.isWritten false hopens hlt hstop hclose
    simp only
    split
    next hparen =>
      have hparen := (Scan.charBefore?_eq_some_iff.mp hparen).2
      split
      next => exact .none hsafe
      next resource hresource =>
        split
        next hclosed =>
          exact .some hsafe
            (isWritten_of_resource? false hopens hlt hstop hsize hclose hresource hclosed)
        next =>
          refine hreference _ (.inr ⟨?_, hparen⟩)
          have hrest := (Scan.suffix_resource? hresource).length_le
          rw [Scan.slice_eq_take_drop, List.length_take] at hrest
          omega
    next => exact hreference _ (.inl rfl)

/-- The search for an image at an exclamation mark. -/
theorem finds_imageAt (hskipper : skipper.IsSafe source.chars stop) {pos : Nat} {memo : Memo}
    (hmemo : memo.IsSafe source.chars) (hsize : stop ≤ source.chars.size)
    (hmark : source.chars[pos]? = some '!') :
    Finds source.chars (Match.IsWritten source true stop pos)
      (imageAt source skipper stop pos memo) := by
  rw [imageAt]
  split
  case isFalse => exact .none hmemo
  case isTrue hopen =>
  have hopen := (Scan.charBefore?_eq_some_iff.mp hopen).2
  have hopens : ['!', '['] <+: source.chars.toList.drop pos := by
    have hslice : Scan.slice source.chars pos (pos + 2) = ['!', '['] := by
      rw [Scan.slice_cons hmark (by omega), Scan.slice_singleton hopen]
    exact hslice ▸ Scan.prefix_slice source.chars pos (pos + 2)
  have hlabel := finds_labelEnd hskipper false hmemo hopen
  generalize labelEnd source skipper stop false (pos + 1) memo = label at hlabel
  cases hlabel with
  | none hsafe => exact .none hsafe
  | @some memo close hsafe hclose =>
    obtain ⟨hlt, hstop, hclose⟩ := hclose
    simp only
    split
    next =>
      split
      next => exact .none hsafe
      next resource hresource =>
        split
        next hclosed =>
          exact .some hsafe
            (isWritten_of_resource? true hopens hlt hstop hsize hclose hresource hclosed)
        next => exact .none hsafe
    next =>
      exact (finds_referenceAt hskipper hsafe hopen hlt hclose (.inl rfl)).imp fun found hfound =>
        hfound.isWritten true hopens hlt hstop hclose

theorem Moves.of_endsIn {chars : Array Char} {c : Char} {pos next : Nat} {memo : Memo}
    (hends : Scan.EndsIn chars c pos next) (hescape : c ≠ '\\') (hmemo : memo.IsSafe chars) :
    Moves chars pos (next, memo) :=
  ⟨hends.1, hends.lands hescape, hmemo⟩

/-- Passing over a construct moves forward. -/
theorem moves_skipConstruct (hskipper : skipper.IsSafe source.chars stop)
    (hends : IsStop source.chars stop) {pos : Nat} {c : Char} {memo : Memo}
    (hmemo : memo.IsSafe source.chars) (hstop : pos < stop) (hc : source.chars[pos]? = some c)
    (hlands : Scan.Lands source.chars pos) :
    Moves source.chars pos (skipConstruct source skipper stop pos c memo) := by
  have hone (hescape : c ≠ '\\') : Moves source.chars pos (pos + 1, memo) :=
    .of_endsIn ⟨Nat.lt_succ_self pos, hc⟩ hescape hmemo
  -- what was found for brackets is gone over, and without it the character alone
  have hfound {isImage : Bool} (hescape : c ≠ '\\') {result : Option Match × Memo}
      (hresult : Finds source.chars (Match.IsWritten source isImage stop pos) result) :
      Moves source.chars pos (result.1.elim (pos + 1) Match.next, result.2) := by
    cases hresult with
    | none hsafe => exact .of_endsIn ⟨Nat.lt_succ_self pos, hc⟩ hescape hsafe
    | some hsafe hwritten =>
      exact ⟨Nat.lt_trans hwritten.pos_lt_labelEnd hwritten.labelEnd_lt_next, hwritten.lands, hsafe⟩
  rw [skipConstruct.eq_def]
  simp only
  split
  next htext =>
    exact ⟨Scan.lt_skip hstop hc (by simpa using htext), hlands.skip rfl, hmemo⟩
  next =>
  split
  next =>
    exact ⟨Nat.lt_of_succ_le (Scan.skip_spec ..).1, (hone (by decide)).lands.skip rfl, hmemo⟩
  next =>
    split
    next hbreak =>
      have hbehind := hlands.escape hc (Scan.charBefore?_eq_some_iff.mp hbreak).2
      exact ⟨Nat.lt_of_lt_of_le (by omega) (Scan.skip_spec ..).1, hbehind.skip rfl, hmemo⟩
    next d hd =>
      exact ⟨by omega, hlands.escape hc (Scan.charBefore?_eq_some_iff.mp hd).2, hmemo⟩
    next hnone => exact ⟨Nat.lt_succ_self pos, hends.lands_of_last hstop hnone, hmemo⟩
  next =>
    cases hspan : Scan.codeSpan? source.chars stop pos with
    | none => exact ⟨Scan.lt_skip hstop hc rfl, hlands.skip rfl, hmemo⟩
    | some found => exact .of_endsIn (Scan.endsIn_codeSpan? hspan) (by decide) hmemo
  next => exact hfound (by decide) (finds_linkAt hskipper hmemo hends.le_size hc)
  next => exact hfound (by decide) (finds_imageAt hskipper hmemo hends.le_size hc)
  next =>
    split
    next shown next hfound =>
      refine .of_endsIn ?_ (by decide : '>' ≠ '\\') hmemo
      simp only [Option.orElse_eq_orElse, Option.orElse_eq_or, Option.or_eq_some_iff] at hfound
      rcases hfound with hlink | ⟨-, htag⟩
      · exact Scan.endsIn_autolink? hlink
      · exact Scan.endsIn_html? htag
    next => exact hone (by decide)
  next =>
    split
    next content next hentity =>
      exact .of_endsIn (Scan.endsIn_entity? hentity) (by decide) hmemo
    next => exact hone (by decide)
  next hescape _ _ _ _ _ => exact hone fun heq => hescape heq

/-- Skipping is safe at every depth. -/
theorem isSafe_skipAt (source : Source) (depth : Nat) {stop : Nat}
    (hends : IsStop source.chars stop) : (skipAt source depth stop).IsSafe source.chars stop := by
  induction depth with
  | zero =>
    intro pos c memo hmemo hstop hc hlands
    rw [skipAt]
    split
    next next hnext => exact ⟨(hmemo pos next hnext).1, (hmemo pos next hnext).2, hmemo⟩
    next =>
      have hlt : pos < stop + 1 := Nat.lt_succ_of_lt hstop
      have hbehind : Scan.Lands source.chars (stop + 1) := by
        rcases hends with rfl | hcloses
        · exact .inl (Nat.le_succ _)
        · exact Scan.lands_succ hcloses.1 (by decide)
      exact ⟨hlt, hbehind, hmemo.setEnd hlt hbehind⟩
  | succ depth ih =>
    intro pos c memo hmemo hstop hc hlands
    rw [skipAt]
    split
    next next hnext => exact ⟨(hmemo pos next hnext).1, (hmemo pos next hnext).2, hmemo⟩
    next =>
      rw [hc, Option.getD_some]
      have hmoves := moves_skipConstruct ih hends hmemo hstop hc hlands
      exact ⟨hmoves.lt_next, hmoves.lands, hmoves.isSafe.setEnd hmoves.lt_next hmoves.lands⟩

end

end Reader

end CrateReadme.Markdown
