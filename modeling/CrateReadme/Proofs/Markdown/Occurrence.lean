import CrateReadme.Markdown.Inline.Reader
import CrateReadme.Proofs.Markdown.Balance
import CrateReadme.Proofs.Markdown.Fence
import CrateReadme.Proofs.Markdown.Reference

/-!
# Where links and images stand in a text

Every link and image that is read from a text stands at a place of the text, each behind the one in
front of it. For a reference without definition, what is collected is thus found at the place where
it is written.
-/

namespace CrateReadme.Markdown

/-- Whether a link or image stands at the start of a text: with the mark of an image if it is one
and a bracket, and as a reference if it has no definition. -/
def Anchor.Starts (definitions : Definitions) (anchor : Anchor) (text : List Char) : Prop :=
  imageMark anchor.isImage ++ ['['] <+: text ∧
    ∃ source, source <+: text ∧ anchor.IsSpelled definitions source

theorem Anchor.Starts.mono {definitions : Definitions} {anchor : Anchor} {text more : List Char}
    (hstarts : anchor.Starts definitions text) (htext : text <+: more) :
    anchor.Starts definitions more := by
  obtain ⟨hopens, source, hsource, hspelled⟩ := hstarts
  exact ⟨hopens.trans htext, source, hsource.trans htext, hspelled⟩

/-- Links and images that stand in a text one behind the other, from `first` on and in front of
`stop`. -/
inductive Occur (definitions : Definitions) (text : List Char) (stop : Nat) :
    (first : Nat) → List Anchor → Prop
  | nil (first : Nat) : Occur definitions text stop first []
  | cons {first place : Nat} {anchor : Anchor} {anchors : List Anchor} (hfirst : first ≤ place)
    (hstop : place < stop) (hstarts : anchor.Starts definitions (text.drop place))
    (hrest : Occur definitions text stop (place + 1) anchors) :
    Occur definitions text stop first (anchor :: anchors)

namespace Occur

variable {definitions : Definitions} {text : List Char} {first stop : Nat} {anchors : List Anchor}

theorem mono (hoccur : Occur definitions text stop first anchors) {start : Nat}
    (hstart : start ≤ first) : Occur definitions text stop start anchors := by
  cases hoccur with
  | nil => exact .nil start
  | cons hfirst hstop hstarts hrest => exact .cons (hstart.trans hfirst) hstop hstarts hrest

theorem append {middle : Nat} {more : List Anchor} (hmiddle : first ≤ middle ∧ middle ≤ stop)
    (hfront : Occur definitions text middle first anchors)
    (hback : Occur definitions text stop middle more) :
    Occur definitions text stop first (anchors ++ more) := by
  induction hfront with
  | nil first => exact hback.mono hmiddle.1
  | cons hfirst hstop hstarts _ ih =>
    exact .cons hfirst (Nat.lt_of_lt_of_le hstop hmiddle.2) hstarts (ih ⟨hstop, hmiddle.2⟩)

theorem widen (hoccur : Occur definitions text stop first anchors) {last : Nat}
    (hlast : stop ≤ last) : Occur definitions text last first anchors := by
  induction hoccur with
  | nil first => exact .nil first
  | cons hfirst hstop hstarts _ ih =>
    exact .cons hfirst (Nat.lt_of_lt_of_le hstop hlast) hstarts ih

/-- What stands in a part of a text stands in the text. -/
theorem shift {whole : List Char} {offset : Nat} (htext : text <+: whole.drop offset)
    (hoccur : Occur definitions text stop first anchors) :
    Occur definitions whole (offset + stop) (offset + first) anchors := by
  induction hoccur with
  | nil first => exact .nil _
  | cons hfirst hstop hstarts _ ih =>
    refine .cons (Nat.add_le_add_left hfirst offset) (Nat.add_lt_add_left hstop offset) ?_ ih
    obtain ⟨more, hwhole⟩ := htext
    rw [← List.drop_drop, ← hwhole, List.drop_append]
    exact hstarts.mono (List.prefix_append _ _)

end Occur

namespace Reader

namespace Progress

/-- The links and images read so far. -/
def anchors (progress : Progress) : List Anchor :=
  progress.pieces.reverse.flatMap Piece.anchors

@[simp]
theorem anchors_write (progress : Progress) (text : List Char) :
    (progress.write text).anchors = progress.anchors :=
  rfl

@[simp]
theorem anchors_flush (progress : Progress) : progress.flush.anchors = progress.anchors := by
  rw [flush]
  split
  · rfl
  · simp [anchors, Piece.anchors]

@[simp]
theorem anchors_push (progress : Progress) (piece : Piece) :
    (progress.push piece).anchors = progress.anchors ++ piece.anchors := by
  rw [← anchors_flush progress]
  simp [push, anchors]

@[simp]
theorem anchors_lineBreak (progress : Progress) :
    progress.lineBreak.anchors = progress.anchors := by
  rw [lineBreak, anchors_push]
  have hbreak : Piece.anchors (.node (if progress.pending.take 2 = [' ', ' '] then .hardBreak
      else .softBreak)) = [] := by
    split <;> rfl
  rw [hbreak, List.append_nil]
  rfl

@[simp]
theorem anchors_marks (progress : Progress) (delimiter : Delimiter) (count : Nat) :
    (progress.marks delimiter count).anchors = progress.anchors := by
  induction count generalizing progress with
  | zero => rfl
  | succ count ih => simp [marks, ih, Piece.anchors]

end Progress

/-- Whether reading a construct at `pos` does not move back, leaves what is known safe and adds
links and images that stand where the construct does, in front of `stop`. -/
structure Adds (source : Source) (stop pos : Nat) (progress : Progress)
    (result : Progress × Nat × Memo) : Prop where
  le_next : pos ≤ result.2.1
  isSafe : result.2.2.IsSafe source.chars
  occur : ∃ anchors, result.1.anchors = progress.anchors ++ anchors ∧
    Occur source.references.definitions source.chars.toList (min result.2.1 stop) pos anchors

/-- Whether reading nested content leaves what is known safe and gives links and images that stand
in it. -/
structure Nested.IsSound (source : Source) (nested : Nested) : Prop where
  linkText : ∀ stop pos memo, IsStop source.chars stop → memo.IsSafe source.chars →
    (nested.linkText stop pos memo).2.IsSafe source.chars ∧
      Occur source.references.definitions source.chars.toList stop pos
        ((nested.linkText stop pos memo).1.flatMap Piece.anchors)
  imageText : ∀ content, Occur source.references.definitions content content.length 0
    (Inline.anchorsAll (nested.imageText content))

section

variable {source : Source} {skipper : Skipper} {nested : Nested} {stop pos : Nat}
  {progress : Progress} {memo : Memo}

/-- What holds no link or image adds none. -/
theorem Adds.none {result : Progress × Nat × Memo} (hnext : pos ≤ result.2.1)
    (hsafe : result.2.2.IsSafe source.chars) (hanchors : result.1.anchors = progress.anchors) :
    Adds source stop pos progress result :=
  ⟨hnext, hsafe, [], by rw [hanchors, List.append_nil], .nil pos⟩

/-- A link or image stands in front of what is inside it. -/
theorem Adds.anchor {found : Match} {isImage : Bool}
    (hwritten : found.IsWritten source isImage stop pos) (hsafe : memo.IsSafe source.chars)
    {piece : Piece} {inner : List Anchor}
    (hpiece : piece.anchors = ⟨isImage, found.destination, found.title,
      Label.ofSource? (Scan.slice source.chars pos found.next)⟩ :: inner)
    (hinner : Occur source.references.definitions source.chars.toList found.labelEnd (pos + 1)
      inner) :
    Adds source stop pos progress (progress.push piece, found.next, memo) := by
  have hlt := hwritten.pos_lt_labelEnd
  have hnext := Nat.le_of_lt hwritten.labelEnd_lt_next
  have hinside : found.labelEnd ≤ min found.next stop :=
    Nat.le_min.mpr ⟨hnext, Nat.le_of_lt hwritten.labelEnd_lt⟩
  refine ⟨Nat.le_trans (Nat.le_of_lt hlt) hnext, hsafe, piece.anchors,
    progress.anchors_push piece, ?_⟩
  rw [hpiece]
  exact .cons (Nat.le_refl pos) (Nat.lt_of_lt_of_le hlt hinside)
    ⟨hwritten.opens, _, Scan.prefix_slice source.chars pos found.next, hwritten.isSpelled⟩
    (hinner.widen hinside)

/-- A link adds itself and what its text holds. -/
theorem Adds.link (hnested : nested.IsSound source) (joined : Bool) {found : Match}
    (hwritten : found.IsWritten source false stop pos) (hsafe : memo.IsSafe source.chars) :
    let text := nested.linkText found.labelEnd (pos + 1) memo
    Adds source stop pos progress
      (progress.push (.node (.link ⟨found.destination, found.title,
        Label.ofSource? (Scan.slice source.chars pos found.next)⟩ (balance joined text.1))),
        found.next, text.2) := by
  intro text
  obtain ⟨hsafe', hoccur⟩ :=
    hnested.linkText found.labelEnd (pos + 1) memo (.inr hwritten.closesAt) hsafe
  refine .anchor hwritten hsafe' ?_ hoccur
  rw [← anchorsAll_balance joined]
  rfl

/-- An image adds itself and what its description holds, a text of its own. -/
theorem Adds.image (hnested : nested.IsSound source) {found : Match}
    (hwritten : found.IsWritten source true stop pos) (hsafe : memo.IsSafe source.chars) :
    Adds source stop pos progress
      (progress.push (.node (.image ⟨found.destination, found.title,
        Label.ofSource? (Scan.slice source.chars pos found.next)⟩
        (nested.imageText (Scan.slice source.chars (pos + 2) found.labelEnd)))),
        found.next, memo) := by
  have hoccur := (hnested.imageText _).shift
    (Scan.prefix_slice source.chars (pos + 2) found.labelEnd)
  refine .anchor hwritten hsafe rfl ((hoccur.mono (Nat.le_add_right (pos + 1) 1)).widen ?_)
  have hlt : pos + 1 < found.labelEnd := hwritten.lt_labelEnd
  rw [Scan.slice_eq_take_drop, List.length_take]
  omega

/-- A construct that was read adds the anchors that stand in it. -/
theorem adds_readConstruct (hskipper : skipper.IsSafe source.chars stop)
    (hends : IsStop source.chars stop) (hnested : nested.IsSound source) (joined : Bool)
    (progress : Progress) {c : Char} (hc : source.chars[pos]? = some c)
    (hmemo : memo.IsSafe source.chars) :
    Adds source stop pos progress
      (readConstruct source joined skipper nested stop pos c progress memo) := by
  have hskip (keep : Char → Bool) (start : Nat) : start ≤ Scan.skip source.chars stop keep start :=
    (Scan.skip_spec source.chars stop keep start).1
  rw [readConstruct.eq_def]
  simp only
  split
  next => exact .none (hskip _ _) hmemo rfl
  next =>
  split
  next => exact .none (Nat.le_of_succ_le (hskip _ _)) hmemo (by simp)
  next =>
    split
    next =>
      exact .none (Nat.le_of_succ_le (Nat.le_of_succ_le (hskip _ _))) hmemo
        (by simp [Piece.anchors, Inline.anchors])
    next => exact .none (Nat.le_add_right pos 2) hmemo (by simp [Piece.anchors])
    next => exact .none (Nat.le_succ pos) hmemo rfl
  next =>
    split
    next code next hspan =>
      exact .none (Nat.le_of_lt (Scan.endsIn_codeSpan? hspan).1) hmemo
        (by simp [Piece.anchors, Inline.anchors])
    next => exact .none (hskip _ _) hmemo rfl
  next =>
    split
    next => exact .none (Nat.le_succ pos) hmemo rfl
    next =>
      refine .none (Nat.le_add_right pos _) hmemo ?_
      split <;> simp [Piece.anchors]
  next => exact .none (Nat.le_add_right pos _) hmemo (by simp)
  next => exact .none (Nat.le_add_right pos _) hmemo (by simp)
  next =>
    have hfinds := finds_linkAt hskipper hmemo hends.le_size hc
    generalize linkAt source skipper stop pos memo = result at hfinds
    cases hfinds with
    | none hsafe => exact .none (Nat.le_succ pos) hsafe rfl
    | some hsafe hwritten => exact .link hnested joined hwritten hsafe
  next =>
    have hfinds := finds_imageAt hskipper hmemo hends.le_size hc
    generalize imageAt source skipper stop pos memo = result at hfinds
    cases hfinds with
    | none hsafe => exact .none (Nat.le_succ pos) hsafe rfl
    | some hsafe hwritten => exact .image hnested hwritten hsafe
  next =>
    split
    next shown next hlink =>
      exact .none (Nat.le_of_lt (Scan.endsIn_autolink? hlink).1) hmemo
        (by simp [Piece.anchors, Inline.anchors])
    next =>
      split
      next tag next htag =>
        exact .none (Nat.le_of_lt (Scan.endsIn_html? htag).1) hmemo
          (by simp [Piece.anchors, Inline.anchors])
      next => exact .none (Nat.le_succ pos) hmemo rfl
  next =>
    split
    next content next hentity =>
      exact .none (Nat.le_of_lt (Scan.endsIn_entity? hentity).1) hmemo (by simp [Piece.anchors])
    next => exact .none (Nat.le_succ pos) hmemo rfl
  next => exact .none (Nat.le_succ pos) hmemo rfl

/-- The anchors of what a loop reads stand in the text. -/
theorem occur_readLoop (hskipper : skipper.IsSafe source.chars stop)
    (hends : IsStop source.chars stop) (hnested : nested.IsSound source) (joined : Bool)
    (left pos : Nat) (progress : Progress) (hmemo : memo.IsSafe source.chars) :
    let result := readLoop source joined skipper nested stop left pos progress memo
    result.2.IsSafe source.chars ∧ ∃ anchors,
      result.1.flatMap Piece.anchors = progress.anchors ++ anchors ∧
        Occur source.references.definitions source.chars.toList stop pos anchors := by
  have hflush (progress : Progress) :
      progress.flush.pieces.reverse.flatMap Piece.anchors = progress.anchors ++ [] := by
    rw [List.append_nil, ← progress.anchors_flush]
    rfl
  induction left generalizing pos progress memo with
  | zero => exact ⟨hmemo, [], hflush progress, .nil pos⟩
  | succ left ih =>
    rw [readLoop]
    cases hbefore : Scan.charBefore? source.chars stop pos with
    | none => exact ⟨hmemo, [], hflush progress, .nil pos⟩
    | some c =>
      obtain ⟨hstop, hc⟩ := Scan.charBefore?_eq_some_iff.mp hbefore
      obtain ⟨hnext, hsafe, front, hfront, hoccur⟩ :=
        adds_readConstruct hskipper hends hnested joined progress hc hmemo
      simp only
      generalize readConstruct source joined skipper nested stop pos c progress memo = result
        at hnext hsafe hfront hoccur
      obtain ⟨progress', next, memo'⟩ := result
      obtain ⟨hsafe', back, hback, hoccur'⟩ := ih next progress' hsafe
      refine ⟨hsafe', front ++ back, by rw [hback, hfront, List.append_assoc], ?_⟩
      have hmiddle : pos ≤ min next stop ∧ min next stop ≤ stop :=
        ⟨Nat.le_min.mpr ⟨hnext, Nat.le_of_lt hstop⟩, Nat.min_le_right next stop⟩
      exact hoccur.append hmiddle (hoccur'.mono (Nat.min_le_left next stop))

/-- The anchors of what is read of a text stand in it. -/
theorem occur_piecesAt (source : Source) (joined : Bool) {imageText : List Char → List Inline}
    (himage : ∀ content, Occur source.references.definitions content content.length 0
      (Inline.anchorsAll (imageText content))) (depth pos : Nat)
    (hends : IsStop source.chars stop) (hmemo : memo.IsSafe source.chars) :
    let result := piecesAt source joined imageText depth stop pos memo
    result.2.IsSafe source.chars ∧
      Occur source.references.definitions source.chars.toList stop pos
        (result.1.flatMap Piece.anchors) := by
  induction depth generalizing stop pos memo with
  | zero =>
    refine ⟨hmemo, ?_⟩
    have hnone :
        (piecesAt source joined imageText 0 stop pos memo).1.flatMap Piece.anchors = [] := by
      rw [piecesAt, Progress.flush]
      split <;> rfl
    rw [hnone]
    exact .nil pos
  | succ depth ih =>
    have hnested : Nested.IsSound source ⟨piecesAt source joined imageText depth, imageText⟩ :=
      ⟨fun stop pos memo hends hmemo => ih pos hends hmemo, himage⟩
    obtain ⟨hsafe, anchors, hanchors, hoccur⟩ := occur_readLoop
      (isSafe_skipAt source (depth + 1) hends) hends hnested joined (stop - pos) pos ⟨[], []⟩ hmemo
    refine ⟨hsafe, ?_⟩
    rw [piecesAt, hanchors]
    exact hoccur

end

theorem occur_readNested (references : References) (size : Nat) (joined : Bool)
    (text : List Char) :
    Occur references.definitions text text.length 0
      (Inline.anchorsAll (readNested references size joined text)) := by
  induction size generalizing joined text with
  | zero => exact .nil 0
  | succ size ih =>
    have hpieces := (occur_piecesAt ⟨text.toArray, references⟩ joined (ih false) maxDepth 0
      (.inl rfl) (Memo.isSafe_empty _ text.toArray.size)).2
    rw [readNested, anchorsAll_balance]
    exact hpieces

end Reader

/-- The links and images of a text stand in it one behind the other. -/
theorem occur_readInline (references : References) (text : List Char) :
    Occur references.definitions text text.length 0
      (Inline.anchorsAll (readInline references text)) :=
  Reader.occur_readNested references (text.length + 1) true text

/-- What is collected from a documentation text belongs to links and images that stand, one behind
the other, in the texts of its paragraphs, headings and table cells. -/
theorem occur_normalize (text : List Char) :
    let reading := Document.readingOf text
    let anchorsIn (content : List Char) : List Anchor :=
      Inline.anchorsAll (readInline ⟨reading.definitions, true⟩ content)
    (normalize text).links = Anchor.raws ((Block.contentsAll reading.blocks).flatMap anchorsIn) ∧
      ∀ content ∈ Block.contentsAll reading.blocks,
        Occur reading.definitions content content.length 0 (anchorsIn content) := by
  intro reading anchorsIn
  refine ⟨?_, fun content _ => occur_readInline ⟨reading.definitions, true⟩ content⟩
  rw [normalize, Document.links_render, Document.anchors, Document.read_eq,
    Block.contentsAll_mapAll, anchorsOf, List.flatMap_map]

/-- A bracket in a code span of a label is not escaped, so that the label is not kept and its normal
form is collected. -/
theorem links_normalize_bracket_in_code :
    (normalize "[`a[0]`]".toList).links = ["`A[0]`".toList] := by
  decide +kernel

end CrateReadme.Markdown
