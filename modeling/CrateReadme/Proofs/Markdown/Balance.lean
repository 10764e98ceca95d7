import CrateReadme.Markdown.Inline.Balance
import CrateReadme.Proofs.Markdown.Anchor
import Mathlib.Data.List.TakeWhile

/-!
# Links and images in balanced text

Settling the emphasis turns marks into openings and closings and moves single tildes. The links and
images among the pieces stay where they are, one after the other, at whatever depth of emphasis.
-/

namespace CrateReadme.Markdown

def Piece.anchors : Piece → List Anchor
  | .node inline => Inline.anchors inline
  | _ => []

namespace Balance

/-- The content that a token stands for, if it is known already. -/
def Token.node? : Token → Option Inline
  | .node inline => some inline
  | _ => none

def IsFree (nodes : Array (Option Inline)) (place : Nat) : Prop :=
  ∀ inline, nodes[place]? ≠ some (some inline)

/-! ### Marks -/

/-- Whether marks stand at free places and have their partners among them. -/
def IsSound (nodes : Array (Option Inline)) (marks : Array Mark) : Prop :=
  ∀ mark ∈ marks, IsFree nodes mark.piece ∧
    ∀ partner, mark.partner = some partner → partner < marks.size

section Marks

variable {nodes : Array (Option Inline)} {marks : Array Mark}

/-- The marks that are made from pieces are sound. -/
theorem isSound_marksOf (pieces : Array Piece) :
    IsSound (pieces.map fun piece => (tokenOf piece).node?) (marksOf pieces) := by
  intro mark hmark
  obtain ⟨⟨piece, index⟩, hpiece, hmark⟩ := Array.mem_filterMap.mp hmark
  obtain ⟨-, hindex, hpiece⟩ := Array.mem_zipIdx hpiece
  cases piece with
  | mark delimiter =>
    cases hmark
    refine ⟨fun inline => ?_, fun partner hpartner => by cases hpartner⟩
    rw [Nat.zero_add] at hindex
    simp only [Nat.sub_zero] at hpiece
    rw [Array.getElem?_map, Array.getElem?_eq_getElem hindex, ← hpiece]
    simp [tokenOf, Token.node?]
  | _ => cases hmark

theorem IsSound.isFree (hsound : IsSound nodes marks) {index : Nat} (hindex : index < marks.size) :
    IsFree nodes (marks[index]?.getD default).piece := by
  rw [Array.getElem?_eq_getElem hindex]
  exact (hsound _ (Array.getElem_mem hindex)).1

theorem IsSound.partner_lt (hsound : IsSound nodes marks) {index partner : Nat}
    (hpartner : (marks[index]?.getD default).partner = some partner) : partner < marks.size := by
  cases hmark : marks[index]? with
  | none =>
    rw [hmark] at hpartner
    cases hpartner
  | some mark =>
    rw [hmark] at hpartner
    exact (hsound mark (Array.mem_of_getElem? hmark)).2 partner hpartner

/-- A mark may take the place of one that stands at the same piece. -/
theorem IsSound.setIfInBounds (hsound : IsSound nodes marks) {index : Nat} {mark : Mark}
    (hpiece : mark.piece = (marks[index]?.getD default).piece)
    (hpartner : ∀ partner, mark.partner = some partner → partner < marks.size) :
    IsSound nodes (marks.setIfInBounds index mark) := by
  by_cases hindex : index < marks.size
  · intro other hother
    rw [Array.size_setIfInBounds]
    rcases Array.mem_or_eq_of_mem_setIfInBounds hother with hother | rfl
    · exact hsound other hother
    · exact ⟨hpiece ▸ hsound.isFree hindex, hpartner⟩
  · rwa [Array.setIfInBounds_eq_of_size_le (Nat.le_of_not_lt hindex)]

/-- Settling a delimiter may give it to another as a partner and changes no place. -/
theorem marks_settle (state : State) (index : Nat) :
    (settle state index).marks = state.marks ∨
      ∃ found opened closed, opened.piece = (state.marks[found]?.getD default).piece ∧
        opened.partner = some index ∧
        closed.piece = (state.marks[index]?.getD default).piece ∧
        closed.partner = (state.marks[index]?.getD default).partner ∧
        (settle state index).marks =
          (state.marks.setIfInBounds found opened).setIfInBounds index closed := by
  simp only [settle]
  split
  next =>
    split
    next found hfound =>
      let opener := state.marks[found]?.getD default
      let closer := state.marks[index]?.getD default
      exact .inr ⟨found, ⟨opener.piece, { opener.delimiter with canClose := false }, some index⟩,
        { closer with delimiter := { closer.delimiter with canOpen := false } },
        rfl, rfl, rfl, rfl, rfl⟩
    next => exact .inl ((apply_ite State.marks ..).trans (ite_self _))
  next => exact .inl rfl

/-- Settling a mark keeps the marks sound and their number. -/
theorem IsSound.settle {state : State} (hsound : IsSound nodes state.marks) {index : Nat}
    (hindex : index < state.marks.size) :
    IsSound nodes (settle state index).marks ∧
      (settle state index).marks.size = state.marks.size := by
  rcases marks_settle state index with hmarks |
    ⟨found, opened, closed, hopened, hpartner, hclosed, hkept, hmarks⟩
  · rw [hmarks]
    exact ⟨hsound, rfl⟩
  · rw [hmarks]
    refine ⟨?_, by simp⟩
    have hopen : IsSound nodes (state.marks.setIfInBounds found opened) := by
      refine hsound.setIfInBounds hopened fun partner heq => ?_
      rw [hpartner] at heq
      cases heq
      exact hindex
    refine hopen.setIfInBounds ?_ fun partner heq => ?_
    · rw [hclosed, Array.getElem?_setIfInBounds]
      split
      next hfound =>
        subst hfound
        rw [if_pos hindex, Option.getD_some, hopened]
      next => rfl
    · rw [Array.size_setIfInBounds]
      exact hsound.partner_lt (hkept ▸ heq)

theorem IsSound.pair (hsound : IsSound nodes marks) : IsSound nodes (pair marks) := by
  have hrun : ∀ (indices : List Nat) (state : State), IsSound nodes state.marks →
      (∀ index ∈ indices, index < state.marks.size) →
      IsSound nodes (indices.foldl Balance.settle state).marks := by
    intro indices
    induction indices with
    | nil => exact fun state hstate _ => hstate
    | cons index indices ih =>
      intro state hstate hindices
      obtain ⟨hindex, hindices⟩ := List.forall_mem_cons.mp hindices
      obtain ⟨hsettled, hsize⟩ := hstate.settle hindex
      exact ih _ hsettled (hsize ▸ hindices)
  exact hrun _ _ hsound fun index hmem => List.mem_range.mp hmem

end Marks

/-! ### Tokens -/

/-- Whether the tokens hold the given nodes, each at its place. -/
def Keeps (nodes : Array (Option Inline)) (tokens : Array Token) : Prop :=
  tokens.map Token.node? = nodes

section Tokens

variable {nodes : Array (Option Inline)} {tokens : Array Token}

theorem Keeps.isFree (hkeeps : Keeps nodes tokens) {place : Nat} {token : Token}
    (htoken : tokens[place]? = some token) (hnode : token.node? = none) : IsFree nodes place := by
  intro inline
  rw [← hkeeps, Array.getElem?_map, htoken, Option.map_some, hnode]
  simp

theorem Keeps.node?_eq_none (hkeeps : Keeps nodes tokens) {place : Nat}
    (hplace : IsFree nodes place) (hin : place < tokens.size) : tokens[place].node? = none := by
  cases hnode : tokens[place].node? with
  | none => rfl
  | some inline =>
    refine absurd ?_ (hplace inline)
    rw [← hkeeps, Array.getElem?_map, Array.getElem?_eq_getElem hin, Option.map_some, hnode]

/-- A token that is no node may be put in a free place. -/
theorem Keeps.setIfInBounds (hkeeps : Keeps nodes tokens) {place : Nat}
    (hplace : IsFree nodes place) {token : Token} (hnode : token.node? = none) :
    Keeps nodes (tokens.setIfInBounds place token) := by
  rw [Keeps, Array.map_setIfInBounds, hkeeps, hnode]
  refine Array.ext_getElem? fun index => ?_
  rw [Array.getElem?_setIfInBounds]
  split
  next hindex =>
    subst hindex
    cases hold : nodes[place]? with
    | none => rw [if_neg (Nat.not_lt_of_le (Array.getElem?_eq_none_iff.mp hold))]
    | some old =>
      rw [if_pos (Array.getElem?_eq_some_iff.mp hold).1]
      cases old with
      | none => rfl
      | some inline => exact absurd hold (hplace inline)
  next => rfl

/-- Tokens in two free places may be swapped. -/
theorem Keeps.swapIfInBounds (hkeeps : Keeps nodes tokens) {first second : Nat}
    (hfirst : IsFree nodes first) (hsecond : IsFree nodes second) :
    Keeps nodes (tokens.swapIfInBounds first second) := by
  rw [Array.swapIfInBounds_def]
  split
  next hfirst' =>
    split
    next hsecond' =>
      have hswapped := (hkeeps.setIfInBounds hfirst
        (hkeeps.node?_eq_none hsecond hsecond')).setIfInBounds hsecond
        (hkeeps.node?_eq_none hfirst hfirst')
      simpa [Array.swap_def, Array.setIfInBounds_def, hfirst', hsecond'] using hswapped
    next => exact hkeeps
  next => exact hkeeps

/-- A single tilde, or a closing, is no node. -/
theorem Keeps.isFree_of_getD (hkeeps : Keeps nodes tokens) {place : Nat} {holds : Token → Bool}
    (hholds : ∀ token, holds token → token.node? = none) (hdefault : holds default = false)
    (hplace : holds (tokens[place]?.getD default)) : IsFree nodes place := by
  cases htoken : tokens[place]? with
  | none =>
    rw [htoken, Option.getD_none, hdefault] at hplace
    cases hplace
  | some token =>
    rw [htoken] at hplace
    exact hkeeps.isFree htoken (hholds token hplace)

/-- Striking through keeps the nodes, and the places that it gives back are free. -/
theorem keeps_strike {marks : Array Mark} (hsound : IsSound nodes marks)
    (hkeeps : Keeps nodes tokens) :
    Keeps nodes (strike marks tokens).1 ∧
      ∀ place ∈ (strike marks tokens).2, IsFree nodes place := by
  rw [strike, ← Array.foldl_toList]
  refine List.foldlRecOn marks.toList _ (motive := fun (state : Array Token × List Nat) =>
    Keeps nodes state.1 ∧ ∀ place ∈ state.2, IsFree nodes place)
    ⟨hkeeps, fun place hmem => absurd hmem List.not_mem_nil⟩ ?_
  rintro ⟨tokens, lone⟩ ⟨hkeeps, hlone⟩ mark hmark
  obtain ⟨hfree, hpartner⟩ := hsound mark (Array.mem_toList_iff.mp hmark)
  cases hpartner' : mark.partner with
  | none => exact ⟨hkeeps, hlone⟩
  | some partner =>
    simp only
    split
    next =>
      have hcloser := hsound.isFree (hpartner partner hpartner')
      have hstruck : Keeps nodes ((tokens.setIfInBounds mark.piece (.opening .struck)).setIfInBounds
          (marks[partner]?.getD default).piece (.closing .struck)) :=
        (hkeeps.setIfInBounds hfree rfl).setIfInBounds hcloser rfl
      refine ⟨hstruck, fun place hmem => ?_⟩
      split at hmem
      next hlone' =>
        rcases List.mem_cons.mp hmem with rfl | hmem
        · refine hstruck.isFree_of_getD (fun token htilde => ?_) rfl hlone'
          cases token <;> first | rfl | cases htilde
        · exact hlone place hmem
      next => exact hlone place hmem
    next => exact ⟨hkeeps, hlone⟩

theorem Keeps.moveTilde (hkeeps : Keeps nodes tokens) {place : Nat} (hplace : IsFree nodes place) :
    Keeps nodes (moveTilde tokens place) := by
  refine hkeeps.swapIfInBounds hplace ?_
  -- behind the tilde stand closings, if anything is passed over
  cases hclosings : ((tokens.toList.drop (place + 1)).takeWhile closesStruck).length with
  | zero => exact hplace
  | succ closings =>
    have hlast : closings < ((tokens.toList.drop (place + 1)).takeWhile closesStruck).length := by
      omega
    have hfront : (tokens.toList.drop (place + 1)).takeWhile closesStruck <+:
        tokens.toList.drop (place + 1) := List.takeWhile_prefix closesStruck
    have hcloses := List.mem_takeWhile_imp (List.getElem_mem hlast)
    rw [List.IsPrefix.getElem hfront hlast, List.getElem_drop] at hcloses
    have hin : place + (closings + 1) < tokens.size := by
      have hle := hfront.length_le
      have hsize : tokens.toList.length = tokens.size := Array.length_toList
      rw [List.length_drop] at hle
      omega
    refine hkeeps.isFree (Array.getElem?_eq_getElem hin) ?_
    have hsame : place + (closings + 1) = place + 1 + closings := by omega
    simp only [hsame]
    rw [Array.getElem_toList] at hcloses
    cases htoken : tokens[place + 1 + closings] <;> simp_all [closesStruck, Token.node?]

theorem Keeps.foldl_moveTilde (hkeeps : Keeps nodes tokens) {places : List Nat}
    (hplaces : ∀ place ∈ places, IsFree nodes place) :
    Keeps nodes (places.foldl Balance.moveTilde tokens) := by
  induction places generalizing tokens with
  | nil => exact hkeeps
  | cons place places ih =>
    obtain ⟨hplace, hplaces⟩ := List.forall_mem_cons.mp hplaces
    exact ih (hkeeps.moveTilde hplace) hplaces

/-- Emphasis keeps the nodes. -/
theorem Keeps.emphasize {marks : Array Mark} (hsound : IsSound nodes marks)
    (hkeeps : Keeps nodes tokens) (count : Nat) (hcount : count ≤ marks.size) (skip : Bool) :
    Keeps nodes (emphasize marks count skip tokens) := by
  induction count generalizing skip tokens with
  | zero => exact hkeeps
  | succ index ih =>
    have hindex : index < marks.size := hcount
    have hmore {tokens : Array Token} (hkeeps : Keeps nodes tokens) (skip : Bool) :=
      ih hkeeps (Nat.le_of_lt hindex) skip
    cases skip with
    | true => exact hmore hkeeps false
    | false =>
      rw [Balance.emphasize]
      cases hpartner : (marks[index]?.getD default).partner with
      | none => exact hmore hkeeps false
      | some partner =>
        simp only
        split
        next => exact hmore hkeeps false
        next =>
          have hpair (style : Style) : Keeps nodes ((tokens.setIfInBounds
              (marks[index]?.getD default).piece (.opening style)).setIfInBounds
              (marks[partner]?.getD default).piece (.closing style)) :=
            (hkeeps.setIfInBounds (hsound.isFree hindex) rfl).setIfInBounds
              (hsound.isFree (hsound.partner_lt hpartner)) rfl
          split
          next hstrong =>
            simp only [Bool.and_eq_true, decide_eq_true_eq] at hstrong
            obtain ⟨⟨⟨⟨hpos, hbefore⟩, -⟩, -⟩, -⟩ := hstrong
            refine hmore (((hpair _).setIfInBounds ?_ rfl).setIfInBounds ?_ rfl) true
            · exact hsound.isFree (by omega)
            · exact hsound.isFree (hsound.partner_lt hbefore)
          next => exact hmore (hpair _) false

end Tokens

/-! ### The content -/

def nodesOf : List Token → List Inline
  | [] => []
  | .node inline :: tokens => inline :: nodesOf tokens
  | _ :: tokens => nodesOf tokens

theorem nodesOf_eq_filterMap (tokens : List Token) :
    nodesOf tokens = (tokens.map Token.node?).filterMap id := by
  induction tokens with
  | nil => rfl
  | cons token tokens ih =>
    cases token <;> simp only [nodesOf, Token.node?, List.map_cons, List.filterMap_cons, id, ih]

/-- Joining texts that follow each other keeps the nodes. -/
theorem nodesOf_joinTexts (tokens : List Token) : nodesOf (joinTexts tokens) = nodesOf tokens := by
  induction tokens with
  | nil => rfl
  | cons token tokens ih =>
    cases token with
    | text content =>
      rw [joinTexts]
      have hrest : nodesOf (.text content :: tokens) = nodesOf (joinTexts tokens) := ih.symm
      rw [hrest]
      split
      next more rest hjoined => rw [hjoined]; rfl
      next => rfl
    | special content => exact ih
    | node inline => exact congrArg (inline :: ·) ih
    | opening style => exact ih
    | closing style => exact ih

theorem nodesOf_map_plain (tokens : List Token) : nodesOf (tokens.map plain) = nodesOf tokens := by
  induction tokens with
  | nil => rfl
  | cons token tokens ih => cases token <;> simp [nodesOf, plain, ih]

/-- The links and images in open emphasis, the outermost first. -/
def openAnchors : (siblings : List Inline) → (outer : List (Style × List Inline)) → List Anchor
  | siblings, [] => Inline.anchorsAll siblings.reverse
  | siblings, (_, before) :: outer => openAnchors before outer ++ Inline.anchorsAll siblings.reverse

theorem openAnchors_cons (inline : Inline) (siblings : List Inline)
    (outer : List (Style × List Inline)) :
    openAnchors (inline :: siblings) outer = openAnchors siblings outer ++ inline.anchors := by
  cases outer <;> simp [openAnchors, Inline.anchorsAll_append, Inline.anchorsAll]

theorem anchors_wrap (style : Style) (children : List Inline) :
    (style.wrap children).anchors = Inline.anchorsAll children := by
  cases style <;> rfl

theorem anchorsAll_closeAll (siblings : List Inline) (outer : List (Style × List Inline)) :
    Inline.anchorsAll (closeAll siblings outer) = openAnchors siblings outer := by
  induction outer generalizing siblings with
  | nil => rfl
  | cons first outer ih =>
    obtain ⟨style, before⟩ := first
    rw [closeAll, ih, openAnchors_cons, anchors_wrap, openAnchors]

/-- Nesting lists the anchors of what is open and then those of the tokens. -/
theorem anchorsAll_nest (siblings : List Inline) (outer : List (Style × List Inline))
    (tokens : List Token) :
    Inline.anchorsAll (nest siblings outer tokens) =
      openAnchors siblings outer ++ (nodesOf tokens).flatMap Inline.anchors := by
  fun_induction nest siblings outer tokens with
  | case1 siblings outer => simp [anchorsAll_closeAll, nodesOf]
  | case2 siblings outer content tokens ih =>
    rw [ih, openAnchors_cons]
    simp [Inline.anchors, nodesOf]
  | case3 siblings outer content tokens ih =>
    rw [ih, openAnchors_cons]
    simp [Inline.anchors, nodesOf]
  | case4 siblings outer inline tokens ih =>
    rw [ih, openAnchors_cons]
    simp [nodesOf]
  | case5 siblings outer style tokens ih =>
    rw [ih]
    simp [openAnchors, Inline.anchorsAll, nodesOf]
  | case6 siblings style before outer style' tokens ih =>
    rw [ih, openAnchors_cons, anchors_wrap]
    simp [openAnchors, nodesOf]
  | case7 siblings style tokens ih =>
    rw [ih]
    simp [nodesOf]

theorem flatMap_anchors_nodes (pieces : List Piece) :
    ((pieces.map fun piece => (tokenOf piece).node?).filterMap id).flatMap Inline.anchors =
      pieces.flatMap Piece.anchors := by
  induction pieces with
  | nil => rfl
  | cons piece pieces ih =>
    rw [List.map_cons, List.flatMap_cons, ← ih]
    cases piece <;> rfl

end Balance

/-- Balancing keeps the links and images of the pieces in their order. -/
theorem anchorsAll_balance (joined : Bool) (pieces : List Piece) :
    Inline.anchorsAll (balance joined pieces) = pieces.flatMap Piece.anchors := by
  have hsound := (Balance.isSound_marksOf pieces.toArray).pair
  have hfresh : Balance.Keeps (pieces.toArray.map fun piece => (Balance.tokenOf piece).node?)
      (pieces.toArray.map Balance.tokenOf) := Array.map_map
  obtain ⟨hstruck, hlone⟩ := Balance.keeps_strike hsound hfresh
  have hkeeps := congrArg Array.toList
    ((hstruck.foldl_moveTilde hlone).emphasize hsound _ (Nat.le_refl _) false)
  have hplain (tokens : List Balance.Token) :
      Balance.nodesOf (if joined then tokens.map Balance.plain else tokens) =
        Balance.nodesOf tokens := by
    split
    · exact Balance.nodesOf_map_plain tokens
    · rfl
  rw [Array.toList_map, Array.toList_map] at hkeeps
  rw [balance, Balance.anchorsAll_nest, Balance.nodesOf_joinTexts, hplain,
    Balance.nodesOf_eq_filterMap, hkeeps]
  exact Balance.flatMap_anchors_nodes pieces

end CrateReadme.Markdown
