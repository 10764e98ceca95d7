import CrateReadme.Proofs.Source.Stretch
import CrateReadme.Source.Groups

/-!
# Tokens of an accepted source

Reading a source is a run of steps, each of which passes over some characters and may give a token.
From the run follows what holds of all tokens of an accepted source: they stand in order and do not
overlap, brackets are tokens of their own, and every bracket has its partner. For tokens that are
well nested, the size of every group is known.
-/

namespace CrateReadme.Source

/-! ### Runs of the reader -/

/-- Where the reader stands: the number of characters passed, the open brackets, the characters to
come. -/
structure Position where
  index : Nat
  pending : List (Char × Nat)
  input : List Char

/-- Reading from a position to the position `after` gives the tokens. -/
inductive Reads (after : Position) : Position → List Token → Prop
  | done : Reads after after []
  | skip {index : Nat} {pending : List (Char × Nat)} {c : Char} {rest : List Char}
      {stretch : Stretch} {tokens : List Token}
      (hnext : nextStretch index c rest = .ok stretch) (hnone : stretch.token? = none)
      (hrest : Reads after ⟨index + stretch.extra + 1, pending, rest.drop stretch.extra⟩ tokens) :
      Reads after ⟨index, pending, c :: rest⟩ tokens
  | token {index : Nat} {pending inner : List (Char × Nat)} {c : Char} {rest : List Char}
      {stretch : Stretch} {cls : TokenClass} {text : List Char} {value : Option (List Char)}
      {tokens : List Token}
      (hnext : nextStretch index c rest = .ok stretch)
      (hsome : stretch.token? = some (cls, text, value))
      (htrack : trackBrackets index pending cls c = .ok inner)
      (hrest : Reads after ⟨index + stretch.extra + 1, inner, rest.drop stretch.extra⟩ tokens) :
      Reads after ⟨index, pending, c :: rest⟩
        (⟨cls, text, index, index + stretch.extra + 1, value⟩ :: tokens)

namespace Reads

variable {before middle after : Position} {front back tokens : List Token}

theorem trans (hfront : Reads middle before front) (hback : Reads after middle back) :
    Reads after before (front ++ back) := by
  induction hfront with
  | done => exact hback
  | skip hnext hnone _ ih => exact .skip hnext hnone ih
  | token hnext hsome htrack _ ih => exact .token hnext hsome htrack ih

/-- What was read and the tokens of the rest make up the tokens of the whole. -/
theorem tokensFrom_eq (hreads : Reads after before front)
    (hrest : tokensFrom after.index after.pending after.input = .ok back) :
    tokensFrom before.index before.pending before.input = .ok (front ++ back) := by
  induction hreads with
  | done => exact hrest
  | skip hnext hnone _ ih =>
      rw [tokensFrom, hnext]
      simp only [bind, Except.bind, hnone]
      exact ih
  | token hnext hsome htrack _ ih =>
      rw [tokensFrom, hnext]
      simp only [bind, Except.bind, hsome, htrack]
      simp only at ih
      rw [ih]
      rfl

/-- A character that makes a token of its own wherever it stands is written in no other token. -/
theorem cls_of_text {tokens : List Token} (hreads : Reads after before tokens) {token : Token}
    (htoken : token ∈ tokens) {c : Char} {cls : TokenClass} (htext : token.text = [c])
    (hsingle : ∀ index rest,
      nextStretch index c rest = .ok { extra := 0, token? := some (cls, [c], none) }) :
    token.cls = cls := by
  induction hreads with
  | done => cases htoken
  | skip _ _ _ ih => exact ih htoken
  | @token index _ _ first rest stretch _ text value tokens hnext hsome _ _ ih =>
      rcases List.mem_cons.mp htoken with rfl | htoken
      · have hhead := (suits_of_nextStretch hnext).head?_text _ hsome
        simp only at htext hhead
        rw [htext, List.head?_cons, Option.some.injEq] at hhead
        rw [← hhead, hsingle] at hnext
        cases hnext
        cases hsome
        rfl
      · exact ih htoken

end Reads

/-- A source is accepted by reading it to its end with no bracket left open. -/
theorem reads_of_tokensFrom {index : Nat} {pending : List (Char × Nat)} {input : List Char}
    {tokens : List Token} (htokens : tokensFrom index pending input = .ok tokens) :
    Reads ⟨index + input.length, [], []⟩ ⟨index, pending, input⟩ tokens := by
  induction hlength : input.length using Nat.strongRecOn
    generalizing index pending input tokens with
  | ind length ih =>
      cases input with
      | nil =>
          cases pending with
          | nil =>
              rw [tokensFrom] at htokens
              cases htokens
              rw [← hlength]
              exact .done
          | cons bracket outer =>
              rw [tokensFrom] at htokens
              cases htokens
      | cons c rest =>
          rw [tokensFrom] at htokens
          cases hnext : nextStretch index c rest with
          | error fault =>
              rw [hnext] at htokens
              cases htokens
          | ok stretch =>
              rw [hnext] at htokens
              simp only [bind, Except.bind] at htokens
              have hextra := extra_le_of_nextStretch hnext
              rw [List.length_cons] at hlength
              have hshorter : (rest.drop stretch.extra).length < length := by
                rw [List.length_drop]
                omega
              have hplace : index + length =
                  index + stretch.extra + 1 + (rest.drop stretch.extra).length := by
                rw [List.length_drop]
                omega
              rw [hplace]
              split at htokens
              · next hnone => exact .skip hnext hnone (ih _ hshorter htokens rfl)
              · next cls text value hsome =>
                split at htokens
                · cases htokens
                · next inner htrack =>
                  split at htokens
                  · cases htokens
                  · next later hlater =>
                    cases htokens
                    exact .token hnext hsome htrack (ih _ hshorter hlater rfl)

theorem shebangSize_le (code : List Char) : shebangSize code ≤ code.length := by
  unfold shebangSize
  split
  · exact Nat.zero_le _
  · exact length_takeWhile_le _ _
  · exact Nat.zero_le _

/-- A whole source is read from behind its interpreter line to its end. -/
theorem reads_of_tokenize {code : List Char} {tokens : List Token}
    (htokens : tokenize code = .ok tokens) :
    Reads ⟨code.length, [], []⟩ ⟨shebangSize code, [], code.drop (shebangSize code)⟩ tokens := by
  have hreads := reads_of_tokensFrom htokens
  rwa [List.length_drop, Nat.add_sub_cancel' (shebangSize_le code)] at hreads

/-! ### The places of tokens -/

/-- The tokens cover some characters each and stand in order from `first` up to `last`. -/
inductive Placed (last : Nat) : Nat → List Token → Prop
  | nil {first : Nat} (hlast : first ≤ last) : Placed last first []
  | cons {first : Nat} {token : Token} {tokens : List Token} (hfirst : first ≤ token.start)
      (hcovers : token.start < token.stop) (hrest : Placed last token.stop tokens) :
      Placed last first (token :: tokens)

namespace Placed

variable {first last : Nat} {tokens : List Token}

theorem of_le {other : Nat} (hplaced : Placed last first tokens) (hle : other ≤ first) :
    Placed last other tokens := by
  cases hplaced with
  | nil hlast => exact .nil (Nat.le_trans hle hlast)
  | cons hfirst hcovers hrest => exact .cons (Nat.le_trans hle hfirst) hcovers hrest

theorem first_le (hplaced : Placed last first tokens) : first ≤ last := by
  induction hplaced with
  | nil hlast => exact hlast
  | cons hfirst hcovers _ ih => omega

theorem mem {token : Token} (hplaced : Placed last first tokens) (hmem : token ∈ tokens) :
    first ≤ token.start ∧ token.start < token.stop ∧ token.stop ≤ last := by
  induction hplaced with
  | nil => cases hmem
  | cons hfirst hcovers hrest ih =>
      rcases List.mem_cons.mp hmem with rfl | hmem
      · exact ⟨hfirst, hcovers, hrest.first_le⟩
      · obtain ⟨hstart, hrest⟩ := ih hmem
        exact ⟨by omega, hrest⟩

theorem drop (hplaced : Placed last first tokens) (count : Nat) :
    Placed last first (tokens.drop count) := by
  induction hplaced generalizing count with
  | nil hlast =>
      rw [List.drop_nil]
      exact .nil hlast
  | cons hfirst hcovers hrest ih =>
      cases count with
      | zero => exact .cons hfirst hcovers hrest
      | succ count => exact (ih count).of_le (by omega)

end Placed

/-- Tokens that were read stand one behind the other. -/
theorem Reads.placed {last index : Nat} {pending : List (Char × Nat)} {input : List Char}
    {tokens : List Token} (hreads : Reads ⟨last, [], []⟩ ⟨index, pending, input⟩ tokens) :
    Placed last index tokens := by
  generalize hbefore : (⟨index, pending, input⟩ : Position) = before at hreads
  induction hreads generalizing index pending input with
  | done =>
      cases hbefore
      exact .nil (Nat.le_refl last)
  | skip _ _ _ ih =>
      cases hbefore
      exact (ih rfl).of_le (by omega)
  | token _ _ _ _ ih =>
      cases hbefore
      exact .cons (Nat.le_refl _) (by simp only; omega) (ih rfl)

/-! ### Brackets -/

/-- Two tokens are the opening and the closing bracket of a group. -/
structure Token.Pairs (opening closing : Token) : Prop where
  cls_opening : opening.cls = .opening
  cls_closing : closing.cls = .closing
  partner : ∃ left right, opening.text = [left] ∧ closing.text = [right] ∧
    partner? left = some right

/-- The tokens are well nested, and none of them outside all groups is written like one of
`stops`. -/
inductive Nested : (stops : List String) → List Token → Prop
  | nil {stops : List String} : Nested stops []
  | plain {stops : List String} {token : Token} {rest : List Token}
      (hopening : token.cls ≠ .opening) (hclosing : token.cls ≠ .closing)
      (hstops : ∀ stop ∈ stops, token.reads stop = false) (hrest : Nested stops rest) :
      Nested stops (token :: rest)
  | group {stops : List String} {opening closing : Token} {inner rest : List Token}
      (hpairs : opening.Pairs closing) (hstops : ∀ stop ∈ stops, opening.reads stop = false)
      (hinner : Nested [] inner) (hrest : Nested stops rest) :
      Nested stops (opening :: (inner ++ closing :: rest))

namespace Nested

variable {stops : List String} {front back : List Token}

theorem append (hfront : Nested stops front) (hback : Nested stops back) :
    Nested stops (front ++ back) := by
  induction hfront with
  | nil => exact hback
  | plain hopening hclosing hstops _ ih => exact .plain hopening hclosing hstops (ih hback)
  | group hpairs hstops hinner _ _ ih =>
      rw [List.cons_append, List.append_assoc]
      exact .group hpairs hstops hinner (ih hback)

end Nested

/-- The tokens close the open brackets `pending`, the innermost first, and are well nested in
between. -/
inductive Closes : (pending : List Char) → List Token → Prop
  | done {tokens : List Token} (htokens : Nested [] tokens) : Closes [] tokens
  | close {left right : Char} {pending : List Char} {inner rest : List Token} {closing : Token}
      (hinner : Nested [] inner) (hcls : closing.cls = .closing) (htext : closing.text = [right])
      (hpartner : partner? left = some right) (hrest : Closes pending rest) :
      Closes (left :: pending) (inner ++ closing :: rest)

theorem Closes.prepend {pending : List Char} {front tokens : List Token}
    (hcloses : Closes pending tokens) (hfront : Nested [] front) :
    Closes pending (front ++ tokens) := by
  cases hcloses with
  | done htokens => exact .done (hfront.append htokens)
  | close hinner hcls htext hpartner hrest =>
      rw [← List.append_assoc]
      exact .close (hfront.append hinner) hcls htext hpartner hrest

theorem trackBrackets_plain {index : Nat} {pending inner : List (Char × Nat)} {cls : TokenClass}
    {c : Char} (hopening : cls ≠ .opening) (hclosing : cls ≠ .closing)
    (htrack : trackBrackets index pending cls c = .ok inner) : inner = pending := by
  cases cls with
  | opening => exact absurd rfl hopening
  | closing => exact absurd rfl hclosing
  | _ => exact (Except.ok.inj htrack).symm

theorem exists_pending_of_trackBrackets {index : Nat} {pending inner : List (Char × Nat)}
    {c : Char} (htrack : trackBrackets index pending .closing c = .ok inner) :
    ∃ left place, pending = (left, place) :: inner ∧ partner? left = some c := by
  simp only [trackBrackets] at htrack
  split at htrack
  · cases htrack
  · next left place outer =>
    split at htrack
    · next hpartner =>
      cases htrack
      exact ⟨left, place, rfl, hpartner⟩
    · cases htrack

/-- What is read up to the end closes the brackets that were open. -/
theorem Reads.closes {last index : Nat} {pending : List (Char × Nat)} {input : List Char}
    {tokens : List Token} (hreads : Reads ⟨last, [], []⟩ ⟨index, pending, input⟩ tokens) :
    Closes (pending.map Prod.fst) tokens := by
  generalize hbefore : (⟨index, pending, input⟩ : Position) = before at hreads
  induction hreads generalizing index pending input with
  | done =>
      cases hbefore
      exact .done .nil
  | skip _ _ _ ih =>
      cases hbefore
      exact ih rfl
  | @token index pending inner c rest stretch cls text value tokens hnext hsome htrack _ ih =>
      cases hbefore
      have hsuits := suits_of_nextStretch hnext
      have hcloses := ih rfl
      by_cases hopening : cls = .opening
      · subst hopening
        rw [nextStretch_opening rest (hsuits.opening _ hsome rfl)] at hnext
        cases hnext
        cases hsome
        cases htrack
        cases hcloses with
        | close hinner hcls htext hpartner hrest =>
            simpa using hrest.prepend
              (.group ⟨rfl, hcls, _, _, rfl, htext, hpartner⟩ (by simp) hinner .nil)
      · by_cases hclosing : cls = .closing
        · subst hclosing
          rw [nextStretch_closing rest (hsuits.closing _ hsome rfl)] at hnext
          cases hnext
          cases hsome
          obtain ⟨left, place, rfl, hpartner⟩ := exists_pending_of_trackBrackets htrack
          exact .close .nil rfl rfl hpartner hcloses
        · rw [← trackBrackets_plain hopening hclosing htrack]
          exact hcloses.prepend (.plain hopening hclosing (by simp) .nil)

/-! ### Groups as cells -/

theorem map_token_cellsOf (tokens : List Token) : (cellsOf tokens).map Cell.token = tokens := by
  rw [cellsOf]
  induction tokens with
  | nil => rfl
  | cons token tokens ih =>
      rw [cellsAndClosings]
      simp only
      split
      · rw [List.map_cons, ih]
      · split
        · rw [List.map_cons, ih]
        · rw [List.map_cons, ih]
      · rw [List.map_cons, ih]

@[simp]
theorem length_cellsOf (tokens : List Token) : (cellsOf tokens).length = tokens.length := by
  rw [← List.length_map (f := Cell.token), map_token_cellsOf]

theorem cellsAndClosings_plain {token : Token} (hopening : token.cls ≠ .opening)
    (hclosing : token.cls ≠ .closing) (rest : List Token) :
    cellsAndClosings (token :: rest) =
      (⟨token, 1⟩ :: cellsOf rest, (cellsAndClosings rest).2) := by
  rw [cellsAndClosings]
  cases hcls : token.cls with
  | opening => exact absurd hcls hopening
  | closing => exact absurd hcls hclosing
  | _ => rfl

theorem cellsAndClosings_closing {token : Token} (hclosing : token.cls = .closing)
    (rest : List Token) :
    cellsAndClosings (token :: rest) =
      (⟨token, 1⟩ :: cellsOf rest, rest.length :: (cellsAndClosings rest).2) := by
  rw [cellsAndClosings, hclosing]
  rfl

theorem cellsAndClosings_opening {token : Token} {rest : List Token} {cells : List Cell}
    {remaining : Nat} {outer : List Nat} (hopening : token.cls = .opening)
    (hrest : cellsAndClosings rest = (cells, remaining :: outer)) :
    cellsAndClosings (token :: rest) =
      (⟨token, rest.length + 1 - remaining⟩ :: cells, outer) := by
  rw [cellsAndClosings, hopening, hrest]

theorem cellsOf_plain {token : Token} (hopening : token.cls ≠ .opening)
    (hclosing : token.cls ≠ .closing) (rest : List Token) :
    cellsOf (token :: rest) = ⟨token, 1⟩ :: cellsOf rest := by
  rw [cellsOf, cellsAndClosings_plain hopening hclosing]

theorem cellsOf_closing {token : Token} (hclosing : token.cls = .closing) (rest : List Token) :
    cellsOf (token :: rest) = ⟨token, 1⟩ :: cellsOf rest := by
  rw [cellsOf, cellsAndClosings_closing hclosing]

/-- The cells of tokens with more tokens behind them are their own cells in front of those of the
other tokens, and no bracket has its partner on the other side. -/
def HasOwnCells (front : List Token) : Prop :=
  ∀ rest, cellsAndClosings (front ++ rest) =
    (cellsOf front ++ cellsOf rest, (cellsAndClosings rest).2)

/-- A group of tokens is one cell that spans it, with the cells of its members inside. -/
theorem cellsAndClosings_group {opening closing : Token} {inner : List Token}
    (hpairs : opening.Pairs closing) (hinner : HasOwnCells inner) (rest : List Token) :
    cellsAndClosings (opening :: (inner ++ closing :: rest)) =
      (⟨opening, inner.length + 2⟩ :: (cellsOf inner ++ ⟨closing, 1⟩ :: cellsOf rest),
        (cellsAndClosings rest).2) := by
  have hclosing := cellsAndClosings_closing hpairs.cls_closing rest
  have hbehind := hinner (closing :: rest)
  rw [cellsOf, cellsOf, hclosing] at hbehind
  rw [cellsAndClosings_opening hpairs.cls_opening hbehind]
  have hextent : (inner ++ closing :: rest).length + 1 - rest.length = inner.length + 2 := by
    rw [List.length_append, List.length_cons]
    omega
  rw [hextent]
  rfl

theorem HasOwnCells.cellsOf_group {opening closing : Token} {inner : List Token}
    (hinner : HasOwnCells inner) (hpairs : opening.Pairs closing) (rest : List Token) :
    cellsOf (opening :: (inner ++ closing :: rest)) =
      ⟨opening, inner.length + 2⟩ :: (cellsOf inner ++ ⟨closing, 1⟩ :: cellsOf rest) := by
  rw [cellsOf, cellsAndClosings_group hpairs hinner]

theorem HasOwnCells.cellsOf_append {front : List Token} (hfront : HasOwnCells front)
    (rest : List Token) : cellsOf (front ++ rest) = cellsOf front ++ cellsOf rest := by
  rw [cellsOf, hfront]

/-- Nested tokens have cells of their own. -/
theorem Nested.hasOwnCells {stops : List String} {front : List Token}
    (hfront : Nested stops front) : HasOwnCells front := by
  induction hfront with
  | nil => exact fun _ => rfl
  | plain hopening hclosing _ _ ih =>
      intro rest
      rw [List.cons_append, cellsAndClosings_plain hopening hclosing, ih, ih.cellsOf_append,
        cellsOf_plain hopening hclosing, List.cons_append]
  | group hpairs _ _ _ ihinner ihtail =>
      intro rest
      rw [List.cons_append, List.append_assoc, List.cons_append,
        cellsAndClosings_group hpairs ihinner, ihtail, ihtail.cellsOf_append,
        ihinner.cellsOf_group hpairs]
      simp

end CrateReadme.Source
