import CrateReadme.Proofs.Source.LineBreak
import CrateReadme.Proofs.Source.Respelling

/-!
# What a source says apart from its layout

The outline of a crate root looks at the faces of tokens only; their places matter to nothing but
the spans of what was found. So every reader may forget the places first and finds the same, and
sources whose tokens have the same faces say the same.
-/

namespace CrateReadme.Source

def Token.unplaced (token : Token) : Token :=
  { token with start := 0, stop := 0 }

def Cell.unplaced (cell : Cell) : Cell :=
  { cell with token := cell.token.unplaced }

theorem map_unplaced_of_faces {tokens others : List Token}
    (hfaces : others.map Token.face = tokens.map Token.face) :
    others.map Token.unplaced = tokens.map Token.unplaced := by
  have hplain (token : Token) :
      token.unplaced = ⟨token.face.1, token.face.2.1, 0, 0, token.face.2.2⟩ := rfl
  have hmap (tokens : List Token) : tokens.map Token.unplaced =
      (tokens.map Token.face).map fun face => ⟨face.1, face.2.1, 0, 0, face.2.2⟩ := by
    rw [List.map_map]
    exact List.map_congr_left fun token _ => hplain token
  rw [hmap, hfaces, ← hmap]

def Cell.map (g : Token → Token) (cell : Cell) : Cell :=
  { cell with token := g cell.token }

/-- Which cells belong together is found in the classes of the tokens. -/
theorem cellsAndClosings_map (g : Token → Token) (hcls : ∀ token, (g token).cls = token.cls)
    (tokens : List Token) : cellsAndClosings (tokens.map g) =
      ((cellsAndClosings tokens).1.map (Cell.map g), (cellsAndClosings tokens).2) := by
  induction tokens with
  | nil => rfl
  | cons token tokens ih =>
      rw [List.map_cons, cellsAndClosings, ih, cellsAndClosings]
      simp only [hcls, List.length_map]
      cases token.cls with
      | opening => cases (cellsAndClosings tokens).2 <;> rfl
      | _ => rfl

theorem cellsOf_map (g : Token → Token) (hcls : ∀ token, (g token).cls = token.cls)
    (tokens : List Token) : cellsOf (tokens.map g) = (cellsOf tokens).map (Cell.map g) := by
  rw [cellsOf, cellsAndClosings_map g hcls, cellsOf]

theorem cellsOf_unplaced (tokens : List Token) :
    cellsOf (tokens.map Token.unplaced) = (cellsOf tokens).map Cell.unplaced :=
  cellsOf_map Token.unplaced (fun _ => rfl) tokens

/-- To forget the place of a cell leaves its text as it is. -/
theorem isRespelling_unplaced : IsRespelling Cell.unplaced :=
  fun _ => ⟨rfl, rfl, rfl, Or.inl rfl⟩

/-- The outline is found in the faces of the tokens. -/
theorem Outline.saysAs_ofCells (cells : List Cell) (code other : List Char) :
    (Outline.ofCells other (cells.map Cell.unplaced)).SaysAs (Outline.ofCells code cells) :=
  Outline.saysAs_map isRespelling_unplaced (fun _ _ => rfl) code other

/-- Sources whose tokens have the same faces say the same, apart from the places. -/
theorem Outline.saysAs_of_faces {tokens others : List Token}
    (hfaces : others.map Token.face = tokens.map Token.face) (code other : List Char) :
    (Outline.ofCells other (cellsOf others)).SaysAs (Outline.ofCells code (cellsOf tokens)) := by
  have hsame := map_unplaced_of_faces hfaces
  have hothers := Outline.saysAs_ofCells (cellsOf others) other other
  have htokens := Outline.saysAs_ofCells (cellsOf tokens) code other
  rw [← cellsOf_unplaced, hsame] at hothers
  rw [← cellsOf_unplaced] at htokens
  exact ⟨hothers.docs.symm.trans htokens.docs, hothers.nodes.symm.trans htokens.nodes,
    hothers.unexpanded.symm.trans htokens.unexpanded⟩

/-! ### Sources -/

theorem read_of_tokenize {code : String} {tokens : List Token}
    (htokens : tokenize code.toList = .ok tokens) :
    ∃ unit, read code = .ok unit ∧
      unit.docs = String.ofList (unindent (Text.unlines
        (Outline.ofCells code.toList (cellsOf tokens)).docs)) ∧
      unit.nodes = (Outline.ofCells code.toList (cellsOf tokens)).nodes ∧
      unit.unexpanded = (Outline.ofCells code.toList (cellsOf tokens)).unexpanded := by
  rw [read, htokens]
  exact ⟨_, rfl, rfl, rfl, rfl⟩

/-- Sources with outlines that say the same are read as units that say the same. -/
theorem exists_units_of_saysAs {code copy : String} {tokens others : List Token}
    (htokens : tokenize code.toList = .ok tokens) (hothers : tokenize copy.toList = .ok others)
    (hagree : (Outline.ofCells copy.toList (cellsOf others)).SaysAs
      (Outline.ofCells code.toList (cellsOf tokens))) :
    ∃ unit other, read code = .ok unit ∧ read copy = .ok other ∧ other.docs = unit.docs ∧
      other.nodes.map (Node.withSpan none) = unit.nodes.map (Node.withSpan none) ∧
      other.unexpanded.length = unit.unexpanded.length := by
  obtain ⟨unit, hunit, hdocs, hnodes, hunexpanded⟩ := read_of_tokenize htokens
  obtain ⟨other, hother, hdocs', hnodes', hunexpanded'⟩ := read_of_tokenize hothers
  refine ⟨unit, other, hunit, hother, ?_, ?_, ?_⟩
  · rw [hdocs', hdocs, hagree.docs]
  · rw [hnodes', hnodes, hagree.nodes]
  · rw [hunexpanded', hunexpanded, hagree.unexpanded]

/-- The layout of a source does not matter. Where a line is broken in front of a token or behind
one, the tokens keep their classes, texts and values; the documentation is the same, and so are the
declarations and the number of unexpanded calls, apart from their places. A break that would turn
the start of an inner attribute into an interpreter line is left out. -/
theorem read_breakLine {code : String} {tokens : List Token}
    (htokens : tokenize code.toList = .ok tokens) {place : Nat} (hplace : IsEdge tokens place)
    (hmark : ¬(place = 2 ∧ ['#', '!', '['] <+: code.toList)) :
    ∃ others unit other,
      tokenize (breakLine place code.toList) = .ok others ∧
      others.map Token.face = tokens.map Token.face ∧
      read code = .ok unit ∧
      read (String.ofList (breakLine place code.toList)) = .ok other ∧
      other.docs = unit.docs ∧
      other.nodes.map (Node.withSpan none) = unit.nodes.map (Node.withSpan none) ∧
      other.unexpanded.length = unit.unexpanded.length := by
  obtain ⟨others, hothers, hfaces⟩ := exists_tokens_of_breakLine htokens hplace hmark
  have hbroken : tokenize (String.ofList (breakLine place code.toList)).toList = .ok others := by
    rw [String.toList_ofList, hothers]
  obtain ⟨unit, other, hunits⟩ :=
    exists_units_of_saysAs htokens hbroken (Outline.saysAs_of_faces hfaces _ _)
  exact ⟨others, unit, other, hothers, hfaces, hunits⟩

/-- A line may be broken between a lifetime and the bracket behind it, and the function in front of
them is still found. -/
theorem read_breakLine_lifetime :
    let code := "pub fn f<'a>() {}"
    ∃ tokens, tokenize code.toList = .ok tokens ∧ IsEdge tokens 11 ∧
      ¬(11 = 2 ∧ ['#', '!', '['] <+: code.toList) ∧
      ∃ others unit other,
        tokenize (breakLine 11 code.toList) = .ok others ∧
        others.map Token.face = tokens.map Token.face ∧
        read code = .ok unit ∧
        read (String.ofList (breakLine 11 code.toList)) = .ok other ∧
        other.docs = unit.docs ∧
        other.nodes.map (Node.withSpan none) = unit.nodes.map (Node.withSpan none) ∧
        other.unexpanded.length = unit.unexpanded.length := by
  intro code
  have hedge : (tokenize code.toList).toOption.map (decide <| IsEdge · 11) = some true := by
    unfold code
    decide +kernel
  have hmark : ¬(11 = 2 ∧ ['#', '!', '['] <+: code.toList) := by
    intro hboth
    exact absurd hboth.1 (by decide)
  cases htokens : tokenize code.toList with
  | error fault =>
      rw [htokens] at hedge
      cases hedge
  | ok tokens =>
      rw [htokens] at hedge
      have hplace : IsEdge tokens 11 := of_decide_eq_true (Option.some.inj hedge)
      exact ⟨tokens, rfl, hplace, hmark, read_breakLine htokens hplace hmark⟩

end CrateReadme.Source
