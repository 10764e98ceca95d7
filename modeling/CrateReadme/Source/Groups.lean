import CrateReadme.Source.Token

/-!
# Bracket groups

A declaration is read from a list of tokens in which every opening bracket knows how many tokens its
group has. Skipping a group, or running to the end of a declaration, is then a matter of dropping
tokens; what remains is never longer than what was there.
-/

namespace CrateReadme.Source

/-- A token with the number of tokens of the group that it opens; one for any other token. -/
structure Cell where
  token : Token
  extent : Nat
  deriving Repr, Inhabited

/-- Whether the token of a cell is written exactly as `text`. -/
def Cell.reads (cell : Cell) (text : String) : Bool :=
  cell.token.reads text

/-- The cells of some tokens, and for each closing bracket without a partner among them, the
innermost first, the number of tokens after it. -/
def cellsAndClosings : List Token → List Cell × List Nat
  | [] => ([], [])
  | token :: tokens =>
    let (cells, closings) := cellsAndClosings tokens
    match token.cls with
    | .closing => (⟨token, 1⟩ :: cells, tokens.length :: closings)
    | .opening =>
      match closings with
      | [] => (⟨token, 1⟩ :: cells, [])
      | remaining :: outer => (⟨token, tokens.length + 1 - remaining⟩ :: cells, outer)
    | _ => (⟨token, 1⟩ :: cells, closings)

def cellsOf (tokens : List Token) : List Cell :=
  (cellsAndClosings tokens).1

/-- The class of the token `ahead` places after the first. -/
def classAt (cells : List Cell) (ahead : Nat) : Option TokenClass :=
  cells[ahead]?.map fun cell => cell.token.cls

/-- Whether the token `ahead` places after the first is written as `text`. -/
def readsAt (cells : List Cell) (text : String) (ahead : Nat) : Bool :=
  match cells[ahead]? with
  | some cell => cell.reads text
  | none => false

/-- The name that the word `ahead` places after the first spells, if there is a word. -/
def nameAt? (cells : List Cell) (ahead : Nat) : Option (List Char) :=
  match cells[ahead]? with
  | some cell => if cell.token.cls = .word then some (plainName cell.token.text) else none
  | none => none

/-- What follows the group that the first cell opens. -/
def afterGroup : List Cell → List Cell
  | [] => []
  | cell :: rest => rest.drop (cell.extent - 1)

/-- The inside of the group that the first cell opens. -/
def groupBody : List Cell → List Cell
  | [] => []
  | cell :: rest => rest.take (cell.extent - 2)

theorem afterGroup_length_le (cell : Cell) (rest : List Cell) :
    (afterGroup (cell :: rest)).length ≤ rest.length := by
  simp [afterGroup]

/-- What follows the next semicolon outside brackets. -/
def afterSemicolon (cells : List Cell) : List Cell :=
  match cells with
  | [] => []
  | cell :: rest =>
    if cell.token.cls = .opening then
      afterSemicolon (afterGroup (cell :: rest))
    else if cell.reads ";" then
      rest
    else
      afterSemicolon rest
termination_by cells.length
decreasing_by
  · exact Nat.lt_succ_of_le (afterGroup_length_le cell rest)
  · simp

/-- What follows the next semicolon or braces group outside other brackets. -/
def afterBody (cells : List Cell) : List Cell :=
  match cells with
  | [] => []
  | cell :: rest =>
    if cell.reads "\x7b" then
      afterGroup (cell :: rest)
    else if cell.token.cls = .opening then
      afterBody (afterGroup (cell :: rest))
    else if cell.reads ";" then
      rest
    else
      afterBody rest
termination_by cells.length
decreasing_by
  · exact Nat.lt_succ_of_le (afterGroup_length_le cell rest)
  · simp

theorem afterSemicolon_length_le (cells : List Cell) :
    (afterSemicolon cells).length ≤ cells.length := by
  fun_induction afterSemicolon cells with
  | case1 => simp
  | case2 cell rest _ ih =>
    have := afterGroup_length_le cell rest
    simp only [List.length_cons]
    omega
  | case3 => simp
  | case4 cell rest _ _ ih =>
    simp only [List.length_cons]
    omega

theorem afterBody_length_le (cells : List Cell) : (afterBody cells).length ≤ cells.length := by
  fun_induction afterBody cells with
  | case1 => simp
  | case2 cell rest _ =>
    have := afterGroup_length_le cell rest
    simp only [List.length_cons]
    omega
  | case3 cell rest _ _ ih =>
    have := afterGroup_length_le cell rest
    simp only [List.length_cons]
    omega
  | case4 => simp
  | case5 cell rest _ _ _ ih =>
    simp only [List.length_cons]
    omega

/-- A whole declaration up to its semicolon is shorter by at least one token. -/
theorem afterSemicolon_cons_length_le (cell : Cell) (rest : List Cell) :
    (afterSemicolon (cell :: rest)).length ≤ rest.length := by
  rw [afterSemicolon]
  have := afterGroup_length_le cell rest
  split
  · exact Nat.le_trans (afterSemicolon_length_le _) this
  · split
    · exact Nat.le_refl _
    · exact afterSemicolon_length_le rest

/-- A whole declaration up to its body is shorter by at least one token. -/
theorem afterBody_cons_length_le (cell : Cell) (rest : List Cell) :
    (afterBody (cell :: rest)).length ≤ rest.length := by
  rw [afterBody]
  have := afterGroup_length_le cell rest
  split
  · exact this
  · split
    · exact Nat.le_trans (afterBody_length_le _) this
    · split
      · exact Nat.le_refl _
      · exact afterBody_length_le rest

end CrateReadme.Source
