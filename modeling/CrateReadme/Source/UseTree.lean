import CrateReadme.Source.Groups
import CrateReadme.Source.Item

/-!
# Reading `use` trees

A tree is read from the tokens after the word `use`. Reading is lenient: what makes no sense is
passed over, and a branch without an end is left out.
-/

namespace CrateReadme.Source.UseTree

mutual

/-- Reads a tree at the start of `cells`. The answer holds the tree, if there is one, and what
follows it. -/
def read (cells : List Cell) : Option UseTree × List Cell :=
  match cells with
  | [] => (none, [])
  | cell :: rest =>
    if cell.reads "::" then
      match rest with
      | [] => (none, [])
      | next :: more =>
        if next.token.cls = .word then
          readAfterWord (':' :: ':' :: next.token.text) more
        else
          read (next :: more)
    else if cell.reads "*" then
      (some .glob, rest)
    else if cell.reads "\x7b" then
      let after := afterGroup (cell :: rest)
      (some (.group (readMembers (after.length + 1) rest)), after)
    else if cell.token.cls = .word then
      readAfterWord cell.token.text rest
    else
      (none, cell :: rest)
termination_by (cells.length, 0)
decreasing_by
  all_goals exact Prod.Lex.left _ _ (by simp only [List.length_cons]; omega)

/-- Reads what follows the first word of a tree: the rest of a path, a new name, or nothing. -/
def readAfterWord (text : List Char) (cells : List Cell) : Option UseTree × List Cell :=
  let ident := String.ofList (plainName text)
  match cells with
  | [] => (some (.name ident), [])
  | cell :: rest =>
    if cell.reads "::" then
      let (tail?, after) := read rest
      (tail?.map (.path ident), after)
    else if cell.reads "as" then
      ((nameAt? rest 0).map fun newName => .rename ident (String.ofList newName), rest.drop 1)
    else
      (some (.name ident), cell :: rest)
termination_by (cells.length, 1)
decreasing_by exact Prod.Lex.left _ _ (Nat.lt_succ_self rest.length)

/-- Reads the members of a group. The group ends where no more than `outside` tokens remain. -/
def readMembers (outside : Nat) (cells : List Cell) : List UseTree :=
  match cells with
  | [] => []
  | cell :: rest =>
    if rest.length + 1 ≤ outside then
      []
    else if cell.reads "," then
      readMembers outside rest
    else
      let (member?, after) := read (cell :: rest)
      let following :=
        if after.length < rest.length + 1 then
          readMembers outside after
        else
          readMembers outside rest
      match member? with
      | some member => member :: following
      | none => following
termination_by (cells.length, 1)
decreasing_by
  · exact Prod.Lex.left _ _ (Nat.lt_succ_self rest.length)
  · exact Prod.Lex.right _ Nat.zero_lt_one
  · exact Prod.Lex.left _ _ (by assumption)
  · exact Prod.Lex.left _ _ (Nat.lt_succ_self rest.length)

end

mutual

theorem read_length_le (cells : List Cell) : (read cells).2.length ≤ cells.length := by
  unfold read
  split
  · simp
  · rename_i cell rest
    split
    · split
      · simp
      · rename_i next more
        split
        · have := readAfterWord_length_le (':' :: ':' :: next.token.text) more
          simp only [List.length_cons]
          omega
        · have := read_length_le (next :: more)
          simp only [List.length_cons] at *
          omega
    · split
      · simp
      · split
        · exact Nat.le_succ_of_le (afterGroup_length_le cell rest)
        · split
          · exact Nat.le_succ_of_le (readAfterWord_length_le cell.token.text rest)
          · exact Nat.le_refl _
termination_by (cells.length, 0)
decreasing_by
  all_goals
    subst_vars
    exact Prod.Lex.left _ _ (by simp only [List.length_cons]; omega)

theorem readAfterWord_length_le (text : List Char) (cells : List Cell) :
    (readAfterWord text cells).2.length ≤ cells.length := by
  unfold readAfterWord
  simp only
  split
  · simp
  · rename_i cell rest
    split
    · exact Nat.le_succ_of_le (read_length_le rest)
    · split
      · simp only [List.length_drop, List.length_cons]
        omega
      · exact Nat.le_refl _
termination_by (cells.length, 1)
decreasing_by
  subst_vars
  exact Prod.Lex.left _ _ (Nat.lt_succ_self _)

end

end CrateReadme.Source.UseTree
