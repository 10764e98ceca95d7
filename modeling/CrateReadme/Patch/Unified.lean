import CrateReadme.Patch.Matching
import CrateReadme.Terminal.Style
import CrateReadme.Text.Basic

/-!
# Patches

A patch shows how one text turns into another: lines that go, lines that come, and three lines
around every change.
-/

namespace CrateReadme.Patch

/-- What becomes of a range of the first sequence. -/
inductive Change where
  | keep
  | replace
  | delete
  | insert
  deriving DecidableEq, Repr, Inhabited

/-- A change of a range of the first sequence to a range of the second. -/
structure Edit where
  change : Change
  leftLow : Nat
  leftHigh : Nat
  rightLow : Nat
  rightHigh : Nat
  deriving DecidableEq, Repr, Inhabited

def editsFrom (leftSize rightSize : Nat) : (left right : Nat) → List Run → List Edit
  | left, right, [] => gap left leftSize right rightSize
  | left, right, run :: runs =>
    gap left run.left right run.right ++
      ⟨.keep, run.left, run.left + run.size, run.right, run.right + run.size⟩ ::
        editsFrom leftSize rightSize (run.left + run.size) (run.right + run.size) runs
where
  /-- The edit of what lies between two runs, if anything does. -/
  gap (leftLow leftHigh rightLow rightHigh : Nat) : List Edit :=
    if leftLow < leftHigh ∧ rightLow < rightHigh then
      [⟨.replace, leftLow, leftHigh, rightLow, rightHigh⟩]
    else if leftLow < leftHigh then
      [⟨.delete, leftLow, leftHigh, rightLow, rightHigh⟩]
    else if rightLow < rightHigh then
      [⟨.insert, leftLow, leftHigh, rightLow, rightHigh⟩]
    else
      []

/-- How many lines around a change are shown. -/
def contextSize : Nat :=
  3

/-- Shortens what is kept before the first change. -/
def trimFirst : List Edit → List Edit
  | [] => []
  | edit :: edits =>
    if edit.change = .keep then
      { edit with
        leftLow := max edit.leftLow (edit.leftHigh - contextSize)
        rightLow := max edit.rightLow (edit.rightHigh - contextSize) } :: edits
    else
      edit :: edits

/-- Shortens what is kept after a change. -/
def trimLast (edit : Edit) : Edit :=
  { edit with
    leftHigh := min edit.leftHigh (edit.leftLow + contextSize)
    rightHigh := min edit.rightHigh (edit.rightLow + contextSize) }

/-- Shortens what is kept behind the last change. -/
def trimFinal (edits : List Edit) : List Edit :=
  match edits.getLast? with
  | some last => if last.change = .keep then edits.dropLast ++ [trimLast last] else edits
  | none => edits

/-- Splits edits into groups where more is kept than twice the lines around a change. `group` holds
the current group in reverse. -/
def groups : (group : List Edit) → List Edit → List (List Edit)
  | group, [] =>
    match group with
    | [] => []
    | [edit] => if edit.change = .keep then [] else [[edit]]
    | group => [group.reverse]
  | group, edit :: edits =>
    if edit.change = .keep ∧ 2 * contextSize < edit.leftHigh - edit.leftLow then
      let rest : Edit :=
        { edit with
          leftLow := max edit.leftLow (edit.leftHigh - contextSize)
          rightLow := max edit.rightLow (edit.rightHigh - contextSize) }
      (trimLast edit :: group).reverse :: groups [rest] edits
    else
      groups (edit :: group) edits

/-- A range of lines as the head of a group shows it: the first line and the number of lines. -/
def range (low high : Nat) : String :=
  let length := high - low
  if length = 1 then Text.decimalString (low + 1)
  else
    let first := if length = 0 then low else low + 1
    Text.decimalString first ++ "," ++ Text.decimalString length

/-- The lines from `low` up to `high` with a mark in front. -/
def marked (mark : String) (lines : Array String) (low high : Nat) : List String :=
  (lines.extract low high).toList.map (mark ++ ·)

def Edit.lines (left right : Array String) (edit : Edit) : List String :=
  match edit.change with
  | .keep => marked " " left edit.leftLow edit.leftHigh
  | _ =>
    marked "-" left edit.leftLow edit.leftHigh ++ marked "+" right edit.rightLow edit.rightHigh

def groupLines (left right : Array String) (group : List Edit) : List String :=
  let first := group.head?.getD default
  let last := group.getLast?.getD default
  let head := "@@ -" ++ range first.leftLow last.leftHigh ++ " +" ++
    range first.rightLow last.rightHigh ++ " @@\n"
  head :: group.flatMap (Edit.lines left right)

def linesOf (text : String) : Array String :=
  ((Text.linesWithBreaks text.toList).map String.ofList).toArray

/-- The patch that turns the text of a file into another one; empty if they are equal. -/
def unified (current expected filename : String) : List String :=
  let left := linesOf current
  let right := linesOf expected
  let edits := editsFrom left.size right.size 0 0 (commonRuns left right)
  match groups [] (trimFinal (trimFirst edits)) with
  | [] => []
  | found =>
    ["--- " ++ filename ++ " (current)\n", "+++ " ++ filename ++ " (expected)\n"] ++
      found.flatMap (groupLines left right)

def lineStyle (line : List Char) : Terminal.Style :=
  match line with
  | '-' :: _ => Terminal.Style.bold ++ Terminal.Style.red
  | '+' :: _ => Terminal.Style.bold ++ Terminal.Style.green
  | '@' :: _ => .cyan
  | _ => []

/-- A line of a patch as it prints: carriage returns are made visible. -/
def reportLine (colored : Bool) (line : String) : String :=
  let content := (Text.trimEnd (· = '\n') line.toList).flatMap fun c =>
    if c = '\r' then ['\\', 'r'] else [c]
  let style := lineStyle content
  if colored ∧ style ≠ [] then style.paint (String.ofList content) else String.ofList content

def report (colored : Bool) (lines : List String) : String :=
  String.join (lines.map fun line => reportLine colored line ++ "\n")

def splitLines (text : String) : List String :=
  (Text.linesWithBreaks text.toList).map fun line =>
    String.ofList (match line.reverse with
      | '\n' :: '\r' :: rest => rest.reverse
      | c :: rest => if Text.isLineBreak c then rest.reverse else line
      | [] => line)

end CrateReadme.Patch
