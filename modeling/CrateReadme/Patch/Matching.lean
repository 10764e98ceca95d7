/-!
# Matching sequences

Two sequences, of lines or of characters, are compared by their longest common run: what lies before
it and behind it is compared in the same way. In long sequences, members that occur very often start
no run; a run may still extend over them.
-/

namespace CrateReadme.Patch

variable {α : Type} [DecidableEq α]

/-- A common run: where it starts in the first and in the second sequence, and its length. -/
structure Run where
  left : Nat
  right : Nat
  size : Nat
  deriving DecidableEq, Repr, Inhabited

/-- Ranges of both sequences: from the lower up to, but not including, the upper bounds. -/
structure Window where
  leftLow : Nat
  leftHigh : Nat
  rightLow : Nat
  rightHigh : Nat

/-- Whether a member occurs so often in a long sequence that it starts no run. -/
def isPopular (right : Array α) (member : α) : Bool :=
  200 ≤ right.size && right.size / 100 + 1 < right.count member

/-- Continues the runs that end before one member of the first sequence with this member. `lengths`
holds the length of the run that ends before each member of the second sequence. -/
def extendRuns (right : Array α) (popular : α → Bool) (window : Window) (member : α)
    (place : Nat) (best : Run) (lengths : Array Nat) : Run × Array Nat :=
  let step (state : Run × Array Nat) (index : Nat) : Run × Array Nat :=
    if right[index]? = some member ∧ ¬popular member then
      let size := lengths[index]?.getD 0 + 1
      let best := state.1
      let best := if best.size < size then ⟨place + 1 - size, index + 1 - size, size⟩ else best
      (best, state.2.setIfInBounds (index + 1) size)
    else
      state
  (List.range' window.rightLow (window.rightHigh - window.rightLow)).foldl step
    (best, Array.replicate (right.size + 1) 0)

def extendFront (left right : Array α) (window : Window) : (count : Nat) → Run → Run
  | 0, run => run
  | count + 1, run =>
    if window.leftLow < run.left ∧ window.rightLow < run.right ∧
        left[run.left - 1]? = right[run.right - 1]? then
      extendFront left right window count ⟨run.left - 1, run.right - 1, run.size + 1⟩
    else
      run

def extendBack (left right : Array α) (window : Window) : (count : Nat) → Run → Run
  | 0, run => run
  | count + 1, run =>
    if run.left + run.size < window.leftHigh ∧ run.right + run.size < window.rightHigh ∧
        left[run.left + run.size]? = right[run.right + run.size]? then
      extendBack left right window count ⟨run.left, run.right, run.size + 1⟩
    else
      run

/-- The longest common run in a window; of several, the first. -/
def longestRun (left right : Array α) (popular : α → Bool) (window : Window) : Run :=
  let start : Run × Array Nat :=
    (⟨window.leftLow, window.rightLow, 0⟩, Array.replicate (right.size + 1) 0)
  let (best, _) := (List.range' window.leftLow (window.leftHigh - window.leftLow)).foldl
    (fun state place =>
      match left[place]? with
      | some member => extendRuns right popular window member place state.1 state.2
      | none => state) start
  extendBack left right window left.size (extendFront left right window left.size best)

/-- The common runs in a window, in order. A window with a run is larger than what lies before and
behind the run, so that `depth`, the number of members, bounds the steps. -/
def runsIn (left right : Array α) (popular : α → Bool) : (depth : Nat) → Window → List Run
  | 0, _ => []
  | depth + 1, window =>
    let run := longestRun left right popular window
    if run.size = 0 then
      []
    else
      runsIn left right popular depth ⟨window.leftLow, run.left, window.rightLow, run.right⟩ ++
        run :: runsIn left right popular depth
          ⟨run.left + run.size, window.leftHigh, run.right + run.size, window.rightHigh⟩

/-- Joins runs that follow each other without a gap. -/
def joinRuns : List Run → List Run
  | [] => []
  | run :: runs =>
    match joinRuns runs with
    | next :: rest =>
      if run.left + run.size = next.left ∧ run.right + run.size = next.right then
        ⟨run.left, run.right, run.size + next.size⟩ :: rest
      else
        run :: next :: rest
    | [] => [run]

/-- The common runs of two sequences, in order. -/
def commonRuns (left right : Array α) : List Run :=
  let popular := (right.toList.eraseDups).filter (isPopular right)
  joinRuns (runsIn left right (· ∈ popular) (left.size + right.size + 1)
    ⟨0, left.size, 0, right.size⟩)

/-- The number of members that two sequences have in common. -/
def matchCount (left right : Array α) : Nat :=
  (commonRuns left right).foldl (fun count run => count + run.size) 0

end CrateReadme.Patch
