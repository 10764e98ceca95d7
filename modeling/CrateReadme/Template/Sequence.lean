import CrateReadme.Template.Value
import CrateReadme.Text.Rounded

/-!
# Sequences

The items of a value, one by one or all at once. Lists are followed while they change; tables must
keep their size while their items are taken; the items of an iterator can be taken only once.
-/

namespace CrateReadme.Template

/-- The number of integers from `start` on, in steps, before `stop`. -/
def rangeLength (start stop step : Int) : Nat :=
  if 0 < step then ((stop - start + step - 1).fdiv step).toNat
  else ((start - stop - step - 1).fdiv (-step)).toNat

def rangeItems (start step : Int) (count : Nat) : List Value :=
  (List.range count).map fun (n : Nat) => .int (start + step * n)

namespace Cursor

def ofEntry (part : TablePart) (entry : Value × Value) : Value :=
  match part with
  | .keys => entry.1
  | .values => entry.2
  | .items => .tuple [entry.1, entry.2]

def next? : Cursor → Run (Option (Value × Cursor))
  | .items [] => return none
  | .items (item :: left) => return some (item, .items left)
  | .list ref place => do
    return (← Run.listItems ref)[place]?.map fun item => (item, .list ref (place + 1))
  | .table part ref place size => do
    let entries ← Run.entries ref
    if entries.length ≠ size then
      Run.fault .state
    return entries[place]?.map fun entry => (ofEntry part entry, .table part ref (place + 1) size)
  | .range _ _ 0 => return none
  | .range next step (left + 1) => return some (.int next, .range (next + step) step left)
  | .iterator ref => do
    match (← get).objects[ref]? with
    | some (.iterator (item :: left) failure) =>
      Run.replace ref (.iterator left failure)
      return some (item, .iterator ref)
    | some (.iterator [] (some cause)) =>
      Run.replace ref (.iterator [] none)
      throw cause
    | _ => return none

def rest : Cursor → Run (List Value)
  | .items left => return left
  | .list ref place => return (← Run.listItems ref).drop place
  | .table part ref place _ => return ((← Run.entries ref).drop place).map (ofEntry part)
  | .range next step left => return rangeItems next step left
  | .iterator ref => do
    match (← get).objects[ref]? with
    | some (.iterator left failure) =>
      Run.replace ref (.iterator [] none)
      match failure with
      | some cause => throw cause
      | none => return left
    | _ => return []

end Cursor

namespace LoopState

/-- Takes the next item of a loop. -/
def advance (ref : Nat) : Run (Option Value) := do
  let state ← Run.loopState ref
  let found? ←
    match state.next with
    | some item => pure (some (item, state.cursor))
    | none => state.cursor.next?
  match found? with
  | some (item, cursor) =>
    Run.replace ref (.loop { state with
      cursor, index := state.index + 1, previous := state.current, current := item, next := none })
    return some item
  | none => return none

/-- The next item of a loop, which is not yet taken. -/
def peek (ref : Nat) : Run (Option Value) := do
  let state ← Run.loopState ref
  match state.next with
  | some item => return some item
  | none =>
    match ← state.cursor.next? with
    | some (item, cursor) =>
      Run.replace ref (.loop { state with cursor, next := some item })
      return some item
    | none => return none

def drain (ref : Nat) : Run (List Value) := do
  let state ← Run.loopState ref
  let left ← state.cursor.rest
  let items := state.next.toList ++ left
  Run.replace ref (.loop { state with
    cursor := .items [], index := state.index + items.length, next := none
    previous := (items.dropLast.getLast?).getD state.current
    current := items.getLast?.getD state.current })
  return items

def count (ref : Nat) : Run Nat := do
  let state ← Run.loopState ref
  match state.length with
  | some length => return length
  | none =>
    let size? ←
      match state.source with
      | .text value | .markup value => pure (some value.length)
      | .bytes value => pure (some value.length)
      | .list source => pure (some (← Run.listItems source).length)
      | .tuple items => pure (some items.length)
      | .group _ _ => pure (some 2)
      | .table source | .view _ source => pure (some (← Run.entries source).length)
      | .range start stop step => pure (some (rangeLength start stop step))
      | .blank _ => pure (some 0)
      | _ => pure none
    match size? with
    | some length =>
      Run.replace ref (.loop { state with length := some length })
      return length
    | none =>
      let left ← state.cursor.rest
      let length := left.length + (state.index + 1).toNat + (if state.next.isSome then 1 else 0)
      Run.replace ref (.loop { state with cursor := .items left, length := some length })
      return length

end LoopState

namespace Value

def cursor : Value → Run Cursor
  | text value | markup value => return .items (value.map fun c => text [c])
  | bytes value => return .items (value.map fun byte => int byte.toNat)
  | list ref => return .list ref 0
  | tuple items => return .items items
  | group key members => return .items [key, members]
  | table ref => return .table .keys ref 0 (← Run.entries ref).length
  | view side ref => return .table side ref 0 (← Run.entries ref).length
  | range start stop step => return .range start step (rangeLength start stop step)
  | iterator ref => return .iterator ref
  | blank _ => return .items []
  | loop ref => return .items ((← LoopState.drain ref).map fun item => tuple [item, loop ref])
  | value => Run.reject value

def items (value : Value) : Run (List Value) := do
  (← value.cursor).rest

def length : Value → Run Nat
  | text value | markup value => return value.length
  | bytes value => return value.length
  | list ref => return (← Run.listItems ref).length
  | tuple items => return items.length
  | group _ _ => return 2
  | table ref | view _ ref => return (← Run.entries ref).length
  | range start stop step => return rangeLength start stop step
  | blank _ => return 0
  | loop ref => LoopState.count ref
  | value => Run.reject value

def truth : Value → Run Bool
  | none | blank _ => return false
  | bool value => return value
  | int value => return value ≠ 0
  | float value => return !value.isZero
  | undefined message => Run.fail message
  | text value | markup value => return value ≠ []
  | bytes value => return value ≠ []
  | tuple items => return !items.isEmpty
  | list ref => return !(← Run.listItems ref).isEmpty
  | table ref | view _ ref => return !(← Run.entries ref).isEmpty
  | range start stop step => return rangeLength start stop step ≠ 0
  | loop ref => return (← LoopState.count ref) ≠ 0
  | _ => return true

/-- The items of a value from the last to the first, if it can be gone through backwards. -/
def backwards : Value → Run (List Value)
  | iterator _ | loop _ => Run.fault .kind
  | value => return (← value.items).reverse

end Value

end CrateReadme.Template
