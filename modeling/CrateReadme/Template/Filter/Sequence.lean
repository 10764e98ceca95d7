import CrateReadme.Template.Filter.Text
import CrateReadme.Template.Test

/-!
# Filters on sequences

Filters that take the items of a value: they choose, sort, group and join them. Items may be looked
at through one of their members. Several of these filters only start when their result is used, so
that their failures come up there.
-/

namespace CrateReadme.Template.Filter

def memberSteps : Value → Run (List Value)
  | .none => return []
  | value =>
    match value.chars? with
    | some chars =>
      (Text.splitOn ['.'] chars).mapM fun word =>
        if !word.isEmpty && word.all Text.isDigitLike then
          match Text.natural? 10 word with
          | some place => return .int place
          | none => Run.fault .value
        else return .text word
    | none => return [value]

/-- A text in lowercase; other values stay as they are. -/
def withoutCase : Value → Value
  | .text chars => .text (Text.lower chars)
  | .markup chars => .markup (Text.lower chars)
  | value => value

/-- The part of a value to which steps lead. Where a step leads nowhere, the default takes its
place. -/
def follow (default : Option Value) (value : Value) (steps : List Value) : Run Value :=
  steps.foldlM (fun value step => do
    let found ← value.item step
    match default, found.isDefined with
    | some default, false => return default
    | _, _ => return found) value

/-- How items are looked at: through a member, possibly with a default, and with or without regard
to letter case. -/
structure Look where
  steps : List Value
  default : Option Value
  hasCase : Bool

def Look.apply (look : Look) (item : Value) : Run Value := do
  let found ← follow look.default item look.steps
  return if look.hasCase then found else withoutCase found

def lookOf (bound : Bound) : Run Look := do
  return ⟨← memberSteps (bound.get "attribute" .none), bound.optional? "default",
    ← bound.flag "case_sensitive"⟩

/-- An iterator over items that are made only when they are used. -/
def lazily {α : Type} (source : Run (List α)) (make : α → Run (Option Value)) : Run Value := do
  match ← Run.attempt source with
  | .ok items => Run.newIteratorFrom make items
  | .error cause => Run.brokenIterator cause

def first (value : Value) : Run Value := do
  match ← (← value.cursor).next? with
  | some (item, _) => return item
  | none => return .undefined "No first item, sequence was empty."

def last (value : Value) : Run Value := do
  match ← value.backwards with
  | item :: _ => return item
  | [] => return .undefined "No last item, sequence was empty."

def anyItem (value : Value) : Run Value := do
  if (← value.length) = 0 then return .undefined "No random item, sequence was empty."
  else value.subscript (.int 0)

def reverse (value : Value) : Run Value := do
  match value with
  | .text chars => return .text chars.reverse
  | .markup chars => return .markup chars.reverse
  | .iterator _ | .loop _ => Run.newList (← value.items).reverse
  | value =>
    match ← Run.attempt value.items with
    | .ok items => Run.newIterator items.reverse
    | .error (.fault .kind) => Run.fail "argument must be iterable"
    | .error cause => throw cause

def itemsOrMembers (value : Value) (bound : Bound) : Run (List Value) := do
  match bound.optional? "attribute" with
  | some description =>
    let steps ← memberSteps description
    (← value.items).mapM fun item => follow none item steps
  | none => value.items

/-- Joins the texts of items. Where values are escaped, the result is markup if one of them is. -/
def join : Action := fun value arguments => do
  let bound ← arguments.bind 0 ["d", "attribute"]
  let separator := bound.get "d" (.text [])
  if (← get).escapes then
    let items ← itemsOrMembers value bound
    if isMarkup separator || items.any isMarkup then
      let parts ← items.mapM Value.escaped
      return .markup (Text.joinWith (← separator.escaped) parts)
    return .text (Text.joinWith (← separator.shown) (← items.mapM Value.shown))
  let joint ← separator.shown
  return .text (Text.joinWith joint (← (← itemsOrMembers value bound).mapM Value.shown))

def sum : Action := fun value arguments => do
  let bound ← arguments.bind 0 ["attribute", "start"]
  let items ← itemsOrMembers value bound
  match bound.get "start" (.int 0) with
  | .text _ | .markup _ | .bytes _ => Run.fault .kind
  | start => items.foldlM (binary .add) start

/-- The first item that no other one comes before. -/
def extreme (op : CompareOp) : Action := fun value arguments => do
  let bound ← arguments.bind 0 ["case_sensitive", "attribute"]
  match ← value.items with
  | [] => return .undefined "No aggregated item, sequence was empty."
  | item :: items =>
    let look ← lookOf bound
    let start := (item, ← look.apply item)
    let (found, _) ← items.foldlM (fun best item => do
      let key ← look.apply item
      return if ← key.ordered op best.2 then (item, key) else best) start
    return found

def keysBefore (a b : List Value) : Run Bool := do
  match a, b with
  | x :: xs, y :: ys => if ← x.equal y then keysBefore xs ys else x.ordered .lt y
  | xs, ys => return xs.length < ys.length

/-- The argument that says whether items are sorted the other way round. It is a number. -/
def isReversed (bound : Bound) : Run Bool := do
  return (← (bound.get "reverse" (.bool false)).index) ≠ 0

def sortPairs {α β : Type} (before : α → α → Run Bool) (isReverse : Bool) (pairs : List (α × β)) :
    Run (List β) := do
  let sorted ← Run.sortBy (fun a b => if isReverse then before b.1 a.1 else before a.1 b.1) pairs
  return sorted.map Prod.snd

/-- Sorts items, by one or several of their members. -/
def sort : Action := fun value arguments => do
  let bound ← arguments.bind 0 ["reverse", "case_sensitive", "attribute"]
  let description := bound.get "attribute" .none
  let hasCase ← bound.flag "case_sensitive"
  let looks ← match description.chars? with
    | some chars => (Text.splitOn [','] chars).mapM fun part => memberSteps (.text part)
    | none => do pure [← memberSteps description]
  let items ← value.items
  let isReverse ← isReversed bound
  let pairs ← items.mapM fun item => do
    let keys ← looks.mapM fun steps => (Look.mk steps none hasCase).apply item
    return (keys, item)
  Run.newList (← sortPairs keysBefore isReverse pairs)

/-- Sorts the entries of a table by keys or values. -/
def dictsort : Action := fun value arguments => do
  let bound ← arguments.bind 0 ["case_sensitive", "by", "reverse"]
  let byKey ←
    match (bound.get "by" (.text "key".toList)).chars?.map String.ofList with
    | some "key" => pure true
    | some "value" => pure false
    | _ => Run.fail "You can only sort by either \"key\" or \"value\""
  match value with
  | .table ref =>
    let hasCase ← bound.flag "case_sensitive"
    let pairs := (← Run.entries ref).map fun (key, value) =>
      let sorted := if byKey then key else value
      (if hasCase then sorted else withoutCase sorted, Value.tuple [key, value])
    Run.newList (← sortPairs (Value.ordered .lt) (← isReversed bound) pairs)
  | value => if value.isDefined then Run.fault .member else Run.reject value

/-- The items that no other one before them equals. -/
def distinct (look : Look) : (seen : List Value) → List Value → Run (List Value)
  | _, [] => return []
  | seen, item :: items => do
    let key ← look.apply item
    key.requireKey
    if ← key.isAmong seen then distinct look seen items
    else return item :: (← distinct look (key :: seen) items)

/-- Leaves out items that were there before. -/
def unique : Action := fun value arguments => do
  let bound ← arguments.bind 0 ["case_sensitive", "attribute"]
  lazily (do distinct (← lookOf bound) [] (← value.items)) fun item => return some item

/-- Items with neighbours of equal keys put together, behind a group, given in reverse. -/
def groupNeighbours : (group : List Value) → (key : Value) → List (Value × Value) →
    Run (List (Value × List Value))
  | group, key, [] => return [(key, group.reverse)]
  | group, key, (other, item) :: pairs => do
    if ← key.equal other then groupNeighbours (item :: group) key pairs
    else return (key, group.reverse) :: (← groupNeighbours [item] other pairs)

/-- Groups items by a member. A group is named by the member of its first item. -/
def groupby : Action := fun value arguments => do
  let bound ← arguments.bind 1 ["attribute", "default", "case_sensitive"]
  let look ← lookOf bound
  let pairs ← (← value.items).mapM fun item => do
    let key ← look.apply item
    return (key, (key, item))
  match ← sortPairs (Value.ordered .lt) false pairs with
  | [] => Run.newList []
  | (key, item) :: sorted =>
    let groups ← groupNeighbours [item] key sorted
    let named ← groups.mapM fun (key, members) => do
      let shown ←
        match look.hasCase, members with
        | false, item :: _ => follow look.default item look.steps
        | _, _ => pure key
      return Value.group shown (← Run.newList members)
    Run.newList named

/-- Puts items into rows of a number of items; the last row may be filled up. -/
def batch : Action := fun value arguments => do
  let bound ← arguments.bind 1 ["linecount", "fill_with"]
  let count := bound.get "linecount" .none
  let rows : Run (List (List Value)) := do
    let (rows, row) ← (← value.items).foldlM (fun (rows, row) item => do
      if ← (Value.int (row : List Value).length).equal count then return (row :: rows, [item])
      else return (rows, row ++ [item])) (([] : List (List Value)), ([] : List Value))
    if row.isEmpty then
      return rows.reverse
    match bound.optional? "fill_with" with
    | some fill =>
      if ← (Value.int row.length).ordered .lt count then
        let room := (← count.index).toNat - row.length
        return ((row ++ List.replicate room fill) :: rows).reverse
      else
        return (row :: rows).reverse
    | none => return (row :: rows).reverse
  lazily rows fun row => do return some (← Run.newList row)

/-- Puts items into a number of columns; the shorter ones may be filled up. -/
def slice : Action := fun value arguments => do
  let bound ← arguments.bind 1 ["slices", "fill_with"]
  let count := bound.get "slices" .none
  let columns : Run (List (List Value)) := do
    let items ← value.items
    let size ← binary .floorDiv (.int items.length) count
    let extra ← binary .mod (.int items.length) count
    let count ← count.index
    let size ← size.index
    let extra ← extra.index
    return (List.range count.toNat).map fun (place : Nat) =>
      let start := place * size.toNat + min place extra.toNat
      let column := (items.drop start).take (size.toNat + (if place < extra.toNat then 1 else 0))
      match bound.optional? "fill_with" with
      | some fill => if extra.toNat ≤ place then column ++ [fill] else column
      | none => column
  lazily columns fun column => do return some (← Run.newList column)

def items (value : Value) : Run Value :=
  let source : Run (List Value) := do
    match value with
    | .table ref => return (← Run.entries ref).map (Cursor.ofEntry .items)
    | .undefined _ | .blank _ => return []
    | _ => Run.fault .kind
  lazily source fun item => return some item

def applyTest (name : Value) (value : Value) (arguments : Arguments) : Run Bool := do
  name.requireKey
  match name.chars?.map String.ofList with
  | some word =>
    if word ∈ testNames then Test.apply word value arguments
    else Run.fail ("No test named " ++ String.ofList (← name.quoted) ++ ".")
  | none => Run.fail ("No test named " ++ String.ofList (← name.quoted) ++ ".")

/-- Chooses the items that pass a test, or else those that do not. The test may be asked about a
member of the items. -/
def choose (wanted byMember : Bool) : Action := fun value arguments => do
  let source : Run (List Value × Look × Arguments) := do
    if ← value.truth then
      let (steps, rest) ←
        match byMember, arguments.positional with
        | true, description :: rest => do pure (← memberSteps description, rest)
        | true, [] => Run.fail "Missing parameter for attribute name"
        | false, rest => pure ([], rest)
      return (← value.items, ⟨steps, none, true⟩, ⟨rest, arguments.named⟩)
    else
      return ([], ⟨[], none, true⟩, arguments)
  match ← Run.attempt source with
  | .error cause => Run.brokenIterator cause
  | .ok (found, look, test) =>
    Run.newIteratorFrom (fun item => do
      let shown ← look.apply item
      let passes ←
        match test.positional with
        | name :: rest => applyTest name shown ⟨rest, test.named⟩
        | [] => shown.truth
      return if passes = wanted then some item else none) found

/-- A value, or a default if it is not defined or, on demand, does not count as true. -/
def default : Action := fun value arguments => do
  let bound ← arguments.bind 0 ["default_value", "boolean"]
  let other := bound.get "default_value" (.text [])
  if !value.isDefined then
    return other
  if (← bound.flag "boolean") && !(← value.truth) then return other else return value

def memberOf : Action := fun value arguments => do
  let bound ← arguments.bind 1 ["name"]
  let word := String.ofList (← (bound.get "name" .none).chars)
  return (← value.member? word).getD (value.withoutMember word)

def onSequence? : String → Option Action
  | "length" | "count" => some (simple fun value => do return .int (← value.length))
  | "first" => some (simple first)
  | "last" => some (simple last)
  | "random" => some (simple anyItem)
  | "list" => some (simple fun value => do Run.newList (← value.items))
  | "reverse" => some (simple reverse)
  | "items" => some (simple items)
  | "join" => some join
  | "sum" => some sum
  | "min" => some (extreme .lt)
  | "max" => some (extreme .gt)
  | "sort" => some sort
  | "dictsort" => some dictsort
  | "unique" => some unique
  | "groupby" => some groupby
  | "batch" => some batch
  | "slice" => some slice
  | "select" => some (choose true false)
  | "reject" => some (choose false false)
  | "selectattr" => some (choose true true)
  | "rejectattr" => some (choose false true)
  | "default" | "d" => some default
  | "attr" => some memberOf
  | _ => none

end CrateReadme.Template.Filter
