import CrateReadme.Template.Sequence
import CrateReadme.Template.Show
import CrateReadme.Text.Basic

/-!
# Comparing values

Numbers are compared by what they are exactly, texts character by character, and lists and tuples
item by item. Tables are equal if they have equal entries in any order. Only values that cannot
change may be keys of tables.
-/

namespace CrateReadme.Template

def compareChars : List Char → List Char → Ordering
  | [], [] => .eq
  | [], _ :: _ => .lt
  | _ :: _, [] => .gt
  | c :: text, d :: other =>
    match compare c.toNat d.toNat with
    | .eq => compareChars text other
    | order => order

def CompareOp.accepts : CompareOp → Ordering → Bool
  | .lt, order => order = .lt
  | .le, order => order ≠ .gt
  | .gt, order => order = .gt
  | .ge, order => order ≠ .lt
  | .ne, order => order ≠ .eq
  | _, order => order = .eq

/-- The order of a floating-point number and an integer. -/
def compareWithInt (number : Binary64) (value : Int) : Option Ordering :=
  match number, number.fraction? with
  | _, some fraction => some (fraction.compare ⟨value, 1⟩)
  | .infinite negative, _ => some (if negative then .lt else .gt)
  | _, _ => none

namespace Value

/-- The order of two numbers, if both values are numbers. What is no number has no order. -/
def numberOrder? : Value → Value → Option (Option Ordering)
  | float a, float b => some (a.compare? b)
  | float a, b => b.integer?.map (compareWithInt a)
  | a, float b => a.integer?.map fun value => (compareWithInt b value).map Ordering.swap
  | a, b => do return some (compare (← a.integer?) (← b.integer?))

def tupleItems? : Value → Option (List Value)
  | tuple items => some items
  | group key members => some [key, members]
  | _ => Option.none

/-- Whether two values that hold no others are equal, or are the same. -/
def plainEqual : Value → Value → Bool
  | none, none => true
  | blank _, blank _ => true
  | bytes a, bytes b => a = b
  | record a, record b | iterator a, iterator b | loop a, loop b | cycler a, cycler b
  | joiner a, joiner b => a = b
  | kind a, kind b => a = b
  | whole a, whole b => a = b
  | part a _, part b _ => a = b
  | routine a scope, routine b other => a.signature.word = b.signature.word && scope = other
  | method a word, method b other => word = other && plainEqual a b
  | range start stop step, range start' stop' step' =>
    let count := rangeLength start stop step
    count = rangeLength start' stop' step' &&
      (count = 0 || start = start' && (count = 1 || step = step'))
  | a, b =>
    match a.chars?, b.chars? with
    | some chars, some others => chars = others
    | _, _ => (a.numberOrder? b).any (· = some .eq)

/-- Whether two values are equal. They may be nested `left` deep. -/
def equalWithin : (left : Nat) → Value → Value → Run Bool
  | 0, _, _ => Run.fault .depth
  | left + 1, a, b => do
    let rec equalItems : List Value → List Value → Run Bool
      | [], [] => return true
      | x :: xs, y :: ys => do
        if ← equalWithin left x y then equalItems xs ys else return false
      | _, _ => return false
    let hasEntry (entries : List (Value × Value)) (entry : Value × Value) : Run Bool :=
      entries.anyM fun other => do
        if ← equalWithin left entry.1 other.1 then equalWithin left entry.2 other.2
        else return false
    match a, b with
    | undefined message, _ | _, undefined message => Run.fail message
    | list x, list y => equalItems (← Run.listItems x) (← Run.listItems y)
    | table x, table y =>
      let entries ← Run.entries x
      let others ← Run.entries y
      if entries.length ≠ others.length then
        return false
      entries.allM (hasEntry others)
    | view .values x, view .values y => return x = y
    | view _ _, view .values _ | view .values _, view _ _ => return false
    | view side x, view other y =>
      let items := (← Run.entries x).map (Cursor.ofEntry side)
      let others := (← Run.entries y).map (Cursor.ofEntry other)
      if items.length ≠ others.length then
        return false
      items.allM fun item => others.anyM (equalWithin left item)
    | a, b =>
      match a.tupleItems?, b.tupleItems? with
      | some items, some others => equalItems items others
      | _, _ => return plainEqual a b

def equal (a b : Value) : Run Bool :=
  equalWithin nestingLimit a b

/-- Whether two values are in the order that a comparison asks for. Items are compared up to the
first that differ. -/
def orderedWithin : (left : Nat) → CompareOp → Value → Value → Run Bool
  | 0, _, _, _ => Run.fault .depth
  | left + 1, op, a, b => do
    let rec orderedItems : List Value → List Value → Run Bool
      | x :: xs, y :: ys => do
        if ← equalWithin left x y then orderedItems xs ys else orderedWithin left op x y
      | xs, ys => return op.accepts (compare xs.length ys.length)
    match a, b with
    | list x, list y => orderedItems (← Run.listItems x) (← Run.listItems y)
    | bytes x, bytes y =>
      let codes (bytes : List UInt8) : List Char := bytes.map fun byte => Char.ofNat byte.toNat
      return op.accepts (compareChars (codes x) (codes y))
    | a, b =>
      match a.chars?, b.chars?, a.tupleItems?, b.tupleItems?, a.numberOrder? b with
      | some chars, some others, _, _, _ => return op.accepts (compareChars chars others)
      | _, _, some items, some others, _ => orderedItems items others
      | _, _, _, _, some order => return order.any op.accepts
      | _, _, _, _, _ => Run.rejectBoth a b

/-- Whether two values are in the order that a comparison asks for. -/
def ordered (op : CompareOp) (a b : Value) : Run Bool :=
  orderedWithin nestingLimit op a b

/-- Fails unless a value can be a key. -/
def requireKeyWithin : (left : Nat) → Value → Run Unit
  | 0, _ => Run.fault .depth
  | left + 1, value =>
    match value with
    | undefined message => Run.fail message
    | list _ | table _ | group _ _ | view .keys _ | view .items _ => Run.fault .kind
    | tuple items => items.forM (requireKeyWithin left)
    | _ => return

/-- Fails unless a value can be a key. -/
def requireKey (value : Value) : Run Unit :=
  requireKeyWithin nestingLimit value

def isAmong (value : Value) (others : List Value) : Run Bool :=
  others.anyM fun other => other.equal value

end Value

abbrev Entries :=
  List (Value × Value)

namespace Entries

/-- Continues to look for a key that is known to be one. -/
def search (key : Value) : Entries → Run (Option Value)
  | [] => return none
  | entry :: entries => do
    if ← entry.1.equal key then return some entry.2 else search key entries

def find? (entries : Entries) (key : Value) : Run (Option Value) := do
  key.requireKey
  search key entries

/-- Continues to set the value under a key that is known to be one. -/
def insert (key value : Value) : Entries → Run Entries
  | [] => return [(key, value)]
  | entry :: entries => do
    if ← entry.1.equal key then return (entry.1, value) :: entries
    else return entry :: (← insert key value entries)

/-- The entries with the value under a key set; a key that is there already keeps its place. -/
def put (entries : Entries) (key value : Value) : Run Entries := do
  key.requireKey
  insert key value entries

def putAll (entries more : Entries) : Run Entries :=
  more.foldlM (fun entries entry => entries.put entry.1 entry.2) entries

def erase (key : Value) (entries : Entries) : Run Entries :=
  entries.filterM fun entry => return !(← entry.1.equal key)

end Entries

namespace Value

def holds (container value : Value) : Run Bool := do
  match container, value with
  | undefined message, _ => Run.fail message
  | text chars, value | markup chars, value =>
    match value.chars? with
    | some pattern => return Text.occursIn pattern chars
    | Option.none => Run.fault .kind
  | table ref, value | view .keys ref, value =>
    value.requireKey
    value.isAmong ((← Run.entries ref).map Prod.fst)
  | bytes all, value =>
    match value.integer? with
    | some byte => return all.any fun other => (other.toNat : Int) = byte
    | Option.none => Run.fault .kind
  | container, value => value.isAmong (← container.items)

def compare (op : CompareOp) (a b : Value) : Run Bool :=
  match op with
  | .eq => equal a b
  | .ne => return !(← equal a b)
  | .isIn => holds b a
  | .notIn => return !(← holds b a)
  | op => ordered op a b

end Value

namespace Run

/-- Inserts an item behind all those of a sorted list that it does not come before. -/
def insertSorted {α : Type} (before : α → α → Run Bool) (item : α) : List α → Run (List α)
  | [] => return [item]
  | other :: items => do
    if ← before item other then return item :: other :: items
    else return other :: (← insertSorted before item items)

/-- A list sorted by an order that may fail. Items of which none comes before the other stay in
order. -/
def sortBy {α : Type} (before : α → α → Run Bool) (items : List α) : Run (List α) :=
  items.foldlM (fun sorted item => insertSorted before item sorted) []

end Run

end CrateReadme.Template
