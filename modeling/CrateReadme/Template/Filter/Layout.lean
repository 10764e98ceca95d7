import CrateReadme.Template.Filter.Json

/-!
# Values in lines

A value that does not fit into a line is written over several lines: the items of lists and the
entries of tables stand below each other, and long texts are cut at white space. Tables are sorted
by their keys.
-/

namespace CrateReadme.Template.Filter

def lineWidth : Int :=
  80

/-- Whether a key comes before another one. Keys that cannot be compared are sorted by kind. -/
def keyBefore (a b : Value) : Run Bool := do
  match ← Run.attempt (a.ordered .lt b) with
  | .ok isLess => return isLess
  | .error (.fault .kind) => return decide (a.kindWord < b.kindWord)
  | .error cause => throw cause

def sortedEntries (ref : Nat) : Run Entries := do
  Run.sortBy (fun a b => keyBefore a.1 b.1) (← Run.entries ref)

def inLine : (left : Nat) → (active : List Nat) → Value → Run (List Char)
  | 0, _, _ => Run.fault .depth
  | left + 1, active, .table ref => do
    if ref ∈ active then
      return "<Recursion on dict>".toList
    let parts ← (← sortedEntries ref).mapM fun (key, value) => do
      let key ← inLine left (ref :: active) key
      return key ++ ':' :: ' ' :: (← inLine left (ref :: active) value)
    return '\x7b' :: Text.joinWith [',', ' '] parts ++ ['\x7d']
  | left + 1, active, .list ref => do
    if ref ∈ active then
      return "<Recursion on list>".toList
    let parts ← (← Run.listItems ref).mapM (inLine left (ref :: active))
    return '[' :: Text.joinWith [',', ' '] parts ++ [']']
  | left + 1, active, .tuple items => do
    let parts ← items.mapM (inLine left active)
    return '(' :: Text.joinWith [',', ' '] parts ++
      (if items.length = 1 then [',', ')'] else [')'])
  | _, _, value => value.quoted

/-- Words with the white space behind them. `left` bounds them. -/
def wordsWithGaps : (left : Nat) → List Char → List (List Char)
  | 0, _ => []
  | _, [] => []
  | left + 1, text =>
    let (word, rest) := text.span fun c => !Text.isBlank c
    let (gap, rest) := rest.span Text.isBlank
    (word ++ gap) :: wordsWithGaps left rest

/-- The pieces into which the parts of a line are put so that each of them fits. `current` is the
piece so far. -/
def packParts (width : Int) (last : Int) : (current : List Char) → List (List Char) →
    List (List Char)
  | current, [] => if current.isEmpty then [] else [current]
  | current, part :: parts =>
    let candidate := current ++ part
    let room := if parts.isEmpty then last else width
    if room < (quotedText candidate).length then
      if current.isEmpty then packParts width last part parts
      else current :: packParts width last part parts
    else
      packParts width last candidate parts

def textPieces (width allowance : Int) : List (List Char) → List (List Char)
  | [] => []
  | line :: lines =>
    let room := if lines.isEmpty then width - allowance else width
    let pieces :=
      if (quotedText line).length ≤ room then [line]
      else packParts width room [] (wordsWithGaps line.length line)
    pieces ++ textPieces width allowance lines

def textBlock (indent allowance : Int) (isOuter : Bool) (text : List Char) : List Char :=
  let indent := if isOuter then indent + 1 else indent
  let allowance := if isOuter then allowance + 1 else allowance
  let lines := Text.linesWithBreaks text
  match textPieces (lineWidth - indent) allowance lines with
  | [] | [_] => quotedText (lines.getLastD [])
  | pieces =>
    let joint := '\n' :: List.replicate indent.toNat ' '
    let written := Text.joinWith joint (pieces.map quotedText)
    if isOuter then '(' :: written ++ [')'] else written

/-- A value from a column on, with room for `allowance` characters behind it. -/
def inLines : (left : Nat) → (active : List Nat) → (isOuter : Bool) → (indent allowance : Int) →
    Value → Run (List Char)
  | 0, _, _, _, _, _ => Run.fault .depth
  | left + 1, active, isOuter, indent, allowance, value => do
    let line ← inLine nestingLimit active value
    if line.length ≤ lineWidth - indent - allowance then
      return line
    let pad := ',' :: '\n' :: List.replicate (indent + 1).toNat ' '
    let below (active : List Nat) (closing : List Char) (items : List Value) :
        Run (List Char) := do
      let parts ← (items.zip (List.range items.length)).mapM fun (item, place) =>
        let isLast := place + 1 = items.length
        inLines left active false (indent + 1) (if isLast then allowance + closing.length else 1)
          item
      return Text.joinWith pad parts ++ closing
    match value with
    | .text [] => return line
    | .text chars => return textBlock indent allowance isOuter chars
    | .list ref => return '[' :: (← below (ref :: active) [']'] (← Run.listItems ref))
    | .tuple items =>
      return '(' :: (← below active (if items.length = 1 then [',', ')'] else [')']) items)
    | .table ref =>
      let entries ← sortedEntries ref
      let parts ← (entries.zip (List.range entries.length)).mapM fun ((key, value), place) => do
        let key ← inLine nestingLimit (ref :: active) key
        let isLast := place + 1 = entries.length
        let written ← inLines left (ref :: active) false (indent + 1 + key.length + 2)
          (if isLast then allowance + 1 else 1) value
        return key ++ ':' :: ' ' :: written
      return '\x7b' :: Text.joinWith pad parts ++ ['\x7d']
    | _ => return line

/-- Writes a value over as many lines as it needs. -/
def pprint (value : Value) : Run Value := do
  return .text (← inLines nestingLimit [] true 0 0 value)

end CrateReadme.Template.Filter
