import CrateReadme.Data.Toml.Value

/-!
# Settings documents

Lines with a key and a value, and lines that open a table for the keys behind them.
-/

namespace CrateReadme.Data.Toml

def dropLineEnd : List Char → List Char
  | '\r' :: '\n' :: text => text
  | '\r' :: text => text
  | '\n' :: text => text
  | text => text

/-- Reads what may follow on a line: white space, a comment and the line end. -/
def readLineEnd (text : List Char) : Except Fault (List Char) :=
  match text.dropWhile fun c => isSpace c || c = '\r' with
  | [] => .ok []
  | '\n' :: rest => .ok rest
  | '#' :: rest => (readComment rest).map dropLineEnd
  | rest => .error (.unexpected rest)

/-- A document while it is read: its entries, the keys of the table that was opened last, and the
keys of the tables around it that were opened before, the innermost first. -/
structure Draft where
  entries : Entries := []
  current : List String := []
  around : List (List String) := []

/-- Adds a value under a key of the table that was opened last. Outside of all tables a clash is
like any other fault. -/
def Draft.add (draft : Draft) (keys : List String) (value : Value) : Except Fault Draft :=
  match draft.entries.change (Entries.add value keys) draft.current with
  | .ok entries => .ok { draft with entries }
  | .error cause => .error (if draft.current.isEmpty then .malformed else .clash cause)

/-- Opens a table, as the next one of a series or on its own. Outside of all tables a clash is like
any other fault. -/
def Draft.enter (draft : Draft) (isSeries : Bool) (keys : List String) : Except Fault Draft :=
  let around := (draft.current :: draft.around).dropWhile fun outer =>
    outer.isEmpty || outer.length = keys.length || !outer.isPrefixOf keys
  match keys.getLast? with
  | none => .error .malformed
  | some last =>
    let update := if isSeries then Entries.openNext last else Entries.openTable last
    match draft.entries.change update keys.dropLast with
    | .ok entries => .ok { entries, current := keys, around }
    | .error cause => .error (if around.isEmpty then .malformed else .clash cause)

/-- Reads the line that opens a table, behind its first bracket. -/
def readHeader (draft : Draft) (text : List Char) : Except Fault (Draft × List Char) := do
  let (isSeries, text) := match text with
    | '[' :: rest => (true, rest)
    | text => (false, text)
  let (keys, rest) ← readKey (text.length + 1) text
  match rest with
  | ']' :: rest =>
    let draft ← draft.enter isSeries keys
    let rest ← readLineEnd (if isSeries then rest.drop 1 else rest)
    return (draft, rest)
  | rest => .error (.unexpected rest)

/-- Reads a document. Every step passes a character, so that `left`, the number of characters,
bounds the steps. A carriage return may not stand in front of a key. -/
def readLines : (left : Nat) → Draft → List Char → Except Fault Draft
  | 0, _, _ => .error .malformed
  | left + 1, draft, text =>
    match text.dropWhile fun c => isSpace c || c = '\r' with
    | [] => .ok draft
    | '\n' :: rest => readLines left draft rest
    | '#' :: rest => do readLines left draft (dropLineEnd (← readComment rest))
    | '[' :: rest => do
      let (draft, rest) ← readHeader draft rest
      readLines left draft rest
    | _ => do
      let (keys, rest) ← readKey (text.length + 1) text
      let (value, rest) ← readValue (text.length + 1) (← readEquals rest)
      readLines left (← draft.add keys value) (← readLineEnd rest)

def parse (text : List Char) : Except Fault Table :=
  (readLines (text.length + 1) {} text).map fun draft => entriesToTable draft.entries

end CrateReadme.Data.Toml
