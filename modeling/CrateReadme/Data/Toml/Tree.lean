import CrateReadme.Data.Value

/-!
# Trees of settings

While settings are read, their tables remember how they came about: a table may be opened once, a
key with dots may extend only tables that such keys made, and a table that stands on one line is
complete.
-/

namespace CrateReadme.Data.Toml

/-- A tree of keys: what is known about the tables in a document while it is read. -/
inductive Node where
  | value (value : Value)
  /-- A table that is there because a table in it is. -/
  | implied (entries : List (String × Node))
  /-- A table that was opened. -/
  | opened (entries : List (String × Node))
  /-- A table that is there because of a key with dots. -/
  | dotted (entries : List (String × Node))
  /-- A list of tables that were opened, the last one first. -/
  | series (last : List (String × Node)) (before : List (List (String × Node)))

abbrev Entries :=
  List (String × Node)

/-- Why a table cannot be changed: a key in it has an entry that does not allow for the change, or
a table that keys with dots made would be opened. -/
inductive Clash where
  | repeated
  | reopened
  deriving DecidableEq, Repr

namespace Entries

/-- Sets an entry; one with the same key keeps its place. -/
def put (key : String) (node : Node) : Entries → Entries
  | [] => [(key, node)]
  | entry :: entries =>
    if entry.1 = key then (key, node) :: entries else entry :: put key node entries

/-- Adds a value under a key with dots. Only tables that are there because of such keys can be
extended. -/
def add (value : Value) : List String → Entries → Except Clash Entries
  | [], _ => .error .repeated
  | [key], entries =>
    match entries.lookup key with
    | none => .ok (put key (.value value) entries)
    | some _ => .error .repeated
  | key :: keys, entries =>
    match entries.lookup key with
    | none => (add value keys []).map fun inner => put key (.dotted inner) entries
    | some (.dotted inner) =>
      (add value keys inner).map fun inner => put key (.dotted inner) entries
    | some _ => .error .repeated

/-- Changes the table under the given keys, which may pass through the last table of a series. -/
def change (update : Entries → Except Clash Entries) : List String → Entries → Except Clash Entries
  | [], entries => update entries
  | key :: keys, entries =>
    match entries.lookup key with
    | none => (change update keys []).map fun inner => put key (.implied inner) entries
    | some (.implied inner) =>
      (change update keys inner).map fun inner => put key (.implied inner) entries
    | some (.opened inner) =>
      (change update keys inner).map fun inner => put key (.opened inner) entries
    | some (.dotted inner) =>
      (change update keys inner).map fun inner => put key (.dotted inner) entries
    | some (.series last before) =>
      (change update keys last).map fun last => put key (.series last before) entries
    | some (.value _) => .error .repeated

/-- Opens a table with the given last key. A table can be opened once. -/
def openTable (key : String) (entries : Entries) : Except Clash Entries :=
  match entries.lookup key with
  | none => .ok (put key (.opened []) entries)
  | some (.implied inner) => .ok (put key (.opened inner) entries)
  | some (.dotted _) => .error .reopened
  | some _ => .error .repeated

/-- Opens a further table of a series with the given last key. -/
def openNext (key : String) (entries : Entries) : Except Clash Entries :=
  match entries.lookup key with
  | none => .ok (put key (.series [] []) entries)
  | some (.series last before) => .ok (put key (.series [] (last :: before)) entries)
  | some _ => .error .repeated

end Entries

mutual

def Node.toValue : Node → Value
  | .value value => value
  | .implied entries => .table (entriesToTable entries)
  | .opened entries => .table (entriesToTable entries)
  | .dotted entries => .table (entriesToTable entries)
  | .series last before => .list (seriesToValues before [.table (entriesToTable last)])

def entriesToTable : List (String × Node) → List (String × Value)
  | [] => []
  | (key, node) :: entries => (key, node.toValue) :: entriesToTable entries

/-- The tables of a series in order, in front of `after`. -/
def seriesToValues : List (List (String × Node)) → (after : List Value) → List Value
  | [], after => after
  | entries :: before, after => seriesToValues before (.table (entriesToTable entries) :: after)

end

end CrateReadme.Data.Toml
