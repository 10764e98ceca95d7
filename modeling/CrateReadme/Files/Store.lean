import CrateReadme.Text.Basic
import CrateReadme.Text.Utf8

/-!
# Files

A store holds files and directories. Files are read as a whole and written as a whole: a write
either takes effect completely or not at all. What is written goes through a temporary file, which
stays if the write breaks off before its text.
-/

namespace CrateReadme.Files

/-! ### Locations

Where a file is: the names to follow from the root or from the working directory. Names that are
empty or mean the place itself are left out; the name that leads up is kept, because what it means
depends on the files.
-/

/-- A location. `slashes` counts the slashes in front: none for a relative one, one for the root,
two for the other root that may exist. -/
structure Location where
  slashes : Nat
  names : List String
  deriving DecidableEq, Repr, Inhabited

namespace Location

/-- The location that a text gives. Three or more slashes in front mean one. -/
def ofText (text : String) : Location :=
  let front := (text.toList.takeWhile (· = '/')).length
  { slashes := if 2 < front then 1 else front
    names := ((text.toList.splitOn '/').map String.ofList).filter fun name =>
      name ≠ "" ∧ name ≠ "." }

def render (location : Location) : String :=
  let text := Text.repeated location.slashes '/' ++ "/".intercalate location.names
  if text = "" then "." else text

def isAbsolute (location : Location) : Bool :=
  0 < location.slashes

def under (base location : Location) : Location :=
  if location.isAbsolute then location
  else { base with names := base.names ++ location.names }

def parent (location : Location) : Location :=
  { location with names := location.names.dropLast }

def name (location : Location) : String :=
  location.names.getLast?.getD ""

end Location

/-! ### Stores -/

/-- What stands at a place. -/
inductive Entry where
  | file (content : List UInt8)
  | directory
  deriving DecidableEq, Repr, Inhabited

/-- The files and directories by the names that lead to them from the root. The root itself is
always there. -/
structure Store where
  entries : List (List String × Entry) := []
  deriving Repr, Inhabited

/-- Why something cannot be read or written. -/
inductive Failure where
  /-- Nothing is there. -/
  | missing
  /-- A file stands where a directory is needed, or the other way round. -/
  | blocked
  deriving DecidableEq, Repr

namespace Store

def get? (store : Store) (place : List String) : Option Entry :=
  if place.isEmpty then some .directory else store.entries.lookup place

def set (place : List String) (entry : Entry) (store : Store) : Store :=
  { entries := (place, entry) :: store.entries.filter fun old => old.1 ≠ place }

def remove (place : List String) (store : Store) : Store :=
  { entries := store.entries.filter fun old => !place.isPrefixOf old.1 }

def follow (store : Store) : (here : List String) → List String → Except Failure (List String)
  | here, [] => .ok here
  | here, name :: names =>
    match store.get? here with
    | some .directory =>
      if name = ".." then store.follow here.dropLast names else store.follow (here ++ [name]) names
    | some (.file _) => .error .blocked
    | none => .error .missing

/-- What stands at a location that starts at the root. -/
def find (store : Store) (location : Location) : Except Failure Entry := do
  match store.get? (← store.follow [] location.names) with
  | some entry => .ok entry
  | none => .error .missing

def holds (store : Store) (location : Location) : Bool :=
  (store.find location).isOk

def read (store : Store) (location : Location) : Except Failure (List UInt8) := do
  match ← store.find location with
  | .file content => .ok content
  | .directory => .error .blocked

/-- Follows names from a directory and makes the directories that are missing. -/
def makeDirectories (store : Store) : (here : List String) → List String →
    Except Failure (List String × Store)
  | here, [] => .ok (here, store)
  | here, name :: names =>
    if name = ".." then
      store.makeDirectories here.dropLast names
    else
      let next := here ++ [name]
      match store.get? next with
      | some .directory => store.makeDirectories next names
      | some (.file _) => .error .blocked
      | none => (store.set next .directory).makeDirectories next names

def write (store : Store) (location : Location) (content : List UInt8) : Except Failure Store := do
  let (directory, store) ← store.makeDirectories [] location.names.dropLast
  let place ← store.follow directory (location.names.drop (location.names.length - 1))
  match store.get? place with
  | some .directory => .error .blocked
  | _ => .ok (store.set place (.file content))

/-- Begins to write a file: makes the directories it is in, and an empty temporary file beside it.
That one is named after the file and the first of the marks that makes a new name. -/
def beginWrite (store : Store) (location : Location) (marks : List String) :
    Except Failure Store := do
  let (directory, store) ← store.makeDirectories [] location.parent.names
  let places := marks.map fun mark => directory ++ ["." ++ location.name ++ "." ++ mark]
  match places.find? fun place => (store.get? place).isNone with
  | some place => .ok (store.set place (.file []))
  | none => .error .blocked

end Store

/-- The text of a file, if it is one: every kind of line end becomes a line feed. -/
def text? (content : List UInt8) : Option String :=
  (Text.ofUtf8? content).map fun text => String.ofList (Text.universalNewlines text.toList)

/-- The text of a file, with replacement characters for the bytes that are no text. -/
def lossyText (content : List UInt8) : String :=
  String.ofList (Text.universalNewlines (Text.lossyUtf8 content))

end CrateReadme.Files
