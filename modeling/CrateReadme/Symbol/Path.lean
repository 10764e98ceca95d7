import CrateReadme.Text.Basic

/-!
# Paths

A path is a text of segments separated by `::`. It is absolute when it starts with the separator.
-/

namespace CrateReadme.Path

def separator : String := "::"

def isAbsolute (path : String) : Bool :=
  Text.startsWith [':', ':'] path.toList

/-- The parts of a path between its separators. An absolute path has an empty first part. -/
def parts (path : String) : List String :=
  (Text.splitOn [':', ':'] path.toList).map String.ofList

/-- The segments of a path, without the marker of an absolute one. -/
def segments (path : String) : List String :=
  match Text.after? [':', ':'] path.toList with
  | some rest => parts (String.ofList rest)
  | none => parts path

def ofParts (parts : List String) : String :=
  separator.intercalate parts

def lastPart? (path : String) : Option String :=
  (Text.breakOn? [':', ':'] path.toList.reverse).map fun parts => String.ofList parts.1.reverse

def ofItem (crate ident : String) : String :=
  separator ++ crate ++ separator ++ ident

/-- Whether a segment refers to the root of the current crate. -/
def isRootWord (segment : String) : Bool :=
  segment = "crate" || segment = "self"

/-- Drops `<...>` groups; `depth` groups are open. Fails when a bracket has no partner. -/
def withoutGroups? : (depth : Nat) → List Char → Option (List Char)
  | 0, [] => some []
  | _ + 1, [] => none
  | depth, '<' :: text => withoutGroups? (depth + 1) text
  | 0, '>' :: _ => none
  | depth + 1, '>' :: text => withoutGroups? depth text
  | 0, c :: text => (withoutGroups? 0 text).map (c :: ·)
  | depth + 1, _ :: text => withoutGroups? (depth + 1) text

/-- A text without its generic arguments: the balanced `<...>` groups. A text whose brackets do not
balance stays as it is. -/
def withoutGenerics (text : List Char) : List Char :=
  (withoutGroups? 0 text).getD text

end CrateReadme.Path
