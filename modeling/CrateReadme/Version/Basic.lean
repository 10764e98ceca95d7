import CrateReadme.Text.Integer
import CrateReadme.Text.Printable

/-!
# Semantic versions

A version has three numbers and may carry a pre-release tag and build metadata. Versions are ordered
by precedence: the numbers decide first, a version with a pre-release tag comes before the same
version without one, and build metadata does not count.
-/

namespace CrateReadme

namespace Version

/-- A number of a version: an ASCII zero alone, or an ASCII digit from one to nine followed by
decimal digits of any script. -/
def number? (text : List Char) : Option Nat :=
  match text with
  | ['0'] => some 0
  | first :: rest =>
    if '1' ≤ first ∧ first ≤ '9' ∧ rest.all Text.isDecimal then Text.natural? 10 text else none
  | [] => none

/-- Whether `c` may stand in a part of a tag: an ASCII letter or digit, or a hyphen. -/
def isTagChar (c : Char) : Bool :=
  c.isAlphanum || c = '-'

/-- Whether a part of a pre-release tag is well formed: a number, or digits of any script followed
by an ASCII letter or a hyphen and further tag characters. -/
def isPrePart (part : List Char) : Bool :=
  (number? part).isSome ||
    match part.dropWhile Text.isDecimal with
    | c :: rest => (c.isAlpha || c = '-') && rest.all isTagChar
    | [] => false

/-- Whether a part of the build metadata is well formed. -/
def isBuildPart (part : List Char) : Bool :=
  !part.isEmpty && part.all isTagChar

def allParts (accept : List Char → Bool) (text : List Char) : Bool :=
  (text.splitOn '.').all accept

end Version

/-- A semantic version. Both tags are spelled as a version allows, so every version has a text. -/
structure Version where
  major : Nat
  minor : Nat
  patch : Nat
  pre : Option String := none
  build : Option String := none
  pre_spelled : ∀ tag ∈ pre, Version.allParts Version.isPrePart tag.toList := by simp
  build_spelled : ∀ tag ∈ build, Version.allParts Version.isBuildPart tag.toList := by simp
  deriving DecidableEq, Repr

instance : Inhabited Version :=
  ⟨{ major := 0, minor := 0, patch := 0 }⟩

namespace Version

def render (version : Version) : String :=
  let numbers := [version.major, version.minor, version.patch].map Text.decimalString
  let pre := match version.pre with
    | some tag => "-" ++ tag
    | none => ""
  let build := match version.build with
    | some metadata => "+" ++ metadata
    | none => ""
  ".".intercalate numbers ++ pre ++ build

/-- The part of a text before the first `mark`, and the part after it if there is one. -/
def cutAt (mark : Char) (text : List Char) : List Char × Option (List Char) :=
  let before := text.takeWhile (· ≠ mark)
  (before, if before.length = text.length then none else some (text.drop (before.length + 1)))

def tag? (accept : List Char → Bool) :
    Option (List Char) → Option { tag : Option String // ∀ text ∈ tag, allParts accept text.toList }
  | none => some ⟨none, by simp⟩
  | some text =>
    if haccept : allParts accept text then
      some ⟨some (String.ofList text), by simpa using haccept⟩
    else
      none

def ofChars? (text : List Char) : Option Version := do
  let (front, build) := cutAt '+' text
  let (core, pre) := cutAt '-' front
  match core.splitOn '.' with
  | [major, minor, patch] =>
    let pre ← tag? isPrePart pre
    let build ← tag? isBuildPart build
    return {
      major := ← number? major
      minor := ← number? minor
      patch := ← number? patch
      pre := pre.val
      build := build.val
      pre_spelled := pre.property
      build_spelled := build.property }
  | _ => none

/-- The version that a text spells. One line feed at the end is overlooked. -/
def ofText? (text : String) : Option Version :=
  match text.toList.reverse with
  | '\n' :: front => ofChars? front.reverse
  | _ => ofChars? text.toList

/-- A part of a tag, as far as order is concerned. -/
inductive Part where
  | number (value : Nat)
  | name (text : List Char)
  deriving DecidableEq, Repr

/-- Numbers are parts of ASCII digits only. -/
def Part.ofText (text : List Char) : Part :=
  if !text.isEmpty && text.all Char.isDigit then
    .number ((Text.natural? 10 text).getD 0)
  else
    .name text

/-- Names compare character by character, by code point. -/
def compareText : List Char → List Char → Ordering
  | [], [] => .eq
  | [], _ :: _ => .lt
  | _ :: _, [] => .gt
  | a :: left, b :: right => (compare a.toNat b.toNat).then (compareText left right)

def Part.compare : Part → Part → Ordering
  | .number m, .number n => Ord.compare m n
  | .number _, .name _ => .lt
  | .name _, .number _ => .gt
  | .name s, .name t => compareText s t

def compareParts : List Part → List Part → Ordering
  | a :: left, b :: right => (a.compare b).then (compareParts left right)
  | _, _ => .eq

/-- Two tags compare part by part; if all common parts are equal the longer text comes last. -/
def compareTags (left right : List Char) : Ordering :=
  (compareParts ((left.splitOn '.').map Part.ofText) ((right.splitOn '.').map Part.ofText)).then
    (compare left.length right.length)

/-- The order of two optional pre-release tags. No tag, or an empty one, comes after any tag. -/
def comparePre (left right : Option String) : Ordering :=
  let a := (left.getD "").toList
  let b := (right.getD "").toList
  match compareTags a b with
  | .eq => .eq
  | order => if a.isEmpty then .gt else if b.isEmpty then .lt else order

def precedence (left right : Version) : Ordering :=
  (compare left.major right.major).then <|
  (compare left.minor right.minor).then <|
  (compare left.patch right.patch).then <|
  comparePre left.pre right.pre

end Version

end CrateReadme
