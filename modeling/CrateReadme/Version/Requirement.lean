import CrateReadme.Version.Basic

/-!
# Version requirements

A requirement is a list of comparators that must all match. A comparator without an operator means
compatibility in the sense of semantic versioning. A version with a pre-release tag matches only if
some comparator names the same three numbers and has a pre-release tag itself.
-/

namespace CrateReadme

/-- Why a requirement or a version cannot be read. -/
inductive VersionError where
  | emptyRequirement
  | invalidRequirement (text : String)
  | wildcardWithOperator (text : String)
  | wildcardWithPre (text : String)
  | partialWithPre (text : String)
  | invalidVersion (text trimmed : String)
  deriving DecidableEq, Repr

def VersionError.message : VersionError → String
  | emptyRequirement => "empty version requirement"
  | invalidRequirement text => "invalid version requirement " ++ Text.quoted text
  | wildcardWithOperator text => "wildcard with operator in " ++ Text.quoted text
  | wildcardWithPre text => "wildcard with pre-release in " ++ Text.quoted text
  | partialWithPre text => "pre-release needs a full version in " ++ Text.quoted text
  | invalidVersion text trimmed =>
    "invalid version " ++ Text.quoted text ++ ": " ++ trimmed ++ " is not valid SemVer string"

/-- Reads a version with white space around it. -/
def Version.parse (text : String) : Except VersionError Version :=
  let trimmed := String.ofList (Text.strip text.toList)
  match Version.ofText? trimmed with
  | some version => .ok version
  | none => .error (.invalidVersion text trimmed)

/-- How a comparator relates a version to its numbers. -/
inductive Operator where
  | exact
  | greater
  | greaterEq
  | less
  | lessEq
  | tilde
  | caret
  | wildcard
  deriving DecidableEq, Repr, Inhabited

def Operator.sign : Operator → String
  | exact => "="
  | greater => ">"
  | greaterEq => ">="
  | less => "<"
  | lessEq => "<="
  | tilde => "~"
  | caret => "^"
  | wildcard => "*"

/-- An operator with the numbers and the pre-release tag that are written after it. -/
structure Comparator where
  op : Operator
  major : Option Nat := none
  minor : Option Nat := none
  patch : Option Nat := none
  pre : Option String := none
  deriving DecidableEq, Repr, Inhabited

/-- A requirement: all its comparators must match. -/
structure Requirement where
  comparators : List Comparator
  deriving DecidableEq, Repr, Inhabited

namespace Comparator

/-- A component of a written comparator. -/
inductive Component where
  | number (value : Nat)
  | anything
  | absent
  deriving DecidableEq, Repr

/-- Reads a component at the start of a text: digits of any script, or one of `*`, `x`, `X`. -/
def readComponent? (text : List Char) : Option (Component × List Char) :=
  match text with
  | [] => none
  | c :: rest =>
    if c = '*' ∨ c = 'x' ∨ c = 'X' then
      some (.anything, rest)
    else
      let digits := text.takeWhile Text.isDecimal
      (Text.natural? 10 digits).map fun value => (.number value, text.dropWhile Text.isDecimal)

def readFurther (text : List Char) : Component × List Char :=
  match text with
  | '.' :: rest => (readComponent? rest).getD (.absent, text)
  | _ => (.absent, text)

/-- Whether `c` may stand in the tags of a comparator. -/
def isTagChar (c : Char) : Bool :=
  c.isAlphanum || c = '.' || c = '-'

/-- Reads a tag after `mark`, if there is a non-empty one. -/
def readTag (mark : Char) (text : List Char) : Option (List Char) × List Char :=
  match text with
  | c :: rest =>
    if c = mark ∧ !(rest.takeWhile isTagChar).isEmpty then
      (some (rest.takeWhile isTagChar), rest.dropWhile isTagChar)
    else
      (none, text)
  | [] => (none, [])

def readOperator : List Char → Option Operator × List Char
  | '>' :: '=' :: rest => (some .greaterEq, rest)
  | '<' :: '=' :: rest => (some .lessEq, rest)
  | '>' :: rest => (some .greater, rest)
  | '<' :: rest => (some .less, rest)
  | '=' :: rest => (some .exact, rest)
  | '~' :: rest => (some .tilde, rest)
  | '^' :: rest => (some .caret, rest)
  | text => (none, text)

structure Written where
  op : Option Operator
  major : Component
  minor : Component
  patch : Component
  pre : Option (List Char)
  deriving DecidableEq, Repr

/-- Reads a comparator with white space around it and after its operator. Build metadata is
dropped. -/
def readWritten? (text : List Char) : Option Written := do
  let (op, text) := readOperator (text.dropWhile Text.isBlank)
  let (major, text) ← readComponent? (text.dropWhile Text.isBlank)
  let (minor, text) := readFurther text
  let (patch, text) := readFurther text
  let (pre, text) := readTag '-' text
  let (_, text) := readTag '+' text
  if text.all Text.isBlank then return { op, major, minor, patch, pre } else none

def Component.number? : Component → Option Nat
  | .number value => some value
  | _ => none

/-- Whether a number follows a component that is no number. -/
def Written.hasGap (written : Written) : Bool :=
  (written.major.number?.isNone && written.minor.number?.isSome) ||
    (written.minor.number?.isNone && written.patch.number?.isSome)

def Written.hasWildcard (written : Written) : Bool :=
  written.major = .anything || written.minor = .anything || written.patch = .anything

def parse (text : List Char) : Except VersionError Comparator :=
  let whole := String.ofList text
  match readWritten? text with
  | none => .error (.invalidRequirement whole)
  | some written =>
    if written.hasGap then
      .error (.invalidRequirement whole)
    else if written.hasWildcard then
      if written.op ≠ none ∧ written.op ≠ some .exact then
        .error (.wildcardWithOperator whole)
      else if written.pre.isSome then
        .error (.wildcardWithPre whole)
      else
        .ok { op := .wildcard, major := written.major.number?, minor := written.minor.number? }
    else if written.pre.isSome ∧ written.patch.number?.isNone then
      .error (.partialWithPre whole)
    else
      .ok {
        op := written.op.getD .caret
        major := written.major.number?
        minor := written.minor.number?
        patch := written.patch.number?
        pre := written.pre.map String.ofList }

def render (comparator : Comparator) : String :=
  let number? := fun component : Option Nat => component.map Text.decimalString
  match comparator.op with
  | .wildcard =>
    ".".intercalate ([comparator.major, comparator.minor].filterMap number? ++ ["*"])
  | op =>
    let numbers := [comparator.major, comparator.minor, comparator.patch].filterMap number?
    let tag := match comparator.pre with
      | some pre => if pre = "" then "" else "-" ++ pre
      | none => ""
    op.sign ++ ".".intercalate numbers ++ tag

/-- How the pre-release part of a version relates to that of a comparator with the same numbers. -/
def comparePre (comparator : Comparator) (version : Version) : Ordering :=
  Version.comparePre version.pre comparator.pre

/-- The version has the written numbers, and the same tag if all numbers are written. -/
def matchesExact (comparator : Comparator) (version : Version) : Bool :=
  comparator.major.getD 0 = version.major &&
  comparator.minor.all (· = version.minor) &&
  comparator.patch.all (· = version.patch) &&
  (comparator.patch.isNone || version.pre = comparator.pre)

/-- The version comes after, or before, every version with the written numbers. `order` says which:
it is the order of the version's numbers to the written ones. -/
def matchesBeyond (order : Ordering) (comparator : Comparator) (version : Version) : Bool :=
  let major := comparator.major.getD 0
  if version.major ≠ major then
    compare version.major major = order
  else
    match comparator.minor with
    | none => false
    | some minor =>
      if version.minor ≠ minor then
        compare version.minor minor = order
      else
        match comparator.patch with
        | none => false
        | some patch =>
          if version.patch ≠ patch then
            compare version.patch patch = order
          else
            comparator.comparePre version = order

/-- The version differs from the written numbers in the patch number at most. -/
def matchesTilde (comparator : Comparator) (version : Version) : Bool :=
  comparator.major.getD 0 = version.major &&
  comparator.minor.all (· = version.minor) &&
  match comparator.patch with
  | none => true
  | some patch =>
    if version.patch ≠ patch then version.patch > patch
    else comparator.comparePre version ≠ .lt

/-- The version is compatible: not below the written numbers, and equal to them up to the left-most
one that is not zero. -/
def matchesCaret (comparator : Comparator) (version : Version) : Bool :=
  let major := comparator.major.getD 0
  version.major = major &&
  match comparator.minor with
  | none => true
  | some minor =>
    match comparator.patch with
    | none => if major > 0 then version.minor ≥ minor else version.minor = minor
    | some patch =>
      if major > 0 ∧ version.minor ≠ minor then
        version.minor > minor
      else if version.minor ≠ minor then
        false
      else if version.patch ≠ patch then
        (major > 0 ∨ minor > 0) && version.patch > patch
      else
        comparator.comparePre version ≠ .lt

def matchesWildcard (comparator : Comparator) (version : Version) : Bool :=
  comparator.major.all (· = version.major) && comparator.minor.all (· = version.minor)

/-- Whether a version satisfies a comparator, the rule on pre-releases apart. -/
def accepts (comparator : Comparator) (version : Version) : Bool :=
  match comparator.op with
  | .wildcard => comparator.matchesWildcard version
  | .exact => comparator.matchesExact version
  | .greater => comparator.matchesBeyond .gt version
  | .greaterEq => comparator.matchesExact version || comparator.matchesBeyond .gt version
  | .less => comparator.matchesBeyond .lt version
  | .lessEq => comparator.matchesExact version || comparator.matchesBeyond .lt version
  | .tilde => comparator.matchesTilde version
  | .caret => comparator.matchesCaret version

/-- Whether a comparator opts into pre-releases of the numbers of a version. -/
def admitsPre (comparator : Comparator) (version : Version) : Bool :=
  comparator.pre.isSome &&
  comparator.major = some version.major &&
  comparator.minor = some version.minor &&
  comparator.patch = some version.patch

end Comparator

namespace Requirement

/-- Reads a requirement: comparators separated by commas. -/
def parse (text : String) : Except VersionError Requirement := do
  let trimmed := Text.strip text.toList
  if trimmed.isEmpty then
    throw .emptyRequirement
  return ⟨← (trimmed.splitOn ',').mapM Comparator.parse⟩

def any : Requirement :=
  ⟨[{ op := .wildcard }]⟩

def render (requirement : Requirement) : String :=
  ", ".intercalate (requirement.comparators.map Comparator.render)

def isPreRelease (version : Version) : Bool :=
  version.pre.any (· ≠ "")

def accepts (requirement : Requirement) (version : Version) : Bool :=
  requirement.comparators.all (·.accepts version) &&
    (!isPreRelease version || requirement.comparators.any (·.admitsPre version))

end Requirement

end CrateReadme
