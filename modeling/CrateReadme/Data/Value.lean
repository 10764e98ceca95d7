import CrateReadme.Text.Printable
import CrateReadme.Text.Shortest

/-!
# Data

Package descriptions and settings come as documents of nested lists and tables. The tables keep the
order in which their entries were written.
-/

namespace CrateReadme.Data

/-- What a point in time is given by. -/
inductive Moment where
  | date
  | time
  | dateTime
  deriving DecidableEq, Repr, Inhabited

inductive Value where
  | null
  | bool (value : Bool)
  | int (value : Int)
  | float (value : Binary64)
  | text (value : String)
  | moment (kind : Moment) (written : String)
  | list (items : List Value)
  | table (entries : List (String × Value))
  deriving Repr, Inhabited

/-- The entries of a table, in the order in which they were written. -/
abbrev Table :=
  List (String × Value)

namespace Table

def get? (table : Table) (key : String) : Option Value :=
  table.lookup key

/-- The value of an entry; a missing one is null. -/
def get (table : Table) (key : String) : Value :=
  (table.get? key).getD .null

def contains (table : Table) (key : String) : Bool :=
  (table.get? key).isSome

/-- The table with an entry set. An entry with the same key keeps its place. -/
def put (key : String) (value : Value) : Table → Table
  | [] => [(key, value)]
  | entry :: table =>
    if entry.1 = key then (key, value) :: table else entry :: put key value table

end Table

namespace Value

def typeName : Value → String
  | null => "NoneType"
  | bool _ => "bool"
  | int _ => "int"
  | float _ => "float"
  | text _ => "str"
  | moment .date _ => "date"
  | moment .time _ => "time"
  | moment .dateTime _ => "datetime"
  | list _ => "list"
  | table _ => "dict"

/-- Whether a value counts as given: not null, false, zero or empty. -/
def isGiven : Value → Bool
  | null => false
  | bool value => value
  | int value => value ≠ 0
  | float (.finite _ mantissa _) => mantissa ≠ 0
  | float _ => true
  | text value => value ≠ ""
  | moment _ _ => true
  | list items => !items.isEmpty
  | table entries => !entries.isEmpty

/-- A value, or another one where it does not count as given. -/
def orElse (value fallback : Value) : Value :=
  if value.isGiven then value else fallback

mutual

def quoted : Value → String
  | null => "None"
  | bool true => "True"
  | bool false => "False"
  | int value => Text.integerString value
  | float value => value.render
  | text value => Text.quoted value
  | moment _ written => written
  | list items => "[" ++ ", ".intercalate (quotedAll items) ++ "]"
  | table entries => "\x7b" ++ ", ".intercalate (quotedEntries entries) ++ "\x7d"

def quotedAll : List Value → List String
  | [] => []
  | value :: values => quoted value :: quotedAll values

/-- The entries of a table as messages show them. -/
def quotedEntries : List (String × Value) → List String
  | [] => []
  | (key, value) :: entries => (Text.quoted key ++ ": " ++ quoted value) :: quotedEntries entries

end

/-- The text of a value: a text itself, and any other value as messages show it. -/
def shown : Value → String
  | text value => value
  | value => value.quoted

mutual

def same : Value → Value → Bool
  | null, null => true
  | bool a, bool b => a = b
  | int a, int b => a = b
  | float a, float b => a = b && a ≠ .notANumber
  | text a, text b => a = b
  | moment _ a, moment _ b => a = b
  | list a, list b => sameAll a b
  | table a, table b => sameEntries a b
  | _, _ => false

def sameAll : List Value → List Value → Bool
  | [], [] => true
  | a :: as, b :: bs => same a b && sameAll as bs
  | _, _ => false

/-- Whether two tables hold the same entries in the same order. -/
def sameEntries : List (String × Value) → List (String × Value) → Bool
  | [], [] => true
  | (key, a) :: as, (other, b) :: bs => key = other && same a b && sameEntries as bs
  | _, _ => false

end

end Value

end CrateReadme.Data
