import CrateReadme.Text.Basic
import CrateReadme.Text.Numeral

/-!
# Integers in text

A number may be written with digits of any script, with single underscores between digits, with one
sign in front and with white space around it. In the bases two, eight and sixteen the digits may
follow `0b`, `0o` and `0x`. A number is written in ASCII digits, without leading zeros; reading what
was written gives the number back.
-/

namespace CrateReadme.Text

/-! ### Reading -/

/-- The value of a digit in a base of at most thirty-six. -/
def digitValue? (base : Nat) (c : Char) : Option Nat :=
  let value? :=
    match decimalValue? c with
    | some value => some value
    | none =>
      if 'a' ≤ c ∧ c ≤ 'z' then some (c.toNat - 87)
      else if 'A' ≤ c ∧ c ≤ 'Z' then some (c.toNat - 55)
      else none
  value?.filter (· < base)

/-- Continues a number of value `value` whose last character was a digit. -/
def readDigits? (base : Nat) : (value : Nat) → List Char → Option Nat
  | value, [] => some value
  | value, '_' :: c :: text =>
    match digitValue? base c with
    | some digit => readDigits? base (value * base + digit) text
    | none => none
  | value, c :: text =>
    match digitValue? base c with
    | some digit => readDigits? base (value * base + digit) text
    | none => none

/-- A non-empty run of digits with single underscores between them. -/
def natural? (base : Nat) : List Char → Option Nat
  | [] => none
  | c :: text =>
    match digitValue? base c with
    | some digit => readDigits? base digit text
    | none => none

/-- White space around a number; the ASCII information separators do not count here. -/
def isNumberPadding (c : Char) : Bool :=
  isBlank c && !(0x1c ≤ c.toNat && c.toNat ≤ 0x1f)

/-- The base that the mark behind a zero stands for. -/
def markedBase? (mark : Char) : Option Nat :=
  if mark = 'x' ∨ mark = 'X' then some 16
  else if mark = 'o' ∨ mark = 'O' then some 8
  else if mark = 'b' ∨ mark = 'B' then some 2
  else none

/-- The digits of a number behind an optional mark of its base. -/
def dropMark (base : Nat) : List Char → List Char
  | '0' :: mark :: text =>
    if markedBase? mark = some base then
      match text with
      | '_' :: rest => rest
      | rest => rest
    else
      '0' :: mark :: text
  | text => text

/-- The base of digits that say it themselves; without a mark only zero may start with a zero. -/
def ownBase? : List Char → Option Nat
  | '0' :: mark :: text =>
    match markedBase? mark with
    | some base => some base
    | none => if (mark :: text).all fun c => c = '0' || c = '_' then some 10 else none
  | _ => some 10

/-- The integer that a text spells in the given base; in base zero the text says the base. -/
def integer? (base : Nat) (text : List Char) : Option Int :=
  let magnitude? (digits : List Char) : Option Nat := do
    let base ← if base = 0 then ownBase? digits else some base
    natural? base (dropMark base digits)
  match trim isNumberPadding text with
  | '-' :: digits => (magnitude? digits).map fun value => -(value : Int)
  | '+' :: digits => (magnitude? digits).map fun value => (value : Int)
  | digits => (magnitude? digits).map fun value => (value : Int)

/-! ### Writing -/

def digitChar (value : Nat) : Char :=
  Char.ofNat (48 + value)

def decimal (n : Nat) : List Char :=
  if n < 10 then [digitChar n] else decimal (n / 10) ++ [digitChar (n % 10)]
termination_by n
decreasing_by omega

def decimalString (n : Nat) : String :=
  String.ofList (decimal n)

/-- An integer in decimal, with a sign if it is negative. -/
def integerString (n : Int) : String :=
  if n < 0 then "-" ++ decimalString n.natAbs else decimalString n.natAbs

end CrateReadme.Text
