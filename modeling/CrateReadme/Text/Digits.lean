import CrateReadme.Text.Rounded

/-!
# Notations of numbers

Besides the shortest form, a number may be written with a fixed number of decimal places, with an
exponent, or with a number of significant digits. The last digit is rounded, to an even one at a
tie.
-/

namespace CrateReadme.Binary64

/-- Decimal digits and the place of the decimal point behind the first of them. -/
structure Digits where
  digits : List Char
  exponent : Int

/-- The first `count` digits of a positive fraction, rounded. -/
def significant (count : Nat) (value : Ratio) : Digits :=
  let leading := leadingExponent value
  let places : Int := count - 1 - leading
  let rounded :=
    if 0 ≤ places then roundQuotient (value.num * Nat.pow 10 places.toNat) value.den
    else roundQuotient value.num (value.den * Nat.pow 10 places.natAbs)
  let digits := Text.decimal rounded
  if digits.length = count then ⟨digits, leading⟩ else ⟨digits.take count, leading + 1⟩

/-- Which of the notations is used. -/
inductive Style where
  /-- With a fixed number of decimal places. -/
  | fixed
  /-- With an exponent. -/
  | scientific
  /-- With a number of significant digits, positionally where that is shorter. -/
  | general
  /-- As `general`, but always recognizable as no integer. -/
  | generalWithPoint
  deriving DecidableEq, Repr

/-- Digits with a point behind the first `whole` of them. A point at the end stays only if
`keepPoint` is set. -/
def withPoint (keepPoint : Bool) (whole : Nat) (digits : List Char) : List Char :=
  let fraction := digits.drop whole
  digits.take whole ++ if fraction.isEmpty && !keepPoint then [] else '.' :: fraction

/-- A non-negative fraction with the given number of decimal places. -/
def fixedText (keepPoint : Bool) (places : Nat) (value : Ratio) : List Char :=
  let digits := Text.decimal (roundQuotient (value.num * Nat.pow 10 places) value.den)
  let padded := List.replicate (places + 1 - digits.length) '0' ++ digits
  withPoint keepPoint (padded.length - places) padded

def exponentText (exponent : Int) : List Char :=
  let written := Text.decimal exponent.natAbs
  (if exponent < 0 then ['e', '-'] else ['e', '+']) ++
    List.replicate (2 - written.length) '0' ++ written

/-- The digits of a non-negative fraction; zero has only zeros. -/
def digitsOf (count : Nat) (value : Ratio) : Digits :=
  if value.num = 0 then ⟨List.replicate count '0', 0⟩ else significant count value

/-- A non-negative fraction with an exponent and the given number of decimal places. -/
def scientificText (keepPoint : Bool) (places : Nat) (value : Ratio) : List Char :=
  let found := digitsOf (places + 1) value
  withPoint keepPoint 1 found.digits ++ exponentText found.exponent

/-- A non-negative fraction with the given number of significant digits. Zeros at the end are
dropped unless `keepZeros` is set; with `asReal` a point always stands in a positional form. -/
def generalText (keepZeros asReal : Bool) (count : Nat) (value : Ratio) : List Char :=
  let count := max count 1
  let found := digitsOf count value
  let kept := if keepZeros then found.digits else Text.trimEnd (· = '0') found.digits
  let kept := if kept.isEmpty then ['0'] else kept
  let limit : Int := if asReal then count - 1 else count
  if found.exponent < -4 ∨ limit ≤ found.exponent then
    withPoint keepZeros 1 kept ++ exponentText found.exponent
  else if found.exponent < 0 then
    ['0', '.'] ++ List.replicate (found.exponent.natAbs - 1) '0' ++ kept
  else
    let whole := found.exponent.toNat + 1
    let padded := kept ++ List.replicate (whole - kept.length) '0'
    let padded := if asReal && padded.length = whole then padded ++ ['0'] else padded
    withPoint keepZeros whole padded

/-- A number without its sign in one of the notations. `alternate` keeps a point at the end, and in
the general notations also the zeros there. -/
def textIn (style : Style) (alternate : Bool) (precision : Nat) (number : Binary64) : List Char :=
  match number with
  | notANumber => "nan".toList
  | infinite _ => "inf".toList
  | finite _ mantissa exponent =>
    let value := Ratio.scale mantissa 2 exponent
    match style with
    | .fixed => fixedText alternate precision value
    | .scientific => scientificText alternate precision value
    | .general => generalText alternate false precision value
    | .generalWithPoint => generalText alternate true precision value

end CrateReadme.Binary64
