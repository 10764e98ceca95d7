import CrateReadme.Text.Integer

/-!
# Decimals of binary numbers

A binary floating-point number is written with the fewest decimal digits that read back as the same
number; of several such decimals the nearest one is taken, and at a tie the one whose last digit is
even. Numbers from 10⁻⁴ up to 10¹⁶ are written positionally, all others with an exponent of at least
two digits. A decimal is read as the number nearest to it; halfway between two of them, the one with
the even mantissa is taken.
-/

namespace CrateReadme

/-- A number of the binary format with 53 bits of precision: `mantissa * 2 ^ exponent` up to sign,
or a special value. -/
inductive Binary64 where
  | finite (negative : Bool) (mantissa : Nat) (exponent : Int)
  | infinite (negative : Bool)
  | notANumber
  deriving DecidableEq, Repr, Inhabited

namespace Binary64

/-- The number with the given sign, fraction bits and exponent bits in a format with `precision`
fraction bits, whose least exponent is `least` and whose exponent field is at most `top`. -/
def ofFields (precision : Nat) (least : Int) (top : Nat) (negative : Bool) (field fraction : Nat) :
    Binary64 :=
  if field = top then
    if fraction = 0 then infinite negative else notANumber
  else if field = 0 then
    finite negative fraction least
  else
    finite negative (Nat.pow 2 precision + fraction) (least + field - 1)

/-- The number with the given 64 bits. -/
def ofBits (bits : Nat) : Binary64 :=
  ofFields 52 (-1074) 2047 (bits / Nat.pow 2 63 % 2 = 1) (bits / Nat.pow 2 52 % 2048)
    (bits % Nat.pow 2 52)

/-- The number with the given 32 bits of the single format. -/
def ofSingleBits (bits : Nat) : Binary64 :=
  ofFields 23 (-149) 255 (bits / Nat.pow 2 31 % 2 = 1) (bits / Nat.pow 2 23 % 256)
    (bits % Nat.pow 2 23)

/-- The number with the given 16 bits of the half format. -/
def ofHalfBits (bits : Nat) : Binary64 :=
  ofFields 10 (-24) 31 (bits / Nat.pow 2 15 % 2 = 1) (bits / Nat.pow 2 10 % 32)
    (bits % Nat.pow 2 10)

def equalsInt (number : Binary64) (value : Int) : Bool :=
  match number with
  | finite negative mantissa exponent =>
    let signed : Int := if negative then -mantissa else mantissa
    if exponent ≥ 0 then signed * (Nat.pow 2 exponent.toNat : Nat) = value
    else signed = value * (Nat.pow 2 (-exponent).toNat : Nat)
  | _ => false

/-- A mantissa with 53 bits, or the least exponent, for the same value. -/
def normalize (mantissa : Nat) (exponent : Int) : Nat × Int :=
  let room := 53 - (Nat.log2 mantissa + 1)
  let shift := min room (exponent + 1074).toNat
  (mantissa * Nat.pow 2 shift, exponent - shift)

/-- A fraction of natural numbers. -/
structure Ratio where
  num : Nat
  den : Nat

def Ratio.le (a b : Ratio) : Bool :=
  a.num * b.den ≤ b.num * a.den

/-- `value * base ^ exponent`. -/
def Ratio.scale (value base : Nat) (exponent : Int) : Ratio :=
  if exponent ≥ 0 then ⟨value * Nat.pow base exponent.toNat, 1⟩
  else ⟨value, Nat.pow base (-exponent).toNat⟩

/-- The decimal exponent of the leading digit of a positive fraction. -/
def leadingExponent (value : Ratio) : Int :=
  if value.den ≤ value.num then
    ((Text.decimal (value.num / value.den)).length : Int) - 1
  else
    match (List.range 400).find? fun places => value.den ≤ value.num * Nat.pow 10 places with
    | some places => -(places : Int)
    | none => 0

/-- The digits, as one number, of the decimal nearest to `value` between `low` and `high` on the
grid of multiples of `10 ^ unit`, if there is one. `closed` says whether the bounds themselves
count. -/
def onGrid? (low value high : Ratio) (closed : Bool) (unit : Int) : Option Nat :=
  let floor :=
    if unit ≥ 0 then value.num / (value.den * Nat.pow 10 unit.toNat)
    else value.num * Nat.pow 10 (-unit).toNat / value.den
  let inside (digits : Nat) : Bool :=
    let point := Ratio.scale digits 10 unit
    if closed then low.le point && point.le high else !(point.le low) && !(high.le point)
  let below := Ratio.scale floor 10 unit
  let above := Ratio.scale (floor + 1) 10 unit
  -- twice the value against the sum of its neighbours
  let doubled := 2 * value.num * (below.den * above.den)
  let middle := value.den * (below.num * above.den + above.num * below.den)
  let nearerBelow := doubled < middle || (doubled = middle && floor % 2 = 0)
  match inside floor, inside (floor + 1) with
  | true, true => some (if nearerBelow then floor else floor + 1)
  | true, false => some floor
  | false, true => some (floor + 1)
  | false, false => none

/-- The shortest digits of a positive number and the place of the decimal point after them: the
number is `0.digits * 10 ^ place`. -/
def shortest (mantissa : Nat) (exponent : Int) : List Char × Int :=
  let (mantissa, exponent) := normalize mantissa exponent
  let below := if mantissa = Nat.pow 2 52 ∧ exponent > -1074 then 1 else 2
  let low := Ratio.scale (4 * mantissa - below) 2 (exponent - 2)
  let value := Ratio.scale (4 * mantissa) 2 (exponent - 2)
  let high := Ratio.scale (4 * mantissa + 2) 2 (exponent - 2)
  let leading := leadingExponent value
  let found? := (List.range 17).findSome? fun (count : Nat) =>
    let unit := leading - (count : Int)
    (onGrid? low value high (mantissa % 2 = 0) unit).map fun digits => (digits, unit)
  let (digits, unit) := found?.getD (0, 0)
  let text := Text.decimal digits
  (Text.trimEnd (· = '0') text, unit + text.length)

def render : Binary64 → String
  | notANumber => "nan"
  | infinite negative => if negative then "-inf" else "inf"
  | finite negative mantissa exponent =>
    let sign := if negative then "-" else ""
    if mantissa = 0 then
      sign ++ "0.0"
    else
      let (digits, place) := shortest mantissa exponent
      let zeros (count : Int) : List Char := List.replicate count.toNat '0'
      let body :=
        if place ≤ -4 ∨ place > 16 then
          let power := place - 1
          let mark := if power < 0 then ['e', '-'] else ['e', '+']
          let fraction := if digits.length = 1 then [] else '.' :: digits.drop 1
          let written := Text.decimal power.natAbs
          digits.take 1 ++ fraction ++ mark ++ zeros (2 - written.length) ++ written
        else if place ≤ 0 then
          ['0', '.'] ++ zeros (-place) ++ digits
        else if place ≥ digits.length then
          digits ++ zeros (place - digits.length) ++ ['.', '0']
        else
          digits.take place.toNat ++ ['.'] ++ digits.drop place.toNat
      sign ++ String.ofList body

/-! ### The number nearest to a decimal -/

/-- The quotient of two numbers, rounded to the nearest integer and to the even one at a tie. -/
def roundQuotient (num den : Nat) : Nat :=
  let floor := num / den
  let rest := 2 * (num % den)
  if rest < den ∨ (rest = den ∧ floor % 2 = 0) then floor else floor + 1

def nearest (negative : Bool) (value : Ratio) : Binary64 :=
  let estimate : Int := (Nat.log2 value.num : Int) - Nat.log2 value.den - 53
  let quotient (exponent : Int) (divide : Nat → Nat → Nat) : Nat :=
    if exponent ≥ 0 then divide value.num (value.den * Nat.pow 2 exponent.toNat)
    else divide (value.num * Nat.pow 2 (-exponent).toNat) value.den
  let fitting := if quotient estimate (· / ·) < Nat.pow 2 53 then estimate else estimate + 1
  let exponent := max fitting (-1074)
  let mantissa := quotient exponent roundQuotient
  let (mantissa, exponent) :=
    if mantissa = Nat.pow 2 53 then (Nat.pow 2 52, exponent + 1) else (mantissa, exponent)
  if exponent > 971 then infinite negative else finite negative mantissa exponent

/-- The number nearest to the decimal `digits * 10 ^ exponent`. -/
def ofDecimal (negative : Bool) (digits : Nat) (exponent : Int) : Binary64 :=
  let leading := exponent + (Text.decimal digits).length
  if digits = 0 ∨ leading < -330 then finite negative 0 (-1074)
  else if leading > 320 then infinite negative
  else nearest negative (Ratio.scale digits 10 exponent)

end Binary64

end CrateReadme
