import CrateReadme.Text.Shortest

/-!
# Rounded arithmetic

Operations on binary floating-point numbers: the exact result is a fraction, and the number nearest
to it is taken. Zeros keep a sign, and the infinite numbers and the value that is no number have
rules of their own.
-/

namespace CrateReadme.Binary64

structure Fraction where
  num : Int
  den : Nat

namespace Fraction

def pow (value : Fraction) (exponent : Nat) : Fraction :=
  ⟨Int.pow value.num exponent, Nat.pow value.den exponent⟩

/-- The greatest integer that is not greater than a fraction. -/
def floor (value : Fraction) : Int :=
  value.num.fdiv value.den

/-- The quotient of two fractions, of which the second is not zero. -/
def div (a b : Fraction) : Fraction :=
  if b.num < 0 then ⟨-(a.num * b.den), a.den * b.num.natAbs⟩
  else ⟨a.num * b.den, a.den * b.num.natAbs⟩

def add (a b : Fraction) : Fraction :=
  ⟨a.num * b.den + b.num * a.den, a.den * b.den⟩

def mul (a b : Fraction) : Fraction :=
  ⟨a.num * b.num, a.den * b.den⟩

def neg (a : Fraction) : Fraction :=
  ⟨-a.num, a.den⟩

def compare (a b : Fraction) : Ordering :=
  Ord.compare (a.num * b.den) (b.num * a.den)

end Fraction

def zero (negative : Bool) : Binary64 :=
  finite negative 0 (-1074)

/-- The exact value of a number, if it is finite. -/
def fraction? : Binary64 → Option Fraction
  | finite negative mantissa exponent =>
    let ratio := Ratio.scale mantissa 2 exponent
    some ⟨if negative then -ratio.num else ratio.num, ratio.den⟩
  | _ => none

/-- The number nearest to a fraction; a zero takes the given sign. -/
def ofFraction (negativeZero : Bool) (value : Fraction) : Binary64 :=
  if value.num = 0 then zero negativeZero
  else
    match nearest (value.num < 0) ⟨value.num.natAbs, value.den⟩ with
    | finite _ 0 _ => zero (value.num < 0)
    | number => number

def ofInt (value : Int) : Binary64 :=
  ofFraction false ⟨value, 1⟩

def isZero : Binary64 → Bool
  | finite _ mantissa _ => mantissa = 0
  | _ => false

def isFinite : Binary64 → Bool
  | finite _ _ _ => true
  | _ => false

def isNegative : Binary64 → Bool
  | finite negative _ _ | infinite negative => negative
  | notANumber => false

def negated : Binary64 → Binary64
  | finite negative mantissa exponent => finite (!negative) mantissa exponent
  | infinite negative => infinite (!negative)
  | notANumber => notANumber

def magnitude (number : Binary64) : Binary64 :=
  if number.isNegative then number.negated else number

def add (a b : Binary64) : Binary64 :=
  match a, b, a.fraction?, b.fraction? with
  | infinite m, infinite n, _, _ => if m = n then infinite m else notANumber
  | notANumber, _, _, _ | _, notANumber, _, _ => notANumber
  | infinite n, _, _, _ | _, infinite n, _, _ => infinite n
  | _, _, some x, some y => ofFraction (a.isNegative && b.isNegative) (x.add y)
  | _, _, _, _ => notANumber

def sub (a b : Binary64) : Binary64 :=
  a.add b.negated

def mul (a b : Binary64) : Binary64 :=
  let negative := a.isNegative != b.isNegative
  match a, b, a.fraction?, b.fraction? with
  | notANumber, _, _, _ | _, notANumber, _, _ => notANumber
  | infinite _, other, _, _ | other, infinite _, _, _ =>
    if other.isZero then notANumber else infinite negative
  | _, _, some x, some y => ofFraction negative (x.mul y)
  | _, _, _, _ => notANumber

/-- The quotient of two numbers, of which the second is not zero. -/
def div (a b : Binary64) : Binary64 :=
  let negative := a.isNegative != b.isNegative
  match a, b, a.fraction?, b.fraction? with
  | infinite _, infinite _, _, _ => notANumber
  | notANumber, _, _, _ | _, notANumber, _, _ => notANumber
  | infinite _, _, _, _ => infinite negative
  | _, infinite _, _, _ => zero negative
  | _, _, some x, some y => ofFraction negative (x.div y)
  | _, _, _, _ => notANumber

/-- The order of two numbers; what is no number has none. -/
def compare? (a b : Binary64) : Option Ordering :=
  let rank (negative : Bool) : Int := if negative then -1 else 1
  match a, b, a.fraction?, b.fraction? with
  | notANumber, _, _, _ | _, notANumber, _, _ => none
  | infinite m, infinite n, _, _ => some (Ord.compare (rank m) (rank n))
  | infinite m, _, _, _ => some (Ord.compare (rank m) 0)
  | _, infinite n, _, _ => some (Ord.compare 0 (rank n))
  | _, _, some x, some y => some (x.compare y)
  | _, _, _, _ => none

/-- The greatest whole number that is not greater than a number. -/
def floor (number : Binary64) : Binary64 :=
  match number.fraction? with
  | some value => ofFraction number.isNegative ⟨value.floor, 1⟩
  | none => number

/-- What is left of a number when another one, which is not zero, is taken away from it as often as
possible. It has the sign of the first number. -/
def remainder (a b : Binary64) : Binary64 :=
  match a, b, a.fraction?, b.fraction? with
  | finite _ _ _, infinite _, _, _ => a
  | _, _, some x, some y =>
    let quotient := x.div y
    let whole : Fraction := ⟨quotient.num.tdiv quotient.den, 1⟩
    ofFraction a.isNegative (x.add (whole.mul y).neg)
  | _, _, _, _ => notANumber

/-- The remainder with the sign of the second number, which is not zero. -/
def modulo (a b : Binary64) : Binary64 :=
  let rest := a.remainder b
  if rest.isZero then zero b.isNegative
  else if rest ≠ notANumber ∧ rest.isNegative ≠ b.isNegative then rest.add b
  else rest

/-- The whole number below the quotient of two numbers, of which the second is not zero. -/
def floorDiv (a b : Binary64) : Binary64 :=
  let rest := a.remainder b
  let quotient := (a.sub rest).div b
  let isBelow := !rest.isZero && rest ≠ notANumber && rest.isNegative ≠ b.isNegative
  let quotient := if isBelow then quotient.sub (ofInt 1) else quotient
  if quotient.isZero then
    zero (a.isNegative != b.isNegative)
  else
    let whole := quotient.floor
    let half := ofFraction false ⟨1, 2⟩
    if (quotient.sub whole).compare? half = some .gt then whole.add (ofInt 1) else whole

def truncated? (number : Binary64) : Option Int :=
  number.fraction?.map fun value => value.num.tdiv value.den

/-- The quotient of two integers, of which the second is positive, rounded to the nearest integer
and to the even one at a tie. -/
def roundedQuotient (num : Int) (den : Nat) : Int :=
  let rounded : Int := roundQuotient num.natAbs den
  if num < 0 then -rounded else rounded

/-- The integer nearest to another one among the multiples of a power of ten. -/
def roundInt (places : Nat) (value : Int) : Int :=
  roundedQuotient value (Nat.pow 10 places) * Int.pow 10 places

/-- The number with at most the given number of decimal places that is nearest to a number; at a
tie, the last digit is even. With a negative number of places it is a multiple of a power of ten. -/
def roundedTo (places : Int) (number : Binary64) : Binary64 :=
  match number.fraction? with
  | some value =>
    if 330 < places then number
    else if places < -330 then zero number.isNegative
    else if 0 ≤ places then
      let unit := Nat.pow 10 places.toNat
      ofFraction number.isNegative ⟨roundedQuotient (value.num * unit) value.den, unit⟩
    else
      let unit := Nat.pow 10 places.natAbs
      ofFraction number.isNegative ⟨roundedQuotient value.num (value.den * unit) * unit, 1⟩
  | none => number

end CrateReadme.Binary64
