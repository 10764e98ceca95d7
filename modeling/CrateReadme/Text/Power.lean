import CrateReadme.Text.Rounded

/-!
# Powers

A power with a whole exponent is an exact fraction. Any other power is computed from the logarithm
of the base with many more digits than a number keeps, and rounded once at the end.
-/

namespace CrateReadme.Binary64

/-- How many binary places the intermediate results have. -/
def workingPlaces : Nat :=
  256

def unit : Int :=
  Int.pow 2 workingPlaces

/-- The product of two intermediate results. -/
def scaledMul (a b : Int) : Int :=
  (a * b).fdiv unit

/-- The terms `factor * square ^ n / (2 n + 1)` from `n = place` on, added up. -/
def oddSeries (square : Int) : (left place : Nat) → (factor : Int) → Int
  | 0, _, _ => 0
  | left + 1, place, factor =>
    factor.fdiv (2 * place + 1 : Nat) + oddSeries square left (place + 1) (scaledMul factor square)

/-- The natural logarithm of a fraction between one and two. -/
def logOf (num den : Nat) : Int :=
  let ratio := (((num : Int) - den) * unit).fdiv (num + den : Nat)
  2 * oddSeries (scaledMul ratio ratio) 90 0 ratio

def logOfTwo : Int :=
  logOf 2 1

/-- The terms `factor * exponent ^ n / n!` behind a place, added up. -/
def exponentialSeries (exponent : Int) : (left place : Nat) → (factor : Int) → Int
  | 0, _, _ => 0
  | left + 1, place, factor =>
    let next := (scaledMul factor exponent).fdiv (place + 1 : Nat)
    next + exponentialSeries exponent left (place + 1) next

/-- The power of a positive number whose exponent is not whole. -/
def fractionalPower (mantissa : Nat) (exponent : Int) (power : Fraction) : Binary64 :=
  let bits := Nat.log2 mantissa
  let log := logOf mantissa (Nat.pow 2 bits) + (exponent + bits) * logOfTwo
  let scaled := (log * power.num).fdiv power.den
  let turns := (2 * scaled + logOfTwo).fdiv (2 * logOfTwo)
  let rest := scaled - turns * logOfTwo
  let value := (unit + exponentialSeries rest 80 0 unit).natAbs
  if 1100 < turns then infinite false
  else if turns < -1200 then zero false
  else
    let ratio := Ratio.scale value 2 (turns - workingPlaces)
    ofFraction false ⟨ratio.num, ratio.den⟩

/-- The power of a number other than zero whose exponent is whole. -/
def wholePower (base : Fraction) (mantissa : Nat) (exponent power : Int) : Binary64 :=
  let negative := base.num < 0 && power % 2 = 1
  let bits : Int := Nat.log2 mantissa
  -- bounds on the exponent of the result
  let low := (exponent + bits) * power
  let high := (exponent + bits + 1) * power
  let isOne := base.num.natAbs = base.den
  if isOne then ofInt (if negative then -1 else 1)
  else if 1100 < min low high then infinite negative
  else if max low high < -1200 then zero negative
  else if power.natAbs ≤ 100000 then
    let raised := base.pow power.natAbs
    ofFraction negative (if 0 ≤ power then raised else .div ⟨1, 1⟩ raised)
  else
    let value := fractionalPower mantissa exponent ⟨power, 1⟩
    if negative then value.negated else value

inductive PowerResult where
  | number (value : Binary64)
  /-- The base is zero and the exponent negative. -/
  | divisionByZero
  /-- The result is too large. -/
  | overflow
  /-- The base is negative and the exponent not whole. -/
  | notReal

def power (base exponent : Binary64) : PowerResult :=
  let one := ofInt 1
  let order := base.magnitude.compare? one
  if exponent.isZero then .number one
  else if base = notANumber then .number notANumber
  else if exponent = notANumber then
    .number (if base.compare? one = some .eq then one else notANumber)
  else
    match base, exponent, base.fraction?, exponent.fraction? with
    | _, infinite negative, _, _ =>
      match order with
      | some .eq => .number one
      | some .gt => .number (if negative then zero false else infinite false)
      | _ => .number (if negative then infinite false else zero false)
    | infinite isNegative, _, _, some power =>
      let isOdd := power.num % (2 * power.den) = power.den
      if power.num < 0 then .number (zero (isNegative && isOdd))
      else .number (infinite (isNegative && isOdd))
    | finite isNegative mantissa binary, _, some value, some power =>
      let isWhole := power.num % power.den = 0
      let isOdd := power.num % (2 * power.den) = power.den
      if mantissa = 0 then
        if power.num < 0 then .divisionByZero else .number (zero (isNegative && isOdd))
      else if isNegative && !isWhole then
        .notReal
      else
        let result :=
          if isWhole then wholePower value mantissa binary (power.num / power.den)
          else fractionalPower mantissa binary power
        if result.isFinite then .number result else .overflow
    | _, _, _, _ => .number notANumber

end CrateReadme.Binary64
