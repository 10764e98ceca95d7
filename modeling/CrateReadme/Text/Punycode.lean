/-!
# Punycode

Host names are ASCII. A label with other characters is written as its ASCII characters followed by
numbers that say which characters are missing and where: the missing characters are taken in
ascending order, and each number counts the states that a reader passes over before it inserts the
next one. Numbers are written with digits of growing weight, whose thresholds follow the sizes of
the numbers before them.
-/

namespace CrateReadme.Text.Punycode

def digit (value : Nat) : Char :=
  if value < 26 then Char.ofNat (97 + value) else Char.ofNat (22 + value)

/-- The value of a digit; letters count in both cases. -/
def digitValue? (c : Char) : Option Nat :=
  if 'a' ≤ c ∧ c ≤ 'z' then some (c.toNat - 97)
  else if 'A' ≤ c ∧ c ≤ 'Z' then some (c.toNat - 65)
  else if '0' ≤ c ∧ c ≤ '9' then some (c.toNat - 22)
  else none

/-- The threshold of the digit at `place`: a smaller digit ends its number. -/
def threshold (place bias : Nat) : Nat :=
  max 1 (min 26 (36 * (place + 1) - bias))

theorem one_le_threshold (place bias : Nat) : 1 ≤ threshold place bias :=
  Nat.le_max_left ..

/-- Scales `delta` down and counts the steps. -/
def scaleDown (delta bias : Nat) : Nat :=
  if 455 < delta then scaleDown (delta / 35) (bias + 36) else bias + 36 * delta / (delta + 38)
termination_by delta
decreasing_by omega

/-- The bias after a number `delta`, when `count` characters stand in the text. -/
def adapt (delta : Nat) (isFirst : Bool) (count : Nat) : Nat :=
  let scaled := if isFirst then delta / 700 else delta / 2
  scaleDown (scaled + scaled / count) 0

/-- The digits of a number, the lowest first. -/
def number (bias place value : Nat) : List Char :=
  let limit := threshold place bias
  if value < limit then
    [digit value]
  else
    digit (limit + (value - limit) % (36 - limit)) ::
      number bias (place + 1) ((value - limit) / (36 - limit))
termination_by value
decreasing_by
  have hlow := one_le_threshold place bias
  have hdiv := Nat.div_le_self (value - threshold place bias) (36 - threshold place bias)
  omega

/-- How far a text is written: the digits so far, the count that the next number continues, the bias
of the next number and the characters a reader holds. -/
structure Progress where
  digits : List Char
  delta : Nat
  bias : Nat
  count : Nat

/-- Passes over one character of the text while the character with code `code` is inserted. -/
def step (plain code : Nat) (progress : Progress) (c : Char) : Progress :=
  if c.toNat < code then
    { progress with delta := progress.delta + 1 }
  else if c.toNat = code then
    { digits := progress.digits ++ number progress.bias 0 progress.delta
      delta := 0
      bias := adapt progress.delta (progress.count = plain) (progress.count + 1)
      count := progress.count + 1 }
  else
    progress

/-- Inserts the characters with the given ascending codes; all codes below `next` are done. -/
def insertAll (plain : Nat) (text : List Char) : (codes : List Nat) → (next : Nat) → Progress →
    List Char
  | [], _, progress => progress.digits
  | code :: codes, next, progress =>
    let start := { progress with delta := progress.delta + (code - next) * (progress.count + 1) }
    let done := text.foldl (step plain code) start
    insertAll plain text codes (code + 1) { done with delta := done.delta + 1 }

def encode (text : List Char) : List Char :=
  let plain := text.filter (·.toNat < 128)
  let codes := ((text.map Char.toNat).filter (128 ≤ ·)).eraseDups.mergeSort
  let digits := insertAll plain.length text codes 128 ⟨[], 0, 72, plain.length⟩
  if plain.isEmpty then digits else plain ++ '-' :: digits

/-- Reads a number; `weight` is what its digit at `place` counts. -/
def readNumber? (bias : Nat) : (place weight value : Nat) → List Char → Option (Nat × List Char)
  | _, _, _, [] => none
  | place, weight, value, c :: text => do
    let found ← digitValue? c
    let sum := value + found * weight
    let limit := threshold place bias
    if found < limit then
      return (sum, text)
    readNumber? bias (place + 1) (weight * (36 - limit)) sum text

theorem readNumber?_length {bias place weight value : Nat} {text rest : List Char} {sum : Nat}
    (h : readNumber? bias place weight value text = some (sum, rest)) :
    rest.length < text.length := by
  induction text generalizing place weight value with
  | nil => simp [readNumber?] at h
  | cons c text ih =>
    simp only [readNumber?, Option.bind_eq_bind, Option.bind_eq_some_iff] at h
    obtain ⟨found, -, h⟩ := h
    split at h
    · simp only [pure, Option.some.injEq, Prod.mk.injEq] at h
      simp [h.2]
    · have := ih h
      simp only [List.length_cons]
      omega

/-- Inserts the characters that the digits describe into `text`. `code` is the last character
inserted and `place` the first place where it may be inserted again. -/
def readAll? (isFirst : Bool) (bias code place : Nat) (text digits : List Char) :
    Option (List Char) :=
  match digits with
  | [] => some text
  | d :: rest =>
    match _hread : readNumber? bias 0 1 0 (d :: rest) with
    | none => none
    | some (delta, digits') =>
      let state := place + delta
      let code := code + state / (text.length + 1)
      let place := state % (text.length + 1)
      if code < 0x110000 then
        let text := text.take place ++ Char.ofNat code :: text.drop place
        readAll? false (adapt delta isFirst text.length) code (place + 1) text digits'
      else
        none
termination_by digits.length
decreasing_by exact readNumber?_length _hread

def decode? (text : List Char) : Option (List Char) :=
  if text.all (·.toNat < 128) then
    let digits := (text.reverse.takeWhile (· ≠ '-')).reverse
    let plain := (text.reverse.dropWhile (· ≠ '-')).reverse.dropLast
    readAll? true 72 128 0 plain digits
  else
    none

end CrateReadme.Text.Punycode
