/-!
# Base64

Three bytes are written as four characters. Tokens use the alphabet that is safe in addresses and no
padding; reading also takes the two characters of the plain alphabet, and padding at the end.
-/

namespace CrateReadme.Text.Base64

/-- The character with the given value below 64. -/
def charOf (value : Nat) : Char :=
  if value < 26 then Char.ofNat (65 + value)
  else if value < 52 then Char.ofNat (71 + value)
  else if value < 62 then Char.ofNat (value - 4)
  else if value = 62 then '-'
  else '_'

def valueOf? (c : Char) : Option Nat :=
  if 'A' ≤ c ∧ c ≤ 'Z' then some (c.toNat - 65)
  else if 'a' ≤ c ∧ c ≤ 'z' then some (c.toNat - 71)
  else if '0' ≤ c ∧ c ≤ '9' then some (c.toNat + 4)
  else if c = '-' ∨ c = '+' then some 62
  else if c = '_' ∨ c = '/' then some 63
  else none

/-- The characters of some bytes, without padding. -/
def encode : List UInt8 → List Char
  | [] => []
  | [a] => [charOf (a.toNat / 4), charOf (a.toNat % 4 * 16)]
  | [a, b] =>
    [charOf (a.toNat / 4), charOf (a.toNat % 4 * 16 + b.toNat / 16), charOf (b.toNat % 16 * 4)]
  | a :: b :: c :: rest =>
    charOf (a.toNat / 4) :: charOf (a.toNat % 4 * 16 + b.toNat / 16) ::
      charOf (b.toNat % 16 * 4 + c.toNat / 64) :: charOf (c.toNat % 64) :: encode rest

/-- The bytes of some values below 64. Bits that do not fill a byte at the end are dropped; one
single value at the end is refused. -/
def bytesOf? : List Nat → Option (List UInt8)
  | [] => some []
  | [_] => none
  | [a, b] => some [(a * 4 + b / 16).toUInt8]
  | [a, b, c] => some [(a * 4 + b / 16).toUInt8, (b % 16 * 16 + c / 4).toUInt8]
  | a :: b :: c :: d :: rest =>
    (bytesOf? rest).map fun bytes =>
      (a * 4 + b / 16).toUInt8 :: (b % 16 * 16 + c / 4).toUInt8 :: (c % 4 * 64 + d).toUInt8 :: bytes

/-- The bytes of a padded text. The padding must complete the last group of four characters; after
complete groups any amount of padding is overlooked, but not at the very start. -/
def decodePadded? (text : List Char) : Option (List UInt8) := do
  let data := text.takeWhile (· ≠ '=')
  let padding := text.dropWhile (· ≠ '=')
  if padding.all (· = '=') then
    if data.isEmpty ∧ !padding.isEmpty then
      none
    else if data.length % 4 ≠ 0 ∧ (data.length % 4 + padding.length ≠ 4) then
      none
    else
      bytesOf? (← data.mapM valueOf?)
  else
    none

/-- The bytes of a text whose padding may be missing. -/
def decode? (text : List Char) : Option (List UInt8) :=
  decodePadded? (text ++ List.replicate ((4 - text.length % 4) % 4) '=')

end CrateReadme.Text.Base64
