import CrateReadme.Text.Integer
import CrateReadme.Text.Shortest

/-!
# Numbers with fractions in text

A number may have a fraction and an exponent, digits of any script with single underscores between
them, one sign in front and white space around it. The infinite numbers and the value that is no
number are written as words.
-/

namespace CrateReadme.Text

/-- The digits at the start of a text, without the single underscores between them, and the rest. -/
def spanDigits : List Char → List Char × List Char
  | [] => ([], [])
  | [c] => if isDecimal c then ([c], []) else ([], [c])
  | c :: d :: text =>
    if isDecimal c then
      match d, text with
      | '_', e :: _ =>
        if isDecimal e then
          let (digits, rest) := spanDigits text
          (c :: digits, rest)
        else
          ([c], d :: text)
      | _, _ =>
        let (digits, rest) := spanDigits (d :: text)
        (c :: digits, rest)
    else
      ([], c :: d :: text)

/-- The exponent that a text consists of; the empty text stands for none. -/
def exponent? : List Char → Option Int
  | [] => some 0
  | mark :: text =>
    if mark = 'e' ∨ mark = 'E' then
      let (isNegative, text) :=
        match text with
        | '-' :: text => (true, text)
        | '+' :: text => (false, text)
        | text => (false, text)
      match spanDigits text with
      | (digits, []) =>
        (natural? 10 digits).map fun value => if isNegative then -(value : Int) else value
      | _ => none
    else
      none

/-- The number without a sign that a text consists of. -/
def magnitude? (negative : Bool) (text : List Char) : Option Binary64 :=
  let word := text.map Char.toLower
  if word = "inf".toList ∨ word = "infinity".toList then some (.infinite negative)
  else if word = "nan".toList then some .notANumber
  else
    let (whole, rest) := spanDigits text
    let (fraction, rest) :=
      match rest with
      | '.' :: rest => spanDigits rest
      | rest => ([], rest)
    match natural? 10 (whole ++ fraction), exponent? rest with
    | some digits, some exponent =>
      some (.ofDecimal negative digits (exponent - fraction.length))
    | _, _ => none

def real? (text : List Char) : Option Binary64 :=
  match trim isNumberPadding text with
  | '-' :: text => magnitude? true text
  | '+' :: text => magnitude? false text
  | text => magnitude? false text

end CrateReadme.Text
