import CrateReadme.Text.Integer
import CrateReadme.Text.Printable

/-!
# UTF-8 and percent-encoding

Texts and bytes. Every text has an encoding, and decoding it gives the text back; not every sequence
of bytes is an encoding. Where escapes spell surrogates, which have no bytes, other characters stand
for them.
-/

namespace CrateReadme.Text

/-- The bytes of a text in UTF-8. -/
def utf8 (text : String) : List UInt8 :=
  text.toByteArray.data.toList

/-- The text with the given UTF-8 bytes. -/
def ofUtf8? (bytes : List UInt8) : Option String :=
  String.fromUTF8? ⟨bytes.toArray⟩

@[simp]
theorem ofUtf8?_utf8 (text : String) : ofUtf8? (utf8 text) = some text := by
  have hvalid : text.toByteArray.IsValidUTF8 := text.isValidUTF8
  simp [ofUtf8?, utf8, String.fromUTF8?, hvalid, String.fromUTF8]

/-- Reads bytes as UTF-8, with the replacement character for each byte that fits nowhere. Bytes that
start a character but do not complete it are replaced together. -/
def lossyUtf8 (bytes : List UInt8) : List Char :=
  match bytes with
  | [] => []
  | byte :: rest =>
    let lead := byte.toNat
    let isNext (low high : Nat) (next : UInt8) : Bool := low ≤ next.toNat && next.toNat ≤ high
    let tail := isNext 0x80 0xbf
    let second :=
      if lead = 0xe0 then isNext 0xa0 0xbf
      else if lead = 0xed then isNext 0x80 0x9f
      else if lead = 0xf0 then isNext 0x90 0xbf
      else if lead = 0xf4 then isNext 0x80 0x8f
      else tail
    let wanted :=
      if lead < 0x80 then 0
      else if 0xc2 ≤ lead ∧ lead ≤ 0xdf then 1
      else if 0xe0 ≤ lead ∧ lead ≤ 0xef then 2
      else if 0xf0 ≤ lead ∧ lead ≤ 0xf4 then 3
      else 4
    let found :=
      match wanted, rest with
      | 0, _ | 4, _ => []
      | _, [] => []
      | _, next :: more =>
        if second next then next :: (more.take (wanted - 1)).takeWhile tail else []
    let value := found.foldl (fun sum next => sum * 64 + (next.toNat - 0x80))
      (match wanted with
        | 0 => lead
        | 1 => lead - 0xc0
        | 2 => lead - 0xe0
        | _ => lead - 0xf0)
    let char := if found.length = wanted then Char.ofNat value else '\ufffd'
    char :: lossyUtf8 (rest.drop found.length)
termination_by bytes.length
decreasing_by simp only [List.length_drop, List.length_cons]; omega

/-! ### Percent-encoding

Bytes that may not stand in an address are written as a percent sign and two hexadecimal digits.
-/

namespace Percent

def hexValue? (c : Char) : Option Nat :=
  if c.toNat < 128 then digitValue? 16 c else none

/-- The bytes of an ASCII text whose escapes are undone. Other percent signs stay. -/
def bytesOf : List Char → List UInt8
  | [] => []
  | '%' :: high :: low :: text =>
    match hexValue? high, hexValue? low with
    | some h, some l => (h * 16 + l).toUInt8 :: bytesOf text
    | _, _ => 37 :: bytesOf (high :: low :: text)
  | c :: text => c.toNat.toUInt8 :: bytesOf text

/-- Whether `c` is an ASCII character. -/
def isAscii (c : Char) : Bool :=
  c.toNat < 128

/-- A text whose escapes are undone. Each run of ASCII characters is read as UTF-8 on its own; what
is no UTF-8 becomes the replacement character. -/
def decode (text : List Char) : List Char :=
  match text with
  | [] => []
  | c :: rest =>
    if isAscii c then
      lossyUtf8 (bytesOf (c :: rest.takeWhile isAscii)) ++ decode (rest.dropWhile isAscii)
    else
      c :: decode rest
termination_by text.length
decreasing_by
  · have := (List.dropWhile_sublist (l := rest) isAscii).length_le
    simp only [List.length_cons]
    omega
  · simp

/-- Two uppercase hexadecimal digits for a byte. -/
def escape (byte : UInt8) : List Char :=
  '%' :: (hexadecimal 2 byte.toNat).map Char.toUpper

/-- The bytes of a text, each written as it is if it is ASCII and `keep` holds, else escaped. -/
def encode (keep : Char → Bool) (text : String) : List Char :=
  (utf8 text).flatMap fun byte =>
    let c := Char.ofNat byte.toNat
    if byte.toNat < 128 ∧ keep c then [c] else escape byte

def isPathChar (c : Char) : Bool :=
  c.isAlphanum || c = '_' || c = '.' || c = '-' || c = '~' || c = '/'

end Percent

/-! ### Surrogates

Characters leave out the 2048 code points of the surrogates, but a text that escapes spell can hold
them. While such a text is made, characters that are not assigned stand for them. There are two
blocks of these, because a text holds a surrogate just if it comes out differently with the other
block. Such a text has no bytes.
-/

/-- A block of characters that stand for the surrogates. -/
inductive StandIns where
  | usual
  | other
  deriving DecidableEq, Repr, Inhabited

namespace StandIns

def first : StandIns → Nat
  | usual => 0xd0000
  | other => 0xd8000

/-- The character with a code, or the one that stands for it if there is none. -/
def char (standIns : StandIns) (code : Nat) : Char :=
  if 0xd800 ≤ code ∧ code < 0xe000 then Char.ofNat (standIns.first + (code - 0xd800))
  else Char.ofNat code

/-- A text that was made with the usual block, as it is with another one. -/
def respell (standIns : StandIns) (text : String) : String :=
  text.map fun c =>
    if usual.first ≤ c.toNat ∧ c.toNat < usual.first + 2048 then
      Char.ofNat (standIns.first + (c.toNat - usual.first))
    else
      c

end StandIns

end CrateReadme.Text
