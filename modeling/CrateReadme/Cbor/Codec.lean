import CrateReadme.Cbor.Value

/-!
# Writing and reading the binary format

A value starts with a byte whose upper three bits give its type and whose lower five bits give a
number, or say how many bytes of a number follow. Writing always takes the shortest form; a length
of 2⁶⁴ or more has no such form and is left open. Reading takes every form and leaves alone what
follows the value. Values and strings that are referred to are put in place of the references.
-/

namespace CrateReadme.Cbor

/-- The last `count` bytes of a number, the highest first. -/
def bigEndian : (count : Nat) → Nat → List UInt8
  | 0, _ => []
  | count + 1, value => bigEndian count (value / 256) ++ [value.toUInt8]

/-- The number with the given bytes, the highest first. -/
def ofBigEndian (bytes : List UInt8) : Nat :=
  bytes.foldl (fun sum byte => sum * 256 + byte.toNat) 0

/-- The head of a value: its type below eight and a number below 2⁶⁴. -/
def head (type number : Nat) : List UInt8 :=
  if number < 24 then [(type * 32 + number).toUInt8]
  else if number < Nat.pow 2 8 then (type * 32 + 24).toUInt8 :: bigEndian 1 number
  else if number < Nat.pow 2 16 then (type * 32 + 25).toUInt8 :: bigEndian 2 number
  else if number < Nat.pow 2 32 then (type * 32 + 26).toUInt8 :: bigEndian 4 number
  else (type * 32 + 27).toUInt8 :: bigEndian 8 number

def openHead (type : Nat) : List UInt8 :=
  [(type * 32 + 31).toUInt8]

def endMark : UInt8 := 0xff

/-- The bytes of a collection of `count` members. A count that fits into no head is left open. -/
def collection (type count : Nat) (body : List UInt8) : List UInt8 :=
  if count < Nat.pow 2 64 then head type count ++ body
  else openHead type ++ body ++ [endMark]

/-- The bytes of a string that consists of the given pieces. A string whose length fits into no head
is written piece by piece. -/
def string (type : Nat) (pieces : List (List UInt8)) : List UInt8 :=
  let bytes := pieces.flatten
  if bytes.length < Nat.pow 2 64 then head type bytes.length ++ bytes
  else openHead type ++ pieces.flatMap (fun piece => head type piece.length ++ piece) ++ [endMark]

def byteString (bytes : List UInt8) : List UInt8 :=
  string 2 (bytes.map fun byte => [byte])

def textString (text : String) : List UInt8 :=
  string 3 (text.toList.map String.utf8EncodeChar)

/-- The bytes of a number without leading zeros. -/
def magnitudeBytes (value : Nat) : List UInt8 :=
  if value = 0 then [] else magnitudeBytes (value / 256) ++ [value.toUInt8]
termination_by value
decreasing_by omega

/-- The bytes of an integer with the given type and magnitude. One beyond 64 bits is a tagged byte
string. -/
def integer (type magnitude : Nat) : List UInt8 :=
  if magnitude < Nat.pow 2 64 then head type magnitude
  else head 6 (type + 2) ++ byteString (magnitudeBytes magnitude)

/-- The bytes of an integer. Counting down from minus one gives the magnitude of a negative one. -/
def encodeInt : Int → List UInt8
  | .ofNat magnitude => integer 0 magnitude
  | .negSucc magnitude => integer 1 magnitude

mutual

/-- The bytes of a value. Numbers with a fraction do not occur in what is written; they are left
out. -/
def encode : Cbor → List UInt8
  | int value => encodeInt value
  | bytes value => byteString value
  | text value => textString value
  | array members => collection 4 members.length (encodeAll members)
  | map entries => collection 5 entries.length (encodeEntries entries)
  | bool value => head 7 (if value then 21 else 20)
  | null => head 7 22
  | undefined => head 7 23
  | simple number => head 7 number
  | float _ => []
  | tagged number content => head 6 number ++ encode content

/-- The bytes of several values, one after the other. -/
def encodeAll : List Cbor → List UInt8
  | [] => []
  | value :: values => encode value ++ encodeAll values

def encodeEntries : List (Cbor × Cbor) → List UInt8
  | [] => []
  | (key, value) :: entries => encode key ++ encode value ++ encodeEntries entries

end

/-- The number that a head carries, or `none` for a value of open length; and what follows. -/
def readNumber? (info : Nat) (rest : List UInt8) : Option (Option Nat × List UInt8) :=
  let wide (count : Nat) : Option (Option Nat × List UInt8) :=
    if rest.length < count then none
    else some (some (ofBigEndian (rest.take count)), rest.drop count)
  if info < 24 then some (some info, rest)
  else if info = 24 then wide 1
  else if info = 25 then wide 2
  else if info = 26 then wide 4
  else if info = 27 then wide 8
  else if info = 31 then some (none, rest)
  else none

/-- The first `count` bytes, and what follows them. -/
def readBytes? (count : Nat) (rest : List UInt8) : Option (List UInt8 × List UInt8) :=
  if rest.length < count then none else some (rest.take count, rest.drop count)

/-- The pieces of a string of open length, up to its end mark. All pieces have the type of the
string and a known length. -/
def readPieces? (type : Nat) : (input : List UInt8) → Option (List (List UInt8) × List UInt8)
  | [] => none
  | byte :: rest =>
    if byte = 0xff then
      some ([], rest)
    else if byte.toNat / 32 = type then
      match readNumber? (byte.toNat % 32) rest with
      | some (some count, rest') =>
        match readBytes? count rest' with
        | some (piece, following) =>
          if _hshorter : following.length < (byte :: rest).length then
            match readPieces? type following with
            | some (pieces, after) => some (piece :: pieces, after)
            | none => none
          else
            none
        | none => none
      | _ => none
    else
      none
termination_by input => input.length
decreasing_by exact _hshorter

def readByteString? (length : Option Nat) (rest : List UInt8) :
    Option (List UInt8 × List UInt8) :=
  match length with
  | some count => readBytes? count rest
  | none => (readPieces? 2 rest).map fun found => (found.1.flatten, found.2)

/-- A text. Every piece of it must be UTF-8. -/
def readText? (length : Option Nat) (rest : List UInt8) : Option (String × List UInt8) :=
  match length with
  | some count => do
    let (piece, after) ← readBytes? count rest
    return (← Text.ofUtf8? piece, after)
  | none => do
    let (pieces, after) ← readPieces? 3 rest
    return (String.join (← pieces.mapM Text.ofUtf8?), after)

/-- A value of the seventh type: a truth value, a simple value or a floating-point number. -/
def readSimple? (info : Nat) (rest : List UInt8) : Option (Cbor × List UInt8) := do
  let (number?, after) ← readNumber? info rest
  let number ← number?
  let value :=
    if info = 25 then float (Binary64.ofHalfBits number)
    else if info = 26 then float (Binary64.ofSingleBits number)
    else if info = 27 then float (Binary64.ofBits number)
    else if info = 20 then bool false
    else if info = 21 then bool true
    else if info = 22 then null
    else if info = 23 then undefined
    else simple number
  return (value, after)

/-- Whether a text gives a date, a time of day and a time zone. -/
def isTimestamp (text : List Char) : Bool :=
  let shape (pattern : String) (part : List Char) : Bool :=
    part.map (fun c => if c.isDigit then '0' else c) = pattern.toList
  let zone (rest : List Char) : Bool :=
    rest = ['Z'] || shape "+00:00" rest || shape "-00:00" rest
  shape "0000-00-00T00:00:00" (text.take 19) &&
    match text.drop 19 with
    | '.' :: rest => rest.head?.any Char.isDigit && zone (rest.dropWhile Char.isDigit)
    | rest => zone rest

/-! ### Tags -/

/-- The tag of a value that others refer to. -/
def sharedMark : Nat := 28

/-- The tag of a reference to a value, by the number of its mark. -/
def sharedReference : Nat := 29

/-- The tag of a value within which strings are counted. -/
def stringNamespace : Nat := 256

/-- The tag of a reference to a string that was counted. -/
def stringReference : Nat := 25

/-- Whether a value has a tag that is taken off only when all has been read. -/
def isOpen : Cbor → Bool
  | tagged number _ => number ∈ [sharedMark, sharedReference, stringNamespace, stringReference]
  | _ => false

/-- What a tag makes of its content. Two tags turn byte strings into large integers; the others
stay, the mark of self-described values among them. -/
def applyTag? (number : Nat) (content : Cbor) : Option Cbor :=
  if content.isOpen then
    some (tagged number content)
  else
    match number, content with
    | 2, bytes value => some (int (ofBigEndian value))
    | 3, bytes value => some (int (-1 - ofBigEndian value))
    | 0, text value => if isTimestamp value.toList then some (tagged number content) else none
    | 1, int _ | 1, float _ | 1, bool _ => some (tagged number content)
    | 4, array [_, _] | 5, array [_, _] | 30, array [_, _] => some (tagged number content)
    | 0, _ | 1, _ | 2, _ | 3, _ | 4, _ | 5, _ | 30, _ => none
    | _, _ => some (tagged number content)

/-! ### Values -/

mutual

/-- Reads the value at the start of the input. The answer holds the value and what follows it. -/
def decode? (input : List UInt8) : Option (Cbor × List UInt8) :=
  match input with
  | [] => none
  | byte :: rest =>
    let info := byte.toNat % 32
    if byte.toNat / 32 = 7 then
      readSimple? info rest
    else
      match readNumber? info rest with
      | none => none
      | some (length, after) =>
        if after.length < rest.length + 1 then
          match byte.toNat / 32, length with
          | 0, some number => some (int number, after)
          | 1, some number => some (int (-1 - number), after)
          | 2, length => (readByteString? length after).map fun found => (bytes found.1, found.2)
          | 3, length => (readText? length after).map fun found => (text found.1, found.2)
          | 4, length => (decodeMany? length after).map fun found => (array found.1, found.2)
          | 5, length =>
            (decodeEntries? length after).map fun found => (map found.1, found.2)
          | 6, some number =>
            match decode? after with
            | some (content, following) =>
              (applyTag? number content).map fun value => (value, following)
            | none => none
          | _, _ => none
        else
          none
termination_by (input.length, 0)
decreasing_by all_goals exact Prod.Lex.left _ _ (by assumption)

/-- Reads `count` values, or values up to an end mark. -/
def decodeMany? (count : Option Nat) (input : List UInt8) : Option (List Cbor × List UInt8) :=
  match count, input with
  | some 0, input => some ([], input)
  | _, [] => none
  | count, byte :: rest =>
    if count = none ∧ byte = 0xff then
      some ([], rest)
    else
      match decode? (byte :: rest) with
      | none => none
      | some (value, after) =>
        if after.length < rest.length + 1 then
          (decodeMany? (count.map (· - 1)) after).map fun found => (value :: found.1, found.2)
        else
          none
termination_by (input.length, 1)
decreasing_by
  · exact Prod.Lex.right _ Nat.zero_lt_one
  · exact Prod.Lex.left _ _ (by assumption)

/-- Reads `count` entries of a map, or entries up to an end mark. -/
def decodeEntries? (count : Option Nat) (input : List UInt8) :
    Option (List (Cbor × Cbor) × List UInt8) :=
  match count, input with
  | some 0, input => some ([], input)
  | _, [] => none
  | count, byte :: rest =>
    if count = none ∧ byte = 0xff then
      some ([], rest)
    else
      match decode? (byte :: rest) with
      | none => none
      | some (key, middle) =>
        if middle.length < rest.length + 1 then
          match decode? middle with
          | none => none
          | some (value, after) =>
            if after.length < rest.length + 1 then
              (decodeEntries? (count.map (· - 1)) after).map fun found =>
                ((key, value) :: found.1, found.2)
            else
              none
        else
          none
termination_by (input.length, 1)
decreasing_by
  · exact Prod.Lex.right _ Nat.zero_lt_one
  · exact Prod.Lex.left _ _ (by assumption)
  · exact Prod.Lex.left _ _ (by assumption)

end

/-! ### References

Bytes can mark a value, so that references to it stand where it would be written again. They can
also count strings, for references by number. These tags are taken off when a whole value has been
read.
-/

/-- What can be referred to: the marked values, in the order of their marks and missing while they
are read, and the strings of the innermost value that counts them. -/
structure Register where
  values : List (Option Cbor) := []
  strings : Option (List Cbor) := none

/-- The least length of the next string that counts. A reference to a shorter one would take no
fewer bytes. -/
def leastLength (count : Nat) : Nat :=
  if count < 24 then 3
  else if count < Nat.pow 2 8 then 4
  else if count < Nat.pow 2 16 then 5
  else if count < Nat.pow 2 32 then 7
  else 11

namespace Register

def note (register : Register) (string : Cbor) (length : Nat) : Register :=
  { register with
    strings := register.strings.map fun strings =>
      if leastLength strings.length ≤ length then strings ++ [string] else strings }

/-- What a tag makes of its content if it may refer to something. A reference to a value from within
that value stays. -/
def resolve? (register : Register) (number : Nat) (content : Cbor) : Option Cbor :=
  if number = sharedReference then
    match content with
    | int (.ofNat index) =>
      register.values[index]?.map fun value => value.getD (tagged number content)
    | _ => none
  else if number = stringReference then
    match content with
    | int (.ofNat index) => register.strings.bind fun strings => strings[index]?
    | _ => none
  else
    applyTag? number content

end Register

mutual

/-- A value with what it refers to in place of its references. -/
def settle? (register : Register) : Cbor → Option (Cbor × Register)
  | bytes value => some (bytes value, register.note (bytes value) value.length)
  | text value => some (text value, register.note (text value) (Text.utf8 value).length)
  | array members => (settleAll? register members).map fun found => (array found.1, found.2)
  | map entries => (settleEntries? register entries).map fun found => (map found.1, found.2)
  | tagged number content =>
    if number = sharedMark then
      (settle? { register with values := register.values ++ [none] } content).map fun found =>
        (found.1, { found.2 with
          values := found.2.values.set register.values.length (some found.1) })
    else if number = stringNamespace then
      (settle? { register with strings := some [] } content).map fun found =>
        (found.1, { found.2 with strings := register.strings })
    else
      match settle? register content with
      | some (content, after) => (after.resolve? number content).map fun value => (value, after)
      | none => none
  | value => some (value, register)

def settleAll? (register : Register) : List Cbor → Option (List Cbor × Register)
  | [] => some ([], register)
  | value :: values =>
    match settle? register value with
    | some (value, middle) =>
      (settleAll? middle values).map fun found => (value :: found.1, found.2)
    | none => none

def settleEntries? (register : Register) :
    List (Cbor × Cbor) → Option (List (Cbor × Cbor) × Register)
  | [] => some ([], register)
  | (key, value) :: entries =>
    match settle? register key with
    | some (key, middle) =>
      match settle? middle value with
      | some (value, after) =>
        (settleEntries? after entries).map fun found => ((key, value) :: found.1, found.2)
      | none => none
    | none => none

end

def value? (bytes : List UInt8) : Option Cbor := do
  let (value, _) ← decode? bytes
  let (value, _) ← value.settle? {}
  return value

end CrateReadme.Cbor
