import CrateReadme.Cbor.Codec
import CrateReadme.Snapshot.Basic
import CrateReadme.Text.Base64

/-!
# Snapshot tokens

A snapshot is stored in a readme as one word: its binary form, written in the alphabet that is safe
in addresses. The crates are written in order of their names, so equal snapshots have equal tokens.
-/

namespace CrateReadme.Snapshot

inductive TokenError where
  | badBase64
  | badBinary
  | notAPair
  | unknownFormat (value : Cbor)
  | notAMap
  | missingField (name : String)
  | badSchema (value : Cbor)
  | cratesNotAnArray
  | badDigest
  | badEntry (value : Cbor)
  | badName (value : Cbor)
  | badVersion (name : String) (value : Cbor)
  | badLibName (name : String) (value : Cbor)
  deriving Repr

def TokenError.message : TokenError → String
  | badBase64 => "invalid base64"
  | badBinary => "invalid CBOR"
  | notAPair => "expected a two-element array"
  | unknownFormat value => "unsupported format version " ++ value.render
  | notAMap => "expected a map"
  | missingField name => "missing field " ++ Text.quoted name
  | badSchema value => "invalid schema version " ++ value.render
  | cratesNotAnArray => "dependencies must be an array"
  | badDigest => "hash must be four unsigned 64-bit integers"
  | badEntry value => "malformed dependency entry: " ++ value.render
  | badName value => "malformed dependency name: " ++ value.render
  | badVersion name value => "malformed version of " ++ name ++ ": " ++ value.render
  | badLibName name value => "malformed lib name of " ++ name ++ ": " ++ value.render

def formatVersion : Int := 1

/-- A digest as four words, the highest byte of each first. -/
def digestWords : (count : Nat) → List UInt8 → List Cbor
  | 0, _ => []
  | count + 1, bytes => .int (Cbor.ofBigEndian (bytes.take 8)) :: digestWords count (bytes.drop 8)

def entryValue (entry : LinkedCrate) : Cbor :=
  let version := match entry.version with
    | some version => Cbor.text version.render
    | none => .null
  .array ([.text entry.name, version] ++ entry.libAlias.toList.map .text)

/-- Whether the name of one entry comes before that of another, by code points. -/
def nameLe (left right : LinkedCrate) : Bool :=
  Version.compareText left.name.toList right.name.toList ≠ .gt

def toCbor (snapshot : Snapshot) : Cbor :=
  .array [.int formatVersion, .map [
    (.text "m", .int snapshot.schema),
    (.text "t", .array (digestWords 4 snapshot.template)),
    (.text "r", .array (digestWords 4 snapshot.docs)),
    (.text "d", .array ((snapshot.crates.mergeSort nameLe).map entryValue))]]

def token (snapshot : Snapshot) : String :=
  String.ofList (Text.Base64.encode (Cbor.encode snapshot.toCbor))

/-- A word of a digest: an integer below 2⁶⁴, where truth values count as zero and one. -/
def word? : Cbor → Option Nat
  | .int value => if 0 ≤ value ∧ value.toNat < Nat.pow 2 64 then some value.toNat else none
  | .bool value => some (if value then 1 else 0)
  | _ => none

def digestOf (value : Cbor) : Except TokenError (List UInt8) :=
  match value with
  | .array members =>
    match members.mapM word? with
    | some words =>
      if words.length = 4 then .ok (words.flatMap (Cbor.bigEndian 8)) else .error .badDigest
    | none => .error .badDigest
  | _ => .error .badDigest

def entryOf (value : Cbor) : Except TokenError LinkedCrate := do
  let (name, version, rest) ← match value with
    | .array [name, version] => pure (name, version, Cbor.null)
    | .array [name, version, libName] => pure (name, version, libName)
    | _ => throw (.badEntry value)
  let name ← match name with
    | .text name => pure name
    | _ => throw (.badName name)
  let version ← match version with
    | .null => pure none
    | .text text =>
      match Version.ofText? text with
      | some version => pure (some version)
      | none => throw (.badVersion name version)
    | _ => throw (.badVersion name version)
  let libAlias ← match rest with
    | .null => pure none
    | .text libName => pure (some libName)
    | _ => throw (.badLibName name rest)
  return { name, version, libAlias }

/-- What reading leaves to the binary format: the value at the start of some bytes, and whether a
value equals the format of this library. Readers of the binary format agree on plain values and go
different ways where values have tags. -/
structure Reader where
  decode? : List UInt8 → Option Cbor
  isFormat : Cbor → Bool

/-- The integer that a value counts as. Truth values count as zero and one. -/
def integer? : Cbor → Option Int
  | .int value => some value
  | .bool value => some (if value then 1 else 0)
  | _ => none

/-- Whether `digits * base ^ exponent` is one, for a base of two or more. Only an exponent that is
small against the digits is raised to. -/
def isScaledOne (base : Nat) (exponent digits : Int) : Bool :=
  exponent ≤ 0 && exponent.natAbs ≤ digits.natAbs.log2 && digits = Nat.pow base exponent.natAbs

/-- Whether two parts in an array, which stand for integers, have a property. -/
def holdsOfPair (property : Int → Int → Bool) (left right : Cbor) : Bool :=
  match integer? left, integer? right with
  | some left, some right => property left right
  | _, _ => false

/-- Whether a value is the integer or the floating-point number given by an integer. -/
def isReal (number : Int) : Cbor → Bool
  | .float value => value.equalsInt number
  | value => integer? value = some number

/-- Whether a value is a number that equals the format of this library, which is one. Decimal and
binary fractions, quotients, complex numbers and simple values count; a truth value does not. -/
def isKnownFormat : Cbor → Bool
  | .bool _ => false
  | .simple number => number = 1
  | .tagged 4 (.array [exponent, digits]) => holdsOfPair (isScaledOne 10) exponent digits
  | .tagged 5 (.array [exponent, digits]) => holdsOfPair (isScaledOne 2) exponent digits
  | .tagged 30 (.array [above, below]) => holdsOfPair (fun a b => a = b && b ≠ 0) above below
  | .tagged 43000 (.array [real, imaginary]) => isReal 1 real && isReal 0 imaginary
  | value => isReal 1 value

/-- The reader of this library. What stands under a tag that it does not take off is not the array
that a snapshot is. -/
def Reader.standard : Reader where
  decode? := Cbor.value?
  isFormat := isKnownFormat

/-- The snapshot with the given binary form. Of several entries with one name the last one
counts. -/
def Reader.ofCbor (reader : Reader) (value : Cbor) : Except TokenError Snapshot := do
  let (format, body) ← match value with
    | .array [format, body] => pure (format, body)
    | _ => throw .notAPair
  unless reader.isFormat format do
    throw (.unknownFormat format)
  let fields ← match body with
    | .map fields => pure fields
    | _ => throw .notAMap
  let field (name : String) : Except TokenError Cbor :=
    match Cbor.field? name fields with
    | some value => .ok value
    | none => .error (.missingField name)
  let schemaValue ← field "m"
  let template ← field "t"
  let docs ← field "r"
  let crates ← field "d"
  let schema ← match schemaValue with
    | .int value => if 0 ≤ value ∧ value < 256 then pure value else throw (.badSchema schemaValue)
    | _ => throw (.badSchema schemaValue)
  let members ← match crates with
    | .array members => pure members
    | _ => throw .cratesNotAnArray
  let snapshot : Snapshot := { schema, template := ← digestOf template, docs := ← digestOf docs }
  members.foldlM (fun snapshot member => do return snapshot.put (← entryOf member)) snapshot

/-- Reads a token with white space around it. -/
def Reader.ofToken (reader : Reader) (token : String) : Except TokenError Snapshot :=
  match Text.Base64.decode? (Text.strip token.toList) with
  | none => .error .badBase64
  | some bytes =>
    match reader.decode? bytes with
    | none => .error .badBinary
    | some value => reader.ofCbor value

def ofToken (token : String) : Except TokenError Snapshot :=
  Reader.standard.ofToken token

end CrateReadme.Snapshot
