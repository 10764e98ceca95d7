import CrateReadme.Text.Printable
import CrateReadme.Text.Shortest
import CrateReadme.Text.Utf8

/-!
# Values of the concise binary object representation

A self-describing binary format. Integers, texts, arrays and maps are what a snapshot is made of;
the other values can occur in bytes that were not written by this program, and messages show them.
-/

namespace CrateReadme

/-- A value of the binary format. -/
inductive Cbor where
  | int (value : Int)
  | bytes (value : List UInt8)
  | text (value : String)
  | array (members : List Cbor)
  | map (entries : List (Cbor × Cbor))
  | bool (value : Bool)
  | null
  | undefined
  | simple (number : Nat)
  | float (value : Binary64)
  | tagged (number : Nat) (content : Cbor)
  deriving Repr, Inhabited

namespace Cbor

def shownByte (quote : Char) (byte : UInt8) : List Char :=
  let c := Char.ofNat byte.toNat
  if c = quote ∨ c = '\\' then ['\\', c]
  else if c = '\n' then ['\\', 'n']
  else if c = '\r' then ['\\', 'r']
  else if c = '\t' then ['\\', 't']
  else if 32 ≤ byte.toNat ∧ byte.toNat < 127 then [c]
  else '\\' :: 'x' :: Text.hexadecimal 2 byte.toNat

def shownBytes (bytes : List UInt8) : String :=
  let quote := if 39 ∈ bytes ∧ 34 ∉ bytes then '"' else '\x27'
  String.ofList ('b' :: quote :: bytes.flatMap (shownByte quote) ++ [quote])

mutual

/-- A value as messages show it. As part of a map key, `asKey`, an array has round brackets. -/
def shown (asKey : Bool) : Cbor → String
  | int value => Text.integerString value
  | bytes value => shownBytes value
  | text value => Text.quoted value
  | array members =>
    match asKey, members with
    | true, [member] => "(" ++ shown true member ++ ",)"
    | true, members => "(" ++ ", ".intercalate (shownAll true members) ++ ")"
    | false, members => "[" ++ ", ".intercalate (shownAll false members) ++ "]"
  | map entries => "\x7b" ++ ", ".intercalate (shownEntries entries) ++ "\x7d"
  | bool true => "True"
  | bool false => "False"
  | null => "None"
  | undefined => "undefined"
  | simple number => "CBORSimpleValue(value=" ++ Text.decimalString number ++ ")"
  | float value => value.render
  | tagged number content =>
    "CBORTag(" ++ Text.decimalString number ++ ", " ++ shown asKey content ++ ")"

/-- Several values as messages show them. -/
def shownAll (asKey : Bool) : List Cbor → List String
  | [] => []
  | value :: values => shown asKey value :: shownAll asKey values

/-- The entries of a map as messages show them. -/
def shownEntries : List (Cbor × Cbor) → List String
  | [] => []
  | (key, value) :: entries => (shown true key ++ ": " ++ shown false value) :: shownEntries entries

end

def render (value : Cbor) : String :=
  value.shown false

/-- The value under a text key of a map. The last entry with the key counts. -/
def field? (name : String) : List (Cbor × Cbor) → Option Cbor
  | [] => none
  | (key, value) :: entries =>
    match field? name entries with
    | some later => some later
    | none =>
      match key with
      | text word => if word = name then some value else none
      | _ => none

end Cbor

end CrateReadme
