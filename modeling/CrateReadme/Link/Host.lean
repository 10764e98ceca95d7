import CrateReadme.Text.Case
import CrateReadme.Text.Integer

/-!
# The host of a repository

The host name in the address of a repository, in lowercase. An address without an authority part
has none. Malformed authorities are refused: unpaired brackets, brackets around something that is no
IPv6 address, and characters that are equivalent to one of the delimiters of an address.
-/

namespace CrateReadme.Host

/-- Control characters and the space, which may stand in front of an address. -/
def isLeadingJunk (c : Char) : Bool :=
  c.toNat ≤ 32

/-- Whether `c` may stand in a scheme. -/
def isSchemeChar (c : Char) : Bool :=
  c.isAlphanum || c = '+' || c = '-' || c = '.'

def withoutScheme (address : List Char) : List Char :=
  match address with
  | [] => []
  | first :: _ =>
    let scheme := address.takeWhile (· ≠ ':')
    if ':' ∈ address ∧ first.isAlpha ∧ scheme.all isSchemeChar then
      address.drop (scheme.length + 1)
    else
      address

def authority (address : String) : List Char :=
  let cleaned := (address.toList.dropWhile isLeadingJunk).filter (· ∉ ['\t', '\r', '\n'])
  match withoutScheme cleaned with
  | '/' :: '/' :: rest => rest.takeWhile (· ∉ ['/', '?', '#'])
  | _ => []

/-- What stands before, and after, the first `mark`. -/
def cut (mark : Char) (text : List Char) : List Char × List Char :=
  (text.takeWhile (· ≠ mark), (text.dropWhile (· ≠ mark)).drop 1)

/-- Characters that are equivalent to `/`, `?`, `#`, `@` or `:`, or to a text that contains one. -/
def isDelimiterLike (c : Char) : Bool :=
  c.toNat ∈ [0x2047, 0x2048, 0x2049, 0x2100, 0x2101, 0x2105, 0x2106, 0x2a74, 0xfe13, 0xfe16, 0xfe55,
    0xfe56, 0xfe5f, 0xfe6b, 0xff03, 0xff0f, 0xff1a, 0xff1f, 0xff20]

/-- A number of an IPv4 address: at most three ASCII digits, below 256, without leading zeros. -/
def isOctet (part : List Char) : Bool :=
  !part.isEmpty && part.length ≤ 3 && part.all Char.isDigit &&
    (part.length = 1 || part.head? ≠ some '0') && (Text.natural? 10 part).any (· ≤ 255)

/-- Whether a text is an IPv4 address. -/
def isIpv4 (text : List Char) : Bool :=
  let parts := text.splitOn '.'
  parts.length = 4 && parts.all isOctet

/-- A group of an IPv6 address: one to four ASCII hexadecimal digits. -/
def isHextet (part : List Char) : Bool :=
  !part.isEmpty && part.length ≤ 4 &&
    part.all fun c => c.isDigit || ('a' ≤ c && c ≤ 'f') || ('A' ≤ c && c ≤ 'F')

/-- Whether the groups of an address, cut at its colons, make an IPv6 address: eight groups, or
fewer with one empty group inside that stands for the missing ones. -/
def areHextets (parts : List (List Char)) : Bool :=
  let count := parts.length
  let inner := (parts.drop 1).dropLast
  let gaps := (inner.filter List.isEmpty).length
  let leadingGap := parts.head? = some []
  let trailingGap := parts.getLast? = some []
  let filled := parts.filter fun part => !part.isEmpty
  count ≥ 3 && count ≤ 9 && filled.all isHextet &&
    if gaps = 0 then
      count = 8 && !leadingGap && !trailingGap
    else
      gaps = 1 && filled.length ≤ 7 &&
        (!leadingGap || (parts[1]? = some [])) &&
        (!trailingGap || (parts[count - 2]? = some []))

/-- Whether a text is an IPv6 address. Its end may be an IPv4 address, and a zone may follow. -/
def isIpv6 (text : List Char) : Bool :=
  let (address, zone) := cut '%' text
  if '%' ∈ text ∧ (zone.isEmpty ∨ '%' ∈ zone) then
    false
  else
    let parts := address.splitOn ':'
    match parts.getLast? with
    | some last =>
      if '.' ∈ last then
        isIpv4 last && areHextets (parts.dropLast ++ [['0'], ['0']])
      else
        areHextets parts
    | none => false

def isFutureAddress (text : List Char) : Bool :=
  match text with
  | 'v' :: rest =>
    let (version, address) := cut '.' rest
    '.' ∈ rest && isHextetRun version && !address.isEmpty && '\n' ∉ address
  | _ => false
where
  /-- One or more ASCII hexadecimal digits. -/
  isHextetRun (part : List Char) : Bool :=
    !part.isEmpty && part.all fun c => isHextet [c]

/-- Whether an authority is well formed as far as brackets and look-alikes are concerned. -/
def isWellFormed (authority : List Char) : Bool :=
  let bracketed := (cut ']' (cut '[' authority).2).1
  (decide ('[' ∈ authority) == decide (']' ∈ authority)) &&
    ('[' ∉ authority ||
      (if bracketed.head? = some 'v' then isFutureAddress bracketed else isIpv6 bracketed)) &&
    !authority.any isDelimiterLike

/-- The host name in an authority, without user, number and brackets. -/
def nameIn (authority : List Char) : List Char :=
  let host := (authority.reverse.takeWhile (· ≠ '@')).reverse
  if '[' ∈ host then (cut ']' (cut '[' host).2).1 else (cut ':' host).1

/-- The host of a repository. `none` means that the address is malformed, `some none` that it has no
host. -/
def ofRepository? (address : Option String) : Option (Option String) :=
  match address with
  | none => some none
  | some address =>
    let authority := authority address
    if isWellFormed authority then
      match nameIn authority with
      | [] => some none
      | name => some (some (String.ofList (Text.lower name)))
    else
      none

end CrateReadme.Host
