import CrateReadme.Text.Basic
import CrateReadme.Text.Case
import CrateReadme.Text.Punycode
import CrateReadme.Text.Utf8

/-!
# Destinations

The address behind a link is brought into one form: a host name in other scripts is written in
ASCII, and characters that may not stand in an address are escaped. For display both are undone.
Addresses that could run code are refused.
-/

namespace CrateReadme.Markdown

/-- The parts of an address, each as written. The protocol keeps its colon, the query its question
mark and the fragment its number sign. -/
structure Address where
  protocol : List Char
  slashes : Bool
  user : List Char
  host : List Char
  portDigits : List Char
  path : List Char
  query : List Char
  fragment : List Char

namespace Address

/-- Whether `c` may stand in a protocol. Letters count that are those of ASCII but for their case. -/
def isProtocolChar (c : Char) : Bool :=
  c.isAlphanum || c ∈ ['.', '+', '-', '\u0130', '\u0131', '\u017f', '\u212a']

/-- The protocol in front of an address, and the rest. -/
def splitProtocol (text : List Char) : List Char × List Char :=
  match text.span isProtocolChar with
  | (c :: name, ':' :: rest) => (c :: name ++ [':'], rest)
  | _ => ([], text)

/-- Whether addresses of a protocol always have slashes in front of their host. -/
def hasSlashes (protocol : List Char) : Bool :=
  String.ofList protocol ∈ ["http:", "https:", "ftp:", "gopher:", "file:"]

def endsHost (c : Char) : Bool :=
  c ∈ ['%', '/', '?', ';', '#', '\x27', '\x7b', '\x7d', '|', '\\', '^', '`', '<', '>', '"', ' ',
    '\r', '\n', '\t']

/-- The user in front of the last `@` that stands before a path, query or fragment, and the rest. -/
def splitUser (text : List Char) : List Char × List Char :=
  let region := text.takeWhile fun c => c ≠ '/' && c ≠ '?' && c ≠ '#'
  match region.reverse.dropWhile (· ≠ '@') with
  | '@' :: user => (user.reverse, text.drop (user.length + 1))
  | _ => ([], text)

/-- The host with its number, without a colon at its end, and the rest. Where no host stands, all of
a text that ends in a colon is taken for one. -/
def splitHost (text : List Char) : List Char × List Char :=
  let run := text.takeWhile fun c => !endsHost c
  let taken := if run.isEmpty && text.getLast? = some ':' then text else run
  let length := if taken.getLast? = some ':' then taken.length - 1 else taken.length
  (text.take length, text.drop length)

/-- The number behind a host name, without its colon. -/
def splitPort (text : List Char) : List Char × List Char :=
  let digits := text.reverse.takeWhile Char.isDigit
  match text.reverse.drop digits.length with
  | ':' :: host => (host.reverse, digits.reverse)
  | _ => (text, [])

/-- Whether `c` may stand in a part of a host name. -/
def isHostChar (c : Char) : Bool :=
  c.isAlphanum || c = '+' || c = '_' || c = '-'

/-- Whether a text may be a part of a host name; characters outside ASCII count as letters. -/
def isHostPart (part : List Char) : Bool :=
  part.length ≤ 63 && part.all fun c => isHostChar c || 128 ≤ c.toNat

/-- Cuts a host name, given by its parts between dots, in front of the first character that may not
stand in it: the parts kept, and what does not belong to the host. -/
def cutHost : List (List Char) → List (List Char) × List (List Char)
  | [] => ([], [])
  | part :: parts =>
    if isHostPart part then
      let found := cutHost parts
      (part :: found.1, found.2)
    else
      let kept := (part.take 63).takeWhile isHostChar
      ([kept], part.drop kept.length :: parts)

/-- The address that a text spells. Two slashes always announce a host; without them there is one
only after a protocol that does not use slashes. -/
def ofText (text : List Char) : Address :=
  let (protocol, rest) := splitProtocol (Text.strip text)
  let isScript := protocol = "javascript:".toList
  let slashes := !isScript && Text.startsWith ['/', '/'] rest
  let rest := if slashes then rest.drop 2 else rest
  let hasHost := slashes || (protocol ≠ [] && !isScript && !hasSlashes protocol)
  let (user, rest) := if hasHost then splitUser rest else ([], rest)
  let (authority, rest) := if hasHost then splitHost rest else ([], rest)
  let (host, portDigits) := splitPort authority
  let isBracketed := host.head? = some '[' && host.getLast? = some ']'
  let (parts, outside) := if isBracketed then ([host], []) else cutHost (host.splitOn '.')
  let rest := Text.joinWith ['.'] outside ++ rest
  let host := Text.joinWith ['.'] parts
  let host := if 255 < host.length then [] else host
  let host := if isBracketed then host.tail.dropLast else host
  let (rest, fragment) := rest.span (· ≠ '#')
  let (path, query) := rest.span (· ≠ '?')
  { protocol, slashes, user, host, portDigits, path, query, fragment }

/-- The address as a text, each part of which is written by `write`. A host with colons stands in
brackets. -/
def toText (write : List Char → List Char) (address : Address) : List Char :=
  let host := write address.host
  write (address.protocol ++ (if address.slashes then ['/', '/'] else []) ++
      (if address.user.isEmpty then [] else address.user ++ ['@'])) ++
    (if ':' ∈ address.host then '[' :: host ++ [']'] else host) ++
    write ((if address.portDigits.isEmpty then [] else ':' :: address.portDigits) ++
      address.path ++ address.query ++ address.fragment)

/-- Whether the host of an address has an ASCII form and one for display. -/
def hasNamedHost (address : Address) : Bool :=
  !address.host.isEmpty && String.ofList address.protocol ∈ ["", "http:", "https:", "mailto:"]

/-- Changes every label of a host name, which dots of several scripts separate. A part in front of
`@` is kept, and of the parts behind it only the first. -/
def mapLabels (change : List Char → List Char) (host : List Char) : List Char :=
  let (user, domain) :=
    match host.splitOn '@' with
    | user :: domain :: _ => (user ++ ['@'], domain)
    | _ => ([], host)
  let labels := domain.splitOnP fun c => c ∈ ['.', '\u3002', '\uff0e', '\uff61']
  user ++ Text.joinWith ['.'] (labels.map change)

def asciiLabel (label : List Char) : List Char :=
  if label.all (·.toNat < 127) then label else "xn--".toList ++ Text.Punycode.encode label

/-- The label for display; `none` if what should be an ASCII form is none. -/
def shownLabel? (label : List Char) : Option (List Char) :=
  match Text.after? "xn--".toList label with
  | some form => Text.Punycode.decode? (Text.lower form)
  | none => some label

def isAddressChar (c : Char) : Bool :=
  c.isAlphanum || c ∈ [';', '/', '?', ':', '@', '&', '=', '+', '$', ',', '-', '_', '.', '!', '~',
    '*', '\x27', '(', ')', '#']

/-- An address with the characters escaped that may not stand in it. Escapes are kept. -/
def escape : List Char → List Char
  | [] => []
  | c :: text =>
    let isEscape := c = '%' && 2 ≤ text.length && (text.take 2).all fun d =>
      (Text.Percent.hexValue? d).isSome
    (if isEscape || isAddressChar c then [c]
      else Text.Percent.encode (fun _ => false) c.toString) ++ escape text

def escapedBytes : List Char → List UInt8
  | '%' :: high :: low :: text =>
    match Text.Percent.hexValue? high, Text.Percent.hexValue? low with
    | some h, some l => (h * 16 + l).toUInt8 :: escapedBytes text
    | _, _ => []
  | _ => []

/-- How many bytes a character takes whose first byte is `lead`; `0` if no character starts so. -/
def widthOf (lead : UInt8) : Nat :=
  let code := lead.toNat
  if code < 0x80 then 1
  else if 0xc0 ≤ code ∧ code < 0xe0 then 2
  else if 0xe0 ≤ code ∧ code < 0xf0 then 3
  else if 0xf0 ≤ code ∧ code < 0xf8 then 4
  else 0

/-- What the first of a run of escaped bytes shows, and how many of them that takes. Characters with
a meaning in addresses stay escaped; bytes of no character show as replacement characters. -/
def showBytes (bytes : List UInt8) : List Char × Nat :=
  match bytes with
  | [] => ([], 1)
  | lead :: rest =>
    let width := widthOf lead
    let tail := rest.take (width - 1)
    if width = 1 then
      let c := Char.ofNat lead.toNat
      (if c ∈ [';', '/', '?', ':', '@', '&', '=', '+', '$', ',', '#', '%'] then
        Text.Percent.escape lead else [c], 1)
    else if width ≠ 0 ∧ tail.length = width - 1 ∧
        tail.all (fun b => 0x80 ≤ b.toNat && b.toNat < 0xc0) then
      match Text.ofUtf8? (lead :: tail) with
      | some shown => (shown.toList, width)
      | none => (List.replicate width '\ufffd', width)
    else
      (['\ufffd'], 1)

/-- An address for display, with its escapes undone. `skip` counts the characters of escapes that
are still to be passed over. -/
def unescapeLoop : (skip : Nat) → List Char → List Char
  | _, [] => []
  | skip + 1, _ :: text => unescapeLoop skip text
  | 0, c :: text =>
    match escapedBytes (c :: text) with
    | [] => c :: unescapeLoop 0 text
    | bytes =>
      let (shown, width) := showBytes bytes
      shown ++ unescapeLoop (3 * width - 1) text

end Address

def normalizeDestination (text : List Char) : List Char :=
  let address := Address.ofText text
  let address :=
    if address.hasNamedHost then
      { address with host := Address.mapLabels Address.asciiLabel address.host }
    else
      address
  address.toText Address.escape

/-- The form in which the text between angle brackets shows. -/
def displayDestination (text : List Char) : List Char :=
  let address := Address.ofText text
  let isShown := (address.host.splitOnP fun c => c ∈ ['@', '.', '\u3002', '\uff0e', '\uff61']).all
    fun label => (Address.shownLabel? label).isSome
  let address :=
    if address.hasNamedHost && isShown then
      let change label := (Address.shownLabel? label).getD label
      { address with host := Address.mapLabels change address.host }
    else
      address
  Address.unescapeLoop 0 (address.toText id)

/-- Whether a destination may be followed: scripts, files and data other than images may not. -/
def isSafeDestination (address : List Char) : Bool :=
  let address := Text.lower (Text.strip address)
  let startsWithAny (starts : List String) : Bool :=
    starts.any fun start => Text.startsWith start.toList address
  !startsWithAny ["vbscript:", "javascript:", "file:", "data:"] ||
    startsWithAny ["data:image/gif;", "data:image/png;", "data:image/jpeg;", "data:image/webp;"]

end CrateReadme.Markdown
