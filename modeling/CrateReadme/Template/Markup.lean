import CrateReadme.Markdown.Entity
import CrateReadme.Template.Show
import CrateReadme.Text.Identifier

/-!
# Markup

What can be done with markup as such: character references are undone, tags are removed, and
addresses in a text are made into links.
-/

namespace CrateReadme.Template.Markup

/-- Names of characters that need no semicolon behind them. -/
def bareNames : List String :=
  ["AElig", "AMP", "Aacute", "Acirc", "Agrave", "Aring", "Atilde", "Auml", "COPY", "Ccedil",
   "ETH", "Eacute", "Ecirc", "Egrave", "Euml", "GT", "Iacute", "Icirc", "Igrave", "Iuml", "LT",
   "Ntilde", "Oacute", "Ocirc", "Ograve", "Oslash", "Otilde", "Ouml", "QUOT", "REG", "THORN",
   "Uacute", "Ucirc", "Ugrave", "Uuml", "Yacute", "aacute", "acirc", "acute", "aelig", "agrave",
   "amp", "aring", "atilde", "auml", "brvbar", "ccedil", "cedil", "cent", "copy", "curren",
   "deg", "divide", "eacute", "ecirc", "egrave", "eth", "euml", "frac12", "frac14", "frac34",
   "gt", "iacute", "icirc", "iexcl", "igrave", "iquest", "iuml", "laquo", "lt", "macr", "micro",
   "middot", "nbsp", "not", "ntilde", "oacute", "ocirc", "ograve", "ordf", "ordm", "oslash",
   "otilde", "ouml", "para", "plusmn", "pound", "quot", "raquo", "reg", "sect", "shy", "sup1",
   "sup2", "sup3", "szlig", "thorn", "times", "uacute", "ucirc", "ugrave", "uml", "uuml",
   "yacute", "yen", "yuml"]

/-- Numbers that stand for a character other than the one with that code point. -/
def replacedCodes : List (Nat × Nat) :=
  [(0x0, 0xFFFD), (0x80, 0x20AC), (0x82, 0x201A), (0x83, 0x192), (0x84, 0x201E), (0x85, 0x2026),
   (0x86, 0x2020), (0x87, 0x2021), (0x88, 0x2C6), (0x89, 0x2030), (0x8A, 0x160), (0x8B, 0x2039),
   (0x8C, 0x152), (0x8E, 0x17D), (0x91, 0x2018), (0x92, 0x2019), (0x93, 0x201C), (0x94, 0x201D),
   (0x95, 0x2022), (0x96, 0x2013), (0x97, 0x2014), (0x98, 0x2DC), (0x99, 0x2122), (0x9A, 0x161),
   (0x9B, 0x203A), (0x9C, 0x153), (0x9E, 0x17E), (0x9F, 0x178)]

def charsOf (code : Nat) : List Char :=
  match replacedCodes.lookup code with
  | some other => [Char.ofNat other]
  | none =>
    if (0xd800 ≤ code && code ≤ 0xdfff) || 0x10ffff < code then [Char.ofNat 0xfffd]
    else if code = 0xd || (0x80 ≤ code && code ≤ 0x9f) || Markdown.Entity.isAllowed code then
      [Char.ofNat code]
    else []

/-- The characters with a name, which ends with a semicolon unless it needs none. -/
def named? (name : List Char) : Option (List Char) :=
  match name.reverse with
  | ';' :: rest => Markdown.Entity.named? rest.reverse
  | _ => if String.ofList name ∈ bareNames then Markdown.Entity.named? name else none

/-- The longest start of a name that is a name itself, with at least two characters: what it stands
for and the rest. The start is given in reverse. -/
def longestName? : (start rest : List Char) → Option (List Char × List Char)
  | c :: d :: start, rest =>
    match named? (c :: d :: start).reverse with
    | some found => some (found, rest)
    | none => longestName? (d :: start) (c :: rest)
  | _, _ => none

/-- Whether `c` may stand in a reference by name. -/
def isNameChar (c : Char) : Bool :=
  c ∉ ['\t', '\n', '\x0c', ' ', '<', '&', '#', ';']

def dropSemicolon : List Char → List Char
  | ';' :: text => text
  | text => text

/-- A reference by number at the start of a text behind its ampersand: what it stands for and the
text behind it. -/
def numeric? (text : List Char) : Option (List Char × List Char) :=
  let read (base : Nat) (isDigit : Char → Bool) (text : List Char) :
      Option (List Char × List Char) :=
    match text.span isDigit with
    | ([], _) => none
    | (digits, rest) => some (charsOf ((Text.natural? base digits).getD 0), dropSemicolon rest)
  match text with
  | '#' :: 'x' :: digits | '#' :: 'X' :: digits => read 16 Markdown.Entity.isHexDigit digits
  | '#' :: digits => read 10 Char.isDigit digits
  | _ => none

/-- A reference at the start of a text behind its ampersand: what stands for it and the text behind
it. -/
def reference? (text : List Char) : Option (List Char × List Char) :=
  match numeric? text with
  | some found => some found
  | none =>
    match (text.take 32).takeWhile isNameChar with
    | [] => none
    | word =>
      let rest := text.drop word.length
      let (name, rest) :=
        match rest with
        | ';' :: behind => (word ++ [';'], behind)
        | rest => (word, rest)
      match named? name with
      | some found => some (found, rest)
      | none =>
        match name.reverse with
        | last :: start =>
          match longestName? start [last] with
          | some (found, left) => some (found ++ left, rest)
          | none => some ('&' :: name, rest)
        | [] => none

/-- Undoes references. `left` bounds the characters. -/
def unescapeFrom : (left : Nat) → List Char → List Char
  | 0, text => text
  | _, [] => []
  | left + 1, '&' :: text =>
    match reference? text with
    | some (found, rest) => found ++ unescapeFrom left rest
    | none => '&' :: unescapeFrom left text
  | left + 1, c :: text => c :: unescapeFrom left text

def unescape (text : List Char) : List Char :=
  unescapeFrom text.length text

/-- Removes everything from a start mark to the end mark behind it. `left` bounds the removals. -/
def removeBetween (start ending : List Char) : (left : Nat) → List Char → List Char
  | 0, text => text
  | left + 1, text =>
    match Text.breakOn? start text with
    | none => text
    | some (before, _) =>
      match Text.breakOn? ending (text.drop before.length) with
      | none => text
      | some (_, after) => removeBetween start ending left (before ++ after)

/-- A text without comments and tags, with single spaces between its words and without references. -/
def stripTags (text : List Char) : List Char :=
  let plain := removeBetween "<!--".toList "-->".toList text.length text
  let plain := removeBetween ['<'] ['>'] plain.length plain
  unescape (Text.joinWith [' '] (Text.words plain))

/-- How links are made of addresses. -/
structure LinkOptions where
  limit : Option Int
  rel : Option (List Char)
  target : Option (List Char)
  schemes : List (List Char)

/-- Whether `c` may stand in the name of a host. -/
def isHostChar (c : Char) : Bool :=
  Text.isWordChar c || c = '%' || c = '-'

/-- The text behind an opening mark, in any case. -/
def afterMark? (mark : String) (text : List Char) : Option (List Char) :=
  let start := text.take mark.length
  if start.map Char.toLower = mark.toList then some (text.drop mark.length) else none

def afterScheme? (text : List Char) : Option (List Char) :=
  afterMark? "https://" text <|> afterMark? "http://" text

/-- Whether a text is what may stand behind the host: a port, then a path. -/
def isPathEnd (text : List Char) : Bool :=
  let isPath : List Char → Bool
    | [] => true
    | c :: rest => (c = '/' || c = '?' || c = '#') && rest.all fun d => !Text.isBlank d
  match text with
  | ':' :: rest =>
    let digits := (rest.take 5).takeWhile Text.isDecimal
    (List.range digits.length).any fun n => isPath (rest.drop (n + 1))
  | text => isPath text

/-- Whether a text consists of an ending of a host with `least` to `most` characters, and what may
stand behind a host. -/
def isEnding (keep : Char → Bool) (least most : Nat) (text : List Char) : Bool :=
  let count := ((text.take most).takeWhile keep).length
  (List.range (count + 1)).any fun n => least ≤ n && isPathEnd (text.drop n)

/-- Whether a letter is an ASCII letter, or equal to one but for its case. -/
def isPlainLetter (c : Char) : Bool :=
  c.isAlpha || c ∈ ['İ', 'ı', 'ſ', 'K']

/-- Whether a text is the last part of a host, and what may stand behind a host. -/
def isTopLevel (text : List Char) : Bool :=
  isEnding isPlainLetter 2 63 text ||
    (afterMark? "xn--" text).any (isEnding (fun c => Text.isWordChar c || c = '%') 2 59)

/-- Whether a text is a host with parts of at least `least` and at most `most` characters that ends
as `ends` says. `left` bounds the parts. -/
def isHost (least most : Nat) (ends : List Char → Bool) : (left : Nat) → List Char → Bool
  | 0, _ => false
  | left + 1, text =>
    let part := text.takeWhile isHostChar
    match text.drop part.length with
    | '.' :: rest =>
      least ≤ part.length && part.length ≤ most && (ends rest || isHost least most ends left rest)
    | _ => false

/-- Whether a text starts with numbers of at most three digits with points between them, `count` in
all, and goes on as what may stand behind a host. -/
def isNumericHost : (count : Nat) → List Char → Bool
  | 0, _ => false
  | count + 1, text =>
    let digits := (text.take 3).takeWhile Text.isDecimal
    let rest := text.drop digits.length
    if digits.isEmpty then false
    else if count = 0 then
      (List.range digits.length).any fun n => isPathEnd (text.drop (n + 1))
    else
      match rest with
      | '.' :: rest => isNumericHost count rest
      | _ => false

/-- Whether the text in brackets at the start of a text is a host of hexadecimal groups, and what
follows may stand behind a host. Two groups of up to four digits are needed; up to six others may
follow, between which colons may be missing. -/
def isBracketHost (text : List Char) : Bool :=
  match text with
  | '[' :: rest =>
    let inner := rest.takeWhile (· ≠ ']')
    let behind := rest.drop inner.length
    let isDigit (c : Char) : Bool := Markdown.Entity.isHexDigit c || Text.isDecimal c
    let pieces (group : List Char) : Nat := (group.length + 3) / 4
    match Text.splitOn [':'] inner with
    | first :: second :: third :: others =>
      let groups := third :: others
      let ended := groups.dropLast.foldl (fun count group => count + max 1 (pieces group)) 0
      let count := ended + (groups.getLast?.map pieces).getD 0
      inner.all (fun c => c = ':' || isDigit c) && first.length ≤ 4 && second.length ≤ 4 &&
        count ≤ 6 && behind.head? = some ']' && isPathEnd behind.tail
    | _ => false
  | _ => false

/-- The endings by which a host without a mark is recognized. -/
def commonEndings : List String :=
  ["com", "net", "int", "edu", "gov", "org", "info", "mil"]

def isAddress (text : List Char) : Bool :=
  let isNamedHost (rest : List Char) : Bool :=
    isTopLevel rest || isHost 1 rest.length isTopLevel rest.length rest
  let isCommon (rest : List Char) : Bool :=
    commonEndings.any fun ending => (afterMark? ending rest).any isPathEnd
  (afterScheme? text <|> afterMark? "www." text).any isNamedHost ||
    isHost 2 63 isCommon text.length text ||
    (afterScheme? text).any fun rest => isNumericHost 4 rest || isBracketHost rest

def isMail (text : List Char) : Bool :=
  let isDomain (domain : List Char) : Bool :=
    let last := domain.reverse.takeWhile Text.isWordChar
    match domain, domain.reverse.drop last.length with
    | c :: _, '.' :: before =>
      !last.isEmpty && !before.isEmpty && Text.isWordChar c &&
        before.all fun d => Text.isWordChar d || d = '.' || d = '-'
    | _, _ => false
  text.all (fun c => !Text.isBlank c) &&
    (List.range text.length).any fun n =>
      0 < n && text[n]? = some '@' && isDomain (text.drop (n + 1))

/-- The marks at the start of a word that do not belong to an address, and the rest. `left` bounds
the marks. -/
def splitHead : (left : Nat) → List Char → List Char × List Char
  | 0, text => ([], text)
  | left + 1, text =>
    match text, Text.after? "&lt;".toList text with
    | _, some rest =>
      let (head, middle) := splitHead left rest
      ("&lt;".toList ++ head, middle)
    | c :: rest, none =>
      if c = '(' || c = '<' then
        let (head, middle) := splitHead left rest
        (c :: head, middle)
      else
        ([], text)
    | [], none => ([], [])

/-- Splits the marks from the end of a word that do not belong to an address. The word is given in
reverse; `left` bounds the marks. -/
def splitTail : (left : Nat) → List Char → List Char → List Char × List Char
  | 0, word, tail => (word.reverse, tail)
  | left + 1, word, tail =>
    match word, Text.after? ";tg&".toList word with
    | _, some rest => splitTail left rest ("&gt;".toList ++ tail)
    | c :: rest, none =>
      if c ∈ [')', '>', '.', ',', '\n'] then splitTail left rest (c :: tail)
      else (word.reverse, tail)
    | [], none => ([], tail)

/-- Moves closing marks from the tail of a word to its middle, as many as make up for the opening
marks in it. -/
def balance (opening closing : List Char) : (count : Nat) → (middle tail : List Char) →
    List Char × List Char
  | 0, middle, tail => (middle, tail)
  | count + 1, middle, tail =>
    match Text.breakOn? closing tail with
    | some (before, after) => balance opening closing count (middle ++ before ++ closing) after
    | none => (middle, tail)

def occurrences (part text : List Char) : Nat :=
  (Text.splitOn part text).length - 1

/-- The middle and the tail of a word when opening and closing marks are balanced. -/
def balanced (middle tail : List Char) : List Char × List Char :=
  let pairs : List (String × String) := [("(", ")"), ("<", ">"), ("&lt;", "&gt;")]
  pairs.foldl (fun (middle, tail) (opening, closing) =>
    let count := occurrences opening.toList middle
    if count ≤ occurrences closing.toList middle then (middle, tail)
    else balance opening.toList closing.toList count middle tail) (middle, tail)

def linkWord (options : LinkOptions) (word : List Char) : List Char :=
  let (head, middle) := splitHead word.length word
  let (middle, tail) := splitTail middle.length middle.reverse []
  let (middle, tail) := balanced middle tail
  let field (name : String) (value : Option (List Char)) : List Char :=
    match value with
    | some value =>
      if value.isEmpty then [] else ' ' :: name.toList ++ ['=', '"'] ++ escapedText value ++ ['"']
    | none => []
  let fields := field "rel" options.rel ++ field "target" options.target
  let shortened : List Char :=
    match options.limit with
    | some limit =>
      if limit < middle.length then
        (if 0 ≤ limit then middle.take limit.toNat
         else middle.take (middle.length - limit.natAbs)) ++ ['.', '.', '.']
      else middle
    | none => middle
  let link (address fields content : List Char) : List Char :=
    "<a href=\"".toList ++ address ++ '"' :: fields ++ '>' :: content ++ "</a>".toList
  let mail? := Text.after? "mailto:".toList middle
  let linked : List Char :=
    if isAddress middle then
      let isFull := Text.startsWith "https://".toList middle ||
        Text.startsWith "http://".toList middle
      link (if isFull then middle else "https://".toList ++ middle) fields shortened
    else if mail?.any isMail then link middle [] (mail?.getD [])
    else if '@' ∈ middle && !Text.startsWith "www.".toList middle && middle.head? ≠ some '@' &&
        ':' ∉ middle && isMail middle then
      link ("mailto:".toList ++ middle) [] middle
    else
      options.schemes.foldl (fun middle scheme =>
        if middle ≠ scheme && Text.startsWith scheme middle then link middle fields middle
        else middle) middle
  head ++ linked ++ tail

/-- The words of a text and the white space between them. `left` bounds them. -/
def pieces : (left : Nat) → List Char → List (List Char)
  | 0, _ => []
  | _, [] => []
  | left + 1, c :: text =>
    let (piece, rest) := (c :: text).span fun d => Text.isBlank d = Text.isBlank c
    piece :: pieces left rest

def withLinks (options : LinkOptions) (text : List Char) : List Char :=
  (pieces text.length text).flatMap (linkWord options)

end CrateReadme.Template.Markup
