import CrateReadme.Markdown.Inline.Basic

/-!
# Emphasis

The reader cuts a text into pieces and leaves open which of the marks `*`, `_` and `~~` belong
together. Here each closing mark is paired with the nearest opening mark that fits, and what stands
between them becomes emphasis. Pairs never cross.
-/

namespace CrateReadme.Markdown

/-- A mark that may open or close emphasis. `run` is the length of the run of marks it stands in, or
zero if the lengths of runs do not matter. -/
structure Delimiter where
  marker : Char
  run : Nat
  canOpen : Bool
  canClose : Bool
  deriving DecidableEq, Repr, Inhabited

/-- A part of a text that was read. -/
inductive Piece where
  | text (content : List Char)
  /-- Text that came from an escape or a character reference. -/
  | special (content : List Char)
  | mark (delimiter : Delimiter)
  | node (inline : Inline)
  deriving Inhabited

namespace Balance

/-- A delimiter with the index of its piece and, once it is known to open, the index of the
delimiter that closes it. -/
structure Mark where
  piece : Nat
  delimiter : Delimiter
  partner : Option Nat
  deriving Repr, Inhabited

/-- The state of the pairing. `jumps` says, for each delimiter, how many delimiters before it need
not be looked at any more; `bottoms` keeps, for each kind of closing mark, below which no opening
mark was found; `header` is the first delimiter of the current run and `previous` the piece behind
the last delimiter. -/
structure State where
  marks : Array Mark
  jumps : Array Nat
  bottoms : List ((Char × Bool × Nat) × Nat)
  header : Nat
  previous : Option Nat

/-- A mark that may both open and close pairs with another only if the lengths of their runs do not
add up to a multiple of three, unless both are multiples of three. -/
def fits (opener closer : Delimiter) : Bool :=
  !((opener.canClose || closer.canOpen) && (opener.run + closer.run) % 3 = 0 &&
    (opener.run % 3 ≠ 0 || closer.run % 3 ≠ 0))

/-- The nearest opening mark for `closer` among the first `above` delimiters, if it is not among the
first `bottom`. `left` bounds the steps. -/
def findOpener? (state : State) (closer : Delimiter) (bottom : Nat) :
    (left above : Nat) → Option Nat
  | 0, _ => none
  | left + 1, above =>
    if above ≤ bottom then
      none
    else
      let index := above - 1
      let opener := state.marks[index]?.getD default
      if opener.delimiter.marker = closer.marker && opener.delimiter.canOpen &&
          opener.partner.isNone && fits opener.delimiter closer then
        some index
      else
        findOpener? state closer bottom left (above - (state.jumps[index]?.getD 0 + 1))

/-- Looks for the partner of the delimiter at `index`. -/
def settle (state : State) (index : Nat) : State :=
  let closer := state.marks[index]?.getD default
  let headMarker := (state.marks[state.header]?.getD default).delimiter.marker
  let header :=
    if headMarker ≠ closer.delimiter.marker || state.previous ≠ some closer.piece then index
    else state.header
  let state := { state with
    jumps := state.jumps.push 0
    header
    previous := some (closer.piece + 1) }
  if closer.delimiter.canClose then
    let kind := (closer.delimiter.marker, closer.delimiter.canOpen, closer.delimiter.run % 3)
    let bottom := (state.bottoms.lookup kind).getD 0
    let above := header - state.jumps[header]?.getD 0
    match findOpener? state closer.delimiter bottom above above with
    | some found =>
      let opener := state.marks[found]?.getD default
      let before := (state.marks[found - 1]?.getD default).delimiter
      let jump := if 0 < found && !before.canOpen then state.jumps[found - 1]?.getD 0 + 1 else 0
      let opened := { opener with
        delimiter := { opener.delimiter with canClose := false }
        partner := some index }
      let closed := { closer with delimiter := { closer.delimiter with canOpen := false } }
      { state with
        marks := (state.marks.setIfInBounds found opened).setIfInBounds index closed
        jumps := (state.jumps.setIfInBounds index (index - found + jump)).setIfInBounds found jump
        previous := none }
    | none =>
      if above = 0 then state
      else { state with bottoms := (kind, above) :: state.bottoms }
  else
    state

def marksOf (pieces : Array Piece) : Array Mark :=
  (pieces.zipIdx).filterMap fun (piece, index) =>
    match piece with
    | .mark delimiter => some ⟨index, delimiter, none⟩
    | _ => none

def pair (marks : Array Mark) : Array Mark :=
  let start : State := ⟨marks, #[], [], 0, none⟩
  ((List.range marks.size).foldl settle start).marks

/-- The kinds of emphasis. -/
inductive Style where
  | emphasis
  | strong
  | struck
  deriving DecidableEq, Repr

/-- A piece once the marks are paired. -/
inductive Token where
  | text (content : List Char)
  | special (content : List Char)
  | node (inline : Inline)
  | opening (style : Style)
  | closing (style : Style)
  deriving Inhabited

/-- A piece before any mark is known to open or close. -/
def tokenOf : Piece → Token
  | .text content => .text content
  | .special content => .special content
  | .node inline => .node inline
  | .mark delimiter =>
    .text (if delimiter.marker = '~' then ['~', '~'] else [delimiter.marker])

def isLoneTilde : Token → Bool
  | .text content => content = ['~']
  | _ => false

def closesStruck : Token → Bool
  | .closing .struck => true
  | _ => false

/-- Turns pairs of `~~` into openings and closings; gives also the places of single tildes in front
of closings, the last first. -/
def strike (marks : Array Mark) (tokens : Array Token) : Array Token × List Nat :=
  marks.foldl (fun (tokens, lone) mark =>
    match mark.partner with
    | some partner =>
      if mark.delimiter.marker = '~' then
        let closer := (marks[partner]?.getD default).piece
        let tokens := (tokens.setIfInBounds mark.piece (.opening .struck)).setIfInBounds closer
          (.closing .struck)
        let isLone := isLoneTilde (tokens[closer - 1]?.getD default)
        (tokens, if isLone then (closer - 1) :: lone else lone)
      else
        (tokens, lone)
    | none => (tokens, lone)) (tokens, [])

/-- Moves the single tilde at `place` behind the closings that follow it: of an odd run of tildes
the one that stays over stands outside. -/
def moveTilde (tokens : Array Token) (place : Nat) : Array Token :=
  let closings := ((tokens.toList.drop (place + 1)).takeWhile closesStruck).length
  tokens.swapIfInBounds place (place + closings)

/-- Turns the pairs of `*` and `_` among the first `count` marks into openings and closings, from
the last to the first. Two neighbouring pairs make strong emphasis, whose outer marks leave empty
texts. -/
def emphasize (marks : Array Mark) : (count : Nat) → (skip : Bool) → Array Token → Array Token
  | 0, _, tokens => tokens
  | index + 1, true, tokens => emphasize marks index false tokens
  | index + 1, false, tokens =>
    let opener := marks[index]?.getD default
    match opener.partner with
    | some partner =>
      if opener.delimiter.marker = '~' then
        emphasize marks index false tokens
      else
        let closer := marks[partner]?.getD default
        let before := marks[index - 1]?.getD default
        let after := marks[partner + 1]?.getD default
        let isStrong := 0 < index && before.partner = some (partner + 1) &&
          before.delimiter.marker = opener.delimiter.marker && before.piece + 1 = opener.piece &&
          after.piece = closer.piece + 1
        let style := if isStrong then Style.strong else Style.emphasis
        let tokens := tokens.setIfInBounds opener.piece (.opening style)
        let tokens := tokens.setIfInBounds closer.piece (.closing style)
        if isStrong then
          emphasize marks index true
            ((tokens.setIfInBounds before.piece (.text [])).setIfInBounds after.piece (.text []))
        else
          emphasize marks index false tokens
    | none => emphasize marks index false tokens

def joinTexts : List Token → List Token
  | [] => []
  | .text content :: tokens =>
    match joinTexts tokens with
    | .text more :: rest => .text (content ++ more) :: rest
    | rest => .text content :: rest
  | token :: tokens => token :: joinTexts tokens

def plain : Token → Token
  | .special content => .text content
  | token => token

def Style.wrap (style : Style) (children : List Inline) : Inline :=
  match style with
  | .emphasis => .emphasis children
  | .strong => .strong children
  | .struck => .struck children

def closeAll : (siblings : List Inline) → (outer : List (Style × List Inline)) → List Inline
  | siblings, [] => siblings.reverse
  | siblings, (style, before) :: outer => closeAll (style.wrap siblings.reverse :: before) outer

/-- The content of `tokens`. `siblings` is, in reverse, what the innermost open emphasis holds so
far, and `outer` are the open ones with what stands before them. -/
def nest : (siblings : List Inline) → (outer : List (Style × List Inline)) → List Token →
    List Inline
  | siblings, outer, [] => closeAll siblings outer
  | siblings, outer, .text content :: tokens => nest (.text content :: siblings) outer tokens
  | siblings, outer, .special content :: tokens => nest (.text content :: siblings) outer tokens
  | siblings, outer, .node inline :: tokens => nest (inline :: siblings) outer tokens
  | siblings, outer, .opening style :: tokens => nest [] ((style, siblings) :: outer) tokens
  | siblings, (style, before) :: outer, .closing _ :: tokens =>
    nest (style.wrap siblings.reverse :: before) outer tokens
  | siblings, [], .closing _ :: tokens => nest siblings [] tokens

end Balance

/-- The content that pieces make up once emphasis is settled. With `joined`, text from escapes is
joined with the text around it. -/
def balance (joined : Bool) (pieces : List Piece) : List Inline :=
  let pieces := pieces.toArray
  let marks := Balance.pair (Balance.marksOf pieces)
  let (tokens, lone) := Balance.strike marks (pieces.map Balance.tokenOf)
  let tokens := lone.foldl Balance.moveTilde tokens
  let tokens := (Balance.emphasize marks marks.size false tokens).toList
  let tokens := if joined then tokens.map Balance.plain else tokens
  Balance.nest [] [] (Balance.joinTexts tokens)

end CrateReadme.Markdown
