import CrateReadme.Text.Integer

/-!
# Terminal styles

Colours and emphasis on a terminal are switched by control sequences. A style switches itself off
at the end of every line and on again behind it, so that lines can be cut apart.

On the console results go to one stream and messages to another. Without colours, control sequences
are removed from everything that is written.
-/

namespace CrateReadme.Terminal

def sequence (code : Nat) : String :=
  "\x1b[" ++ Text.decimalString code ++ "m"

/-- A property of text: the numbers of the sequences that switch it on and off. -/
structure Attribute where
  on : Nat
  off : Nat
  deriving DecidableEq, Repr

/-- Properties of text that are switched on together. -/
abbrev Style :=
  List Attribute

namespace Style

def red : Style := [⟨31, 39⟩]
def green : Style := [⟨32, 39⟩]
def yellow : Style := [⟨33, 39⟩]
def blue : Style := [⟨34, 39⟩]
def cyan : Style := [⟨36, 39⟩]
def gray : Style := [⟨90, 39⟩]
def brightRed : Style := [⟨91, 39⟩]
def bold : Style := [⟨1, 22⟩]
def dim : Style := [⟨2, 22⟩]

def start (style : Style) : String :=
  String.join (style.map fun part => sequence part.on)

def stop (style : Style) : String :=
  String.join (style.map fun part => sequence part.off)

def paint (style : Style) (text : String) : String :=
  "\n".intercalate ((text.splitOn "\n").map fun line => style.start ++ line ++ style.stop)

def paintIf (style : Style) (colored : Bool) (text : String) : String :=
  if colored then style.paint text else text

end Style

/-- The colours of the terminal by name, with the numbers that select them. -/
def colorCode? (name : String) : Option Nat :=
  [("black", 30), ("red", 31), ("green", 32), ("yellow", 33), ("blue", 34), ("magenta", 35),
   ("cyan", 36), ("white", 37), ("reset", 39), ("bright_black", 90), ("bright_red", 91),
   ("bright_green", 92), ("bright_yellow", 93), ("bright_blue", 94), ("bright_magenta", 95),
   ("bright_cyan", 96), ("bright_white", 97)].lookup name

/-- How a message is decorated: colours by name, and properties that are on or off if given. -/
structure Decoration where
  foreground : Option String := none
  background : Option String := none
  bold : Option Bool := none
  dim : Option Bool := none
  underline : Option Bool := none
  overline : Option Bool := none
  italic : Option Bool := none
  blink : Option Bool := none
  inverse : Option Bool := none
  strikethrough : Option Bool := none

namespace Decoration

def switch (on off : Nat) : Option Bool → String
  | some true => sequence on
  | some false => sequence off
  | none => ""

/-- A decorated text; everything is switched off behind it. -/
def apply (decoration : Decoration) (text : String) : String :=
  let color (shift : Nat) (name : Option String) : String :=
    ((name.bind colorCode?).map fun code => sequence (code + shift)).getD ""
  color 0 decoration.foreground ++ color 10 decoration.background ++
    switch 1 22 decoration.bold ++ switch 2 22 decoration.dim ++
    switch 4 24 decoration.underline ++ switch 53 55 decoration.overline ++
    switch 3 23 decoration.italic ++ switch 5 25 decoration.blink ++
    switch 7 27 decoration.inverse ++ switch 9 29 decoration.strikethrough ++
    text ++ sequence 0

end Decoration

/-- The text behind a control sequence whose start was read, if it is one. -/
def afterSequence? (text : List Char) : Option (List Char) :=
  match text.dropWhile fun c => c.isDigit || c = ';' || c = '?' with
  | c :: rest => if c.isAlpha then some rest else none
  | [] => none

/-- A text without its control sequences. `skip` counts the characters of a sequence that are still
to be passed over. -/
def plainLoop : (skip : Nat) → List Char → List Char
  | _, [] => []
  | skip + 1, _ :: text => plainLoop skip text
  | 0, c :: text =>
    match (if c = '\x1b' ∧ text.head? = some '[' then afterSequence? text.tail else none) with
    | some rest => plainLoop (text.length - rest.length) text
    | none => c :: plainLoop 0 text

def plain (text : String) : String :=
  String.ofList (plainLoop 0 text.toList)

/-! ### The console -/

/-- A console with what was written to it. -/
structure Console where
  colored : Bool
  out : String := ""
  err : String := ""
  deriving Repr, Inhabited

namespace Console

/-- A text as the console writes it, with a line end on demand. -/
def shown (console : Console) (text : String) (newline : Bool) : String :=
  let text := if newline then text ++ "\n" else text
  if console.colored then text else plain text

def print (console : Console) (text : String) (newline : Bool) : Console :=
  { console with out := console.out ++ console.shown text newline }

def message (console : Console) (text : String) (newline : Bool) : Console :=
  { console with err := console.err ++ console.shown text newline }

def warn (console : Console) (text : String) (newline : Bool) : Console :=
  console.message (Decoration.apply { foreground := some "yellow" } text) newline

def error (console : Console) (text : String) (newline : Bool) : Console :=
  console.message (Decoration.apply { foreground := some "bright_red" } text) newline

/-- A decorated text, or the text itself without colours. -/
def styled (console : Console) (decoration : Decoration) (text : String) : String :=
  if console.colored then decoration.apply text else text

end Console

end CrateReadme.Terminal
