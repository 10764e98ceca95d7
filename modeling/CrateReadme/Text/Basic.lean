/-!
# Plain operations on texts

Texts are worked on as lists of characters, so that every operation is a recursion on the text. The
operations here trim, search, split, replace and join; searching always goes from left to right and
occurrences never overlap.

The characters that count as white space in source texts, labels and version requirements are the
Unicode white space characters together with the four ASCII information separators.

Two notions of a line are in use. Documentation and patches are cut at line feeds only; code shown
in a block is cut at every Unicode line break, where a carriage return directly before a line feed
makes one break with it.
-/

namespace CrateReadme.Text

/-! ### Ranges of code points

A property of characters is stored as a list of closed ranges of code points. A character has the
property exactly when its code point lies in one of the ranges.
-/

/-- Closed ranges of code points, each written as its first and last member. -/
abbrev Ranges := List (Nat × Nat)

namespace Ranges

/-- Whether the code point of `c` lies in one of the ranges. -/
def holds (table : Ranges) (c : Char) : Bool :=
  table.any fun range => range.1 ≤ c.toNat && c.toNat ≤ range.2

theorem holds_iff {table : Ranges} {c : Char} :
    table.holds c = true ↔ ∃ range ∈ table, range.1 ≤ c.toNat ∧ c.toNat ≤ range.2 := by
  simp [holds, List.any_eq_true]

end Ranges

/-! ### Blank characters -/

def blankRanges : Ranges :=
  [(0x9, 0xD), (0x1C, 0x20), (0x85, 0x85), (0xA0, 0xA0), (0x1680, 0x1680), (0x2000, 0x200A),
   (0x2028, 0x2029), (0x202F, 0x202F), (0x205F, 0x205F), (0x3000, 0x3000)]

/-- Whether `c` is white space. -/
def isBlank (c : Char) : Bool :=
  blankRanges.holds c

/-! ### Trimming, searching, splitting and joining -/

/-- `text` without its leading characters that satisfy `drop`. -/
def trimStart (drop : Char → Bool) (text : List Char) : List Char :=
  text.dropWhile drop

/-- `text` without its trailing characters that satisfy `drop`. -/
def trimEnd (drop : Char → Bool) (text : List Char) : List Char :=
  (text.reverse.dropWhile drop).reverse

/-- `text` without its leading and trailing characters that satisfy `drop`. -/
def trim (drop : Char → Bool) (text : List Char) : List Char :=
  trimEnd drop (trimStart drop text)

/-- `text` without the white space around it. -/
def strip (text : List Char) : List Char :=
  trim isBlank text

theorem dropWhile_isBlank_eq_self {text : List Char} (htext : ∀ c ∈ text, isBlank c = false) :
    text.dropWhile isBlank = text := by
  cases text with
  | nil => rfl
  | cons c text => rw [List.dropWhile_cons_of_neg (by simp [htext c])]

theorem strip_eq_self {text : List Char} (htext : ∀ c ∈ text, isBlank c = false) :
    strip text = text := by
  have hreverse : ∀ c ∈ text.reverse, isBlank c = false := fun c hmem =>
    htext c (List.mem_reverse.mp hmem)
  rw [strip, trim, trimStart, dropWhile_isBlank_eq_self htext, trimEnd,
    dropWhile_isBlank_eq_self hreverse, List.reverse_reverse]

/-- What follows `pattern` in a text that starts with it. -/
def after? : List Char → List Char → Option (List Char)
  | [], text => some text
  | _ :: _, [] => none
  | p :: pattern, c :: text => if p = c then after? pattern text else none

theorem after?_eq_some_iff {pattern text rest : List Char} :
    after? pattern text = some rest ↔ text = pattern ++ rest := by
  induction pattern generalizing text with
  | nil => simp [after?, eq_comm]
  | cons p pattern ih =>
    cases text with
    | nil => simp [after?]
    | cons c text =>
      by_cases h : p = c
      · subst h
        simp [after?, ih]
      · simp only [after?, if_neg h, List.cons_append, List.cons.injEq]
        constructor
        · intro contra
          cases contra
        · rintro ⟨rfl, -⟩
          exact absurd rfl h

/-- Whether `text` starts with `pattern`. -/
def startsWith (pattern text : List Char) : Bool :=
  (after? pattern text).isSome

/-- Whether `text` ends with `pattern`. -/
def endsWith (pattern text : List Char) : Bool :=
  startsWith pattern.reverse text.reverse

/-- The parts of a text before and after the first occurrence of `pattern`. -/
def breakOn? (pattern : List Char) : List Char → Option (List Char × List Char)
  | [] => if pattern.isEmpty then some ([], []) else none
  | c :: text =>
    match after? pattern (c :: text) with
    | some rest => some ([], rest)
    | none => (breakOn? pattern text).map fun parts => (c :: parts.1, parts.2)

/-- Whether `pattern` occurs in `text`. -/
def occursIn (pattern text : List Char) : Bool :=
  (breakOn? pattern text).isSome

/-- The parts of a text between the occurrences of `separator`. `part` holds, in reverse, the part
read so far; `skip` counts the characters of a separator that are still to be passed over. -/
def splitLoop (separator : List Char) : (skip : Nat) → (part : List Char) → List Char →
    List (List Char)
  | _, part, [] => [part.reverse]
  | skip + 1, part, _ :: text => splitLoop separator skip part text
  | 0, part, c :: text =>
    if startsWith separator (c :: text) then
      part.reverse :: splitLoop separator (separator.length - 1) [] text
    else
      splitLoop separator 0 (c :: part) text

/-- The parts of `text` between the occurrences of a non-empty `separator`. -/
def splitOn (separator text : List Char) : List (List Char) :=
  splitLoop separator 0 [] text

/-- The texts `parts`, one after the other, with `separator` between them. -/
def joinWith (separator : List Char) : List (List Char) → List Char
  | [] => []
  | [part] => part
  | part :: parts => part ++ separator ++ joinWith separator parts

/-- The maximal non-empty runs of characters that satisfy `keep`, in order. -/
def runsOf (keep : Char → Bool) : List Char → List (List Char)
  | [] => []
  | c :: text =>
    if keep c then
      match text, runsOf keep text with
      | d :: _, run :: runs => if keep d then (c :: run) :: runs else [c] :: run :: runs
      | _, runs => [c] :: runs
    else
      runsOf keep text

/-- The words of a text: its maximal runs of characters that are not white space. -/
def words (text : List Char) : List (List Char) :=
  runsOf (fun c => !isBlank c) text

/-- The character `c`, `count` times. -/
def repeated (count : Nat) (c : Char) : String :=
  String.ofList (List.replicate count c)

/-- A text padded on the right with spaces to at least `width` characters. -/
def padRight (width : Nat) (text : String) : String :=
  text ++ repeated (width - text.length) ' '

/-! ### Lines -/

/-- Whether `c` ends a line under the wide notion of line breaks. -/
def isLineBreak (c : Char) : Bool :=
  c ∈ ['\n', '\r', '\x0b', '\x0c', '\x1c', '\x1d', '\x1e', '\u0085', '\u2028', '\u2029']

/-- The lines of a text, each with the break that ends it. Nothing is lost: the lines put together
are the text. A text that does not end in a break ends in a line without one. -/
def linesWithBreaks : List Char → List (List Char)
  | [] => []
  | '\r' :: '\n' :: text => ['\r', '\n'] :: linesWithBreaks text
  | c :: text =>
    if isLineBreak c then
      [c] :: linesWithBreaks text
    else
      match linesWithBreaks text with
      | [] => [[c]]
      | line :: lines => (c :: line) :: lines

theorem flatten_linesWithBreaks (text : List Char) : (linesWithBreaks text).flatten = text := by
  fun_induction linesWithBreaks text with
  | case1 => rfl
  | case2 text ih => simp [ih]
  | case3 c text _ _ ih => simp [ih]
  | case4 c text _ _ hlines ih => simp_all
  | case5 c text _ _ line lines hlines ih => simp_all

/-- The lines of a text cut at line feeds; there is always at least one. -/
def lines (text : List Char) : List (List Char) :=
  text.splitOn '\n'

/-- The lines put back together, with a line feed between neighbours. -/
def unlines (parts : List (List Char)) : List Char :=
  joinWith ['\n'] parts

/-- A text whose carriage returns, alone or before a line feed, are turned into line feeds. -/
def universalNewlines : List Char → List Char
  | [] => []
  | '\r' :: '\n' :: text => '\n' :: universalNewlines text
  | c :: text => (if c = '\r' then '\n' else c) :: universalNewlines text

end CrateReadme.Text
