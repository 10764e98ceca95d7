import CrateReadme.Text.CaseClass

/-!
# Letter case

Texts in lowercase, in uppercase and with capital letters at the starts of words. Labels are
compared after both maps, which removes all differences of case.
-/

namespace CrateReadme.Text

/-- Whether the capital sigma between two texts, of which the first is given in reverse, ends a
word: a letter stands before it and none behind it. -/
def endsWord (before after : List Char) : Bool :=
  (before.dropWhile isIgnorable).head?.any isCased &&
    !(after.dropWhile isIgnorable).head?.any isCased

/-- The lowercase form of a character between two texts, of which the first is given in reverse.
Only the form of the capital sigma depends on them. -/
def lowerAt (before : List Char) (c : Char) (after : List Char) : List Char :=
  if c = 'Σ' && endsWord before after then ['ς'] else lowerChar c

/-- Continues to put a text into lowercase behind another one, given in reverse. -/
def lowerFrom : (before : List Char) → List Char → List Char
  | _, [] => []
  | before, c :: text => lowerAt before c text ++ lowerFrom (c :: before) text

def lower (text : List Char) : List Char :=
  lowerFrom [] text

def upper (text : List Char) : List Char :=
  text.flatMap upperChar

/-- Code points of the small letters that stay as they are at the start of a word. -/
def untitledRanges : Ranges :=
  [(0x1C5, 0x1C5), (0x1C8, 0x1C8), (0x1CB, 0x1CB), (0x1F2, 0x1F2), (0x10D0, 0x10FA),
   (0x10FD, 0x10FF), (0x1F88, 0x1F8F), (0x1F98, 0x1F9F), (0x1FA8, 0x1FAF), (0x1FBC, 0x1FBC),
   (0x1FCC, 0x1FCC), (0x1FFC, 0x1FFC)]

/-- Letters whose form at the start of a word is not their uppercase form. -/
def titleSequences : List (Nat × List Nat) :=
  [(0xDF, [0x53, 0x73]), (0x1C4, [0x1C5]), (0x1C6, [0x1C5]), (0x1C7, [0x1C8]), (0x1C9, [0x1C8]),
   (0x1CA, [0x1CB]), (0x1CC, [0x1CB]), (0x1F1, [0x1F2]), (0x1F3, [0x1F2]), (0x587, [0x535, 0x582]),
   (0x1F80, [0x1F88]), (0x1F81, [0x1F89]), (0x1F82, [0x1F8A]), (0x1F83, [0x1F8B]),
   (0x1F84, [0x1F8C]), (0x1F85, [0x1F8D]), (0x1F86, [0x1F8E]), (0x1F87, [0x1F8F]),
   (0x1F90, [0x1F98]), (0x1F91, [0x1F99]), (0x1F92, [0x1F9A]), (0x1F93, [0x1F9B]),
   (0x1F94, [0x1F9C]), (0x1F95, [0x1F9D]), (0x1F96, [0x1F9E]), (0x1F97, [0x1F9F]),
   (0x1FA0, [0x1FA8]), (0x1FA1, [0x1FA9]), (0x1FA2, [0x1FAA]), (0x1FA3, [0x1FAB]),
   (0x1FA4, [0x1FAC]), (0x1FA5, [0x1FAD]), (0x1FA6, [0x1FAE]), (0x1FA7, [0x1FAF]),
   (0x1FB2, [0x1FBA, 0x345]), (0x1FB3, [0x1FBC]), (0x1FB4, [0x386, 0x345]),
   (0x1FB7, [0x391, 0x342, 0x345]), (0x1FC2, [0x1FCA, 0x345]), (0x1FC3, [0x1FCC]),
   (0x1FC4, [0x389, 0x345]), (0x1FC7, [0x397, 0x342, 0x345]), (0x1FF2, [0x1FFA, 0x345]),
   (0x1FF3, [0x1FFC]), (0x1FF4, [0x38F, 0x345]), (0x1FF7, [0x3A9, 0x342, 0x345]),
   (0xFB00, [0x46, 0x66]), (0xFB01, [0x46, 0x69]), (0xFB02, [0x46, 0x6C]),
   (0xFB03, [0x46, 0x66, 0x69]), (0xFB04, [0x46, 0x66, 0x6C]), (0xFB05, [0x53, 0x74]),
   (0xFB06, [0x53, 0x74]), (0xFB13, [0x544, 0x576]), (0xFB14, [0x544, 0x565]),
   (0xFB15, [0x544, 0x56B]), (0xFB16, [0x54E, 0x576]), (0xFB17, [0x544, 0x56D])]

/-- The form of a character at the start of a word. -/
def titleChar (c : Char) : List Char :=
  match titleSequences.lookup c.toNat with
  | some codes => codes.map Char.ofNat
  | none => if untitledRanges.holds c then [c] else upperChar c

/-- Continues to write every word with a capital letter first. `inWord` says whether a letter stands
right before the text; `before` is all that stands before it, in reverse. -/
def titleFrom : (inWord : Bool) → (before : List Char) → List Char → List Char
  | _, _, [] => []
  | inWord, before, c :: text =>
    (if inWord then lowerAt before c text else titleChar c) ++
      titleFrom (isCased c) (c :: before) text

/-- A text in which every letter that follows no other letter is a capital one. -/
def titleCase (text : List Char) : List Char :=
  titleFrom false [] text

/-- A text with a capital letter at its start and small ones behind it. -/
def capitalize : List Char → List Char
  | [] => []
  | c :: text => titleChar c ++ lowerFrom [c] text

/-- Continues to exchange capital and small letters behind a text, given in reverse. -/
def swapFrom : (before : List Char) → List Char → List Char
  | _, [] => []
  | before, c :: text =>
    (if isUpper c then lowerAt before c text else if isLower c then upperChar c else [c]) ++
      swapFrom (c :: before) text

/-- A text with capital and small letters exchanged. -/
def swapCase (text : List Char) : List Char :=
  swapFrom [] text

/-- Letters whose form for comparisons without regard to case is not the lowercase form. -/
def foldRuns : List CaseRun :=
  [⟨0xB5, 0xB5, 1, 775⟩, ⟨0x17F, 0x17F, 1, -268⟩, ⟨0x345, 0x345, 1, 116⟩, ⟨0x3C2, 0x3C2, 1, 1⟩,
   ⟨0x3D0, 0x3D0, 1, -30⟩, ⟨0x3D1, 0x3D1, 1, -25⟩, ⟨0x3D5, 0x3D5, 1, -15⟩, ⟨0x3D6, 0x3D6, 1, -22⟩,
   ⟨0x3F0, 0x3F0, 1, -54⟩, ⟨0x3F1, 0x3F1, 1, -48⟩, ⟨0x3F5, 0x3F5, 1, -64⟩, ⟨0x13A0, 0x13F5, 1, 0⟩,
   ⟨0x13F8, 0x13FD, 1, -8⟩, ⟨0x1C80, 0x1C80, 1, -6222⟩, ⟨0x1C81, 0x1C81, 1, -6221⟩,
   ⟨0x1C82, 0x1C82, 1, -6212⟩, ⟨0x1C83, 0x1C84, 1, -6210⟩, ⟨0x1C85, 0x1C85, 1, -6211⟩,
   ⟨0x1C86, 0x1C86, 1, -6204⟩, ⟨0x1C87, 0x1C87, 1, -6180⟩, ⟨0x1C88, 0x1C88, 1, 35267⟩,
   ⟨0x1E9B, 0x1E9B, 1, -58⟩, ⟨0x1FBE, 0x1FBE, 1, -7173⟩, ⟨0xAB70, 0xABBF, 1, -38864⟩]

/-- The form of a character for comparisons without regard to case. -/
def foldChar (c : Char) : List Char :=
  match foldRuns.findSome? (·.image? c.toNat) with
  | some code => [Char.ofNat code]
  | none =>
    let capital := upperChar c
    if c = 'ẞ' then ['s', 's']
    else if 1 < capital.length then capital.flatMap lowerChar
    else lowerChar c

def fold (text : List Char) : List Char :=
  text.flatMap foldChar

/-- Whether all letters of a text that have a case are small, and there is one. -/
def isLowerText (text : List Char) : Bool :=
  text.any isLower && text.all fun c => !isUpper c && !isTitled c

/-- Whether all letters of a text that have a case are capital, and there is one. -/
def isUpperText (text : List Char) : Bool :=
  text.any isUpper && text.all fun c => !isLower c && !isTitled c

/-- Whether capital letters stand exactly where no letter stands before them, and there is one.
`inWord` says whether a letter stands right before the text. -/
def isTitleText : (inWord found : Bool) → List Char → Bool
  | _, found, [] => found
  | inWord, found, c :: text =>
    if isUpper c || isTitled c then !inWord && isTitleText true true text
    else if isLower c then inWord && isTitleText true true text
    else isTitleText false found text

end CrateReadme.Text
