import CrateReadme.Proofs.Source.Heads
import CrateReadme.Proofs.Source.Locality
import CrateReadme.Proofs.Text.Search

/-!
# The spellings of crate documentation

A line of crate documentation can be a comment, the escaped string of an attribute, or a raw string
of an attribute. Three different rules of the reader end the text: the end of the line, a quote that
is not escaped, and a quote with enough hashes behind it. Each gives back the text that was written,
so the documentation of the crate does not depend on how its lines are spelled.
-/

namespace CrateReadme.Source

/-! ### Writing -/

/-- A character inside a string. A backslash is put in front of a backslash and of a quote. -/
def escapeChar (c : Char) : List Char :=
  if c = '\\' ∨ c = '"' then ['\\', c] else [c]

def stringLiteral (text : List Char) : List Char :=
  '"' :: (text.flatMap escapeChar ++ ['"'])

def rawEnd (hashes : Nat) : List Char :=
  '"' :: List.replicate hashes '#'

def rawLiteral (hashes : Nat) (text : List Char) : List Char :=
  'r' :: (List.replicate hashes '#' ++ '"' :: (text ++ rawEnd hashes))

def docAttribute (literal : List Char) : List Char :=
  '#' :: '!' :: '[' :: ('d' :: 'o' :: 'c' :: ' ' :: '=' :: ' ' :: literal ++ [']'])

/-- A line of crate documentation in one of its spellings. The end of the line ends a comment, and
the carriage returns in front of it do not count. A raw string must not hold its own end; the reader
looks for its opening quote in a window that 255 hashes still fit in. -/
inductive DocLine where
  | comment (text : List Char) (hline : '\n' ∉ text) (hend : text.getLast? ≠ some '\r')
  | escaped (text : List Char)
  | raw (hashes : Nat) (text : List Char) (hhashes : hashes ≤ 255)
      (hclear : ¬rawEnd hashes <:+: text)

namespace DocLine

def text : DocLine → List Char
  | comment text _ _ => text
  | escaped text => text
  | raw _ text _ _ => text

def write : DocLine → List Char
  | comment text _ _ => '/' :: '/' :: '!' :: text
  | escaped text => docAttribute (stringLiteral text)
  | raw hashes text _ _ => docAttribute (rawLiteral hashes text)

end DocLine

/-- The source of some lines, one below the other. -/
def writeDocLines (lines : List DocLine) : List Char :=
  Text.unlines (lines.map DocLine.write)

/-! ### Literals -/

/-- The reader of a string gives back what was escaped, whatever follows the closing quote. -/
theorem readQuoted_escapeChar (start index : Nat) (text rest : List Char) :
    readQuoted '"' start index (text.flatMap escapeChar ++ '"' :: rest) =
      .ok (text, (text.flatMap escapeChar).length + 1) := by
  induction text generalizing index with
  | nil =>
      rw [List.flatMap_nil, List.nil_append, readQuoted, if_pos rfl]
      rfl
  | cons c text ih =>
      rw [List.flatMap_cons, escapeChar]
      by_cases hescaped : c = '\\' ∨ c = '"'
      · have hmeant : readEscape index (c :: (text.flatMap escapeChar ++ '"' :: rest)) =
            .ok ([c], 1) := by
          rcases hescaped with rfl | rfl <;> rfl
        rw [if_pos hescaped]
        simp only [List.cons_append, List.nil_append]
        rw [readQuoted, if_neg (by decide), if_pos rfl, hmeant]
        simp [ih]
      · rw [if_neg hescaped, List.singleton_append, List.cons_append]
        rw [not_or] at hescaped
        rw [readQuoted, if_neg hescaped.2, if_neg hescaped.1, ih]
        rfl

/-- A literal is read by its mark alone. -/
theorem nextStretch_of_literalMark? {index : Nat} {c : Char} {rest : List Char}
    {mark : LiteralMark} (hmark : literalMark? (c :: rest) = some mark) :
    nextStretch index c rest = readLiteral index mark (c :: rest) := by
  have hstart : c ∈ ['"', '\x27', 'b', 'c', 'r'] := by
    obtain ⟨opening, hopens, hinit⟩ := exists_opens_of_literalMark? hmark
    cases hopens with
    | raw hfront _ _ =>
        simp only [List.mem_cons, List.not_mem_nil, or_false] at hfront
        rcases hfront with rfl | rfl | rfl <;>
          · obtain ⟨more, hmore⟩ := hinit
            cases hmore
            decide
    | _ =>
        obtain ⟨more, hmore⟩ := hinit
        cases hmore
        decide
  have hblank : Text.isBlank c = false := by
    simp only [List.mem_cons, List.not_mem_nil, or_false] at hstart
    rcases hstart with rfl | rfl | rfl | rfl | rfl <;> rfl
  have hslash : '/' ≠ c := by
    rintro rfl
    exact absurd hstart (by decide)
  have hcomment (pattern : List Char) :
      Text.startsWith ('/' :: pattern) (c :: rest) = false := by
    rw [Text.startsWith, Text.after?, if_neg hslash]
    rfl
  simp only [nextStretch, hblank, hcomment, hmark, Bool.false_eq_true, if_false]

/-- A text in quotes is one literal with that text as its value. -/
theorem spells_stringLiteral (text : List Char) :
    Spells Anywhere (stringLiteral text) [(.literal, stringLiteral text, some text)] := by
  refine .of_nextStretch (fun index rest _ => ?_) (by decide)
  have hquoted : readQuoted '"' index (index + 0 + 1) ((stringLiteral text ++ rest).drop (0 + 1)) =
      .ok (text, (text.flatMap escapeChar).length + 1) := by
    have hinside : (stringLiteral text ++ rest).drop (0 + 1) =
        text.flatMap escapeChar ++ '"' :: rest := by
      simp [stringLiteral]
    rw [hinside, readQuoted_escapeChar]
  have hsize : 0 + 1 + ((text.flatMap escapeChar).length + 1) = (stringLiteral text).length := by
    simp only [stringLiteral, List.length_cons, List.length_append, List.length_nil]
    omega
  calc nextStretch index '"' (text.flatMap escapeChar ++ ['"'] ++ rest)
      = readLiteral index (.quoted 0 '"') (stringLiteral text ++ rest) :=
        nextStretch_of_literalMark? rfl
    _ = .ok { extra := (stringLiteral text).length - 1,
              token? := some (.literal, stringLiteral text, some text) } := by
        rw [readLiteral, if_neg (fun htick => absurd htick.1 (by decide))]
        simp only [hquoted, hsize, List.take_left]
    _ = _ := rfl

/-- The end of a raw string overlaps itself nowhere: it has one quote, in front. -/
theorem rawEnd_hasOnlyBorder (hashes : Nat) : Text.HasOnlyBorder (rawEnd hashes) [] := by
  intro border hborder hproper hstart hend
  rcases List.suffix_cons_iff.mp hend with hwhole | hinside
  · exact absurd hwhole hproper
  · obtain ⟨c, rest, rfl⟩ := List.exists_cons_of_ne_nil hborder
    have hquote : c = '"' := (List.cons_prefix_cons.mp hstart).1
    have hhash := List.eq_of_mem_replicate (hinside.subset List.mem_cons_self)
    rw [hquote] at hhash
    exact absurd hhash (by decide)

/-- A raw literal has its text as its value, if the mark of its end does not occur there. -/
theorem spells_rawLiteral {hashes : Nat} {text : List Char} (hhashes : hashes ≤ 255)
    (hclear : ¬rawEnd hashes <:+: text) :
    Spells Anywhere (rawLiteral hashes text) [(.literal, rawLiteral hashes text, some text)] := by
  refine .of_nextStretch (fun index rest _ => ?_) (by decide)
  have hopens : LiteralMark.Opens (.raw 1 hashes) (['r'] ++ (List.replicate hashes '#' ++ ['"'])) :=
    .raw (by decide) rfl (by omega)
  have hinput : rawLiteral hashes text ++ rest =
      ['r'] ++ (List.replicate hashes '#' ++ ['"']) ++ (text ++ (rawEnd hashes ++ rest)) := by
    simp [rawLiteral]
  have hmark : literalMark? (rawLiteral hashes text ++ rest) = some (.raw 1 hashes) :=
    literalMark?_of_opens hopens ⟨_, hinput.symm⟩
  have hdrop : (rawLiteral hashes text ++ rest).drop (1 + hashes + 1) =
      text ++ (rawEnd hashes ++ rest) := by
    rw [hinput]
    exact List.drop_left' hopens.length_eq
  -- The text does not hold its end; it could still begin in the text and reach beyond it.
  have hbreak : Text.breakOn? (rawEnd hashes) (text ++ (rawEnd hashes ++ rest)) =
      some (text, rest) :=
    Text.breakOn?_of_border (rawEnd_hasOnlyBorder hashes) (by rwa [List.append_nil])
  have hsize : 1 + hashes + 1 + text.length + (rawEnd hashes).length =
      (rawLiteral hashes text).length := by
    simp only [rawLiteral, List.length_cons, List.length_append, List.length_replicate]
    omega
  calc nextStretch index 'r' (List.replicate hashes '#' ++ '"' :: (text ++ rawEnd hashes) ++ rest)
      = readLiteral index (.raw 1 hashes) (rawLiteral hashes text ++ rest) :=
        nextStretch_of_literalMark? hmark
    _ = .ok { extra := (rawLiteral hashes text).length - 1,
              token? := some (.literal, rawLiteral hashes text, some text) } := by
        rw [readLiteral]
        simp only [← rawEnd.eq_1, hdrop, hbreak, hsize, List.take_left]
    _ = _ := rfl

/-! ### Lines -/

theorem endsLine_nil_of_break (rest : List Char) : EndsLine [] ('\n' :: rest) := by
  refine ⟨by simp, fun c hc => ?_⟩
  cases hc
  rfl

theorem trimEnd_eq_self {drop : Char → Bool} {text : List Char}
    (hlast : ∀ c ∈ text.getLast?, drop c = false) : Text.trimEnd drop text = text := by
  rw [Text.trimEnd, List.reverse_eq_iff]
  cases htext : text.reverse with
  | nil => rfl
  | cons c rest =>
      have hc : c ∈ text.getLast? := by
        rw [← List.head?_reverse, htext]
        rfl
      rw [List.dropWhile_cons_of_neg (by simp [hlast c hc])]

/-- A line comment of documentation is one token, with what stands behind its mark as its value. -/
theorem spells_comment {text : List Char} (hline : '\n' ∉ text)
    (hend : text.getLast? ≠ some '\r') :
    Spells (EndsLine []) ('/' :: '/' :: '!' :: text)
      [(.innerDoc, '/' :: '/' :: '!' :: text, some text)] := by
  refine .of_nextStretch (fun index rest hrest => ?_) (by decide)
  have htake : ('/' :: '/' :: '!' :: text ++ rest).takeWhile (· ≠ '\n') =
      '/' :: '/' :: '!' :: text := by
    have hkeep : ∀ c ∈ '/' :: '/' :: '!' :: text, decide (c ≠ '\n') = true := by
      intro c hc
      rw [decide_eq_true_eq]
      rintro rfl
      exact hline (by simpa using hc)
    exact (Text.takeWhile_append_of_head? hkeep fun c hmem => by simp [hrest.2 c hmem]).1
  have htrim : Text.trimEnd (· = '\r') ('/' :: '/' :: '!' :: text) = '/' :: '/' :: '!' :: text := by
    apply trimEnd_eq_self
    intro c hc
    rw [decide_eq_false_iff_not]
    rintro rfl
    -- An empty comment ends with its exclamation mark, any other one with its text.
    cases text with
    | nil => cases hc
    | cons first text => exact hend hc
  calc nextStretch index '/' ('/' :: '!' :: text ++ rest)
      = .ok (lineComment ('/' :: '/' :: '!' :: text ++ rest)) := rfl
    _ = _ := by
        rw [lineComment, htake, htrim]
        rfl

def docAttributeFaces (literal text : List Char) : List Face :=
  [.mark ['#'], .mark ['!']] ++ Face.group '[' ']'
    [.word ['d', 'o', 'c'], .mark ['='], (.literal, literal, some text)]

/-- An attribute spells its tokens around that of its literal. -/
theorem spells_docAttribute {literal text : List Char}
    (hliteral : Spells Anywhere literal [(.literal, literal, some text)]) :
    Spells Anywhere (docAttribute literal) (docAttributeFaces literal text) := by
  have hmark (c next : Char) (hpair : (c, next) ∈ [('#', '!'), ('!', '['), ('=', ' ')]) :
      Spells (fun rest => ∃ more, rest = next :: more) [c] [.mark [c]] := by
    refine .of_nextStretch (fun index rest hrest => ?_) (by decide)
    obtain ⟨more, rfl⟩ := hrest
    simp only [List.mem_cons, Prod.mk.injEq, List.not_mem_nil, or_false] at hpair
    rcases hpair with ⟨rfl, rfl⟩ | ⟨rfl, rfl⟩ | ⟨rfl, rfl⟩ <;> rfl
  have hword : Spells Anywhere (['d', 'o', 'c'] ++ [' ']) ([.word ['d', 'o', 'c']] ++ []) :=
    (Spells.word rfl).append (.blank rfl) fun _ _ => rfl
  have hequals : Spells Anywhere (['='] ++ [' ']) ([.mark ['=']] ++ []) :=
    (hmark '=' ' ' (by decide)).append (.blank rfl) fun rest _ => ⟨rest, rfl⟩
  have hinside := hword.append (hequals.append hliteral fun _ _ => trivial) fun _ _ => trivial
  have hpartner : partner? '[' = some ']' := rfl
  have hgroup := hinside.group hpartner fun _ => trivial
  have hbang := (hmark '!' '[' (by decide)).append hgroup fun rest _ => ⟨_, rfl⟩
  exact (hmark '#' '!' (by decide)).append hbang fun rest _ => ⟨_, rfl⟩

namespace DocLine

def faces : DocLine → List Face
  | comment text _ _ => [(.innerDoc, '/' :: '/' :: '!' :: text, some text)]
  | escaped text => docAttributeFaces (stringLiteral text) text
  | raw hashes text _ _ => docAttributeFaces (rawLiteral hashes text) text

theorem spells_write (line : DocLine) : Spells (EndsLine []) line.write line.faces := by
  cases line with
  | comment text hline hend => exact spells_comment hline hend
  | escaped text => exact (spells_docAttribute (spells_stringLiteral text)).mono fun _ _ => trivial
  | raw hashes text hhashes hclear =>
      exact (spells_docAttribute (spells_rawLiteral hhashes hclear)).mono fun _ _ => trivial

end DocLine

/-- Lines of documentation are spelled by the tokens of each of them. -/
theorem spells_writeDocLines (lines : List DocLine) :
    Spells (EndsLine []) (writeDocLines lines) (lines.flatMap DocLine.faces) := by
  induction lines with
  | nil => exact .nil _
  | cons line lines ih =>
      cases lines with
      | nil =>
          rw [List.flatMap_singleton]
          exact line.spells_write
      | cons next lines =>
          have hbreak : Spells (EndsLine []) (['\n'] ++ writeDocLines (next :: lines))
              ([] ++ (next :: lines).flatMap DocLine.faces) :=
            (Spells.blank rfl).append ih fun _ _ => trivial
          have hall := line.spells_write.append hbreak fun _ _ => endsLine_nil_of_break _
          rwa [← List.append_assoc] at hall

theorem spells_breaks (count : Nat) : Spells Anywhere (List.replicate count '\n') [] := by
  induction count with
  | zero => exact .nil Anywhere
  | succ count ih => exact (Spells.blank (c := '\n') rfl).append ih fun _ _ => trivial

/-! ### Reading -/

section Attributes

variable {name equals value : Token} {literal text : List Char}

theorem nested_of_doc (hname : name.face = .word ['d', 'o', 'c'])
    (hequals : equals.face = .mark ['=']) (hvalue : value.face = (.literal, literal, some text)) :
    Nested [] [name, equals, value] := by
  obtain ⟨_, _, rfl⟩ := Token.eq_of_face hname
  obtain ⟨_, _, rfl⟩ := Token.eq_of_face hequals
  obtain ⟨_, _, rfl⟩ := Token.eq_of_face hvalue
  exact .plain (by simp) (by simp) (by simp)
    (.plain (by simp) (by simp) (by simp) (.plain (by simp) (by simp) (by simp) .nil))

theorem addAttribute_of_doc (hname : name.face = .word ['d', 'o', 'c'])
    (hequals : equals.face = .mark ['=']) (hvalue : value.face = (.literal, literal, some text))
    (span : Option Span) (outline : Outline) :
    outline.addAttribute (cellsOf [name, equals, value]) span =
      { outline with docs := text :: outline.docs } := by
  obtain ⟨_, _, rfl⟩ := Token.eq_of_face hname
  obtain ⟨_, _, rfl⟩ := Token.eq_of_face hequals
  obtain ⟨_, _, rfl⟩ := Token.eq_of_face hvalue
  rfl

/-- An attribute `doc = literal` adds the text of the literal to the documentation. -/
theorem ofCells_docAttribute (code : List Char) {front : List Token}
    (hfront : front.map Token.face = docAttributeFaces literal text) (rest : List Token) :
    Outline.ofCells code (cellsOf (front ++ rest)) =
      { Outline.ofCells code (cellsOf rest) with
        docs := text :: (Outline.ofCells code (cellsOf rest)).docs } := by
  obtain ⟨marks, group, rfl, hmarks, hgroup⟩ := List.map_eq_append_iff.mp hfront
  obtain ⟨opening, inner, closing, rfl, hopening, hinner, hclosing⟩ := exists_of_group_faces hgroup
  simp only [List.map_eq_cons_iff, List.map_eq_nil_iff] at hmarks hinner
  obtain ⟨hash, _, rfl, hhash, bang, _, rfl, hbang, rfl⟩ := hmarks
  obtain ⟨name, _, rfl, hname, equals, _, rfl, hequals, value, _, rfl, hvalue, rfl⟩ := hinner
  have hnested := nested_of_doc hname hequals hvalue
  have hpairs := Token.pairs_of_faces hopening hclosing rfl
  have hafter := afterGroup_cellsOf hpairs hnested rest
  have hbody := groupBody_cellsOf hpairs hnested rest
  have hbracket :
      readsAt (cellsOf (opening :: ([name, equals, value] ++ closing :: rest))) "[" 0 = true := by
    rw [cellsOf_group hpairs hnested]
    exact Token.reads_of_face hopening "["
  have hcells : cellsOf ([hash, bang] ++ opening :: ([name, equals, value] ++ [closing]) ++ rest) =
      ⟨hash, 1⟩ :: ⟨bang, 1⟩ ::
        cellsOf (opening :: ([name, equals, value] ++ closing :: rest)) := by
    simp only [List.cons_append, List.nil_append]
    rw [Token.cellsOf_of_face hhash (by decide), Token.cellsOf_of_face hbang (by decide)]
  have hmark : (Cell.reads ⟨hash, 1⟩ "#" && Cell.reads ⟨bang, 1⟩ "!") = true := by
    rw [Cell.reads, Cell.reads, Token.reads_of_face hhash, Token.reads_of_face hbang]
    rfl
  have hcls : hash.cls ≠ .innerDoc := by
    rw [show hash.cls = .punctuation from congrArg Prod.fst hhash]
    decide
  rw [hcells, Outline.ofCells, if_neg hcls, if_pos]
  · simp only [List.drop_succ_cons, List.drop_zero]
    rw [hafter, hbody, addAttribute_of_doc hname hequals hvalue]
  · rw [Bool.and_eq_true]
    exact ⟨hmark, hbracket⟩

end Attributes

/-- The tokens of a line give its text as documentation, and nothing else. -/
theorem DocLine.ofCells_eq (line : DocLine) (code : List Char) {front : List Token}
    (hfront : front.map Token.face = line.faces) (rest : List Token) :
    Outline.ofCells code (cellsOf (front ++ rest)) =
      { Outline.ofCells code (cellsOf rest) with
        docs := line.text :: (Outline.ofCells code (cellsOf rest)).docs } := by
  cases line with
  | comment text hline hend =>
      obtain ⟨token, rfl, hface⟩ := List.map_eq_singleton_iff.mp hfront
      obtain ⟨start, stop, rfl⟩ := Token.eq_of_face hface
      rw [List.singleton_append, Token.cellsOf_of_face hface (by decide), Outline.ofCells,
        if_pos rfl]
      rfl
  | escaped text => exact ofCells_docAttribute code hfront rest
  | raw hashes text hhashes hclear => exact ofCells_docAttribute code hfront rest

theorem ofCells_docLines (code : List Char) (lines : List DocLine) {tokens : List Token}
    (htokens : tokens.map Token.face = lines.flatMap DocLine.faces) :
    Outline.ofCells code (cellsOf tokens) = { docs := lines.map DocLine.text } := by
  induction lines generalizing tokens with
  | nil =>
      rw [List.flatMap_nil, List.map_eq_nil_iff] at htokens
      rw [htokens, show cellsOf [] = [] from rfl, Outline.ofCells]
      rfl
  | cons line lines ih =>
      rw [List.flatMap_cons, List.map_eq_append_iff] at htokens
      obtain ⟨front, back, rfl, hfront, hback⟩ := htokens
      rw [line.ofCells_eq code hfront, ih hback]
      rfl

/-- Neither a comment nor an attribute at the start of a source is an interpreter line. -/
theorem shebangSize_writeDocLines (lines : List DocLine) (breaks : Nat) :
    shebangSize (writeDocLines lines ++ List.replicate breaks '\n') = 0 := by
  have hline (line : DocLine) (rest : List Char) : shebangSize (line.write ++ rest) = 0 := by
    cases line <;> rfl
  match lines with
  | [] => cases breaks <;> rfl
  | [line] => exact hline line _
  | line :: next :: lines =>
      have hwrite : writeDocLines (line :: next :: lines) =
          line.write ++ ['\n'] ++ writeDocLines (next :: lines) := rfl
      rw [hwrite, List.append_assoc, List.append_assoc]
      exact hline line _

/-- However the lines of crate documentation are spelled, reading them gives their texts, put
together and without the indentation they share, and nothing else. Line ends may follow the last
line. -/
theorem read_docLines (lines : List DocLine) (breaks : Nat) :
    read (String.ofList (writeDocLines lines ++ List.replicate breaks '\n')) =
      .ok {
        docs := String.ofList (unindent (Text.unlines (lines.map DocLine.text)))
        nodes := []
        unexpanded := [] } := by
  have hspells : Spells (EndsLine []) (writeDocLines lines ++ List.replicate breaks '\n')
      (lines.flatMap DocLine.faces ++ []) := by
    refine (spells_writeDocLines lines).append ((spells_breaks breaks).mono fun _ _ => trivial) ?_
    intro rest hrest
    cases breaks with
    | zero => exact hrest
    | succ breaks => exact endsLine_nil_of_break _
  have hshebang := shebangSize_writeDocLines lines breaks
  obtain ⟨tokens, htokens, hfaces⟩ := hspells.tokenize ⟨by simp, by simp⟩ hshebang
  rw [List.append_nil] at hfaces
  rw [read, String.toList_ofList, htokens]
  simp only [bind, Except.bind, pure, Except.pure, ofCells_docLines _ lines hfaces]

/-- A comment, an escaped string and a raw string, with quotes, brackets and marks of comments in
their texts. -/
theorem read_docLines_of_three_spellings :
    read ("//! Ends */ \"é\" ]\n" ++ "#![doc = \" Says \\\"hi\\\" // \\\\ ]\"]\n" ++
        "#![doc = r##\" Raw \"text\"# ]\"##]\n") =
      .ok {
        docs := "Ends */ \"é\" ]\n" ++ "Says \"hi\" // \\ ]\n" ++ "Raw \"text\"# ]"
        nodes := []
        unexpanded := [] } := by
  let lines : List DocLine :=
    [.comment " Ends */ \"é\" ]".toList (by decide +kernel) (by decide +kernel),
      .escaped " Says \"hi\" // \\ ]".toList,
      .raw 2 " Raw \"text\"# ]".toList (by decide) (by decide +kernel)]
  have hsource : String.ofList (writeDocLines lines ++ List.replicate 1 '\n') =
      "//! Ends */ \"é\" ]\n" ++ "#![doc = \" Says \\\"hi\\\" // \\\\ ]\"]\n" ++
        "#![doc = r##\" Raw \"text\"# ]\"##]\n" := by
    decide +kernel
  have hdocs : String.ofList (unindent (Text.unlines (lines.map DocLine.text))) =
      "Ends */ \"é\" ]\n" ++ "Says \"hi\" // \\ ]\n" ++ "Raw \"text\"# ]" := by
    decide +kernel
  rw [← hsource, ← hdocs]
  exact read_docLines lines 1

end CrateReadme.Source
