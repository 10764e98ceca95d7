import CrateReadme.Proofs.Source.Heads
import CrateReadme.Link.Reference
import CrateReadme.Proofs.Text.Decimal

/-!
# Writing and reading `use` trees

A tree is written with `::` between the parts of a path, `as` in front of a new name and commas
between the members of a group. A `use` declaration that is written in this way is read back as the
same tree.
-/

namespace CrateReadme.Source

namespace UseTree

/-! ### Writing -/

mutual

def write : UseTree → List Char
  | .path head tail => head.toList ++ (':' :: ':' :: tail.write)
  | .name ident => ident.toList
  | .rename ident newName => ident.toList ++ (" as ".toList ++ newName.toList)
  | .glob => ['*']
  | .group members => '\x7b' :: (writeMembers members ++ ['\x7d'])

/-- The text between the braces of a group. -/
def writeMembers : List UseTree → List Char
  | [] => []
  | [member] => member.write
  | member :: next :: members => member.write ++ (", ".toList ++ writeMembers (next :: members))

end

/-- An identifier without the `::` that may stand in front of it. -/
def localName (ident : List Char) : List Char :=
  match ident with
  | ':' :: ':' :: rest => rest
  | _ => ident

mutual

/-- Whether the names in a tree are ASCII identifiers. The first name of a tree and of every member
may have `::` in front of it. -/
def IsPlain : UseTree → Prop
  | .path head tail => Reference.isPlainIdent (localName head.toList) ∧ tail.IsPlain
  | .name ident => Reference.isPlainIdent (localName ident.toList)
  | .rename ident newName =>
    Reference.isPlainIdent (localName ident.toList) ∧ Reference.isPlainIdent newName.toList
  | .glob => True
  | .group members => ArePlain members

/-- Whether the names in all members of a group are ASCII identifiers. -/
def ArePlain : List UseTree → Prop
  | [] => True
  | member :: members => member.IsPlain ∧ ArePlain members

end

/-! ### The tokens of a written tree -/

def nameFaces (ident : List Char) : List Face :=
  match ident with
  | ':' :: ':' :: rest => [.mark [':', ':'], .word rest]
  | _ => [.word ident]

mutual

def faces : UseTree → List Face
  | .path head tail => nameFaces head.toList ++ (.mark [':', ':'] :: tail.faces)
  | .name ident => nameFaces ident.toList
  | .rename ident newName =>
    nameFaces ident.toList ++ [.word ['a', 's'], .word newName.toList]
  | .glob => [.mark ['*']]
  | .group members => Face.group '\x7b' '\x7d' (memberFaces members)

/-- The faces of the tokens between the braces of a group. -/
def memberFaces : List UseTree → List Face
  | [] => []
  | [member] => member.faces
  | member :: next :: members => member.faces ++ (.mark [','] :: memberFaces (next :: members))

end

theorem isWordPart_of_isIdentPart {c : Char} (hpart : Reference.isIdentPart c) :
    isWordPart c := by
  rw [Reference.isIdentPart, Bool.or_eq_true] at hpart
  rw [isWordPart, Bool.or_eq_true]
  rcases hpart with hascii | hunderscore
  · refine Or.inr ?_
    rw [Text.isLetterOrNumeric, if_pos (Text.toNat_lt_of_isAlphanum hascii)]
    exact hascii
  · exact Or.inl hunderscore

theorem isWordStart_of_isIdentStart {c : Char} (hstart : Reference.isIdentStart c) :
    isWordStart c := by
  rw [Reference.isIdentStart, Bool.or_eq_true] at hstart
  rw [isWordStart, Bool.or_eq_true]
  rcases hstart with hascii | hunderscore
  · refine Or.inr ?_
    have hless := @Text.toNat_lt_of_isAlphanum c (by rw [Char.isAlphanum, hascii, Bool.true_or])
    rw [Text.isLetter, if_pos hless]
    exact hascii
  · exact Or.inl hunderscore

/-- Plain identifiers are texts of words. -/
theorem isWordText_of_isPlainIdent {text : List Char} (hident : Reference.isPlainIdent text) :
    isWordText text := by
  cases text with
  | nil => cases hident
  | cons c rest =>
      rw [Reference.isPlainIdent, Bool.and_eq_true] at hident
      have hrest : rest.all isWordPart := by
        rw [List.all_eq_true] at hident ⊢
        exact fun d hd => isWordPart_of_isIdentPart (hident.2 d hd)
      unfold isWordText
      split
      · next heq =>
        rw [List.cons.injEq] at heq
        rw [heq.2, List.all_cons, Bool.and_eq_true] at hrest
        exact absurd hrest.1 (by decide)
      · next heq =>
        rw [List.cons.injEq] at heq
        rw [← heq.1, ← heq.2, isWordStart_of_isIdentStart hident.1, hrest]
        rfl
      · next heq => cases heq

theorem spells_colons : Spells Anywhere [':', ':'] [.mark [':', ':']] :=
  .of_nextStretch (fun _ _ _ => rfl) (by decide)

theorem spells_star : Spells Anywhere ['*'] [.mark ['*']] :=
  .of_nextStretch (fun _ _ _ => rfl) (by decide)

theorem spells_comma : Spells Anywhere [','] [.mark [',']] :=
  .of_nextStretch (fun _ _ _ => rfl) (by decide)

theorem localName_cases (ident : List Char) :
    (∃ rest, ident = ':' :: ':' :: rest) ∨
      (localName ident = ident ∧ nameFaces ident = [.word ident]) := by
  unfold localName nameFaces
  split
  · next rest => exact Or.inl ⟨rest, rfl⟩
  · exact Or.inr ⟨rfl, rfl⟩

theorem spells_name {ident : List Char} (hident : Reference.isPlainIdent (localName ident)) :
    Spells (endsWord ·) ident (nameFaces ident) := by
  rcases localName_cases ident with ⟨rest, rfl⟩ | ⟨hlocal, hfaces⟩
  · exact spells_colons.append (.word (isWordText_of_isPlainIdent hident)) fun _ _ => trivial
  · rw [hlocal] at hident
    rw [hfaces]
    exact .word (isWordText_of_isPlainIdent hident)

mutual

/-- A tree is read as its tokens wherever its last word ends. -/
theorem spells_write (tree : UseTree) (hplain : tree.IsPlain) :
    Spells (endsWord ·) tree.write tree.faces := by
  cases tree with
  | path head tail =>
      rw [IsPlain] at hplain
      rw [write, faces]
      have htail := spells_colons.append (spells_write tail hplain.2) fun _ _ => trivial
      exact (spells_name hplain.1).append htail fun _ _ => rfl
  | name ident =>
      rw [IsPlain] at hplain
      rw [write, faces]
      exact spells_name hplain
  | rename ident newName =>
      rw [IsPlain] at hplain
      rw [write, faces]
      have hnew := Spells.word (isWordText_of_isPlainIdent hplain.2)
      have hblank : Spells Anywhere [' '] [] := .blank rfl
      have has : Spells (endsWord ·) ['a', 's'] [.word ['a', 's']] := .word rfl
      have hbehind := hblank.append (has.append (hblank.append hnew fun _ _ => trivial)
        fun _ _ => rfl) fun _ _ => trivial
      exact (spells_name hplain.1).append hbehind fun _ _ => rfl
  | glob =>
      rw [write, faces]
      exact spells_star.mono fun _ _ => trivial
  | group members =>
      rw [IsPlain] at hplain
      rw [write, faces]
      have hmembers := spells_writeMembers members hplain
      exact (hmembers.group rfl fun _ => rfl).mono fun _ _ => trivial

/-- The members of a group are spelled by their tokens, with commas in between. -/
theorem spells_writeMembers (members : List UseTree) (hplain : ArePlain members) :
    Spells (endsWord ·) (writeMembers members) (memberFaces members) := by
  match members with
  | [] =>
      rw [writeMembers, memberFaces]
      exact .nil _
  | [member] =>
      rw [ArePlain] at hplain
      rw [writeMembers, memberFaces]
      exact spells_write member hplain.1
  | member :: next :: members =>
      rw [ArePlain] at hplain
      rw [writeMembers, memberFaces]
      have hblank : Spells Anywhere [' '] [] := .blank rfl
      have hrest := hblank.append (spells_writeMembers (next :: members) hplain.2)
        fun _ _ => trivial
      have hbehind := spells_comma.append hrest fun _ _ => trivial
      exact (spells_write member hplain.1).append hbehind fun _ _ => rfl

end

/-! ### Reading -/

/-- Whether a tree whose last word stands in front of the cells ends there. -/
def Ends (cells : List Cell) : Prop :=
  ∀ cell ∈ cells.head?, cell.reads "::" = false ∧ cell.reads "as" = false

/-- A token that neither opens a group nor leads on ends a use tree. -/
theorem ends_of_face {token : Token} {cls : TokenClass} {text : List Char}
    {value : Option (List Char)} (hface : token.face = (cls, text, value))
    (hopening : cls ≠ .opening) (hcolons : text ≠ [':', ':']) (has : text ≠ ['a', 's'])
    (rest : List Token) : Ends (cellsOf (token :: rest)) := by
  have hcell : (cellsOf (token :: rest)).head? = some ⟨token, 1⟩ := by
    obtain ⟨start, stop, rfl⟩ := Token.eq_of_face hface
    by_cases hclosing : cls = .closing
    · rw [cellsOf_closing hclosing, List.head?_cons]
    · rw [cellsOf_plain hopening hclosing, List.head?_cons]
  intro cell hmem
  rw [hcell, Option.mem_some_iff] at hmem
  subst hmem
  refine ⟨?_, ?_⟩
  · rw [Cell.reads, Token.reads_of_face hface, decide_eq_false_iff_not]
    exact hcolons
  · rw [Cell.reads, Token.reads_of_face hface, decide_eq_false_iff_not]
    exact has

theorem read_of_word {cell : Cell} (hword : cell.token.cls = .word)
    (hcolons : cell.reads "::" = false) (hstar : cell.reads "*" = false)
    (hbrace : cell.reads "\x7b" = false) (rest : List Cell) :
    read (cell :: rest) = readAfterWord cell.token.text rest := by
  rw [read.eq_def]
  simp only [hcolons, hstar, hbrace, hword, Bool.false_eq_true, if_false, if_true]

theorem read_of_colons (cell : Cell) {next : Cell} (hcolons : cell.reads "::")
    (hword : next.token.cls = .word) (rest : List Cell) :
    read (cell :: next :: rest) = readAfterWord (':' :: ':' :: next.token.text) rest := by
  rw [read.eq_def]
  simp only [hcolons, hword, if_true]

theorem plainName_of_localName {ident : List Char}
    (hident : Reference.isPlainIdent (localName ident)) : plainName ident = ident := by
  unfold plainName
  split
  · next rest =>
    have hhash : Reference.isPlainIdent ('r' :: '#' :: rest) = false := by
      simp [Reference.isPlainIdent, show Reference.isIdentPart '#' = false by decide]
    rw [show localName ('r' :: '#' :: rest) = 'r' :: '#' :: rest from rfl, hhash] at hident
    cases hident
  · rfl

theorem ne_of_isPlainIdent {text rest : List Char} {c : Char}
    (hident : Reference.isPlainIdent text) (hc : Reference.isIdentStart c = false) :
    text ≠ c :: rest := by
  rintro rfl
  rw [Reference.isPlainIdent, hc] at hident
  cases hident

/-- A name is read up to its end. -/
theorem read_name {ident : List Char} {tokens : List Token}
    (hident : Reference.isPlainIdent (localName ident))
    (htokens : tokens.map Token.face = nameFaces ident) (rest : List Token) :
    read (cellsOf (tokens ++ rest)) = readAfterWord ident (cellsOf rest) := by
  rcases localName_cases ident with ⟨text, rfl⟩ | ⟨hlocal, hfaces⟩
  · simp only [nameFaces, List.map_eq_cons_iff, List.map_eq_nil_iff] at htokens
    obtain ⟨colons, _, rfl, hcolons, word, _, rfl, hword, rfl⟩ := htokens
    simp only [List.cons_append, List.nil_append]
    rw [Token.cellsOf_of_face hcolons (by decide), Token.cellsOf_of_face hword (by decide),
      read_of_colons ⟨colons, 1⟩ (Token.reads_of_face hcolons "::")
        (congrArg Prod.fst hword)]
    simp only
    rw [show word.text = text from congrArg (fun face => face.2.1) hword]
  · rw [hlocal] at hident
    simp only [hfaces, List.map_eq_cons_iff, List.map_eq_nil_iff] at htokens
    obtain ⟨word, _, rfl, hword, rfl⟩ := htokens
    have hreads (mark : List Char) (c : Char) (hc : Reference.isIdentStart c = false)
        (text : String) (htext : text.toList = c :: mark) :
        Cell.reads ⟨word, 1⟩ text = false := by
      rw [Cell.reads, Token.reads_of_face hword, htext, decide_eq_false_iff_not]
      exact ne_of_isPlainIdent hident hc
    rw [List.singleton_append, Token.cellsOf_of_face hword (by decide),
      read_of_word (congrArg Prod.fst hword) (hreads [':'] ':' rfl "::" rfl)
        (hreads [] '*' rfl "*" rfl) (hreads [] '\x7b' rfl "\x7b" rfl)]
    simp only
    rw [show word.text = ident from congrArg (fun face => face.2.1) hword]

section AfterWord

variable {ident : List Char} (hident : Reference.isPlainIdent (localName ident))
include hident

theorem readAfterWord_of_ends {cells : List Cell} (hends : Ends cells) :
    readAfterWord ident cells = (some (.name (String.ofList ident)), cells) := by
  rw [readAfterWord.eq_def, plainName_of_localName hident]
  cases cells with
  | nil => rfl
  | cons cell rest =>
      obtain ⟨hcolons, has⟩ := hends cell rfl
      simp only [hcolons, has, Bool.false_eq_true, if_false]

theorem readAfterWord_of_colons (cell : Cell) (hcolons : cell.reads "::") (rest : List Cell) :
    readAfterWord ident (cell :: rest) =
      ((read rest).1.map (.path (String.ofList ident)), (read rest).2) := by
  rw [readAfterWord.eq_def, plainName_of_localName hident]
  simp only [hcolons, if_true]

theorem readAfterWord_of_as (cell : Cell) {next : Cell} (has : cell.reads "as")
    (hword : next.token.cls = .word) (rest : List Cell) :
    readAfterWord ident (cell :: next :: rest) =
      (some (.rename (String.ofList ident) (String.ofList (plainName next.token.text))), rest) := by
  have hcolons : cell.reads "::" = false := by
    simp only [Cell.reads, Token.reads, decide_eq_true_eq, decide_eq_false_iff_not] at has ⊢
    rw [has]
    decide
  rw [readAfterWord.eq_def, plainName_of_localName hident]
  simp only [hcolons, has, Bool.false_eq_true, if_false, if_true, nameAt?, List.getElem?_cons_zero,
    hword, Option.map_some, List.drop_succ_cons, List.drop_zero]

end AfterWord

theorem read_of_star {cell : Cell} (hface : cell.token.face = .mark ['*']) (rest : List Cell) :
    read (cell :: rest) = (some .glob, rest) := by
  have hcolons : cell.reads "::" = false := Token.reads_of_face hface "::"
  have hstar : cell.reads "*" = true := Token.reads_of_face hface "*"
  rw [read.eq_def]
  simp only [hcolons, hstar, Bool.false_eq_true, if_false, if_true]

theorem read_of_brace {cell : Cell} (hface : cell.token.face = (.opening, ['\x7b'], none))
    (rest : List Cell) :
    read (cell :: rest) =
      (some (.group (readMembers ((afterGroup (cell :: rest)).length + 1) rest)),
        afterGroup (cell :: rest)) := by
  have hcolons : cell.reads "::" = false := Token.reads_of_face hface "::"
  have hstar : cell.reads "*" = false := Token.reads_of_face hface "*"
  have hbrace : cell.reads "\x7b" = true := Token.reads_of_face hface "\x7b"
  rw [read.eq_def]
  simp only [hcolons, hstar, hbrace, Bool.false_eq_true, if_false, if_true]

theorem readMembers_of_end {outside : Nat} {cells : List Cell} (hend : cells.length ≤ outside) :
    readMembers outside cells = [] := by
  rw [readMembers.eq_def]
  cases cells with
  | nil => rfl
  | cons cell rest => simp only [if_pos (show rest.length + 1 ≤ outside from hend)]

theorem readMembers_of_comma {outside : Nat} (cell : Cell) {rest : List Cell}
    (hinside : outside < rest.length + 1) (hcomma : cell.reads ",") :
    readMembers outside (cell :: rest) = readMembers outside rest := by
  rw [readMembers.eq_def]
  simp only [if_neg (show ¬rest.length + 1 ≤ outside by omega), hcomma, if_true]

theorem readMembers_of_read {outside : Nat} {cells after : List Cell} {member : UseTree}
    (hinside : outside < cells.length) (hcomma : ∀ cell ∈ cells.head?, cell.reads "," = false)
    (hread : read cells = (some member, after)) (hafter : after.length < cells.length) :
    readMembers outside cells = member :: readMembers outside after := by
  cases cells with
  | nil => exact absurd hinside (Nat.not_lt_zero outside)
  | cons cell rest =>
      rw [readMembers.eq_def]
      simp only [if_neg (show ¬rest.length + 1 ≤ outside from Nat.not_le_of_lt hinside),
        hcomma cell rfl, Bool.false_eq_true, if_false, hread]
      rw [if_pos (show after.length < rest.length + 1 from hafter)]

/-- The first token of a tree is no comma. -/
theorem exists_head_of_faces (tree : UseTree) (hplain : tree.IsPlain) :
    ∃ face more, tree.faces = face :: more ∧ face.2.1 ≠ [','] := by
  have hname {ident : List Char} (hident : Reference.isPlainIdent (localName ident))
      (more : List Face) :
      ∃ face rest, nameFaces ident ++ more = face :: rest ∧ face.2.1 ≠ [','] := by
    rcases localName_cases ident with ⟨rest, rfl⟩ | ⟨hlocal, hfaces⟩
    · exact ⟨_, _, rfl, by decide⟩
    · rw [hlocal] at hident
      rw [hfaces]
      exact ⟨_, _, rfl, ne_of_isPlainIdent hident (by decide)⟩
  cases tree with
  | path head tail =>
      rw [IsPlain] at hplain
      rw [faces]
      exact hname hplain.1 _
  | name ident =>
      rw [IsPlain] at hplain
      rw [faces, ← List.append_nil (nameFaces _)]
      exact hname hplain []
  | rename ident newName =>
      rw [IsPlain] at hplain
      rw [faces]
      exact hname hplain.1 _
  | glob =>
      rw [faces]
      exact ⟨_, _, rfl, by decide⟩
  | group members =>
      rw [faces]
      exact ⟨_, _, rfl, by decide⟩

/-- A member in front of more tokens is read, and reading goes on behind it. -/
theorem readMembers_member {member : UseTree} (hplain : member.IsPlain) {tokens : List Token}
    (htokens : tokens.map Token.face = member.faces) {outside : Nat} {behind : List Token}
    (houtside : outside ≤ behind.length)
    (hread : read (cellsOf (tokens ++ behind)) = (some member, cellsOf behind)) :
    readMembers outside (cellsOf (tokens ++ behind)) =
      member :: readMembers outside (cellsOf behind) := by
  obtain ⟨face, more, hfaces, hcomma⟩ := exists_head_of_faces member hplain
  rw [hfaces, List.map_eq_cons_iff] at htokens
  obtain ⟨first, rest, rfl, hfirst, -⟩ := htokens
  have hlength : behind.length < (first :: rest ++ behind).length := by
    rw [List.length_append, List.length_cons]
    omega
  refine readMembers_of_read ?_ (fun cell hmem => ?_) hread ?_
  · rw [length_cellsOf]
    omega
  · have htoken : cell.token = first := by
      have hmap := congrArg List.head? (map_token_cellsOf (first :: rest ++ behind))
      rw [List.head?_map, hmem] at hmap
      exact Option.some.inj hmap
    rw [Cell.reads, htoken, Token.reads_of_face hfirst, decide_eq_false_iff_not]
    exact hcomma
  · rw [length_cellsOf, length_cellsOf]
    exact hlength

mutual

/-- The tokens of a tree are read as the tree. -/
theorem read_of_faces (tree : UseTree) (hplain : tree.IsPlain) {tokens : List Token}
    (htokens : tokens.map Token.face = tree.faces) {rest : List Token}
    (hends : Ends (cellsOf rest)) :
    read (cellsOf (tokens ++ rest)) = (some tree, cellsOf rest) := by
  cases tree with
  | path head tail =>
      rw [IsPlain] at hplain
      rw [faces, List.map_eq_append_iff] at htokens
      obtain ⟨front, back, rfl, hfront, hback⟩ := htokens
      rw [List.map_eq_cons_iff] at hback
      obtain ⟨colons, behind, rfl, hcolons, hbehind⟩ := hback
      rw [List.append_assoc, read_name hplain.1 hfront, List.cons_append,
        Token.cellsOf_of_face hcolons (by decide),
        readAfterWord_of_colons hplain.1 ⟨colons, 1⟩ (Token.reads_of_face hcolons "::"),
        read_of_faces tail hplain.2 hbehind hends, Option.map_some, String.ofList_toList]
  | name ident =>
      rw [IsPlain] at hplain
      rw [faces] at htokens
      rw [read_name hplain htokens, readAfterWord_of_ends hplain hends, String.ofList_toList]
  | rename ident newName =>
      rw [IsPlain] at hplain
      rw [faces, List.map_eq_append_iff] at htokens
      obtain ⟨front, back, rfl, hfront, hback⟩ := htokens
      simp only [List.map_eq_cons_iff, List.map_eq_nil_iff] at hback
      obtain ⟨as, _, rfl, has, new, _, rfl, hnew, rfl⟩ := hback
      have hlocal : localName newName.toList = newName.toList := by
        rcases localName_cases newName.toList with ⟨rest, hrest⟩ | ⟨hlocal, -⟩
        · rw [hrest] at hplain
          cases hplain.2
        · exact hlocal
      have hplainNew : plainName newName.toList = newName.toList :=
        plainName_of_localName (by rw [hlocal]; exact hplain.2)
      rw [List.append_assoc, read_name hplain.1 hfront]
      simp only [List.cons_append, List.nil_append]
      rw [Token.cellsOf_of_face has (by decide), Token.cellsOf_of_face hnew (by decide),
        readAfterWord_of_as hplain.1 ⟨as, 1⟩ (Token.reads_of_face has "as")
          (congrArg Prod.fst hnew)]
      simp only
      rw [show new.text = newName.toList from congrArg (fun face => face.2.1) hnew, hplainNew,
        String.ofList_toList, String.ofList_toList]
  | glob =>
      rw [faces, List.map_eq_singleton_iff] at htokens
      obtain ⟨star, rfl, hstar⟩ := htokens
      rw [List.singleton_append, Token.cellsOf_of_face hstar (by decide), read_of_star hstar]
  | group members =>
      rw [IsPlain] at hplain
      rw [faces] at htokens
      obtain ⟨opening, inner, closing, rfl, hopening, hinner, hclosing⟩ :=
        exists_of_group_faces htokens
      have hnested := Spells.nested (spells_writeMembers members hplain) rfl hinner
      have hpairs := Token.pairs_of_faces hopening hclosing rfl
      have hafter := afterGroup_cellsOf hpairs hnested rest
      have hmembers := readMembers_of_faces members hplain hinner hclosing rest
      simp only [List.cons_append, List.append_assoc, List.nil_append]
      rw [hnested.hasOwnCells.cellsOf_append] at hmembers
      rw [cellsOf_group hpairs hnested] at hafter ⊢
      rw [read_of_brace hopening, hafter, length_cellsOf, hmembers]

/-- The tokens between the braces of a group are read as its members. -/
theorem readMembers_of_faces (members : List UseTree) (hplain : ArePlain members)
    {tokens : List Token} (htokens : tokens.map Token.face = memberFaces members)
    {closing : Token} (hclosing : closing.face = (.closing, ['\x7d'], none))
    (rest : List Token) :
    readMembers (rest.length + 1) (cellsOf (tokens ++ closing :: rest)) = members := by
  have hends : Ends (cellsOf (closing :: rest)) :=
    ends_of_face hclosing (by decide) (by decide) (by decide) rest
  have hlast : readMembers (rest.length + 1) (cellsOf (closing :: rest)) = [] :=
    readMembers_of_end (by rw [length_cellsOf]; exact Nat.le_refl _)
  match members with
  | [] =>
      rw [memberFaces, List.map_eq_nil_iff] at htokens
      rw [htokens, List.nil_append, hlast]
  | [member] =>
      rw [ArePlain] at hplain
      rw [memberFaces] at htokens
      have hread := read_of_faces member hplain.1 htokens hends
      have houtside : rest.length + 1 ≤ (closing :: rest).length := Nat.le_refl _
      rw [readMembers_member hplain.1 htokens houtside hread, hlast]
  | member :: next :: members =>
      rw [ArePlain] at hplain
      rw [memberFaces, List.map_eq_append_iff] at htokens
      obtain ⟨front, back, rfl, hfront, hback⟩ := htokens
      rw [List.map_eq_cons_iff] at hback
      obtain ⟨comma, behind, rfl, hcomma, hbehind⟩ := hback
      have hstop : Ends (cellsOf (comma :: behind ++ closing :: rest)) :=
        ends_of_face hcomma (by decide) (by decide) (by decide) _
      have hread := read_of_faces member hplain.1 hfront hstop
      have hrest := readMembers_of_faces (next :: members) hplain.2 hbehind hclosing rest
      have hlength : rest.length + 1 < (cellsOf (behind ++ closing :: rest)).length + 1 := by
        rw [length_cellsOf, List.length_append, List.length_cons]
        omega
      rw [List.append_assoc,
        readMembers_member hplain.1 hfront (by simp; omega) hread, List.cons_append,
        Token.cellsOf_of_face hcomma (by decide),
        readMembers_of_comma ⟨comma, 1⟩ hlength (Token.reads_of_face hcomma ","), hrest]

end

/-! ### Declarations -/

theorem readKeyword_use {keyword : Token} (hface : keyword.face = .word ['u', 's', 'e'])
    (attributes : List Attribute) (visibility : Visibility) (rest : List Cell) :
    readKeyword attributes visibility ⟨keyword, 1⟩ rest =
      ((read rest).1.map fun tree => .use { tree, visibility }, afterSemicolon (read rest).2) := by
  obtain ⟨start, stop, rfl⟩ := Token.eq_of_face hface
  rfl

/-- A `use` declaration of a written tree is read as the tree, with the visibility in front of
it. -/
theorem read_declaration {front : List Char} {frontFaces : List Face} {visibility : Visibility}
    (hfront : Spells Anywhere front frontFaces)
    (hshows : ∀ tokens, tokens.map Token.face = frontFaces → Shows visibility tokens)
    {tree : UseTree} (hplain : tree.IsPlain) {code : String}
    (hcode : code.toList = front ++ ("use ".toList ++ (tree.write ++ [';'])))
    (hshebang : shebangSize code.toList = 0) :
    ∃ span, Source.read code =
      .ok { nodes := [.use { tree, visibility, span := some span }] } := by
  have hsemicolon : Spells Anywhere [';'] [.mark [';']] :=
    .of_nextStretch (fun _ _ _ => rfl) (by decide)
  have hkeyword : Spells (endsWord ·) ['u', 's', 'e'] [.word ['u', 's', 'e']] := .word rfl
  have huse : Spells Anywhere "use ".toList [.word ['u', 's', 'e']] :=
    hkeyword.append (.blank rfl) fun _ _ => rfl
  have htree := (spells_write tree hplain).append hsemicolon fun _ _ => rfl
  have hspells := hfront.append (huse.append htree fun _ _ => trivial) fun _ _ => trivial
  rw [← hcode] at hspells
  obtain ⟨tokens, htokens, hfaces⟩ := hspells.tokenize trivial hshebang
  simp only [List.map_eq_append_iff, List.map_eq_singleton_iff] at hfaces
  obtain ⟨middle, _, rfl, hmiddle, _, _, rfl, ⟨keyword, rfl, hkeyword⟩, written, _, rfl, hwritten,
    semicolon, rfl, hmark⟩ := hfaces
  have hleads : keyword.Leads (written ++ [semicolon]) :=
    Token.leads_of_face hkeyword (by decide) fun hconst => absurd hconst (by decide)
  obtain ⟨attributes, -, hitem⟩ := readItem_of_head .nil (hshows middle hmiddle) hleads
  have hread := read_of_faces tree hplain hwritten
    (ends_of_face hmark (by decide) (by decide) (by decide) [])
  have hempty : afterSemicolon (cellsOf [semicolon]) = [] := afterSemicolon_of_mark hmark []
  rw [readKeyword_use hkeyword, hread, hempty, Option.map_some] at hitem
  obtain ⟨span, houtline⟩ :=
    ofCells_of_readItem code.toList .nil (hshows middle hmiddle) hleads hitem
  refine ⟨span, ?_⟩
  rw [List.nil_append] at houtline
  rw [Source.read, htokens]
  simp only [bind, Except.bind, pure, Except.pure, List.singleton_append, houtline]
  rw [Outline.ofCells]
  rfl

/-- A tree that is written in a declaration, private or public, is read back: the declaration is the
only node, and the crate has no documentation. -/
theorem read_write (tree : UseTree) (hplain : tree.IsPlain) :
    (∃ span, Source.read ("use " ++ String.ofList tree.write ++ ";") =
      .ok { docs := "", nodes := [.use { tree, visibility := .inherited, span := some span }] }) ∧
    (∃ span, Source.read ("pub use " ++ String.ofList tree.write ++ ";") =
      .ok {
        docs := ""
        nodes := [.use { tree, visibility := .everywhere, span := some span }] }) := by
  have hcode (front : String) : (front ++ String.ofList tree.write ++ ";").toList =
      front.toList ++ (tree.write ++ [';']) := by
    rw [String.toList_append, String.toList_append, String.toList_ofList, List.append_assoc]
    rfl
  refine ⟨?_, ?_⟩
  · refine read_declaration (.nil Anywhere) ?_ hplain (hcode "use ") ?_
    · intro tokens htokens
      rw [List.map_eq_nil_iff] at htokens
      rw [htokens]
      exact .inherited
    · rw [hcode]
      rfl
  · have hkeyword : Spells (endsWord ·) ['p', 'u', 'b'] [.word ['p', 'u', 'b']] := .word rfl
    have hpub : Spells Anywhere "pub ".toList [.word ['p', 'u', 'b']] :=
      hkeyword.append (.blank rfl) fun _ _ => rfl
    refine read_declaration hpub ?_ hplain (hcode "pub use ") ?_
    · intro tokens htokens
      rw [List.map_eq_singleton_iff] at htokens
      obtain ⟨token, rfl, hface⟩ := htokens
      exact .everywhere hface
    · rw [hcode]
      rfl

theorem read_write_group :
    ∃ span, Source.read "pub use ::std::\x7bself, a as _, io::*, \x7b\x7d\x7d;" =
      .ok { docs := "", nodes := [.use {
        tree := .path "::std" (.group [.name "self", .rename "a" "_", .path "io" .glob, .group []])
        visibility := .everywhere
        span := some span }] } := by
  have hplain : IsPlain (.path "::std"
      (.group [.name "self", .rename "a" "_", .path "io" .glob, .group []])) := by
    simp only [IsPlain, ArePlain]
    decide
  exact (read_write _ hplain).2

end UseTree

end CrateReadme.Source
