import CrateReadme.Proofs.Diagnostic.Report
import CrateReadme.Proofs.Source.Partition
import CrateReadme.Proofs.Source.Safety
import CrateReadme.Readme.Input

/-!
# The place of a syntax error

A source that is refused is refused at a character of its own: the bracket without a partner, the
start of the comment or literal that does not end, the backslash of the escape. The line and the
column that are shown for the error are those of this character.
-/

namespace CrateReadme.Source

variable {index start place : Nat} {quote : Char} {input rest : List Char} {fault : SyntaxFault}

def SyntaxFault.Concerns (text : List Char) : SyntaxFault → Prop
  | unexpectedClosing bracket => text.head? = some bracket
  | mismatchedClosing bracket _ => text.head? = some bracket
  | unclosed opening => text.head? = some opening
  | unterminatedComment => ['/', '*'] <+: text
  | unterminatedUnicodeEscape => ['\\', 'u'] <+: text
  | invalidUnicodeEscape => ['\\', 'u'] <+: text
  | unknownEscape (some c) => ['\\', c] <+: text
  | unknownEscape none => text = ['\\']
  | unterminatedLiteral quote => ∃ letters, literalMark? text = some (.quoted letters quote)
  | unterminatedRawString => ∃ letters hashes, literalMark? text = some (.raw letters hashes)

/-- A fault concerns a text that is not empty. -/
theorem SyntaxFault.Concerns.ne_nil {text : List Char} (hconcerns : fault.Concerns text) :
    text ≠ [] := by
  rintro rfl
  cases fault with
  | unterminatedLiteral =>
      obtain ⟨letters, hmark⟩ := hconcerns
      cases hmark
  | unterminatedRawString =>
      obtain ⟨letters, hashes, hmark⟩ := hconcerns
      cases hmark
  | unknownEscape char? =>
      cases char? with
      | none => cases hconcerns
      | some c => simp [Concerns] at hconcerns
  | _ => simp [Concerns] at hconcerns

/-- A fault at a place of `input`, which begins at `index`. -/
structure FaultAt (index : Nat) (input : List Char) (fault : SyntaxFault) (place : Nat) : Prop where
  index_le : index ≤ place
  concerns : fault.Concerns (input.drop (place - index))

theorem FaultAt.here (hconcerns : fault.Concerns input) : FaultAt index input fault index where
  index_le := Nat.le_refl _
  concerns := by rwa [Nat.sub_self, List.drop_zero]

theorem FaultAt.of_drop {count later : Nat} (hlater : later = index + count)
    (hfault : FaultAt later (input.drop count) fault place) : FaultAt index input fault place := by
  have hle := hfault.index_le
  have hconcerns := hfault.concerns
  rw [List.drop_drop, show count + (place - later) = place - index by omega] at hconcerns
  exact ⟨by omega, hconcerns⟩

/-! ### Literals -/

theorem place_of_unicodeEscape {digits : List Char}
    (hescape : unicodeEscape index digits = .error (.malformed fault place)) :
    fault = .invalidUnicodeEscape ∧ place = index := by
  unfold unicodeEscape at hescape
  split at hescape
  · cases hescape
    exact ⟨rfl, rfl⟩
  · split_ifs at hescape <;> cases hescape
    exact ⟨rfl, rfl⟩

/-- A fault in an escape is one of the text from its backslash on. -/
theorem faultAt_of_readEscape
    (hescape : readEscape index rest = .error (.malformed fault place)) :
    FaultAt index ('\\' :: rest) fault place := by
  unfold readEscape at hescape
  split at hescape
  · cases hescape
    exact .here rfl
  · next c more =>
    split at hescape
    · cases hescape
    · simp only at hescape
      split_ifs at hescape with hx hu hclosed hbreak
      · split at hescape
        · split_ifs at hescape
          cases hescape
        · cases hescape
      · have hunicode : ['\\', 'u'] <+: '\\' :: c :: more := ⟨more, by rw [hu]; rfl⟩
        split at hescape
        · cases hescape
        · next hvalue =>
          cases hescape
          obtain ⟨rfl, rfl⟩ := place_of_unicodeEscape hvalue
          exact .here hunicode
      · cases hescape
        exact .here ⟨more, by rw [hu]; rfl⟩
      · cases hescape
        exact .here ⟨more, rfl⟩

/-- Inside a literal it is an escape that is at fault, if not the literal as a whole. -/
theorem faultAt_of_readQuoted
    (hquoted : readQuoted quote start index input = .error (.malformed fault place)) :
    (fault = .unterminatedLiteral quote ∧ place = start) ∨ FaultAt index input fault place := by
  fun_induction readQuoted quote start index input with
  | case1 =>
      cases hquoted
      exact Or.inl ⟨rfl, rfl⟩
  | case2 => cases hquoted
  | case3 _ _ _ hescape =>
      cases hquoted
      exact Or.inr (faultAt_of_readEscape hescape)
  | case4 index rest meant used _ error hlater _ ih =>
      cases hquoted
      have hplace : index + 1 + used = index + (used + 1) := by omega
      exact (ih hlater).imp_right fun hfault => .of_drop hplace hfault
  | case5 => cases hquoted
  | case6 index c rest _ _ error hlater ih =>
      cases hquoted
      exact (ih hlater).imp_right fun hfault => .of_drop rfl hfault
  | case7 => cases hquoted

/-- A fault in a literal is one of the text that starts with it. -/
theorem faultAt_of_readLiteral {mark : LiteralMark} (hmark : literalMark? input = some mark)
    (hliteral : readLiteral index mark input = .error (.malformed fault place)) :
    FaultAt index input fault place := by
  cases mark with
  | raw letters hashes =>
      rw [readLiteral] at hliteral
      simp only at hliteral
      split at hliteral
      · cases hliteral
        exact .here ⟨letters, hashes, hmark⟩
      · cases hliteral
  | quoted letters quote =>
      rw [readLiteral] at hliteral
      simp only at hliteral
      split at hliteral
      · cases hliteral
      · split at hliteral
        · next hquoted =>
          cases hliteral
          rcases faultAt_of_readQuoted hquoted with ⟨rfl, rfl⟩ | hfault
          · exact .here ⟨letters, hmark⟩
          · exact .of_drop (Nat.add_assoc _ _ _) hfault
        · cases hliteral

/-! ### One step -/

/-- A fault in a stretch is one of the text that starts with it. -/
theorem faultAt_of_nextStretch {c : Char}
    (hnext : nextStretch index c rest = .error (.malformed fault place)) :
    FaultAt index (c :: rest) fault place := by
  simp only [nextStretch] at hnext
  by_cases hblank : Text.isBlank c
  · rw [if_pos hblank] at hnext
    cases hnext
  rw [if_neg hblank] at hnext
  by_cases hline : Text.startsWith ['/', '/'] (c :: rest)
  · rw [if_pos hline] at hnext
    cases hnext
  rw [if_neg hline] at hnext
  by_cases hblock : Text.startsWith ['/', '*'] (c :: rest)
  · rw [if_pos hblock] at hnext
    cases hsize : commentSize? 0 (c :: rest) with
    | none =>
        rw [hsize] at hnext
        cases hnext
        exact .here (prefix_of_startsWith hblock)
    | some size =>
        rw [hsize] at hnext
        cases hnext
  rw [if_neg hblock] at hnext
  cases hmark : literalMark? (c :: rest) with
  | some mark =>
      rw [hmark] at hnext
      exact faultAt_of_readLiteral hmark hnext
  | none =>
      -- Apart from a stray digit, which has no place, nothing else fails.
      rw [hmark] at hnext
      simp only at hnext
      split_ifs at hnext
      cases hnext

/-- A fault in the nesting is one of the text that starts with the bracket. -/
theorem faultAt_of_trackBrackets {pending : List (Char × Nat)} {cls : TokenClass} {c : Char}
    (htrack : trackBrackets index pending cls c = .error (.malformed fault place)) :
    FaultAt index (c :: rest) fault place := by
  cases cls with
  | closing =>
      cases pending with
      | nil =>
          cases htrack
          exact .here rfl
      | cons bracket outer =>
          rw [trackBrackets] at htrack
          split at htrack
          · cases htrack
          · cases htrack
            exact .here rfl
  | _ => cases htrack

/-! ### A whole source -/

/-- The brackets that are open stand in the source where they are noted. -/
def AreOpen (code : List Char) (pending : List (Char × Nat)) : Prop :=
  ∀ bracket ∈ pending, (code.drop bracket.2).head? = some bracket.1

/-- Brackets that are left open stand in the source. -/
theorem AreOpen.trackBrackets {code : List Char} {pending inner : List (Char × Nat)}
    {cls : TokenClass} {c : Char} (hopen : AreOpen code pending)
    (hcode : (code.drop index).head? = some c)
    (htrack : Source.trackBrackets index pending cls c = .ok inner) : AreOpen code inner := by
  cases cls with
  | opening =>
      cases htrack
      exact List.forall_mem_cons.mpr ⟨hcode, hopen⟩
  | closing =>
      cases pending with
      | nil => cases htrack
      | cons bracket outer =>
          rw [Source.trackBrackets] at htrack
          split at htrack
          · cases htrack
            exact (List.forall_mem_cons.mp hopen).2
          · cases htrack
  | _ =>
      cases htrack
      exact hopen

theorem FaultAt.concerns_code {code : List Char} (hfault : FaultAt index (code.drop index) fault place) :
    fault.Concerns (code.drop place) := by
  have hconcerns := hfault.concerns
  rwa [List.drop_drop, Nat.add_sub_cancel' hfault.index_le] at hconcerns

/-- A fault of a source concerns what stands at its place. -/
theorem concerns_of_tokensFrom {code : List Char} {pending : List (Char × Nat)}
    (hopen : AreOpen code pending)
    (htokens : tokensFrom index pending (code.drop index) = .error (.malformed fault place)) :
    fault.Concerns (code.drop place) := by
  induction hlength : (code.drop index).length using Nat.strongRecOn
    generalizing index pending with
  | ind length ih =>
      cases hinput : code.drop index with
      | nil =>
          rw [hinput, tokensFrom.eq_def] at htokens
          cases pending with
          | nil => cases htokens
          | cons bracket outer =>
              cases htokens
              exact hopen bracket List.mem_cons_self
      | cons c rest =>
          have hhead : (code.drop index).head? = some c := by rw [hinput]; rfl
          rw [hinput, tokensFrom] at htokens
          cases hnext : nextStretch index c rest with
          | error error =>
              rw [hnext] at htokens
              cases htokens
              exact (hinput ▸ faultAt_of_nextStretch hnext).concerns_code
          | ok stretch =>
              rw [hnext] at htokens
              simp only [bind, Except.bind] at htokens
              have hrest : rest.drop stretch.extra = code.drop (index + stretch.extra + 1) := by
                rw [Nat.add_assoc, ← List.drop_drop, hinput]
                rfl
              have hshorter : (code.drop (index + stretch.extra + 1)).length < length := by
                rw [← hrest, ← hlength, hinput, List.length_drop, List.length_cons]
                omega
              rw [hrest] at htokens
              split at htokens
              · exact ih _ hshorter hopen htokens rfl
              · split at htokens
                · next htrack =>
                  cases htokens
                  exact (hinput ▸ faultAt_of_trackBrackets htrack).concerns_code
                · next htrack =>
                  split at htokens
                  · next hlater =>
                    cases htokens
                    exact ih _ hshorter (hopen.trackBrackets hhead htrack) hlater rfl
                  · cases htokens

theorem concerns_of_tokenize {code : List Char}
    (htokens : tokenize code = .error (.malformed fault place)) :
    fault.Concerns (code.drop place) :=
  concerns_of_tokensFrom (fun _ hmem => absurd hmem List.not_mem_nil) htokens

theorem concerns_of_read {code : String} (hread : read code = .error (.malformed fault place)) :
    fault.Concerns (code.toList.drop place) := by
  rw [read] at hread
  cases htokens : tokenize code.toList with
  | error error =>
      simp only [htokens, bind, Except.bind] at hread
      cases hread
      exact concerns_of_tokenize htokens
  | ok tokens =>
      simp only [htokens, bind, Except.bind] at hread
      cases hread

end CrateReadme.Source

/-! ### What is shown -/

namespace CrateReadme.Readme.Input

open Source

/-- The head of an excerpt: where the line and the column of a place are shown. -/
def shownPlace (filename : String) (place : Place) : String :=
  Text.repeated (Text.decimalString place.line).length ' ' ++ "--> " ++ filename ++ ":" ++
    Text.decimalString place.line ++ ":" ++ Text.decimalString place.column

/-- A source that is refused is refused at the character that its fault is about. The offset of the
error is the size of what stands in front of this character, and the line and the column shown for
it are those of this character. -/
theorem read_malformed_place (code : String) :
    (∀ fault index, Source.read code = .error (.malformed fault index) →
      fault.Concerns (code.toList.drop index) ∧
        byteOffset code.toList index = byteSize (code.toList.take index) ∧
        (∀ package artifact log, log.code = code →
          read package artifact log = .ok (ofPackage package artifact "" .empty,
            log.syntaxError fault.message (byteSize (code.toList.take index)))) ∧
        ∀ filename colored,
          ((Diagnostic.syntaxError code.utf8ByteSize fault.message
              (byteSize (code.toList.take index))).reportLines filename code colored)[1]? =
            some (shownPlace filename
              (.behind (code.toList.take index) (code.toList.drop index)))) ∧
      ∀ count,
        Place.ofOffset code (byteSize (code.toList.take count)) =
            .behind (code.toList.take count) (code.toList.drop count) ∧
          (Text.lines code.toList)[(code.toList.take count).count '\n']? =
            some (lastLine (code.toList.take count) ++ firstLine (code.toList.drop count)) := by
  constructor
  · intro fault index hread
    have hconcerns := concerns_of_read hread
    have hoffset : byteOffset code.toList index = byteSize (code.toList.take index) :=
      byteOffset_eq_utf8ByteSize code.toList index
    have hcode : code ≠ "" := by
      intro hempty
      rw [hempty] at hconcerns
      exact hconcerns.ne_nil List.drop_nil
    refine ⟨hconcerns, hoffset, fun package artifact log hlog => ?_, fun filename colored => ?_⟩
    · subst hlog
      simp only [read, hread, hoffset]
    · simp only [Diagnostic.syntaxError, Diagnostic.reportLines, if_neg hcode,
        Place.ofOffset_take]
      rfl
  · intro count
    refine ⟨Place.ofOffset_take code count, ?_⟩
    have hline := getElem?_lines (code.toList.take count) (code.toList.drop count)
    rwa [List.take_append_drop] at hline

/-- A source of two lines whose brace is left open behind a character of two bytes. -/
def unclosedCode : String :=
  "//! é\nfn f() \x7b"

theorem read_malformed_place_unclosed :
    Source.read unclosedCode = .error (.malformed (.unclosed '\x7b') 13) ∧
      byteOffset unclosedCode.toList 13 = 14 ∧
      ((Diagnostic.syntaxError 15 "unclosed delimiter `\x7b`" 14).reportLines "lib.rs" unclosedCode
        false)[1]? = some " --> lib.rs:2:8" := by
  have htokens : Source.tokenize unclosedCode.toList =
      .error (.malformed (.unclosed '\x7b') 13) := by
    decide +kernel
  have hread : Source.read unclosedCode = .error (.malformed (.unclosed '\x7b') 13) := by
    rw [Source.read, htokens]
    rfl
  obtain ⟨hplace, -⟩ := read_malformed_place unclosedCode
  obtain ⟨-, hoffset, -, hshown⟩ := hplace (.unclosed '\x7b') 13 hread
  have hsize : byteSize (unclosedCode.toList.take 13) = 14 := by decide +kernel
  have hmessage : SyntaxFault.message (.unclosed '\x7b') = "unclosed delimiter `\x7b`" := by
    decide +kernel
  have hlocation := hshown "lib.rs" false
  rw [hsize, hmessage] at hlocation
  rw [hsize] at hoffset
  refine ⟨hread, hoffset, hlocation.trans ?_⟩
  decide +kernel

end CrateReadme.Readme.Input
