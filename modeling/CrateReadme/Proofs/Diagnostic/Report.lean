import CrateReadme.Diagnostic.Report
import CrateReadme.Proofs.Text.Utf8

/-!
# Places and underlines

A byte offset that stands between two characters of a text is shown as the line and the column of
the character behind it, together with the text of that line. What is underlined starts in this
column. Its width counts the bytes of the span, cut off at the end of the line, so that it is the
number of underlined characters only where bytes and characters agree or the line ends first.
-/

namespace CrateReadme

variable {f : Char → List UInt8}

/-! ### Lines -/

def firstLine (text : List Char) : List Char :=
  text.takeWhile (· ≠ '\n')

def lastLine (text : List Char) : List Char :=
  text.rtakeWhile (· ≠ '\n')

theorem length_lines (text : List Char) : (Text.lines text).length = text.count '\n' + 1 := by
  unfold Text.lines
  induction text with
  | nil => rfl
  | cons c text ih =>
      rw [List.splitOn_cons_eq_if_modifyHead, List.count_cons]
      split
      · rw [List.length_cons, ih]
      · rw [List.length_modifyHead, ih, Nat.add_zero]

theorem head?_lines (text : List Char) : (Text.lines text).head? = some (firstLine text) := by
  unfold Text.lines
  induction text with
  | nil => rfl
  | cons c text ih =>
      rw [List.splitOn_cons_eq_if_modifyHead, firstLine]
      split
      · simp_all
      · simp_all [firstLine]

/-- The line at a place is what stands in front of it and behind it, up to the breaks. -/
theorem getElem?_lines (before after : List Char) :
    (Text.lines (before ++ after))[before.count '\n']? =
      some (lastLine before ++ firstLine after) := by
  induction before using List.reverseRecOn generalizing after with
  | nil =>
      rw [List.count_nil, ← List.head?_eq_getElem?]
      exact head?_lines after
  | append_singleton before c ih =>
      rw [List.append_assoc, List.singleton_append, List.count_append, lastLine]
      by_cases hc : c = '\n'
      · have hlines : Text.lines (before ++ c :: after) = Text.lines before ++ Text.lines after := by
          rw [hc, Text.lines, List.splitOn_append_cons_self]
          rfl
        rw [hlines, hc, List.rtakeWhile_concat_neg _ _ _ (by simp), List.nil_append,
          List.count_singleton_self, ← length_lines, List.getElem?_append_right (Nat.le_refl _),
          Nat.sub_self, ← List.head?_eq_getElem?, head?_lines]
      · have hline : firstLine (c :: after) = c :: firstLine after := by
          rw [firstLine, List.takeWhile_cons_of_pos (by simpa using hc), firstLine]
        rw [List.rtakeWhile_concat_pos _ _ _ (by simpa using hc), List.count_singleton,
          if_neg (by simpa using hc), Nat.add_zero, ih, hline, lastLine, List.append_assoc,
          List.singleton_append]

/-! ### Lines of bytes -/

/-- An encoding of characters in which only the line feed has the byte of the line feed. -/
structure KeepsLines (f : Char → List UInt8) : Prop where
  atBreak : f '\n' = [lineFeed]
  elsewhere : ∀ c ≠ '\n', lineFeed ∉ f c

theorem KeepsLines.reverse (hkeeps : KeepsLines f) : KeepsLines (List.reverse ∘ f) where
  atBreak := by rw [Function.comp_apply, hkeeps.atBreak, List.reverse_singleton]
  elsewhere c hc := by
    rw [Function.comp_apply, List.mem_reverse]
    exact hkeeps.elsewhere c hc

theorem keepsLines_utf8EncodeChar : KeepsLines String.utf8EncodeChar where
  atBreak := rfl
  elsewhere c hc hmem := by
    have hbyte (number : Nat) (hbounds : number ≠ 10 ∧ number < 256) :
        lineFeed ≠ UInt8.ofNat number := by
      intro hfeed
      have hsame := congrArg UInt8.toNat hfeed
      rw [Text.toNat_byte hbounds.2] at hsame
      have hten : lineFeed.toNat = 10 := rfl
      omega
    have hten : c.val.toNat ≠ 10 := fun hval => hc (Char.ext (UInt32.toNat_inj.mp hval))
    rw [String.utf8EncodeChar] at hmem
    generalize c.val.toNat = value at hten hmem
    split_ifs at hmem <;> simp only [List.mem_cons, List.not_mem_nil, or_false] at hmem
    · exact hbyte _ (by omega) hmem
    · rcases hmem with hmem | hmem <;> exact hbyte _ (by omega) hmem
    · rcases hmem with hmem | hmem | hmem <;> exact hbyte _ (by omega) hmem
    · rcases hmem with hmem | hmem | hmem | hmem <;> exact hbyte _ (by omega) hmem

theorem KeepsLines.count_flatMap (hkeeps : KeepsLines f) (text : List Char) :
    (text.flatMap f).count lineFeed = text.count '\n' := by
  induction text with
  | nil => rfl
  | cons c text ih =>
      rw [List.flatMap_cons, List.count_append, ih, List.count_cons, Nat.add_comm]
      by_cases hc : c = '\n'
      · rw [hc, hkeeps.atBreak, List.count_singleton_self, if_pos (beq_self_eq_true _)]
      · rw [List.count_eq_zero.mpr (hkeeps.elsewhere c hc), if_neg (by simpa using hc)]

theorem KeepsLines.takeWhile_flatMap (hkeeps : KeepsLines f) (text : List Char) :
    (text.flatMap f).takeWhile (· ≠ lineFeed) = (firstLine text).flatMap f := by
  induction text with
  | nil => rfl
  | cons c text ih =>
      rw [List.flatMap_cons, firstLine]
      by_cases hc : c = '\n'
      · simp [hc, hkeeps.atBreak]
      · have hfree : ∀ byte ∈ f c, decide (byte ≠ lineFeed) = true := fun byte hmem =>
          decide_eq_true fun hfeed => hkeeps.elsewhere c hc (hfeed ▸ hmem)
        rw [List.takeWhile_append_of_pos hfree, ih, List.takeWhile_cons_of_pos (by simpa using hc),
          List.flatMap_cons, firstLine]

theorem KeepsLines.rtakeWhile_flatMap (hkeeps : KeepsLines f) (text : List Char) :
    (text.flatMap f).rtakeWhile (· ≠ lineFeed) = (lastLine text).flatMap f := by
  have hreverse := hkeeps.reverse.takeWhile_flatMap text.reverse
  rw [← List.reverse_flatMap] at hreverse
  rw [List.rtakeWhile, hreverse, List.reverse_flatMap, firstLine, lastLine, List.rtakeWhile]
  congr 1
  funext c
  exact List.reverse_reverse _

/-! ### Places -/

/-- How many bytes a text takes up. -/
def byteSize (text : List Char) : Nat :=
  (String.ofList text).utf8ByteSize

theorem byteSize_append (before after : List Char) :
    byteSize (before ++ after) = byteSize before + byteSize after := by
  rw [byteSize, String.ofList_append, String.utf8ByteSize_append, byteSize, byteSize]

theorem length_flatMap_utf8EncodeChar (text : List Char) :
    (text.flatMap String.utf8EncodeChar).length = byteSize text := by
  rw [← Text.utf8_ofList, Text.utf8, Array.length_toList, byteSize, String.utf8ByteSize]
  rfl

/-- The place of the character behind a prefix of a text. -/
def Place.behind (before after : List Char) : Place where
  line := before.count '\n' + 1
  column := (lastLine before).length + 1
  text := lastLine before ++ firstLine after

/-- The offset of a prefix means the place of the character behind it. -/
theorem Place.ofOffset_append (before after : List Char) :
    Place.ofOffset (String.ofList (before ++ after)) (byteSize before) = .behind before after := by
  have hbytes : Text.utf8 (String.ofList (before ++ after)) =
      before.flatMap String.utf8EncodeChar ++ after.flatMap String.utf8EncodeChar := by
    rw [Text.utf8_ofList, List.flatMap_append]
  have hsize : ((byteSize before : Nat) : Int).toNat =
      (before.flatMap String.utf8EncodeChar).length :=
    (length_flatMap_utf8EncodeChar before).symm
  have hkeeps := keepsLines_utf8EncodeChar
  have hstart := hkeeps.rtakeWhile_flatMap before
  rw [List.rtakeWhile] at hstart
  have hline : Text.lossyUtf8 ((lastLine before).flatMap String.utf8EncodeChar ++
      (firstLine after).flatMap String.utf8EncodeChar) = lastLine before ++ firstLine after := by
    rw [← List.flatMap_append, Text.lossyUtf8_flatMap]
  rw [Place.ofOffset, hbytes, hsize]
  simp only [List.take_left, List.drop_left, hkeeps.count_flatMap, hkeeps.takeWhile_flatMap, hstart,
    hline, Text.lossyUtf8_flatMap]
  rfl

theorem Place.ofOffset_take (code : String) (count : Nat) :
    Place.ofOffset code (byteSize (code.toList.take count)) =
      .behind (code.toList.take count) (code.toList.drop count) := by
  have happend := Place.ofOffset_append (code.toList.take count) (code.toList.drop count)
  rwa [List.take_append_drop, String.ofList_toList] at happend

/-! ### Underlines -/

/-- The span from behind the first `i` characters of a text up to behind its first `j` characters. -/
def Span.between (text : List Char) (i j : Nat) : Span :=
  ⟨byteSize (text.take i), byteSize (text.take j)⟩

/-- The characters of such a span. -/
def covered (text : List Char) (i j : Nat) : List Char :=
  (text.drop i).take (j - i)

theorem byteSize_cons (c : Char) (text : List Char) :
    byteSize (c :: text) = c.utf8Size + byteSize text := by
  rw [byteSize, String.ofList_cons, String.utf8ByteSize_append, String.utf8ByteSize_singleton,
    byteSize]

theorem length_le_byteSize (text : List Char) : text.length ≤ byteSize text := by
  induction text with
  | nil => exact Nat.zero_le _
  | cons c text ih =>
      have hone := c.utf8Size_pos
      rw [byteSize_cons, List.length_cons]
      omega

theorem byteSize_eq_length_iff (text : List Char) :
    byteSize text = text.length ↔ ∀ c ∈ text, c.utf8Size = 1 := by
  induction text with
  | nil => simp [byteSize]
  | cons c text ih =>
      have hone := c.utf8Size_pos
      have hle := length_le_byteSize text
      rw [byteSize_cons, List.length_cons, List.forall_mem_cons, ← ih]
      omega

namespace Diagnostic

/-- A width that counts bytes up to the end of the line is the number of characters on the first
line exactly if the line ends with them or none of them has several bytes. -/
theorem width_eq_iff (covered behind : List Char) :
    max 1 (min (byteSize covered) (firstLine (covered ++ behind)).length) =
        max 1 (firstLine covered).length ↔
      firstLine (covered ++ behind) = firstLine covered ∨
        ∀ c ∈ firstLine covered, c.utf8Size = 1 := by
  have hbytes := length_le_byteSize covered
  have hprefix : firstLine covered <+: covered := List.takeWhile_prefix _
  have hlength := hprefix.length_le
  have happend : firstLine (covered ++ behind) =
      if (firstLine covered).length = covered.length then covered ++ firstLine behind
      else firstLine covered := List.takeWhile_append
  by_cases hall : (firstLine covered).length = covered.length
  · have hsame := hprefix.eq_of_length hall
    have hempty : covered.length = 0 → byteSize covered = 0 := fun hzero => by
      rw [List.length_eq_zero_iff.mp hzero]
      rfl
    have hends : covered ++ firstLine behind = covered ↔ (firstLine behind).length = 0 := by
      rw [List.append_right_eq_self, List.length_eq_zero_iff]
    rw [happend, if_pos hall, hsame, hends, ← byteSize_eq_length_iff, List.length_append]
    constructor <;> omega
  · rw [if_neg hall] at happend
    rw [happend]
    refine iff_of_true ?_ (Or.inl rfl)
    rw [Nat.min_eq_right (by omega)]

/-- An underline is as wide as what it covers has bytes, but at least one mark wide and no longer
than the rest of its line. -/
theorem underlineWidth_between (text : List Char) (i j : Nat) :
    underlineWidth (.between text i j) (.behind (text.take i) (text.drop i)) =
      max 1 (min (byteSize (covered text i j)) (firstLine (text.drop i)).length) := by
  have hroom : (((lastLine (text.take i) ++ firstLine (text.drop i)).length : Nat) : Int) -
      ((lastLine (text.take i)).length + 1 : Nat) + 1 = (firstLine (text.drop i)).length := by
    rw [List.length_append]
    omega
  rw [underlineWidth, Place.behind, hroom, Span.between]
  simp only
  rcases Nat.le_total i j with hle | hle
  · have hbytes : byteSize (text.take j) = byteSize (text.take i) + byteSize (covered text i j) := by
      rw [← byteSize_append, covered, ← List.take_add, Nat.add_sub_cancel' hle]
    rw [hbytes]
    omega
  · have hnone : covered text i j = [] := by
      rw [covered, Nat.sub_eq_zero_of_le hle, List.take_zero]
    have hbytes : byteSize (text.take j) ≤ byteSize (text.take i) := by
      rw [← Nat.add_sub_cancel' hle, List.take_add, byteSize_append]
      exact Nat.le_add_right _ _
    have hzero : byteSize [] = 0 := rfl
    rw [hnone, hzero]
    omega

/-- The label of a diagnostic as it prints behind the underline. -/
def labelText (diagnostic : Diagnostic) (colored : Bool) : String :=
  match diagnostic.label.filter (· ≠ "") with
  | some label => " " ++ diagnostic.level.style.paintIf colored label
  | none => ""

/-- The excerpt shows the first line of a span and underlines it from the column of the character
behind its start on. -/
theorem reportLines_underline (diagnostic : Diagnostic) (filename code : String) (colored : Bool)
    (i j : Nat) (hcode : code ≠ "") (hspan : diagnostic.span = some (.between code.toList i j)) :
    ∃ width,
      (diagnostic.reportLines filename code colored)[3]? =
        some (Text.decimalString ((code.toList.take i).count '\n' + 1) ++ " | " ++
          String.ofList (lastLine (code.toList.take i) ++ firstLine (code.toList.drop i))) ∧
      (diagnostic.reportLines filename code colored)[4]? =
        some (Text.repeated
            (Text.decimalString ((code.toList.take i).count '\n' + 1)).length ' ' ++ " | " ++
          Text.repeated (lastLine (code.toList.take i)).length ' ' ++
          diagnostic.level.style.paintIf colored (Text.repeated width '^') ++
          diagnostic.labelText colored) ∧
      (width = max 1 (firstLine (covered code.toList i j)).length ↔
        firstLine (code.toList.drop i) = firstLine (covered code.toList i j) ∨
          ∀ c ∈ firstLine (covered code.toList i j), c.utf8Size = 1) := by
  have hplace : Place.ofOffset code (Span.between code.toList i j).start =
      .behind (code.toList.take i) (code.toList.drop i) := Place.ofOffset_take code i
  have hwidth := underlineWidth_between code.toList i j
  have hsplit : code.toList.drop i =
      covered code.toList i j ++ (code.toList.drop i).drop (j - i) :=
    (List.take_append_drop _ _).symm
  refine ⟨max 1 (min (byteSize (covered code.toList i j)) (firstLine (code.toList.drop i)).length),
    ?_, ?_, ?_⟩
  · simp only [reportLines, if_neg hcode, hspan, hplace]
    rfl
  · simp only [reportLines, if_neg hcode, hspan, hplace, hwidth]
    rfl
  · rw [hsplit]
    exact width_eq_iff _ _

/-- An error at some characters of the text `é = 1`. -/
def errorAt (i j : Nat) : Diagnostic :=
  { level := .error
    message := "Syntax Error"
    span := some (.between "é = 1".toList i j)
    label := some "here" }

theorem reportLines_underline_three_characters :
    "é = 1" ≠ "" ∧ (firstLine (covered "é = 1".toList 2 5)).length = 3 ∧
      ((errorAt 2 5).reportLines "lib.rs" "é = 1" false)[4]? = some "  |   ^^^ here" := by
  obtain ⟨width, -, hline, hwidth⟩ :=
    reportLines_underline (errorAt 2 5) "lib.rs" "é = 1" false 2 5 (by decide) rfl
  have hthree : width = 3 := hwidth.mpr (by decide)
  rw [hline, hthree]
  decide +kernel

/-- One character of two bytes gets two marks. -/
theorem reportLines_underline_two_bytes :
    (firstLine (covered "é = 1".toList 0 1)).length = 1 ∧
      ((errorAt 0 1).reportLines "lib.rs" "é = 1" false)[4]? = some "  | ^^ here" := by
  decide +kernel

end Diagnostic

end CrateReadme
