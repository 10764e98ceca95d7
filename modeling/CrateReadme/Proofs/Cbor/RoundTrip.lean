import CrateReadme.Cbor.Codec
import CrateReadme.Proofs.Text.Utf8
import Mathlib

/-!
# Reading inverts writing

Every value that is built of integers, strings, truth values, arrays and maps is read back from its
bytes, whatever follows them. The numbers of heads come first: a head is taken apart into its type
and its number in each of the five lengths. Counts that fit into no head are covered too. References
come last: such values refer to nothing, and a mark around one makes no difference.
-/

namespace CrateReadme.Cbor

/-! ## Numbers -/

theorem toNat_toUInt8 (value : Nat) : value.toUInt8.toNat = value % 256 := by
  simp [Nat.toUInt8]

@[simp]
theorem length_bigEndian (count value : Nat) : (bigEndian count value).length = count := by
  induction count generalizing value with
  | zero => rfl
  | succ count ih => simp [bigEndian, ih]

theorem ofBigEndian_append_singleton (bytes : List UInt8) (byte : UInt8) :
    ofBigEndian (bytes ++ [byte]) = ofBigEndian bytes * 256 + byte.toNat := by
  simp [ofBigEndian]

theorem ofBigEndian_bigEndian (count value : Nat) :
    ofBigEndian (bigEndian count value) = value % 256 ^ count := by
  induction count generalizing value with
  | zero => simp [bigEndian, ofBigEndian, Nat.mod_one]
  | succ count ih =>
      rw [bigEndian, ofBigEndian_append_singleton, ih, toNat_toUInt8, Nat.pow_succ,
        Nat.mul_comm (256 ^ count), Nat.mod_mul, Nat.mul_comm 256, Nat.add_comm]

theorem ofBigEndian_bigEndian_of_lt {count value : Nat} (hlt : value < 256 ^ count) :
    ofBigEndian (bigEndian count value) = value := by
  rw [ofBigEndian_bigEndian, Nat.mod_eq_of_lt hlt]

theorem ofBigEndian_lt (bytes : List UInt8) : ofBigEndian bytes < 256 ^ bytes.length := by
  induction bytes using List.reverseRecOn with
  | nil => simp [ofBigEndian]
  | append_singleton bytes byte ih =>
      have hbyte := byte.toNat_lt
      rw [ofBigEndian_append_singleton, List.length_append, List.length_singleton,
        Nat.pow_succ]
      omega

/-- A number is written from its bytes as it was. -/
theorem bigEndian_ofBigEndian (bytes : List UInt8) :
    bigEndian bytes.length (ofBigEndian bytes) = bytes := by
  induction bytes using List.reverseRecOn with
  | nil => rfl
  | append_singleton bytes byte ih =>
      have hbyte := byte.toNat_lt
      have hhigh : (ofBigEndian bytes * 256 + byte.toNat) / 256 = ofBigEndian bytes := by
        omega
      have hlow : (ofBigEndian bytes * 256 + byte.toNat).toUInt8 = byte := by
        apply UInt8.toNat_inj.mp
        rw [toNat_toUInt8]
        omega
      rw [ofBigEndian_append_singleton, List.length_append, List.length_singleton,
        bigEndian, hhigh, hlow, ih]

theorem ofBigEndian_magnitudeBytes (value : Nat) :
    ofBigEndian (magnitudeBytes value) = value := by
  induction value using Nat.strongRecOn with
  | ind value ih =>
      by_cases hzero : value = 0
      · simp [magnitudeBytes, ofBigEndian, hzero]
      · have hlt : value / 256 < value := by omega
        rw [magnitudeBytes, if_neg hzero, ofBigEndian_append_singleton, ih (value / 256) hlt,
          toNat_toUInt8]
        omega

/-! ## Heads -/

/-- The number in a head of each of the four wider forms is read back. -/
theorem readNumber?_bigEndian {info count number : Nat}
    (hwidth : (info, count) ∈ [(24, 1), (25, 2), (26, 4), (27, 8)])
    (hnumber : number < 256 ^ count) (rest : List UInt8) :
    readNumber? info (bigEndian count number ++ rest) = some (some number, rest) := by
  have htake : (bigEndian count number ++ rest).take count = bigEndian count number := by
    simp
  have hdrop : (bigEndian count number ++ rest).drop count = rest := by
    simp
  have hlength : ¬(bigEndian count number ++ rest).length < count := by
    simp
  simp only [List.mem_cons, Prod.mk.injEq, List.not_mem_nil, or_false] at hwidth
  rcases hwidth with ⟨rfl, rfl⟩ | ⟨rfl, rfl⟩ | ⟨rfl, rfl⟩ | ⟨rfl, rfl⟩ <;>
    · simp only [readNumber?, htake, hdrop, if_neg hlength, ofBigEndian_bigEndian_of_lt hnumber]
      rfl

/-- The bytes `start` give a type and the number, if any, that comes with it; no value of open
length ends before them. -/
def Announces (start : List UInt8) (type : Nat) (length : Option Nat) : Prop :=
  ∃ byte tail, start = byte :: tail ∧ byte.toNat / 32 = type ∧ byte ≠ endMark ∧
    ∀ rest, readNumber? (byte.toNat % 32) (tail ++ rest) = some (length, rest)

theorem announces_cons {type info : Nat} {tail : List UInt8} {length : Option Nat}
    (htype : type < 7) (hinfo : info < 32)
    (hread : ∀ rest, readNumber? info (tail ++ rest) = some (length, rest)) :
    Announces ((type * 32 + info).toUInt8 :: tail) type length := by
  have hnat : (type * 32 + info).toUInt8.toNat = type * 32 + info := by
    rw [toNat_toUInt8]
    omega
  refine ⟨_, tail, rfl, by omega, fun hend => ?_, fun rest => ?_⟩
  · have hmark : endMark.toNat = 255 := rfl
    rw [hend, hmark] at hnat
    omega
  · rw [hnat, show (type * 32 + info) % 32 = info by omega]
    exact hread rest

/-- Heads of types below seven are read in each of the five lengths. -/
theorem announces_head {type number : Nat} (htype : type < 7) (hnumber : number < 2 ^ 64) :
    Announces (head type number) type (some number) := by
  unfold head
  split
  · rename_i hsmall
    exact announces_cons htype (by omega) fun rest => by simp [readNumber?, hsmall]
  split
  · rename_i hsmall
    exact announces_cons htype (by omega) (readNumber?_bigEndian (by simp) hsmall)
  split
  · rename_i hsmall
    exact announces_cons htype (by omega) (readNumber?_bigEndian (by simp) hsmall)
  split
  · rename_i hsmall
    exact announces_cons htype (by omega) (readNumber?_bigEndian (by simp) hsmall)
  · exact announces_cons htype (by omega) (readNumber?_bigEndian (by simp) hnumber)

theorem announces_openHead {type : Nat} (htype : type < 7) :
    Announces (openHead type) type none :=
  announces_cons htype (by omega) fun rest => by simp [readNumber?]

/-- Reads a value whose type and number have been read. -/
def readContent? (type : Nat) (length : Option Nat) (rest : List UInt8) :
    Option (Cbor × List UInt8) :=
  match type, length with
  | 0, some number => some (int number, rest)
  | 1, some number => some (int (-1 - number), rest)
  | 2, length => (readByteString? length rest).map fun found => (bytes found.1, found.2)
  | 3, length => (readText? length rest).map fun found => (text found.1, found.2)
  | 4, length => (decodeMany? length rest).map fun found => (array found.1, found.2)
  | 5, length => (decodeEntries? length rest).map fun found => (map found.1, found.2)
  | 6, some number =>
    match decode? rest with
    | some (content, following) =>
      (applyTag? number content).map fun value => (value, following)
    | none => none
  | _, _ => none

theorem Announces.decode?_append {start : List UInt8} {type : Nat} {length : Option Nat}
    (hstart : Announces start type length) (htype : type < 7) (rest : List UInt8) :
    decode? (start ++ rest) = readContent? type length rest := by
  obtain ⟨byte, tail, rfl, hbyte, -, hread⟩ := hstart
  have hseven : type ≠ 7 := by omega
  have hlength : rest.length < (tail ++ rest).length + 1 := by
    rw [List.length_append]
    omega
  rw [List.cons_append, decode?]
  simp only [hbyte, hread, hseven, if_false, hlength, if_true]
  rfl

/-! ## Strings -/

theorem readBytes?_append (bytes rest : List UInt8) :
    readBytes? bytes.length (bytes ++ rest) = some (bytes, rest) := by
  simp [readBytes?]

/-- A string of open length is read piece by piece, up to its end mark. -/
theorem readPieces?_append {type : Nat} (htype : type < 7) {pieces : List (List UInt8)}
    (hpieces : ∀ piece ∈ pieces, piece.length < 2 ^ 64) (rest : List UInt8) :
    readPieces? type
      (pieces.flatMap (fun piece => head type piece.length ++ piece) ++ endMark :: rest) =
        some (pieces, rest) := by
  induction pieces with
  | nil => simp [readPieces?, endMark]
  | cons piece pieces ih =>
      obtain ⟨byte, tail, hhead, hbyte, hend, hread⟩ :=
        announces_head htype (hpieces piece (by simp))
      have hrest := ih fun other hmem => hpieces other (by simp [hmem])
      rw [List.flatMap_cons, hhead]
      simp only [List.cons_append, List.append_assoc]
      rw [readPieces?]
      simp only [hbyte, hread, readBytes?_append, if_true, hrest, show byte ≠ 0xff from hend]
      simp
      omega

theorem flatten_singletons (value : List UInt8) :
    (value.map fun byte => [byte]).flatten = value := by
  induction value with
  | nil => rfl
  | cons byte value ih => simp [ih]

/-- Byte strings come back, also those that are written in pieces. -/
theorem decode?_byteString (value rest : List UInt8) :
    decode? (byteString value ++ rest) = some (bytes value, rest) := by
  have hpieces : ∀ piece ∈ value.map fun byte => [byte], piece.length < 2 ^ 64 := by
    simp
  simp only [byteString, string]
  split
  · rename_i hshort
    have hstart := announces_head (show 2 < 7 by omega) hshort
    rw [List.append_assoc, hstart.decode?_append (by omega)]
    simp only [readContent?, readByteString?, readBytes?_append, flatten_singletons,
      Option.map_some]
  · have hstart := announces_openHead (show 2 < 7 by omega)
    rw [List.append_assoc, List.append_assoc, hstart.decode?_append (by omega)]
    simp only [readContent?, readByteString?, List.singleton_append,
      readPieces?_append (show 2 < 7 by omega) hpieces, flatten_singletons, Option.map_some]

theorem utf8_eq_flatten (value : String) :
    (value.toList.map String.utf8EncodeChar).flatten = Text.utf8 value := by
  rw [← List.flatMap_def, ← Text.utf8_ofList, String.ofList_toList]

theorem ofUtf8?_utf8EncodeChar (c : Char) :
    Text.ofUtf8? (String.utf8EncodeChar c) = some (String.singleton c) := by
  rw [← Text.ofUtf8?_utf8 (String.singleton c), ← utf8_eq_flatten]
  simp

theorem mapM_ofUtf8?_pieces (chars : List Char) :
    chars.mapM (Text.ofUtf8? ∘ String.utf8EncodeChar) = some (chars.map String.singleton) := by
  induction chars with
  | nil => rfl
  | cons c chars ih =>
      rw [List.mapM_cons, Function.comp_apply, ofUtf8?_utf8EncodeChar, ih]
      rfl

theorem join_singletons (chars : List Char) :
    String.join (chars.map String.singleton) = String.ofList chars := by
  induction chars with
  | nil => rfl
  | cons c chars ih =>
      rw [List.map_cons, String.join_cons, ih, String.ext_iff]
      simp

/-- Texts come back, also those that are written in pieces. -/
theorem decode?_textString (value : String) (rest : List UInt8) :
    decode? (textString value ++ rest) = some (text value, rest) := by
  have hpieces : ∀ piece ∈ value.toList.map String.utf8EncodeChar, piece.length < 2 ^ 64 := by
    intro piece hmem
    obtain ⟨c, -, rfl⟩ := List.mem_map.mp hmem
    have hsize := c.utf8Size_le_four
    rw [String.length_utf8EncodeChar]
    omega
  simp only [textString, string]
  split
  · rename_i hshort
    have hstart := announces_head (show 3 < 7 by omega) hshort
    rw [List.append_assoc, hstart.decode?_append (by omega)]
    simp [readContent?, readText?, readBytes?_append, utf8_eq_flatten]
  · have hstart := announces_openHead (show 3 < 7 by omega)
    rw [List.append_assoc, List.append_assoc, hstart.decode?_append (by omega)]
    simp [readContent?, readText?, readPieces?_append (show 3 < 7 by omega) hpieces,
      mapM_ofUtf8?_pieces, join_singletons]

/-! ## Values -/

mutual

/-- Values that are built of integers, strings, truth values and missing values. -/
def IsPlain : Cbor → Prop
  | int _ | bytes _ | text _ | bool _ | null | undefined => True
  | array members => ArePlain members
  | map entries => HasPlainEntries entries
  | simple _ | float _ | tagged _ _ => False

def ArePlain : List Cbor → Prop
  | [] => True
  | value :: values => value.IsPlain ∧ ArePlain values

def HasPlainEntries : List (Cbor × Cbor) → Prop
  | [] => True
  | (key, value) :: entries => key.IsPlain ∧ value.IsPlain ∧ HasPlainEntries entries

end

/-- The bytes do not start with the mark that ends a value of open length. -/
def Begins (bytes : List UInt8) : Prop :=
  ∃ byte tail, bytes = byte :: tail ∧ byte ≠ endMark

theorem Begins.append {input : List UInt8} (hbegins : Begins input) (rest : List UInt8) :
    Begins (input ++ rest) := by
  obtain ⟨byte, tail, rfl, hend⟩ := hbegins
  exact ⟨byte, tail ++ rest, rfl, hend⟩

theorem Begins.length_lt {input : List UInt8} (hbegins : Begins input) (rest : List UInt8) :
    rest.length < (input ++ rest).length := by
  obtain ⟨byte, tail, rfl, -⟩ := hbegins
  rw [List.length_append, List.length_cons]
  omega

theorem Announces.begins {start : List UInt8} {type : Nat} {length : Option Nat}
    (hstart : Announces start type length) : Begins start := by
  obtain ⟨byte, tail, hcons, -, hend, -⟩ := hstart
  exact ⟨byte, tail, hcons, hend⟩

/-- How a collection says where it ends: by the number of its members or by a mark. -/
inductive Closes (size : Nat) : Option Nat → List UInt8 → Prop
  | counted : Closes size (some size) []
  | marked : Closes size none [endMark]

theorem exists_collection {type : Nat} (htype : type < 7) (count : Nat) (body : List UInt8) :
    ∃ start length ending, collection type count body = start ++ body ++ ending ∧
      Announces start type length ∧ Closes count length ending := by
  simp only [collection]
  split
  · rename_i hshort
    exact ⟨_, _, [], by simp, announces_head htype hshort, .counted⟩
  · exact ⟨_, _, _, rfl, announces_openHead htype, .marked⟩

theorem begins_collection {type : Nat} (htype : type < 7) (count : Nat) (body : List UInt8) :
    Begins (collection type count body) := by
  obtain ⟨start, length, ending, hbytes, hstart, -⟩ := exists_collection htype count body
  rw [hbytes, List.append_assoc]
  exact hstart.begins.append _

theorem begins_string {type : Nat} (htype : type < 7) (pieces : List (List UInt8)) :
    Begins (string type pieces) := by
  simp only [string]
  split
  · rename_i hshort
    exact (announces_head htype hshort).begins.append _
  · rw [List.append_assoc]
    exact (announces_openHead htype).begins.append _

theorem begins_integer {type : Nat} (htype : type < 2) (magnitude : Nat) :
    Begins (integer type magnitude) := by
  simp only [integer]
  split
  · rename_i hshort
    exact (announces_head (by omega) hshort).begins
  · exact (announces_head (show 6 < 7 by omega) (by omega)).begins.append _

/-- No plain value starts with the end mark. -/
theorem begins_encode {value : Cbor} (hplain : value.IsPlain) : Begins (encode value) := by
  cases value with
  | int value =>
      rw [encode]
      cases value with
      | ofNat magnitude => exact begins_integer (show 0 < 2 by omega) magnitude
      | negSucc magnitude => exact begins_integer (show 1 < 2 by omega) magnitude
  | bytes value =>
      rw [encode]
      exact begins_string (show 2 < 7 by omega) _
  | text value =>
      rw [encode]
      exact begins_string (show 3 < 7 by omega) _
  | array members =>
      rw [encode]
      exact begins_collection (show 4 < 7 by omega) _ _
  | map entries =>
      rw [encode]
      exact begins_collection (show 5 < 7 by omega) _ _
  | bool value =>
      rw [encode]
      cases value <;> exact ⟨_, _, rfl, by decide⟩
  | null =>
      rw [encode]
      exact ⟨_, _, rfl, by decide⟩
  | undefined =>
      rw [encode]
      exact ⟨_, _, rfl, by decide⟩
  | simple number => exact hplain.elim
  | float value => exact hplain.elim
  | tagged number content => exact hplain.elim

/-- Integers come back, those beyond 64 bits from a tagged byte string. -/
theorem decode?_encodeInt (value : Int) (rest : List UInt8) :
    decode? (encodeInt value ++ rest) = some (int value, rest) := by
  have hhuge (tag magnitude : Nat) (htag : tag < 2 ^ 64) :
      decode? (head 6 tag ++ byteString (magnitudeBytes magnitude) ++ rest) =
        (applyTag? tag (bytes (magnitudeBytes magnitude))).map fun value => (value, rest) := by
    have hstart := announces_head (show 6 < 7 by omega) htag
    rw [List.append_assoc, hstart.decode?_append (by omega), readContent?]
    simp only [decode?_byteString]
  cases value with
  | ofNat magnitude =>
      simp only [encodeInt, integer]
      split
      · rename_i hshort
        exact (announces_head (by omega) hshort).decode?_append (by omega) rest
      · rw [hhuge _ _ (by omega)]
        simp [applyTag?, isOpen, ofBigEndian_magnitudeBytes]
  | negSucc magnitude =>
      have hvalue : (-1 - magnitude : Int) = Int.negSucc magnitude := by omega
      simp only [encodeInt, integer]
      split
      · rename_i hshort
        rw [(announces_head (by omega) hshort).decode?_append (by omega), readContent?, hvalue]
      · rw [hhuge _ _ (by omega)]
        simp [applyTag?, isOpen, ofBigEndian_magnitudeBytes, hvalue]

/-- A collection that is not at its end gives its first member and then the others. -/
theorem decodeMany?_step {count : Option Nat} (hcount : count ≠ some 0) {input after : List UInt8}
    {value : Cbor} (hbegins : Begins input) (hdecode : decode? input = some (value, after))
    (hshorter : after.length < input.length) :
    decodeMany? count input =
      (decodeMany? (count.map (· - 1)) after).map fun found => (value :: found.1, found.2) := by
  obtain ⟨byte, tail, rfl, hend⟩ := hbegins
  rw [decodeMany?.eq_def]
  split
  · exact absurd rfl hcount
  · rename_i heq
    cases heq
  · rename_i heq
    cases heq
    rw [List.length_cons] at hshorter
    simp only [show byte ≠ 0xff from hend, and_false, if_false, hdecode, if_pos hshorter]

/-- A map that is not at its end gives its first key and value and then the other entries. -/
theorem decodeEntries?_step {count : Option Nat} (hcount : count ≠ some 0)
    {input middle after : List UInt8} {key value : Cbor} (hbegins : Begins input)
    (hkey : decode? input = some (key, middle)) (hvalue : decode? middle = some (value, after))
    (hmiddle : middle.length < input.length) (hshorter : after.length < input.length) :
    decodeEntries? count input =
      (decodeEntries? (count.map (· - 1)) after).map
        fun found => ((key, value) :: found.1, found.2) := by
  obtain ⟨byte, tail, rfl, hend⟩ := hbegins
  rw [decodeEntries?.eq_def]
  split
  · exact absurd rfl hcount
  · rename_i heq
    cases heq
  · rename_i heq
    cases heq
    rw [List.length_cons] at hmiddle hshorter
    simp only [show byte ≠ 0xff from hend, and_false, if_false, hkey, hvalue, if_pos hmiddle,
      if_pos hshorter]

theorem Closes.decodeMany? {count : Option Nat} {ending : List UInt8}
    (hcloses : Closes 0 count ending) (rest : List UInt8) :
    decodeMany? count (ending ++ rest) = some ([], rest) := by
  cases hcloses with
  | counted => simp [Cbor.decodeMany?]
  | marked => simp [Cbor.decodeMany?, endMark]

theorem Closes.decodeEntries? {count : Option Nat} {ending : List UInt8}
    (hcloses : Closes 0 count ending) (rest : List UInt8) :
    decodeEntries? count (ending ++ rest) = some ([], rest) := by
  cases hcloses with
  | counted => simp [Cbor.decodeEntries?]
  | marked => simp [Cbor.decodeEntries?, endMark]

theorem Closes.ne_zero {size : Nat} {count : Option Nat} {ending : List UInt8}
    (hcloses : Closes (size + 1) count ending) : count ≠ some 0 := by
  cases hcloses <;> simp

theorem Closes.pred {size : Nat} {count : Option Nat} {ending : List UInt8}
    (hcloses : Closes (size + 1) count ending) : Closes size (count.map (· - 1)) ending := by
  cases hcloses with
  | counted => exact .counted
  | marked => exact .marked

mutual

/-- Reading gives a plain value back from its bytes, together with what follows them. -/
theorem decode?_encode : (value : Cbor) → value.IsPlain → (rest : List UInt8) →
    decode? (encode value ++ rest) = some (value, rest)
  | .int value, _, rest => by
      rw [encode]
      exact decode?_encodeInt value rest
  | .bytes value, _, rest => by
      rw [encode]
      exact decode?_byteString value rest
  | .text value, _, rest => by
      rw [encode]
      exact decode?_textString value rest
  | .array members, hplain, rest => by
      obtain ⟨start, length, ending, hbytes, hstart, hcloses⟩ :=
        exists_collection (show 4 < 7 by omega) members.length (encodeAll members)
      rw [encode, hbytes, List.append_assoc, List.append_assoc, hstart.decode?_append (by omega),
        readContent?, decodeMany?_encodeAll members (by rwa [IsPlain] at hplain) hcloses rest]
      rfl
  | .map entries, hplain, rest => by
      obtain ⟨start, length, ending, hbytes, hstart, hcloses⟩ :=
        exists_collection (show 5 < 7 by omega) entries.length (encodeEntries entries)
      rw [encode, hbytes, List.append_assoc, List.append_assoc, hstart.decode?_append (by omega),
        readContent?,
        decodeEntries?_encodeEntries entries (by rwa [IsPlain] at hplain) hcloses rest]
      rfl
  | .bool value, _, rest => by
      cases value <;> simp [encode, head, decode?, readSimple?, readNumber?]
  | .null, _, rest => by
      simp [encode, head, decode?, readSimple?, readNumber?]
  | .undefined, _, rest => by
      simp [encode, head, decode?, readSimple?, readNumber?]
  | .simple _, hplain, _ => by
      rw [IsPlain] at hplain
      exact hplain.elim
  | .float _, hplain, _ => by
      rw [IsPlain] at hplain
      exact hplain.elim
  | .tagged _ _, hplain, _ => by
      rw [IsPlain] at hplain
      exact hplain.elim

theorem decodeMany?_encodeAll : (members : List Cbor) → ArePlain members →
    ∀ {count ending}, Closes members.length count ending → ∀ rest,
      decodeMany? count (encodeAll members ++ (ending ++ rest)) = some (members, rest)
  | [], _, _, _, hcloses, rest => by
      rw [encodeAll]
      exact hcloses.decodeMany? rest
  | member :: members, hplain, _, ending, hcloses, rest => by
      rw [ArePlain] at hplain
      have hbegins := begins_encode hplain.1
      rw [encodeAll, List.append_assoc, decodeMany?_step hcloses.ne_zero (hbegins.append _)
        (decode?_encode member hplain.1 _) (hbegins.length_lt _),
        decodeMany?_encodeAll members hplain.2 hcloses.pred rest]
      rfl

theorem decodeEntries?_encodeEntries : (entries : List (Cbor × Cbor)) → HasPlainEntries entries →
    ∀ {count ending}, Closes entries.length count ending → ∀ rest,
      decodeEntries? count (encodeEntries entries ++ (ending ++ rest)) = some (entries, rest)
  | [], _, _, _, hcloses, rest => by
      rw [encodeEntries]
      exact hcloses.decodeEntries? rest
  | (key, value) :: entries, hplain, _, ending, hcloses, rest => by
      rw [HasPlainEntries] at hplain
      obtain ⟨hkey, hvalue, hentries⟩ := hplain
      have hbegins := begins_encode hkey
      have hmiddle :=
        hbegins.length_lt (encode value ++ (encodeEntries entries ++ (ending ++ rest)))
      have hafter := (begins_encode hvalue).length_lt (encodeEntries entries ++ (ending ++ rest))
      rw [encodeEntries, List.append_assoc, List.append_assoc,
        decodeEntries?_step hcloses.ne_zero (hbegins.append _) (decode?_encode key hkey _)
          (decode?_encode value hvalue _) hmiddle (Nat.lt_trans hafter hmiddle),
        decodeEntries?_encodeEntries entries hentries hcloses.pred rest]
      rfl

end

/-! ## References -/

mutual

/-- A plain value refers to nothing. -/
theorem exists_settle?_eq_some : (value : Cbor) → value.IsPlain → (register : Register) →
    ∃ after, settle? register value = some (value, after)
  | .int _, _, register | .bool _, _, register | .null, _, register | .undefined, _, register =>
      ⟨register, by simp [settle?]⟩
  | .bytes value, _, register => ⟨register.note (bytes value) value.length, by rw [settle?]⟩
  | .text value, _, register =>
      ⟨register.note (text value) (Text.utf8 value).length, by rw [settle?]⟩
  | .array members, hplain, register => by
      rw [IsPlain] at hplain
      obtain ⟨after, hmembers⟩ := exists_settleAll?_eq_some members hplain register
      exact ⟨after, by rw [settle?, hmembers, Option.map_some]⟩
  | .map entries, hplain, register => by
      rw [IsPlain] at hplain
      obtain ⟨after, hentries⟩ := exists_settleEntries?_eq_some entries hplain register
      exact ⟨after, by rw [settle?, hentries, Option.map_some]⟩
  | .simple _, hplain, _ | .float _, hplain, _ | .tagged _ _, hplain, _ => by
      rw [IsPlain] at hplain
      exact hplain.elim

theorem exists_settleAll?_eq_some : (values : List Cbor) → ArePlain values →
    (register : Register) → ∃ after, settleAll? register values = some (values, after)
  | [], _, register => ⟨register, by rw [settleAll?]⟩
  | value :: values, hplain, register => by
      rw [ArePlain] at hplain
      obtain ⟨middle, hvalue⟩ := exists_settle?_eq_some value hplain.1 register
      obtain ⟨after, hvalues⟩ := exists_settleAll?_eq_some values hplain.2 middle
      refine ⟨after, ?_⟩
      simp only [settleAll?, hvalue, hvalues, Option.map_some]

theorem exists_settleEntries?_eq_some : (entries : List (Cbor × Cbor)) →
    HasPlainEntries entries → (register : Register) →
      ∃ after, settleEntries? register entries = some (entries, after)
  | [], _, register => ⟨register, by rw [settleEntries?]⟩
  | (key, value) :: entries, hplain, register => by
      rw [HasPlainEntries] at hplain
      obtain ⟨hplainKey, hplainValue, hplain⟩ := hplain
      obtain ⟨first, hkey⟩ := exists_settle?_eq_some key hplainKey register
      obtain ⟨second, hvalue⟩ := exists_settle?_eq_some value hplainValue first
      obtain ⟨after, hentries⟩ := exists_settleEntries?_eq_some entries hplain second
      refine ⟨after, ?_⟩
      simp only [settleEntries?, hkey, hvalue, hentries, Option.map_some]

end

theorem value?_encode {value : Cbor} (hplain : value.IsPlain) :
    value? value.encode = some value := by
  have hbytes := decode?_encode value hplain []
  rw [List.append_nil] at hbytes
  obtain ⟨after, hsettled⟩ := exists_settle?_eq_some value hplain {}
  simp [value?, hbytes, hsettled]

/-! ## Tags in front of a value -/

theorem applyTag?_of_not_mem {number : Nat} (hnumber : number ∉ [0, 1, 2, 3, 4, 5, 30])
    (content : Cbor) : applyTag? number content = some (tagged number content) := by
  simp only [List.mem_cons, List.not_mem_nil, or_false, not_or] at hnumber
  rw [applyTag?]
  · exact ite_self _
  all_goals omega

/-- A tag that asks nothing of its content stays with what is read behind it. -/
theorem decode?_tag_append {number : Nat} (hlt : number < 2 ^ 64)
    (hnumber : number ∉ [0, 1, 2, 3, 4, 5, 30]) (bytes : List UInt8) :
    decode? (head 6 number ++ bytes) =
      (decode? bytes).map fun found => (tagged number found.1, found.2) := by
  rw [(announces_head (show 6 < 7 by omega) hlt).decode?_append (by omega), readContent?]
  cases decode? bytes with
  | none => rfl
  | some found => simp only [applyTag?_of_not_mem hnumber, Option.map_some]

theorem value?_tag_append {number : Nat} (hlt : number < 2 ^ 64)
    (hnumber : number ∉ [0, 1, 2, 3, 4, 5, 30]) {value result : Cbor} (hplain : value.IsPlain)
    (hsettle : ∃ after, settle? {} (tagged number value) = some (result, after)) :
    value? (head 6 number ++ value.encode) = some result := by
  have hbytes := decode?_encode value hplain []
  rw [List.append_nil] at hbytes
  obtain ⟨after, hsettled⟩ := hsettle
  simp [value?, decode?_tag_append hlt hnumber, hbytes, hsettled]

/-- A mark on a whole value, to which nothing refers, makes no difference. -/
theorem value?_mark_append {number : Nat} (hmark : number ∈ [sharedMark, stringNamespace])
    {value : Cbor} (hplain : value.IsPlain) :
    value? (head 6 number ++ value.encode) = some value := by
  rcases List.mem_pair.mp hmark with rfl | rfl
  · refine value?_tag_append (by decide) (by decide) hplain ?_
    obtain ⟨after, hvalue⟩ := exists_settle?_eq_some value hplain { values := [none] }
    exact ⟨_, by rw [settle?, if_pos rfl, List.nil_append, hvalue, Option.map_some]⟩
  · refine value?_tag_append (by decide) (by decide) hplain ?_
    obtain ⟨after, hvalue⟩ := exists_settle?_eq_some value hplain { strings := some [] }
    exact ⟨_, by rw [settle?, if_neg (by decide), if_pos rfl, hvalue, Option.map_some]⟩

end CrateReadme.Cbor
