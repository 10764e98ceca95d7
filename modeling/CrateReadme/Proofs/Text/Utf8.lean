import CrateReadme.Text.Utf8
import Mathlib.Data.List.DropRight
import Mathlib.Data.List.TakeWhile

/-!
# Decoding UTF-8

Decoding the bytes of a text gives the text, character by character: one lemma for each number of
bytes that a character can take up. No byte of a longer character is the line feed, so lines can be
told apart in the bytes as in the text. Undoing percent escapes leaves a text without percent signs
as it is: its ASCII runs are their own UTF-8.
-/

namespace CrateReadme.Text

variable {value : Nat} {lead second : UInt8}

theorem lossyUtf8_cons_of_lt {byte : UInt8} (hbyte : byte.toNat < 128) (bytes : List UInt8) :
    lossyUtf8 (byte :: bytes) = Char.ofNat byte.toNat :: lossyUtf8 bytes := by
  rw [lossyUtf8]
  simp only [if_pos hbyte, List.foldl_nil, List.length_nil, if_true, List.drop_zero]
  exact if_pos hbyte

/-! ### Characters of several bytes -/

/-- A byte that may stand behind the first one of a character. -/
structure Follows (lead second : UInt8) : Prop where
  bounds : 0x80 ≤ second.toNat ∧ second.toNat ≤ 0xbf
  of_e0 : lead.toNat = 0xe0 → 0xa0 ≤ second.toNat
  of_ed : lead.toNat = 0xed → second.toNat ≤ 0x9f
  of_f0 : lead.toNat = 0xf0 → 0x90 ≤ second.toNat
  of_f4 : lead.toNat = 0xf4 → second.toNat ≤ 0x8f

theorem Follows.allowed (hfollows : Follows lead second) :
    (if lead.toNat = 0xe0 then fun next : UInt8 =>
        decide (0xa0 ≤ next.toNat) && decide (next.toNat ≤ 0xbf)
      else if lead.toNat = 0xed then fun next =>
        decide (0x80 ≤ next.toNat) && decide (next.toNat ≤ 0x9f)
      else if lead.toNat = 0xf0 then fun next =>
        decide (0x90 ≤ next.toNat) && decide (next.toNat ≤ 0xbf)
      else if lead.toNat = 0xf4 then fun next =>
        decide (0x80 ≤ next.toNat) && decide (next.toNat ≤ 0x8f)
      else fun next => decide (0x80 ≤ next.toNat) && decide (next.toNat ≤ 0xbf)) second := by
  obtain ⟨hbounds, he0, hed, hf0, hf4⟩ := hfollows
  split_ifs <;> simp <;> omega

theorem toNat_byte {number : Nat} (hnumber : number < 256) :
    (UInt8.ofNat number).toNat = number :=
  Nat.mod_eq_of_lt hnumber

/-- A character of two bytes is read. -/
theorem lossyUtf8_of_two_bytes (hvalue : 0x7f < value ∧ value ≤ 0x7ff) (bytes : List UInt8) :
    lossyUtf8 (UInt8.ofNat (value / 64 % 32 + 192) :: UInt8.ofNat (value % 64 + 128) :: bytes) =
      Char.ofNat value :: lossyUtf8 bytes := by
  have hlead := toNat_byte (show value / 64 % 32 + 192 < 256 by omega)
  have hsecond := toNat_byte (show value % 64 + 128 < 256 by omega)
  generalize UInt8.ofNat (value / 64 % 32 + 192) = lead at hlead ⊢
  generalize UInt8.ofNat (value % 64 + 128) = second at hsecond ⊢
  have hfollows : Follows lead second := by constructor <;> omega
  have hascii : ¬ lead.toNat < 0x80 := by omega
  have htwo : 0xc2 ≤ lead.toNat ∧ lead.toNat ≤ 0xdf := by omega
  have hsum : (lead.toNat - 0xc0) * 64 + (second.toNat - 0x80) = value := by omega
  rw [lossyUtf8.eq_def]
  simp only [hascii, htwo, hfollows.allowed, if_false, and_self, if_true]
  simp [hsum]

/-- A character of three bytes is read. -/
theorem lossyUtf8_of_three_bytes (hvalue : 0x7ff < value ∧ value ≤ 0xffff)
    (hvalid : value.isValidChar) (bytes : List UInt8) :
    lossyUtf8 (UInt8.ofNat (value / 4096 % 16 + 224) :: UInt8.ofNat (value / 64 % 64 + 128) ::
        UInt8.ofNat (value % 64 + 128) :: bytes) =
      Char.ofNat value :: lossyUtf8 bytes := by
  rw [Nat.isValidChar] at hvalid
  have hlead := toNat_byte (show value / 4096 % 16 + 224 < 256 by omega)
  have hsecond := toNat_byte (show value / 64 % 64 + 128 < 256 by omega)
  have hthird := toNat_byte (show value % 64 + 128 < 256 by omega)
  generalize UInt8.ofNat (value / 4096 % 16 + 224) = lead at hlead ⊢
  generalize UInt8.ofNat (value / 64 % 64 + 128) = second at hsecond ⊢
  generalize UInt8.ofNat (value % 64 + 128) = third at hthird ⊢
  have hfollows : Follows lead second := by constructor <;> omega
  have hascii : ¬ lead.toNat < 0x80 := by omega
  have htwo : ¬ lead.toNat ≤ 0xdf := by omega
  have hthree : 0xe0 ≤ lead.toNat ∧ lead.toNat ≤ 0xef := by omega
  have htail : 0x80 ≤ third.toNat ∧ third.toNat ≤ 0xbf := by omega
  have hsum : ((lead.toNat - 0xe0) * 64 + (second.toNat - 0x80)) * 64 + (third.toNat - 0x80) =
      value := by omega
  rw [lossyUtf8.eq_def]
  simp only [hascii, htwo, hthree, hfollows.allowed, if_false, and_false, and_self, if_true]
  simp [htail, hsum]

/-- A character of four bytes is read. -/
theorem lossyUtf8_of_four_bytes (hvalue : 0xffff < value) (hvalid : value.isValidChar)
    (bytes : List UInt8) :
    lossyUtf8 (UInt8.ofNat (value / 262144 % 8 + 240) :: UInt8.ofNat (value / 4096 % 64 + 128) ::
        UInt8.ofNat (value / 64 % 64 + 128) :: UInt8.ofNat (value % 64 + 128) :: bytes) =
      Char.ofNat value :: lossyUtf8 bytes := by
  rw [Nat.isValidChar] at hvalid
  have hlead := toNat_byte (show value / 262144 % 8 + 240 < 256 by omega)
  have hsecond := toNat_byte (show value / 4096 % 64 + 128 < 256 by omega)
  have hthird := toNat_byte (show value / 64 % 64 + 128 < 256 by omega)
  have hfourth := toNat_byte (show value % 64 + 128 < 256 by omega)
  generalize UInt8.ofNat (value / 262144 % 8 + 240) = lead at hlead ⊢
  generalize UInt8.ofNat (value / 4096 % 64 + 128) = second at hsecond ⊢
  generalize UInt8.ofNat (value / 64 % 64 + 128) = third at hthird ⊢
  generalize UInt8.ofNat (value % 64 + 128) = fourth at hfourth ⊢
  have hfollows : Follows lead second := by constructor <;> omega
  have hascii : ¬ lead.toNat < 0x80 := by omega
  have htwo : ¬ lead.toNat ≤ 0xdf := by omega
  have hthree : ¬ lead.toNat ≤ 0xef := by omega
  have hfour : 0xf0 ≤ lead.toNat ∧ lead.toNat ≤ 0xf4 := by omega
  have htail : 0x80 ≤ third.toNat ∧ third.toNat ≤ 0xbf := by omega
  have hlast : 0x80 ≤ fourth.toNat ∧ fourth.toNat ≤ 0xbf := by omega
  have hsum : (((lead.toNat - 0xf0) * 64 + (second.toNat - 0x80)) * 64 + (third.toNat - 0x80)) *
      64 + (fourth.toNat - 0x80) = value := by omega
  rw [lossyUtf8.eq_def]
  simp only [hascii, htwo, hthree, hfour, hfollows.allowed, if_false, and_false, and_self, if_true]
  simp [htail, hlast, hsum]

/-- A character is read from its bytes, whatever follows them. -/
theorem lossyUtf8_utf8EncodeChar_append (c : Char) (bytes : List UInt8) :
    lossyUtf8 (String.utf8EncodeChar c ++ bytes) = c :: lossyUtf8 bytes := by
  have hchar : Char.ofNat c.val.toNat = c := Char.ofNat_toNat c
  have hvalid : c.val.toNat.isValidChar := c.valid
  rw [String.utf8EncodeChar]
  generalize c.val.toNat = value at hchar hvalid ⊢
  split
  · have hbyte := toNat_byte (show value < 256 by omega)
    rw [List.singleton_append, lossyUtf8_cons_of_lt (by omega), hbyte, hchar]
  · split
    · exact (lossyUtf8_of_two_bytes (by omega) bytes).trans (by rw [hchar])
    · split
      · exact (lossyUtf8_of_three_bytes (by omega) hvalid bytes).trans (by rw [hchar])
      · exact (lossyUtf8_of_four_bytes (by omega) hvalid bytes).trans (by rw [hchar])

/-! ### Texts -/

theorem utf8_ofList (text : List Char) :
    utf8 (String.ofList text) = text.flatMap String.utf8EncodeChar := by
  rw [utf8, String.toByteArray_ofList, List.utf8Encode, List.data_toByteArray]

/-- Decoding the bytes of a text gives the text. -/
theorem lossyUtf8_flatMap (text : List Char) :
    lossyUtf8 (text.flatMap String.utf8EncodeChar) = text := by
  induction text with
  | nil => rw [List.flatMap_nil, lossyUtf8]
  | cons c text ih => rw [List.flatMap_cons, lossyUtf8_utf8EncodeChar_append, ih]

namespace Percent

variable {text : List Char}

theorem bytesOf_eq_map (htext : '%' ∉ text) :
    bytesOf text = text.map fun c => c.toNat.toUInt8 := by
  induction text with
  | nil => rfl
  | cons c text ih =>
      rw [List.mem_cons, not_or] at htext
      rw [bytesOf, ih htext.2, List.map_cons]
      rintro high low rest rfl
      exact absurd rfl htext.1

theorem lossyUtf8_bytesOf (hascii : ∀ c ∈ text, isAscii c) (htext : '%' ∉ text) :
    lossyUtf8 (bytesOf text) = text := by
  rw [bytesOf_eq_map htext]
  induction text with
  | nil => rw [List.map_nil, lossyUtf8]
  | cons c text ih =>
      have hc : c.toNat < 128 := of_decide_eq_true (hascii c List.mem_cons_self)
      have hbyte : c.toNat.toUInt8.toNat = c.toNat := Nat.mod_eq_of_lt (by omega)
      rw [List.map_cons, lossyUtf8_cons_of_lt (by omega), hbyte, Char.ofNat_toNat,
        ih (fun d hmem => hascii d (List.mem_cons_of_mem _ hmem)) fun hmem =>
          htext (List.mem_cons_of_mem _ hmem)]

/-- A text without percent signs has no escapes. -/
theorem decode_eq_self (htext : '%' ∉ text) : decode text = text := by
  fun_induction decode text with
  | case1 => rfl
  | case2 c rest hascii ih =>
      have hrun : '%' ∉ c :: rest.takeWhile isAscii := by
        intro hmem
        refine htext ?_
        rcases List.mem_cons.mp hmem with hc | hmem
        · exact List.mem_cons.mpr (Or.inl hc)
        · exact List.mem_cons_of_mem _ ((List.takeWhile_prefix _).subset hmem)
      have hall : ∀ d ∈ c :: rest.takeWhile isAscii, isAscii d := by
        intro d hmem
        rcases List.mem_cons.mp hmem with rfl | hmem
        · exact hascii
        · exact List.mem_takeWhile_imp hmem
      rw [lossyUtf8_bytesOf hall hrun, ih fun hmem =>
        htext (List.mem_cons_of_mem _ ((List.dropWhile_suffix _).subset hmem)), List.cons_append,
        List.takeWhile_append_dropWhile]
  | case3 c rest hascii ih =>
      rw [ih fun hmem => htext (List.mem_cons_of_mem _ hmem)]

end Percent

end CrateReadme.Text
