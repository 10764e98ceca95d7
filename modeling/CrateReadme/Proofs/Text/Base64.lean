import CrateReadme.Proofs.Text.Search
import CrateReadme.Text.Base64
import CrateReadme.Text.Basic

/-!
# Bytes written as characters

The bytes are cut into groups of six bits, and each group is written as one character. Both steps
can be undone, so reading a text that was written gives its bytes back although the padding is
missing. None of the characters is white space, so a written text stays whole inside a line.
-/

namespace CrateReadme.Text.Base64

/-- The groups of six bits, filled up with zeros at the end. -/
def sextets : List UInt8 → List Nat
  | [] => []
  | [a] => [a.toNat / 4, a.toNat % 4 * 16]
  | [a, b] => [a.toNat / 4, a.toNat % 4 * 16 + b.toNat / 16, b.toNat % 16 * 4]
  | a :: b :: c :: rest =>
    a.toNat / 4 :: (a.toNat % 4 * 16 + b.toNat / 16) :: (b.toNat % 16 * 4 + c.toNat / 64) ::
      c.toNat % 64 :: sextets rest

theorem encode_eq_map (bytes : List UInt8) : encode bytes = (sextets bytes).map charOf := by
  induction bytes using sextets.induct with
  | case1 => rfl
  | case2 a => rfl
  | case3 a b => rfl
  | case4 a b c rest ih => simp [encode, sextets, ih]

/-- Sextets are below 64. -/
theorem lt_of_mem_sextets {bytes : List UInt8} {value : Nat} (hmem : value ∈ sextets bytes) :
    value < 64 := by
  induction bytes using sextets.induct with
  | case1 => simp [sextets] at hmem
  | case2 a =>
      have ha := a.toNat_lt
      simp [sextets] at hmem
      omega
  | case3 a b =>
      have ha := a.toNat_lt
      have hb := b.toNat_lt
      simp [sextets] at hmem
      omega
  | case4 a b c rest ih =>
      have ha := a.toNat_lt
      have hb := b.toNat_lt
      have hc := c.toNat_lt
      simp only [sextets, List.mem_cons] at hmem
      rcases hmem with rfl | rfl | rfl | rfl | hrest
      · omega
      · omega
      · omega
      · omega
      · exact ih hrest

theorem toUInt8_eq_of_mod_eq {value : Nat} {byte : UInt8} (hmod : value % 256 = byte.toNat) :
    value.toUInt8 = byte := by
  apply UInt8.toNat_inj.mp
  simpa [Nat.toUInt8] using hmod

/-- Bytes are read back from their sextets. -/
theorem bytesOf?_sextets (bytes : List UInt8) : bytesOf? (sextets bytes) = some bytes := by
  induction bytes using sextets.induct with
  | case1 => rfl
  | case2 a =>
      have ha := a.toNat_lt
      have hfirst : (a.toNat / 4 * 4 + a.toNat % 4 * 16 / 16).toUInt8 = a :=
        toUInt8_eq_of_mod_eq (by omega)
      rw [sextets, bytesOf?, hfirst]
  | case3 a b =>
      have ha := a.toNat_lt
      have hb := b.toNat_lt
      have hfirst : (a.toNat / 4 * 4 + (a.toNat % 4 * 16 + b.toNat / 16) / 16).toUInt8 = a :=
        toUInt8_eq_of_mod_eq (by omega)
      have hsecond : ((a.toNat % 4 * 16 + b.toNat / 16) % 16 * 16 +
          b.toNat % 16 * 4 / 4).toUInt8 = b :=
        toUInt8_eq_of_mod_eq (by omega)
      rw [sextets, bytesOf?, hfirst, hsecond]
  | case4 a b c rest ih =>
      have ha := a.toNat_lt
      have hb := b.toNat_lt
      have hc := c.toNat_lt
      have hfirst : (a.toNat / 4 * 4 + (a.toNat % 4 * 16 + b.toNat / 16) / 16).toUInt8 = a :=
        toUInt8_eq_of_mod_eq (by omega)
      have hsecond : ((a.toNat % 4 * 16 + b.toNat / 16) % 16 * 16 +
          (b.toNat % 16 * 4 + c.toNat / 64) / 4).toUInt8 = b :=
        toUInt8_eq_of_mod_eq (by omega)
      have hthird : ((b.toNat % 16 * 4 + c.toNat / 64) % 4 * 64 + c.toNat % 64).toUInt8 = c :=
        toUInt8_eq_of_mod_eq (by omega)
      rw [sextets, bytesOf?, hfirst, hsecond, hthird, ih]
      rfl

/-! ## Characters -/

theorem valueOf?_charOf {value : Nat} (hvalue : value < 64) :
    valueOf? (charOf value) = some value := by
  revert value
  decide

theorem charOf_ne_pad {value : Nat} (hvalue : value < 64) : charOf value ≠ '=' := by
  revert value
  decide

theorem isBlank_charOf {value : Nat} (hvalue : value < 64) : isBlank (charOf value) = false := by
  revert value
  decide

theorem exists_charOf_of_mem_encode {bytes : List UInt8} {c : Char} (hmem : c ∈ encode bytes) :
    ∃ value < 64, c = charOf value := by
  rw [encode_eq_map] at hmem
  obtain ⟨value, hvalue, rfl⟩ := List.mem_map.mp hmem
  exact ⟨value, lt_of_mem_sextets hvalue, rfl⟩

theorem ne_pad_of_mem_encode {bytes : List UInt8} {c : Char} (hmem : c ∈ encode bytes) :
    c ≠ '=' := by
  obtain ⟨value, hvalue, rfl⟩ := exists_charOf_of_mem_encode hmem
  exact charOf_ne_pad hvalue

theorem isBlank_of_mem_encode {bytes : List UInt8} {c : Char} (hmem : c ∈ encode bytes) :
    isBlank c = false := by
  obtain ⟨value, hvalue, rfl⟩ := exists_charOf_of_mem_encode hmem
  exact isBlank_charOf hvalue

/-- There is nothing around a written text to be stripped. -/
theorem strip_encode (bytes : List UInt8) : strip (encode bytes) = encode bytes :=
  strip_eq_self fun _ => isBlank_of_mem_encode

theorem mapM_valueOf?_map_charOf {values : List Nat} (hvalues : ∀ value ∈ values, value < 64) :
    (values.map charOf).mapM valueOf? = some values := by
  induction values with
  | nil => rfl
  | cons value values ih =>
      have hrest := ih fun other hmem => hvalues other (by simp [hmem])
      rw [List.map_cons, List.mapM_cons, valueOf?_charOf (hvalues value (by simp)), hrest]
      rfl

theorem mapM_valueOf?_encode (bytes : List UInt8) :
    (encode bytes).mapM valueOf? = some (sextets bytes) := by
  rw [encode_eq_map]
  exact mapM_valueOf?_map_charOf fun _ => lt_of_mem_sextets

/-! ## Padding -/

theorem length_encode_mod (bytes : List UInt8) : (encode bytes).length % 4 ≠ 1 := by
  induction bytes using sextets.induct with
  | case1 => simp [encode]
  | case2 a => simp [encode]
  | case3 a b => simp [encode]
  | case4 a b c rest ih =>
      simp [encode]
      omega

/-- Reading gives back the bytes that were written. -/
theorem decode?_encode (bytes : List UInt8) : decode? (encode bytes) = some bytes := by
  let count := (4 - (encode bytes).length % 4) % 4
  have hmod := length_encode_mod bytes
  have hpad : ∀ c ∈ (List.replicate count '=').head?, decide (c ≠ '=') = false := fun c hmem => by
    simp [List.eq_of_mem_replicate (List.mem_of_mem_head? hmem)]
  obtain ⟨hdata, hpadding⟩ := takeWhile_append_of_head?
    (fun c hmem => decide_eq_true (ne_pad_of_mem_encode hmem : c ≠ '=')) hpad
  have hempty : ¬((encode bytes).isEmpty ∧ !(List.replicate count '=').isEmpty) := by
    rintro ⟨hnone, hsome⟩
    simp [count, List.isEmpty_iff.mp hnone] at hsome
  have hcount : ¬((encode bytes).length % 4 ≠ 0 ∧
      (encode bytes).length % 4 + (List.replicate count '=').length ≠ 4) := by
    rw [List.length_replicate]
    omega
  simp only [decode?, decodePadded?]
  rw [hdata, hpadding, if_pos (by simp), if_neg hempty, if_neg hcount, mapM_valueOf?_encode]
  exact bytesOf?_sextets bytes

end CrateReadme.Text.Base64
