import CrateReadme.Proofs.Cbor.RoundTrip
import CrateReadme.Proofs.Snapshot.Recording
import CrateReadme.Proofs.Text.Base64
import CrateReadme.Proofs.Version.Precedence
import CrateReadme.Proofs.Version.Spelling
import CrateReadme.Snapshot.Token

/-!
# Snapshots read back from their tokens

A token holds the binary form of a snapshot. Its three layers are undone one after the other: the
characters, the bytes and the values. What comes back is the snapshot with its crates in order of
their names.
-/

namespace CrateReadme.Snapshot

/-! ## Order of the crates -/

theorem nameLe_iff {left right : LinkedCrate} :
    nameLe left right ↔ left.name.toList ≤ right.name.toList := by
  rw [nameLe, decide_eq_true_eq]
  exact Version.compareText_ne_gt_iff

theorem nameLe_trans (first second third : LinkedCrate) (hfirst : nameLe first second)
    (hsecond : nameLe second third) : nameLe first third := by
  rw [nameLe_iff] at hfirst hsecond ⊢
  exact le_trans hfirst hsecond

theorem nameLe_total (left right : LinkedCrate) : nameLe left right || nameLe right left := by
  rw [Bool.or_eq_true, nameLe_iff, nameLe_iff]
  exact le_total _ _

/-- The crates in order of their names. -/
def sorted (snapshot : Snapshot) : Snapshot :=
  { snapshot with crates := snapshot.crates.mergeSort nameLe }

theorem perm_sorted (snapshot : Snapshot) : snapshot.sorted.crates.Perm snapshot.crates :=
  List.mergeSort_perm _ _

theorem nodup_names_sorted {snapshot : Snapshot}
    (hnames : snapshot.names.Nodup) :
    snapshot.sorted.names.Nodup :=
  (snapshot.perm_sorted.map LinkedCrate.name).nodup_iff.mpr hnames

theorem pairwise_sorted {snapshot : Snapshot}
    (hnames : snapshot.names.Nodup) :
    snapshot.sorted.crates.Pairwise fun left right => left.name < right.name := by
  have hle := List.pairwise_mergeSort nameLe_trans nameLe_total snapshot.crates
  have hne := List.pairwise_map.mp (nodup_names_sorted hnames)
  refine (hle.and hne).imp ?_
  rintro left right ⟨hle, hne⟩
  rw [nameLe_iff] at hle
  have hlt : left.name.toList < right.name.toList :=
    lt_of_le_of_ne hle fun heq => hne (String.toList_inj.mp heq)
  exact hlt

/-- A token depends on the crates only, not on their order. -/
theorem token_eq_of_perm {left right : Snapshot} (hschema : left.schema = right.schema)
    (htemplate : left.template = right.template) (hdocs : left.docs = right.docs)
    (hcrates : left.crates.Perm right.crates) (hnames : right.names.Nodup) :
    left.token = right.token := by
  have hleft : left.names.Nodup := (hcrates.map LinkedCrate.name).nodup_iff.mpr hnames
  have hperm : left.sorted.crates.Perm right.sorted.crates :=
    left.perm_sorted.trans (hcrates.trans right.perm_sorted.symm)
  have hsorted : left.sorted.crates = right.sorted.crates :=
    hperm.eq_of_pairwise (fun first second _ _ hlt hgt => absurd hlt (lt_asymm hgt))
      (pairwise_sorted hleft) (pairwise_sorted hnames)
  have hmerged : left.crates.mergeSort nameLe = right.crates.mergeSort nameLe := hsorted
  rw [token, token, toCbor, toCbor, hschema, htemplate, hdocs, hmerged]

/-! ## Digests -/

theorem word?_ofBigEndian {bytes : List UInt8} (hlength : bytes.length = 8) :
    word? (.int (Cbor.ofBigEndian bytes)) = some (Cbor.ofBigEndian bytes) := by
  have hlt := Cbor.ofBigEndian_lt bytes
  rw [hlength] at hlt
  rw [word?, if_pos ⟨Int.natCast_nonneg _, by simpa using hlt⟩]
  rfl

/-- The words of a digest give its bytes back. -/
theorem exists_words (count : Nat) (bytes : List UInt8) (hlength : bytes.length = 8 * count) :
    ∃ words, (digestWords count bytes).mapM word? = some words ∧ words.length = count ∧
      words.flatMap (Cbor.bigEndian 8) = bytes := by
  induction count generalizing bytes with
  | zero =>
      rw [List.length_eq_zero_iff.mp hlength]
      exact ⟨[], rfl, rfl, rfl⟩
  | succ count ih =>
      obtain ⟨words, hwords, hcount, hbytes⟩ := ih (bytes.drop 8) (by simp; omega)
      have htake : (bytes.take 8).length = 8 := by simp; omega
      have hword := Cbor.bigEndian_ofBigEndian (bytes.take 8)
      rw [htake] at hword
      refine ⟨Cbor.ofBigEndian (bytes.take 8) :: words, ?_, by simp [hcount], ?_⟩
      · rw [digestWords, List.mapM_cons, word?_ofBigEndian htake, hwords]
        rfl
      · rw [List.flatMap_cons, hword, hbytes, List.take_append_drop]

theorem digestOf_digestWords {digest : List UInt8} (hlength : digest.length = 32) :
    digestOf (.array (digestWords 4 digest)) = .ok digest := by
  obtain ⟨words, hwords, hcount, hbytes⟩ := exists_words 4 digest hlength
  simp only [digestOf, hwords, hcount, hbytes, if_true]

theorem length_digest (text : String) : (digest text).length = 32 := by
  have hword (word : UInt32) : (Digest.wordBytes word).length = 4 := rfl
  simp [digest, Digest.blake3, List.length_flatMap, hword]

/-! ## Entries -/

theorem entryOf_entryValue (entry : LinkedCrate) : entryOf (entryValue entry) = .ok entry := by
  obtain ⟨name, version, libAlias⟩ := entry
  cases version with
  | none => cases libAlias <;> rfl
  | some version =>
      have hversion := version.ofText?_render
      cases libAlias <;> simp [entryOf, entryValue, hversion] <;> rfl

/-- Entries with new names are read back and put behind the others. -/
theorem foldlM_put_entryValue {entries : List LinkedCrate} (snapshot : Snapshot)
    (hnames : (snapshot.names ++ entries.map LinkedCrate.name).Nodup) :
    (entries.map entryValue).foldlM
        (fun snapshot member => do return Snapshot.put snapshot (← entryOf member)) snapshot =
      (.ok { snapshot with crates := snapshot.crates ++ entries } :
        Except TokenError Snapshot) := by
  induction entries generalizing snapshot with
  | nil =>
      rw [List.append_nil]
      rfl
  | cons entry entries ih =>
      have hfresh : entry.name ∉ snapshot.names := by
        intro hmem
        rw [List.nodup_append] at hnames
        exact hnames.2.2 entry.name hmem entry.name (by simp) rfl
      have hput : snapshot.put entry = { snapshot with crates := snapshot.crates ++ [entry] } := by
        rw [put, putEntry_of_not_mem hfresh]
      have hrest := ih (snapshot.put entry) (by simpa [hput, names] using hnames)
      rw [List.map_cons, List.foldlM_cons, entryOf_entryValue]
      change List.foldlM _ (snapshot.put entry) _ = _
      rw [hrest, hput]
      simp

/-! ## The whole snapshot -/

theorem arePlain_of_forall {values : List Cbor} (hvalues : ∀ value ∈ values, value.IsPlain) :
    Cbor.ArePlain values := by
  induction values with
  | nil => trivial
  | cons value values ih =>
      exact ⟨hvalues value (by simp), ih fun other hmem => hvalues other (by simp [hmem])⟩

theorem arePlain_digestWords (count : Nat) (bytes : List UInt8) :
    Cbor.ArePlain (digestWords count bytes) := by
  induction count generalizing bytes with
  | zero => trivial
  | succ count ih => exact ⟨trivial, ih _⟩

theorem isPlain_entryValue (entry : LinkedCrate) : (entryValue entry).IsPlain := by
  obtain ⟨name, version, libAlias⟩ := entry
  cases version <;> cases libAlias <;> simp [entryValue, Cbor.IsPlain, Cbor.ArePlain]

theorem isPlain_toCbor (snapshot : Snapshot) : snapshot.toCbor.IsPlain := by
  have hentries : Cbor.ArePlain ((snapshot.crates.mergeSort nameLe).map entryValue) := by
    apply arePlain_of_forall
    intro value hmem
    obtain ⟨entry, -, rfl⟩ := List.mem_map.mp hmem
    exact isPlain_entryValue entry
  simp [toCbor, Cbor.IsPlain, Cbor.ArePlain, Cbor.HasPlainEntries, arePlain_digestWords, hentries]

namespace Reader

/-- What is asked of a reader: plain values come back from their bytes, and the format of this
library is known. -/
structure IsFaithful (reader : Reader) : Prop where
  decode?_encode : ∀ value : Cbor, value.IsPlain → reader.decode? value.encode = some value
  isFormat_formatVersion : reader.isFormat (.int formatVersion)

theorem isFaithful_standard : standard.IsFaithful where
  decode?_encode _ hplain := Cbor.value?_encode hplain
  isFormat_formatVersion := rfl

variable {reader : Reader}

theorem ofToken_of_decode? {bytes : List UInt8} {value : Cbor}
    (hbytes : reader.decode? bytes = some value) :
    reader.ofToken (String.ofList (Text.Base64.encode bytes)) = reader.ofCbor value := by
  rw [ofToken, String.toList_ofList, Text.Base64.strip_encode, Text.Base64.decode?_encode]
  simp only [hbytes]

/-- A map with the four fields is read as its entries, one after the other. -/
theorem ofCbor_map {format : Cbor} {fields : List (Cbor × Cbor)} {schema : Int}
    {template docs : Cbor} {members : List Cbor} {templateDigest docsDigest : List UInt8}
    (hformat : reader.isFormat format)
    (hfieldSchema : Cbor.field? "m" fields = some (.int schema))
    (hfieldTemplate : Cbor.field? "t" fields = some template)
    (hfieldDocs : Cbor.field? "r" fields = some docs)
    (hfieldCrates : Cbor.field? "d" fields = some (.array members))
    (hschema : 0 ≤ schema ∧ schema < 256) (htemplate : digestOf template = .ok templateDigest)
    (hdocs : digestOf docs = .ok docsDigest) :
    reader.ofCbor (.array [format, .map fields]) =
      members.foldlM (fun snapshot member => do return Snapshot.put snapshot (← entryOf member))
        { schema, template := templateDigest, docs := docsDigest } := by
  have hok {α β : Type} (value : α) (next : α → Except TokenError β) :
      (Except.ok value >>= next) = next value := rfl
  simp only [ofCbor, hformat, pure_bind, hok, if_true, hfieldSchema, hfieldTemplate, hfieldDocs,
    hfieldCrates, hschema, and_self, htemplate, hdocs]

namespace IsFaithful

variable {snapshot : Snapshot}

theorem ofCbor_toCbor (hreader : reader.IsFaithful)
    (hschema : 0 ≤ snapshot.schema ∧ snapshot.schema < 256)
    (htemplate : snapshot.template.length = 32) (hdocs : snapshot.docs.length = 32)
    (hnames : snapshot.names.Nodup) :
    reader.ofCbor snapshot.toCbor = .ok snapshot.sorted := by
  have hsorted : (snapshot.sorted.crates.map LinkedCrate.name).Nodup := nodup_names_sorted hnames
  have hcrates := foldlM_put_entryValue { snapshot with crates := [] } hsorted
  refine Eq.trans ?_ hcrates
  exact ofCbor_map hreader.isFormat_formatVersion (by simp [Cbor.field?]) (by simp [Cbor.field?])
    (by simp [Cbor.field?]) (by simp [Cbor.field?, sorted]) hschema
    (digestOf_digestWords htemplate) (digestOf_digestWords hdocs)

theorem ofToken_encode (hreader : reader.IsFaithful) {value : Cbor} (hplain : value.IsPlain) :
    reader.ofToken (String.ofList (Text.Base64.encode value.encode)) = reader.ofCbor value :=
  ofToken_of_decode? (hreader.decode?_encode value hplain)

/-- Every faithful reader gives a snapshot back from its token, the crates in order of their
names. -/
theorem ofToken_token (hreader : reader.IsFaithful)
    (hschema : 0 ≤ snapshot.schema ∧ snapshot.schema < 256)
    (htemplate : snapshot.template.length = 32) (hdocs : snapshot.docs.length = 32)
    (hnames : snapshot.names.Nodup) :
    reader.ofToken snapshot.token = .ok snapshot.sorted := by
  rw [token, hreader.ofToken_encode snapshot.isPlain_toCbor]
  exact hreader.ofCbor_toCbor hschema htemplate hdocs hnames

end IsFaithful
end Reader

theorem ofToken_token {snapshot : Snapshot} (hschema : 0 ≤ snapshot.schema ∧ snapshot.schema < 256)
    (htemplate : snapshot.template.length = 32) (hdocs : snapshot.docs.length = 32)
    (hnames : snapshot.names.Nodup) :
    ofToken snapshot.token = .ok snapshot.sorted :=
  Reader.isFaithful_standard.ofToken_token hschema htemplate hdocs hnames

/-- A token says everything about a snapshot but the order of its crates, which comes back ascending
by name. Versions carry the proof that a text spells them, so nothing is asked of them here. -/
theorem token_lossless (snapshot : Snapshot)
    (hschema : 0 ≤ snapshot.schema ∧ snapshot.schema < 256)
    (htemplate : snapshot.template.length = 32) (hdocs : snapshot.docs.length = 32)
    (hnames : snapshot.names.Nodup) :
    ∃ decoded, ofToken snapshot.token = .ok decoded ∧
      decoded.schema = snapshot.schema ∧
      decoded.template = snapshot.template ∧
      decoded.docs = snapshot.docs ∧
      decoded.crates.Perm snapshot.crates ∧
      decoded.crates.Pairwise fun left right => left.name < right.name :=
  ⟨snapshot.sorted, ofToken_token hschema htemplate hdocs hnames, rfl, rfl, rfl,
    snapshot.perm_sorted, pairwise_sorted hnames⟩

theorem token_lossless_three_crates :
    let snapshot : Snapshot :=
      { schema := 255, template := List.replicate 32 0xff, docs := List.replicate 32 0,
        crates := [
          { name := "zürich", libAlias := some "zurich" },
          { name := "serde", version := Version.ofText? "1.0.0-rc.1+build.7" },
          { name := "anyhow" }] }
    ∃ decoded, ofToken snapshot.token = .ok decoded ∧
      decoded.schema = 255 ∧
      decoded.template = List.replicate 32 0xff ∧
      decoded.docs = List.replicate 32 0 ∧
      decoded.crates.Perm snapshot.crates ∧
      decoded.crates.Pairwise fun left right => left.name < right.name :=
  token_lossless _ ⟨by decide, by decide⟩ rfl rfl (by decide)

end CrateReadme.Snapshot
