import CrateReadme.Proofs.Snapshot.RoundTrip

/-!
# Tokens of any origin

Reading takes more than writing makes: truth values as words of a digest, crates in any order and
with repeated names, missing library names that are spelled out, numbers of any length. What comes
out is a snapshot like any other. It can be written, and writing and reading it again changes
nothing but the order of its crates. None of this depends on what a reader makes of tags: it is
shown for every reader that gives plain values back (`Reader.IsFaithful`), and a reader that takes
off the mark of self-described values is one of them.
-/

namespace CrateReadme.Snapshot

variable {reader : Reader} {snapshot : Snapshot}

/-! ## Steps that succeed -/

theorem bind_eq_ok_iff {α β ε : Type} {action : Except ε α} {next : α → Except ε β} {result : β} :
    action >>= next = .ok result ↔ ∃ value, action = .ok value ∧ next value = .ok result := by
  cases action with
  | error cause => simp [bind, Except.bind]
  | ok value => simp [bind, Except.bind]

theorem throw_bind_ne_ok {α β ε : Type} {cause : ε} {next : α → Except ε β} {result : β} :
    throw cause >>= next ≠ .ok result := by
  intro hok
  cases hok

theorem field?_of_eq_ok {name : String} {fields : List (Cbor × Cbor)} {found : Cbor}
    (hfield : (match Cbor.field? name fields with
      | some value => Except.ok value
      | none => Except.error (TokenError.missingField name)) = .ok found) :
    Cbor.field? name fields = some found := by
  split at hfield
  · rename_i heq
    cases hfield
    exact heq
  · cases hfield

/-! ## Well-formed snapshots -/

/-- The form of every snapshot that a token gives: a schema of one byte, two digests of 32 bytes,
and no name twice. -/
structure IsWellFormed (snapshot : Snapshot) : Prop where
  schema : 0 ≤ snapshot.schema ∧ snapshot.schema < 256
  template : snapshot.template.length = 32
  docs : snapshot.docs.length = 32
  names : snapshot.names.Nodup

theorem length_of_digestOf {value : Cbor} {digest : List UInt8}
    (hdigest : digestOf value = .ok digest) : digest.length = 32 := by
  unfold digestOf at hdigest
  split at hdigest
  case h_2 => cases hdigest
  split at hdigest
  case h_2 => cases hdigest
  split at hdigest
  case isFalse => cases hdigest
  rename_i words _ hcount
  cases hdigest
  have hwords (word : Nat) : (Cbor.bigEndian 8 word).length = 8 := Cbor.length_bigEndian 8 word
  simp [List.length_flatMap, hwords, hcount]

theorem IsWellFormed.put (hformed : snapshot.IsWellFormed) (entry : LinkedCrate) :
    (snapshot.put entry).IsWellFormed where
  schema := hformed.schema
  template := hformed.template
  docs := hformed.docs
  names := nodup_names_put hformed.names entry

theorem IsWellFormed.foldl_put (hformed : snapshot.IsWellFormed) (entries : List LinkedCrate) :
    (entries.foldl Snapshot.put snapshot).IsWellFormed := by
  induction entries generalizing snapshot with
  | nil => exact hformed
  | cons entry entries ih => exact ih (hformed.put entry)

theorem IsWellFormed.ofToken_token (hformed : snapshot.IsWellFormed)
    (hreader : reader.IsFaithful) : reader.ofToken snapshot.token = .ok snapshot.sorted :=
  hreader.ofToken_token hformed.schema hformed.template hformed.docs hformed.names

theorem foldl_put_frame (snapshot : Snapshot) (entries : List LinkedCrate) :
    (entries.foldl Snapshot.put snapshot).schema = snapshot.schema ∧
      (entries.foldl Snapshot.put snapshot).template = snapshot.template ∧
      (entries.foldl Snapshot.put snapshot).docs = snapshot.docs := by
  induction entries generalizing snapshot with
  | nil => exact ⟨rfl, rfl, rfl⟩
  | cons entry entries ih => exact ih (snapshot.put entry)

/-! ## The last entry of a name -/

/-- A fold that succeeds has read every member as an entry and put the entries in their order. -/
theorem foldlM_put_eq_ok {members : List Cbor} {result : Snapshot}
    (hfold : members.foldlM
      (fun snapshot member => do return Snapshot.put snapshot (← entryOf member)) snapshot =
        (.ok result : Except TokenError Snapshot)) :
    ∃ entries, List.Forall₂ (fun member entry => entryOf member = .ok entry) members entries ∧
      result = entries.foldl put snapshot := by
  induction members generalizing snapshot with
  | nil =>
      cases hfold
      exact ⟨[], .nil, rfl⟩
  | cons member members ih =>
      rw [List.foldlM_cons] at hfold
      obtain ⟨_, hstep, hrest⟩ := bind_eq_ok_iff.mp hfold
      obtain ⟨entry, hentry, hput⟩ := bind_eq_ok_iff.mp hstep
      cases hput
      obtain ⟨entries, hentries, rfl⟩ := ih hrest
      exact ⟨entry :: entries, .cons hentry hentries, rfl⟩

theorem find?_foldl_put (snapshot : Snapshot) (entries : List LinkedCrate) (name : String) :
    (entries.foldl put snapshot).find? name =
      (entries.reverse.find? (·.name = name)).or (snapshot.find? name) := by
  induction entries generalizing snapshot with
  | nil => rfl
  | cons entry entries ih =>
      rw [List.foldl_cons, ih, find?_put, List.reverse_cons, List.find?_append, Option.or_assoc]
      by_cases hname : entry.name = name
      · simp [hname]
      · simp [hname]

/-! ## What a token carries -/

/-- To a reader, a binary value carries what a snapshot is made of: the schema, two digests and the
entries, in their order and with repeated names. -/
inductive Reader.Carries (reader : Reader) :
    Cbor → Int → List UInt8 → List UInt8 → List LinkedCrate → Prop
  | intro {format : Cbor} {fields : List (Cbor × Cbor)} {schema : Int}
      {templateValue docsValue : Cbor} {template docs : List UInt8} {members : List Cbor}
      {entries : List LinkedCrate}
      (format_known : reader.isFormat format)
      (schema_field : Cbor.field? "m" fields = some (.int schema))
      (schema_range : 0 ≤ schema ∧ schema < 256)
      (template_field : Cbor.field? "t" fields = some templateValue)
      (template_digest : digestOf templateValue = .ok template)
      (docs_field : Cbor.field? "r" fields = some docsValue)
      (docs_digest : digestOf docsValue = .ok docs)
      (crates_field : Cbor.field? "d" fields = some (.array members))
      (crates_entries :
        List.Forall₂ (fun member entry => entryOf member = .ok entry) members entries) :
      reader.Carries (.array [format, .map fields]) schema template docs entries

def Reader.TokenCarries (reader : Reader) (token : String) (schema : Int)
    (template docs : List UInt8) (entries : List LinkedCrate) : Prop :=
  ∃ bytes value, Text.Base64.decode? (Text.strip token.toList) = some bytes ∧
    reader.decode? bytes = some value ∧ reader.Carries value schema template docs entries

theorem Reader.Carries.isWellFormed {value : Cbor} {schema : Int} {template docs : List UInt8}
    {entries : List LinkedCrate} (hcarries : reader.Carries value schema template docs entries) :
    IsWellFormed { schema, template, docs } := by
  obtain ⟨-, -, hrange, -, htemplate, -, hdocs, -, -⟩ := hcarries
  exact ⟨hrange, length_of_digestOf htemplate, length_of_digestOf hdocs, List.nodup_nil⟩

/-- What is read without an error carries a snapshot, which holds its entries in their order. -/
theorem exists_carries_of_ofCbor {value : Cbor} (hread : reader.ofCbor value = .ok snapshot) :
    ∃ schema template docs entries, reader.Carries value schema template docs entries ∧
      snapshot = entries.foldl put { schema, template, docs } := by
  -- At every check the branch of the failure is closed, so that one path is left.
  unfold Reader.ofCbor at hread
  split at hread
  case h_2 => exact absurd hread throw_bind_ne_ok
  simp only [pure_bind] at hread
  split at hread
  case isFalse => exact absurd hread throw_bind_ne_ok
  rename_i format body hformat
  split at hread
  case h_2 => exact absurd hread throw_bind_ne_ok
  obtain ⟨schemaValue, hschema, hread⟩ := bind_eq_ok_iff.mp hread
  obtain ⟨templateValue, htemplate, hread⟩ := bind_eq_ok_iff.mp hread
  obtain ⟨docsValue, hdocs, hread⟩ := bind_eq_ok_iff.mp hread
  obtain ⟨crates, hcrates, hread⟩ := bind_eq_ok_iff.mp hread
  split at hread
  case h_2 => exact absurd hread throw_bind_ne_ok
  split at hread
  case isFalse => exact absurd hread throw_bind_ne_ok
  rename_i hrange
  split at hread
  case h_2 => exact absurd hread throw_bind_ne_ok
  obtain ⟨template, htemplateDigest, hread⟩ := bind_eq_ok_iff.mp hread
  obtain ⟨docs, hdocsDigest, hread⟩ := bind_eq_ok_iff.mp hread
  obtain ⟨entries, hentries, rfl⟩ := foldlM_put_eq_ok hread
  exact ⟨_, template, docs, entries,
    .intro hformat (field?_of_eq_ok hschema) hrange (field?_of_eq_ok htemplate) htemplateDigest
      (field?_of_eq_ok hdocs) hdocsDigest (field?_of_eq_ok hcrates) hentries, rfl⟩

theorem exists_tokenCarries_of_ofToken {token : String}
    (hread : reader.ofToken token = .ok snapshot) :
    ∃ schema template docs entries, reader.TokenCarries token schema template docs entries ∧
      snapshot = entries.foldl put { schema, template, docs } := by
  unfold Reader.ofToken at hread
  split at hread
  case h_1 => cases hread
  rename_i bytes hbytes
  split at hread
  case h_1 => cases hread
  rename_i value hvalue
  obtain ⟨schema, template, docs, entries, hcarries, hsnapshot⟩ := exists_carries_of_ofCbor hread
  exact ⟨schema, template, docs, entries, ⟨bytes, value, hbytes, hvalue, hcarries⟩, hsnapshot⟩

/-! ## Marks in front of a value -/

/-- A token whose value is marked, so that it or the strings in it can be referred to, is read like
one without the mark. -/
theorem ofToken_mark_append {number : ℕ} (hmark : number ∈ [Cbor.sharedMark, Cbor.stringNamespace])
    {value : Cbor} (hplain : value.IsPlain) :
    ofToken (String.ofList (Text.Base64.encode (Cbor.head 6 number ++ value.encode))) =
      ofToken (String.ofList (Text.Base64.encode value.encode)) := by
  rw [ofToken, ofToken, Reader.isFaithful_standard.ofToken_encode hplain]
  exact Reader.ofToken_of_decode? (Cbor.value?_mark_append hmark hplain)

/-- The bytes that say of what follows that it is in the binary format. -/
def selfDescription : List UInt8 :=
  Cbor.head 6 55799

/-- The reader that passes over the mark of self-described values. -/
def Reader.unmarking : Reader where
  decode? bytes :=
    standard.decode?
      (if selfDescription <+: bytes then bytes.drop selfDescription.length else bytes)
  isFormat := standard.isFormat

theorem not_selfDescription_prefix_encode {value : Cbor} (hplain : value.IsPlain) :
    ¬selfDescription <+: value.encode := by
  rintro ⟨rest, hbytes⟩
  have hvalue := Cbor.decode?_encode value hplain []
  -- What stands behind the mark is read as a tagged value, and no plain value is one.
  rw [List.append_nil, ← hbytes, selfDescription, Cbor.decode?_tag_append (by decide) (by decide),
    Option.map_eq_some_iff] at hvalue
  obtain ⟨found, -, hfound⟩ := hvalue
  have htagged : .tagged 55799 found.1 = value := congrArg Prod.fst hfound
  rw [← htagged, Cbor.IsPlain] at hplain
  exact hplain

theorem Reader.isFaithful_unmarking : unmarking.IsFaithful where
  decode?_encode value hplain := by
    simp only [unmarking, if_neg (not_selfDescription_prefix_encode hplain)]
    exact isFaithful_standard.decode?_encode value hplain
  isFormat_formatVersion := rfl

/-- The reader of this library keeps the mark, and a marked value is not the pair it looks for. -/
theorem ofToken_selfDescription_append {value : Cbor} (hplain : value.IsPlain) :
    ofToken (String.ofList (Text.Base64.encode (selfDescription ++ value.encode))) =
      .error .notAPair := by
  have hmarked : Reader.standard.decode? (selfDescription ++ value.encode) =
      some (.tagged 55799 value) := by
    refine Cbor.value?_tag_append (by decide) (by decide) hplain ?_
    obtain ⟨after, hvalue⟩ := Cbor.exists_settle?_eq_some value hplain {}
    have hkept : after.resolve? 55799 value = some (.tagged 55799 value) := by
      unfold Cbor.Register.resolve?
      rw [if_neg (by decide), if_neg (by decide), Cbor.applyTag?_of_not_mem (by decide)]
    refine ⟨after, ?_⟩
    rw [Cbor.settle?, if_neg (by decide), if_neg (by decide)]
    simp only [hvalue, hkept, Option.map_some]
  exact (Reader.ofToken_of_decode? hmarked).trans rfl

/-- A mark in front of a plain value makes no difference to the reader that passes over it. -/
theorem ofToken_unmarking_append {value : Cbor} (hplain : value.IsPlain) :
    Reader.unmarking.ofToken
        (String.ofList (Text.Base64.encode (selfDescription ++ value.encode))) =
      ofToken (String.ofList (Text.Base64.encode value.encode)) := by
  have hmarked : Reader.unmarking.decode? (selfDescription ++ value.encode) = some value := by
    simp only [Reader.unmarking, if_pos (List.prefix_append _ _), List.drop_left]
    exact Reader.isFaithful_standard.decode?_encode value hplain
  rw [ofToken, Reader.isFaithful_standard.ofToken_encode hplain]
  exact (Reader.ofToken_of_decode? hmarked).trans rfl

/-! ## Writing what was read -/

theorem token_sorted (hnames : snapshot.names.Nodup) : snapshot.sorted.token = snapshot.token :=
  token_eq_of_perm rfl rfl rfl snapshot.perm_sorted hnames

/-- Every token that can be read, whoever wrote it and whatever the reader makes of tags, gives a
well-formed snapshot in which the last of several entries of one name counts. Its own token can be
read, gives the same entries and is the token of what was read. -/
theorem ofToken_canonical {token : String} (hreader : reader.IsFaithful)
    (hread : reader.ofToken token = .ok snapshot) :
    snapshot.IsWellFormed ∧
      (∀ name entry, snapshot.find? name = some entry ↔
        entry ∈ snapshot.crates ∧ entry.name = name) ∧
      (∃ entries,
        reader.TokenCarries token snapshot.schema snapshot.template snapshot.docs entries ∧
        ∀ name, snapshot.find? name = entries.reverse.find? (·.name = name)) ∧
      ∃ again, reader.ofToken snapshot.token = .ok again ∧
        again.schema = snapshot.schema ∧ again.template = snapshot.template ∧
        again.docs = snapshot.docs ∧ again.crates.Perm snapshot.crates ∧
        again.token = snapshot.token := by
  obtain ⟨schema, template, docs, entries, hcarries, rfl⟩ := exists_tokenCarries_of_ofToken hread
  have hstart : IsWellFormed { schema, template, docs } := by
    obtain ⟨_, _, -, -, hvalue⟩ := hcarries
    exact hvalue.isWellFormed
  have hformed := hstart.foldl_put entries
  obtain ⟨hschema, htemplate, hdocs⟩ := foldl_put_frame { schema, template, docs } entries
  refine ⟨hformed, fun name entry => find?_eq_some_iff hformed.names, ⟨entries, ?_, ?_⟩,
    _, hformed.ofToken_token hreader, rfl, rfl, rfl, perm_sorted _, token_sorted hformed.names⟩
  · rwa [hschema, htemplate, hdocs]
  · intro name
    rw [find?_foldl_put]
    exact Option.or_none

/-- A token with its crates in no order and one of them twice, a library name that is spelled out as
missing, a repeated field, and truth values as words of the digests. -/
theorem ofToken_canonical_repeated_name :
    let words : Cbor := .array [.bool true, .bool false, .int 0, .int 18446744073709551615]
    let value : Cbor := .array [.int 1, .map [
      (.text "m", .int 3), (.text "r", words), (.text "t", words), (.text "m", .int 255),
      (.text "d", .array [
        .array [.text "serde", .text "2.0.0-rc.1+build", .text "serde_lib"],
        .array [.text "anyhow", .null, .null],
        .array [.text "serde", .text "1.0.0"]])]]
    let token := String.ofList (Text.Base64.encode (Cbor.encode value))
    let digest : List UInt8 :=
      List.replicate 7 0 ++ [1] ++ List.replicate 16 0 ++ List.replicate 8 0xff
    let snapshot : Snapshot :=
      { schema := 255, template := digest, docs := digest,
        crates := [{ name := "serde", version := Version.ofText? "1.0.0" }, { name := "anyhow" }] }
    ofToken token = .ok snapshot ∧
      snapshot.IsWellFormed ∧
      (∀ name entry, snapshot.find? name = some entry ↔
        entry ∈ snapshot.crates ∧ entry.name = name) ∧
      (∃ entries,
        Reader.standard.TokenCarries token snapshot.schema snapshot.template snapshot.docs entries ∧
        ∀ name, snapshot.find? name = entries.reverse.find? (·.name = name)) ∧
      ∃ again, ofToken snapshot.token = .ok again ∧
        again.schema = snapshot.schema ∧ again.template = snapshot.template ∧
        again.docs = snapshot.docs ∧ again.crates.Perm snapshot.crates ∧
        again.token = snapshot.token := by
  intro words value token digest snapshot
  have hplain : value.IsPlain := by
    simp [value, words, Cbor.IsPlain, Cbor.ArePlain, Cbor.HasPlainEntries]
  have hread : ofToken token = .ok snapshot :=
    (Reader.isFaithful_standard.ofToken_encode hplain).trans rfl
  exact ⟨hread, ofToken_canonical Reader.isFaithful_standard hread⟩

end CrateReadme.Snapshot
