import CrateReadme.Proofs.Cbor.RoundTrip
import CrateReadme.Proofs.Markdown.Destination
import CrateReadme.Proofs.Markdown.Document
import CrateReadme.Proofs.Text.Base64
import CrateReadme.Readme.Render

/-!
# What a trailer defines

Behind a body that leaves nothing open, a trailer defines the placeholders of the body in their
order, each as the address of its link, as long as the addresses can stand on a line of their own.
An address with words behind it, as bracketed prose in the documentation becomes, is no definition:
its line starts a paragraph, in which all definitions behind it are lost.
-/

namespace CrateReadme

open Markdown

theorem Snapshot.token_ne_nil (snapshot : Snapshot) : snapshot.token.toList ≠ [] := by
  obtain ⟨byte, rest, hbytes, -⟩ : Cbor.Begins (Cbor.encode snapshot.toCbor) := by
    rw [Snapshot.toCbor, Cbor.encode]
    exact Cbor.begins_collection (by decide) _ _
  rw [Snapshot.token, String.toList_ofList, hbytes]
  match rest with
  | [] => exact List.cons_ne_nil _ _
  | [_] => exact List.cons_ne_nil _ _
  | _ :: _ :: _ => exact List.cons_ne_nil _ _

theorem Text.Base64.charOf_spec {value : Nat} (hvalue : value < 64) :
    Address.isAddressChar (charOf value) ∧ charOf value ∉ [':', '/', '#', '?'] ∧
      charOf value ∉ ['\\', '&', '<', '(', ')'] ∧ LinkParts.endsBare (charOf value) = false ∧
      ':' ∉ Text.lowerChar (charOf value) := by
  revert value
  decide

namespace Readme

def markerLabel : String :=
  "__doc2readme_dependencies_info"

def markerEntry (snapshot : Snapshot) : Entry :=
  ⟨markerLabel.toList, snapshot.token.toList⟩

def linkEntry (link : String × String) : Entry :=
  ⟨link.1.toList, link.2.toList⟩

theorem label_markerEntry (snapshot : Snapshot) :
    (markerEntry snapshot).label = markerLabel.toList := by
  rw [markerEntry]

theorem text_markerEntry (snapshot : Snapshot) :
    (markerEntry snapshot).text = snapshot.token.toList := by
  rw [markerEntry]

theorem line_markerEntry (snapshot : Snapshot) :
    (marker ++ snapshot.token).toList = (markerEntry snapshot).line := by
  have hmarker : marker.toList =
      ' ' :: '[' :: (markerLabel.toList ++ [']', ':', ' ']) := by
    decide +kernel
  rw [String.toList_append, hmarker, Entry.line, DefinitionReader.lineContent, markerEntry]
  simp only [List.cons_append, List.append_assoc, List.nil_append]

theorem line_linkEntry (link : String × String) :
    (definition link.1 link.2).toList = (linkEntry link).line := by
  simp [definition, Entry.line, linkEntry, DefinitionReader.lineContent]

theorem toList_trailer (snapshot : Snapshot) (links : List (String × String)) :
    (trailer snapshot links).toList =
      Entry.lines (markerEntry snapshot :: links.map linkEntry) := by
  rw [trailer, String.toList_intercalate, Entry.lines, List.map_cons, List.map_cons, List.map_map,
    List.map_map, line_markerEntry]
  refine congrArg (fun lines => ['\n'].intercalate ((markerEntry snapshot).line :: lines)) ?_
  exact List.map_congr_left fun link _ => line_linkEntry link

theorem isName_of_isLabelChar {label : List Char} (hlabel : ∀ c ∈ label, IsLabelChar c) :
    DefinitionReader.IsName label := by
  intro c hmem hmark
  have hmarks : ['[', ']', '\n', '\\'] ⊆ ['[', ']', '\\', '\n', '\r', '\x00'] := by
    decide
  exact (hlabel c hmem).1 (hmarks hmark)

theorem isOneLine_of_isLabelChar {label : List Char} (hlabel : ∀ c ∈ label, IsLabelChar c) :
    IsOneLine label := by
  intro c hmem hmark
  have hmarks : ['\n', '\r', '\x00'] ⊆ ['[', ']', '\\', '\n', '\r', '\x00'] := by
    decide
  exact (hlabel c hmem).1 (hmarks hmark)

/-- A text that is read as an address, and as itself, on a line of its own. -/
structure IsAddress (address : List Char) : Prop where
  isBare : LinkParts.IsBare address
  unescape_eq : Entity.unescape address = address
  isSafe : isSafeDestination (normalizeDestination address)

instance (address : List Char) : Decidable (IsAddress address) :=
  decidable_of_iff (LinkParts.IsBare address ∧ Entity.unescape address = address ∧
      isSafeDestination (normalizeDestination address))
    ⟨fun ⟨hbare, hunescape, hsafe⟩ => ⟨hbare, hunescape, hsafe⟩,
      fun haddress => ⟨haddress.isBare, haddress.unescape_eq, haddress.isSafe⟩⟩

theorem closesParens_of_not_mem {text : List Char} (htext : ∀ c ∈ text, c ∉ ['(', ')']) :
    LinkParts.closesParens 0 text := by
  induction text with
  | nil => rfl
  | cons c text ih =>
      have hc := htext c List.mem_cons_self
      simp only [List.mem_cons, List.not_mem_nil, or_false, not_or] at hc
      rw [LinkParts.closesParens, if_neg hc.1, if_neg hc.2]
      exact ih fun d hmem => htext d (List.mem_cons_of_mem c hmem)

theorem charOf_of_mem_token {snapshot : Snapshot} {c : Char} (hmem : c ∈ snapshot.token.toList) :
    ∃ value < 64, c = Text.Base64.charOf value := by
  rw [Snapshot.token, String.toList_ofList] at hmem
  exact Text.Base64.exists_charOf_of_mem_encode hmem

/-- A token can stand as the address of a definition. -/
theorem isAddress_token (snapshot : Snapshot) : IsAddress snapshot.token.toList := by
  have hspec : ∀ c ∈ snapshot.token.toList, IsPathChar c ∧ c ∉ ['\\', '&', '<', '(', ')'] ∧
      LinkParts.endsBare c = false := by
    intro c hmem
    obtain ⟨value, hvalue, rfl⟩ := charOf_of_mem_token hmem
    obtain ⟨haddress, hinside, hmarks, hends, hlower⟩ := Text.Base64.charOf_spec hvalue
    exact ⟨⟨haddress, hinside, Text.Base64.isBlank_charOf hvalue, hlower⟩, hmarks, hends⟩
  have hpath : ∀ c ∈ snapshot.token.toList, IsPathChar c := fun c hmem => (hspec c hmem).1
  have hmarks : ∀ c ∈ snapshot.token.toList, c ≠ '\\' ∧ c ≠ '&' ∧ c ≠ '<' ∧ c ≠ '(' ∧ c ≠ ')' := by
    intro c hmem
    simpa using (hspec c hmem).2.1
  refine ⟨⟨snapshot.token_ne_nil, ?_, ?_, ?_⟩, ?_, ?_⟩
  · intro hhead
    exact (hmarks '<' (List.mem_of_mem_head? hhead)).2.2.1 rfl
  · exact fun c hmem => ⟨(hspec c hmem).2.2, (hmarks c hmem).1⟩
  · exact closesParens_of_not_mem fun c hmem => by simpa using (hmarks c hmem).2.2.2
  · exact Entity.unescape_eq_self fun c hmem => ⟨(hmarks c hmem).1, (hmarks c hmem).2.1⟩
  · rw [normalizeDestination_of_isPathChar hpath]
    exact isSafeDestination_of_isPathChar hpath

theorem isLabelChar_of_mem_markerLabel {c : Char} (hmem : c ∈ markerLabel.toList) :
    IsLabelChar c :=
  isLabelChar_of_all (by decide +kernel) hmem

theorem isDefinition_of_isAddress {entry : Entry} (hlabel : ∀ c ∈ entry.label, IsLabelChar c)
    (hkey : Label.normalize entry.label ≠ []) (haddress : IsAddress entry.text) :
    entry.IsDefinition where
  isName := isName_of_isLabelChar hlabel
  key_ne_nil := hkey
  isBare := haddress.isBare
  isSafe := by
    rw [Entry.destination, haddress.unescape_eq]
    exact haddress.isSafe

theorem normalize_markerLabel :
    Label.normalize markerLabel.toList = "__DOC2README_DEPENDENCIES_INFO".toList := by
  decide +kernel

theorem isLabelChar_markerEntry (snapshot : Snapshot) :
    ∀ c ∈ (markerEntry snapshot).label, IsLabelChar c := by
  intro c hmem
  rw [label_markerEntry] at hmem
  exact isLabelChar_of_mem_markerLabel hmem

theorem isAddress_markerEntry (snapshot : Snapshot) : IsAddress (markerEntry snapshot).text := by
  rw [text_markerEntry]
  exact isAddress_token snapshot

theorem isDefinition_markerEntry (snapshot : Snapshot) : (markerEntry snapshot).IsDefinition := by
  refine isDefinition_of_isAddress (isLabelChar_markerEntry snapshot) ?_
    (isAddress_markerEntry snapshot)
  rw [label_markerEntry, normalize_markerLabel]
  decide

theorem normalize_markerLabel_ne (number : Nat) :
    Label.normalize (placeholder number).toList ≠ Label.normalize markerLabel.toList := by
  rw [normalize_placeholder, normalize_markerLabel]
  intro heq
  have hthird := congrArg (fun text => text[2]?) heq
  simp at hthird

theorem IsAddress.isOneLine {address : List Char} (haddress : IsAddress address) :
    IsOneLine address := by
  intro c hmem hmark
  have hplain := (haddress.isBare.isPlain c hmem).1
  simp only [List.mem_cons, List.not_mem_nil, or_false] at hmark
  rcases hmark with rfl | rfl | rfl
  · exact absurd hplain (by decide)
  · exact absurd hplain (by decide)
  · exact absurd hplain (by decide)

theorem isOneLine_line {entry : Entry} (hlabel : IsOneLine entry.label)
    (htext : IsOneLine entry.text) : IsOneLine entry.line := by
  intro c hmem
  simp only [Entry.line, DefinitionReader.lineContent, List.mem_cons, List.mem_append] at hmem
  rcases hmem with rfl | rfl | hmem | rfl | rfl | rfl | hmem
  · decide
  · decide
  · exact hlabel c hmem
  · decide
  · decide
  · decide
  · exact htext c hmem

theorem isOneLine_markerEntry (snapshot : Snapshot) : IsOneLine (markerEntry snapshot).line :=
  isOneLine_line (isOneLine_of_isLabelChar (isLabelChar_markerEntry snapshot))
    (isAddress_markerEntry snapshot).isOneLine

section Links

variable {link : String × String} {number : Nat} (hname : link.1 = placeholder number)

include hname

theorem isLabelChar_linkEntry : ∀ c ∈ (linkEntry link).label, IsLabelChar c := by
  intro c hmem
  rw [linkEntry, hname] at hmem
  exact isLabelChar_of_mem_placeholder hmem

theorem isOneLine_linkEntry (htext : IsOneLine link.2.toList) : IsOneLine (linkEntry link).line :=
  isOneLine_line (isOneLine_of_isLabelChar (isLabelChar_linkEntry hname)) htext

theorem isDefinition_linkEntry (haddress : IsAddress link.2.toList) :
    (linkEntry link).IsDefinition := by
  refine isDefinition_of_isAddress (isLabelChar_linkEntry hname) ?_ haddress
  rw [linkEntry, hname, normalize_placeholder]
  simp

theorem isBroken_linkEntry (hprose : DefinitionReader.IsProse link.2.toList) :
    (linkEntry link).IsBroken :=
  ⟨isName_of_isLabelChar (isLabelChar_linkEntry hname), hprose⟩

end Links

/-- Links are named by the placeholders in their order. -/
def AreNumbered (links : List (String × String)) : Prop :=
  ∀ place link, links[place]? = some link → link.1 = placeholder place

namespace AreNumbered

variable {links : List (String × String)}

theorem exists_of_mem (hlinks : AreNumbered links) {link : String × String} (hmem : link ∈ links) :
    ∃ place, link.1 = placeholder place := by
  obtain ⟨place, hlink⟩ := List.mem_iff_getElem?.mp hmem
  exact ⟨place, hlinks place link hlink⟩

theorem take (hlinks : AreNumbered links) (count : Nat) : AreNumbered (links.take count) := by
  intro place link hlink
  rw [List.getElem?_take] at hlink
  split at hlink
  · exact hlinks place link hlink
  · cases hlink

/-- The link whose name has the key of a placeholder is the one with its number. -/
theorem find?_eq_getElem? (hlinks : AreNumbered links) (number : Nat) :
    links.find? (fun link => Label.normalize link.1.toList =
      Label.normalize (placeholder number).toList) = links[number]? := by
  have hplace : ∀ place link, links[place]? = some link →
      Label.normalize link.1.toList = Label.normalize (placeholder number).toList →
        place = number := by
    intro place link hlink hkey
    rw [hlinks place link hlink] at hkey
    exact normalize_placeholder_inj hkey
  cases hlink : links[number]? with
  | none =>
      rw [List.find?_eq_none]
      intro link hmem
      rw [decide_eq_true_eq]
      intro hkey
      obtain ⟨place, hfound⟩ := List.mem_iff_getElem?.mp hmem
      rw [hplace place link hfound hkey, hlink] at hfound
      cases hfound
  | some link =>
      obtain ⟨hlt, hget⟩ := List.getElem?_eq_some_iff.mp hlink
      rw [List.find?_eq_some_iff_getElem]
      refine ⟨by rw [hlinks number link hlink, decide_eq_true_eq], number, hlt, hget, ?_⟩
      intro place hbefore
      rw [Bool.not_eq_true', decide_eq_false_iff_not]
      intro hkey
      exact absurd (hplace place _ (List.getElem?_eq_getElem _) hkey) (Nat.ne_of_lt hbefore)

theorem find?_entries (hlinks : AreNumbered links) (snapshot : Snapshot) (number : Nat) :
    (markerEntry snapshot :: links.map linkEntry).find? (fun entry =>
      Label.normalize entry.label = Label.normalize (placeholder number).toList) =
        links[number]?.map linkEntry := by
  have hmarker : ¬Label.normalize (markerEntry snapshot).label =
      Label.normalize (placeholder number).toList :=
    (normalize_markerLabel_ne number).symm
  rw [List.find?_cons_of_neg (by rw [decide_eq_true_eq]; exact hmarker), List.find?_map,
    ← hlinks.find?_eq_getElem? number]
  rfl

/-- The entries of numbered links define the placeholders that were not defined in front of them. -/
theorem lookup_addAll (hlinks : AreNumbered links)
    (haddress : ∀ link ∈ links, IsAddress link.2.toList) (snapshot : Snapshot)
    {definitions : Definitions} {number : Nat}
    (hnone : definitions.lookup (Label.normalize (placeholder number).toList) = none) :
    (definitions.addAll (markerEntry snapshot :: links.map linkEntry)).lookup
        (Label.normalize (placeholder number).toList) =
      links[number]?.map fun link => ⟨normalizeDestination link.2.toList, []⟩ := by
  rw [Definitions.lookup_addAll, hnone, Option.none_or, hlinks.find?_entries, Option.map_map]
  refine Option.map_congr fun link hlink => ?_
  have hunescape := (haddress link (List.mem_of_getElem? hlink)).unescape_eq
  rw [Function.comp_apply, Entry.destination, linkEntry, hunescape]

end AreNumbered

theorem fst_getElem_namedLinks {body : Body} {place : Nat} {label : String}
    (hlabel : body.namedLinks.unzip.1[place]? = some label) : label = placeholder place := by
  rw [List.unzip_fst, Body.namedLinks, List.map_map, List.getElem?_map, List.getElem?_zipIdx,
    Option.map_map, Option.map_eq_some_iff] at hlabel
  obtain ⟨raw, -, rfl⟩ := hlabel
  exact congrArg placeholder (Nat.zero_add place)

theorem areNumbered_draft (input : Input) (template : String) :
    AreNumbered (draft input template).links := by
  intro place link hlink
  simp only [draft, resolveLinks, List.getElem?_zip_eq_some] at hlink
  exact fst_getElem_namedLinks hlink.1

namespace Draft

def entries (draft : Draft) : List Entry :=
  markerEntry draft.trace.snapshot :: draft.links.map linkEntry

/-- The text of a readme that consists of a body and a trailer behind a blank line. -/
def text (draft : Draft) : List Char :=
  draft.body ++ '\n' :: '\n' :: (trailer draft.trace.snapshot draft.links).toList

theorem text_eq_withEntries (draft : Draft) :
    draft.text = Document.withEntries draft.body draft.entries := by
  rw [text, toList_trailer, Document.withEntries, entries]

/-- The body of a draft leaves its trailer alone: nothing is left open in front of it, and no
placeholder is defined there. -/
structure LeavesTrailer (draft : Draft) : Prop where
  isClosed : Document.IsClosedAt draft.text (Document.blankLine draft.body draft.entries)
  undefined : ∀ index definitions, Document.Arrives draft.text index definitions →
    index ≤ Document.blankLine draft.body draft.entries + 1 → ∀ number,
      definitions.lookup (Label.normalize (placeholder number).toList) = none

theorem isOneLine_entries (draft : Draft) (hlinks : AreNumbered draft.links)
    (honeLine : ∀ link ∈ draft.links, IsOneLine link.2.toList) :
    ∀ entry ∈ draft.entries, IsOneLine entry.line := by
  rw [entries, List.forall_mem_cons, List.forall_mem_map]
  refine ⟨isOneLine_markerEntry _, fun link hmem => ?_⟩
  obtain ⟨place, hname⟩ := hlinks.exists_of_mem hmem
  exact isOneLine_linkEntry hname (honeLine link hmem)

/-- A body of plain lines and lines that start with a label leaves its trailer alone. -/
theorem leavesTrailer_of_isStill (draft : Draft) (hlinks : AreNumbered draft.links)
    (honeLine : ∀ link ∈ draft.links, IsOneLine link.2.toList)
    (hlast : draft.body.getLast? ≠ some '\r')
    (hbody : ∀ line ∈ Text.lines (clean draft.body),
      (Line.ofText line true).IsPlain ∨ (Line.ofText line true).StartsLabel) :
    draft.LeavesTrailer := by
  have hentries := draft.isOneLine_entries hlinks honeLine
  have hstill : ∀ index < Document.blankLine draft.body draft.entries,
      BlockReader.IsStill (Document.regionOf draft.text) index := by
    intro index hindex
    obtain ⟨line, hmem, heq⟩ :=
      Document.exists_line_of_lt_blankLine hentries (List.cons_ne_nil _ _) hlast hindex
    rw [← draft.text_eq_withEntries] at heq
    obtain hplain | hlabel := hbody line hmem
    · exact .of_isPlain (heq ▸ hplain)
    · exact .of_startsLabel (heq ▸ hlabel)
  have hwall : BlockReader.Wall (Document.regionOf draft.text)
      (Document.blankLine draft.body draft.entries) := by
    rw [draft.text_eq_withEntries]
    exact Document.wall_blankLine hentries (List.cons_ne_nil _ _)
  refine ⟨BlockReader.isClosed_of_isStill hstill, fun index definitions harrives hindex _ => ?_⟩
  rw [harrives.definitions_eq_nil (BlockReader.isBounded_readAt _) (BlockReader.isBounded_readAt _)
    (Nat.le_refl _) hwall hstill hindex]
  rfl

/-- The numbered links of a draft up to the first one whose address is followed by words are
defined. -/
theorem lookup_definitions (draft : Draft) (hlinks : AreNumbered draft.links)
    (hbody : draft.LeavesTrailer) (count : Nat)
    (haddress : ∀ link ∈ draft.links.take count, IsAddress link.2.toList)
    (hbroken : ∀ link ∈ draft.links[count]?, DefinitionReader.IsProse link.2.toList)
    (honeLine : ∀ link ∈ draft.links.drop count, IsOneLine link.2.toList) (number : Nat) :
    (Document.read false draft.text).definitions.lookup
        (Label.normalize (placeholder number).toList) =
      (draft.links.take count)[number]?.map fun link =>
        ⟨normalizeDestination link.2.toList, []⟩ := by
  let front := markerEntry draft.trace.snapshot :: (draft.links.take count).map linkEntry
  let rest := (draft.links.drop count).map linkEntry
  have hentries : draft.entries = front ++ rest := by
    rw [Draft.entries, List.cons_append, ← List.map_append, List.take_append_drop]
  have honeLines : ∀ entry ∈ front ++ rest, IsOneLine entry.line := by
    rw [← hentries]
    refine draft.isOneLine_entries hlinks fun link hmem => ?_
    rw [← List.take_append_drop count draft.links] at hmem
    rcases List.mem_append.mp hmem with hmem | hmem
    · exact (haddress link hmem).isOneLine
    · exact honeLine link hmem
  have hfront : ∀ entry ∈ front, entry.IsDefinition := by
    rw [List.forall_mem_cons, List.forall_mem_map]
    refine ⟨isDefinition_markerEntry _, fun link hmem => ?_⟩
    obtain ⟨place, hname⟩ := hlinks.exists_of_mem (List.mem_of_mem_take hmem)
    exact isDefinition_linkEntry hname (haddress link hmem)
  have hrest : ∀ entry ∈ rest.head?, entry.IsBroken := by
    intro entry hmem
    rw [List.head?_map, List.head?_drop, Option.mem_def, Option.map_eq_some_iff] at hmem
    obtain ⟨link, hlink, rfl⟩ := hmem
    exact isBroken_linkEntry (hlinks count link hlink) (hbroken link hlink)
  have htext := draft.text_eq_withEntries
  rw [hentries] at htext
  have hclosed := hbody.isClosed
  rw [htext, hentries] at hclosed
  obtain ⟨last, written, harrives, hlast, hread⟩ := Document.definitions_withEntries false
    draft.body honeLines (List.cons_ne_nil _ _) hclosed hfront hrest
  rw [← htext] at harrives hread
  rw [← hentries] at hlast
  rw [hread]
  exact (hlinks.take count).lookup_addAll haddress _ (hbody.undefined last written harrives hlast _)

end Draft

/-- A trailer behind a body that leaves it alone defines the placeholders in front of the first link
whose address is followed by words, each as the address of its link, and no others. If there is no
such link, all placeholders are defined. -/
theorem lookup_definitions_draft (input : Input) (template : String)
    (hbody : (draft input template).LeavesTrailer) (count : Nat)
    (haddress : ∀ link ∈ (draft input template).links.take count, IsAddress link.2.toList)
    (hbroken : ∀ link ∈ (draft input template).links[count]?,
      DefinitionReader.IsProse link.2.toList)
    (honeLine : ∀ link ∈ (draft input template).links.drop count, IsOneLine link.2.toList)
    (number : Nat) :
    (Document.read false (draft input template).text).definitions.lookup
        (Label.normalize (placeholder number).toList) =
      ((draft input template).links.take count)[number]?.map fun link =>
        ⟨normalizeDestination link.2.toList, []⟩ :=
  (draft input template).lookup_definitions (areNumbered_draft input template) hbody count
    haddress hbroken honeLine number

theorem lookup_definitions_draft_prose :
    let input : Input :=
      { crate := "my-crate", version := default, artifact := .library,
        docs := "See [`Vec`] or [foo bar].", scope := .empty, dependencies := [],
        repository := none, license := none, rustVersion := none }
    ∀ number, (Document.read false (draft input "").text).definitions.lookup
        (Label.normalize (placeholder number).toList) =
      ((draft input "").links.take 1)[number]?.map fun link =>
        ⟨normalizeDestination link.2.toList, []⟩ := by
  intro input
  obtain ⟨hlinks, hbody⟩ : (draft input "").links =
        [("__link0", "https://crates.io/crates/Vec"), ("__link1", "foo bar")] ∧
      (draft input "").body = "See [`Vec`][__link0] or [foo bar][__link1].".toList := by
    decide +kernel
  have haddress : IsAddress "https://crates.io/crates/Vec".toList := by
    decide +kernel
  have hprose : DefinitionReader.IsProse "foo bar".toList :=
    ⟨"foo".toList, [' '], 'b', "ar".toList, by decide +kernel, by decide +kernel, by simp,
      by simp [isSpace], rfl, by simp, rfl⟩
  have honeLine : IsOneLine "foo bar".toList := by
    decide +kernel
  have hlast : (draft input "").body.getLast? ≠ some '\r' := by
    rw [hbody]
    decide +kernel
  have hplain : (Text.lines (clean (draft input "").body)).all
      fun line => (Line.ofText line true).IsPlain := by
    rw [hbody]
    decide +kernel
  have hleaves : (draft input "").LeavesTrailer := by
    refine (draft input "").leavesTrailer_of_isStill (areNumbered_draft input "") ?_ hlast ?_
    · rw [hlinks, List.forall_mem_cons, List.forall_mem_singleton]
      exact ⟨haddress.isOneLine, honeLine⟩
    · intro line hmem
      exact .inl (of_decide_eq_true (List.all_eq_true.mp hplain line hmem))
  refine lookup_definitions_draft input "" hleaves 1 ?_ ?_ ?_
  · rw [hlinks]
    exact List.forall_mem_singleton.mpr haddress
  · rw [hlinks]
    exact fun link hmem => Option.some.inj hmem ▸ hprose
  · rw [hlinks]
    exact List.forall_mem_singleton.mpr honeLine

/-- Bracketed prose takes the definition of the link behind it away. -/
theorem lookup_definitions_draft_lost :
    let input : Input :=
      { crate := "my-crate", version := default, artifact := .library,
        docs := "[foo bar] and [`Vec`].", scope := .empty, dependencies := [], repository := none,
        license := none, rustVersion := none }
    (draft input "").links[1]? = some ("__link1", "https://crates.io/crates/Vec") ∧
      (Document.read false (draft input "").text).definitions.lookup
        (Label.normalize (placeholder 1).toList) = none := by
  intro input
  obtain ⟨hlinks, hbody⟩ : (draft input "").links =
        [("__link0", "foo bar"), ("__link1", "https://crates.io/crates/Vec")] ∧
      (draft input "").body = "[foo bar][__link0] and [`Vec`][__link1].".toList := by
    decide +kernel
  have honeLine : ∀ link ∈ (draft input "").links, IsOneLine link.2.toList := by
    rw [hlinks, List.forall_mem_cons, List.forall_mem_singleton]
    exact ⟨by decide +kernel, by decide +kernel⟩
  have hlines : Text.lines (clean (draft input "").body) =
      ["[foo bar][__link0] and [`Vec`][__link1].".toList] := by
    rw [hbody]
    decide +kernel
  have hlast : (draft input "").body.getLast? ≠ some '\r' := by
    rw [hbody]
    decide +kernel
  have hleaves : (draft input "").LeavesTrailer := by
    refine (draft input "").leavesTrailer_of_isStill (areNumbered_draft input "") honeLine hlast ?_
    rw [hlines, List.forall_mem_singleton]
    exact .inr ⟨"foo bar".toList, '[', "__link0] and [`Vec`][__link1].".toList,
      by simp [DefinitionReader.IsName], by decide, by decide +kernel⟩
  have hprose : DefinitionReader.IsProse "foo bar".toList :=
    ⟨"foo".toList, [' '], 'b', "ar".toList, by decide +kernel, by decide +kernel, by simp,
      by simp [isSpace], rfl, by simp, rfl⟩
  have hbroken : ∀ link ∈ (draft input "").links[0]?, DefinitionReader.IsProse link.2.toList := by
    rw [hlinks]
    exact fun link hmem => Option.some.inj hmem ▸ hprose
  refine ⟨by rw [hlinks]; rfl, ?_⟩
  exact (draft input "").lookup_definitions (areNumbered_draft input "") hleaves 0 (by simp)
    hbroken honeLine 1

end Readme

end CrateReadme
