import CrateReadme.Proofs.Link.Grammar
import CrateReadme.Proofs.Link.Qualified
import CrateReadme.Proofs.Source.RawName
import CrateReadme.Proofs.Version.Spelling

/-!
# Raw identifiers in sources and in references

A name of a source may be written as a raw identifier without any effect on the links: the scope of
the crate stays as it is. In a reference the mark of a raw identifier is no matter of spelling. It
is taken for a part of the name, so the scope does not know the name, and the mark is carried along
into the address.
-/

namespace CrateReadme

/-- A text with the mark of a raw identifier somewhere in it. -/
def HasMark (text : String) : Prop :=
  '#' ∈ text.toList

instance (text : String) : Decidable (HasMark text) :=
  inferInstanceAs (Decidable ('#' ∈ text.toList))

variable {path head crate : String} {tail : List String}

@[simp]
theorem hasMark_append (front back : String) :
    HasMark (front ++ back) ↔ HasMark front ∨ HasMark back := by
  rw [HasMark, String.toList_append, List.mem_append]
  rfl

/-! ### Paths -/

namespace Path

theorem hasMark_ofParts (parts : List String) :
    HasMark (ofParts parts) ↔ ∃ part ∈ parts, HasMark part := by
  induction parts with
  | nil => simp [ofParts, HasMark]
  | cons part parts ih =>
      by_cases hne : parts = []
      · rw [hne, ofParts_singleton, List.exists_mem_cons_iff]
        simp
      · have hseparator : ¬HasMark separator := by decide
        rw [ofParts_cons part hne, hasMark_append, hasMark_append, ih, List.exists_mem_cons_iff]
        simp [hseparator]

theorem hasMark_of_parts (hparts : Path.parts path = head :: tail) :
    HasMark path ↔ HasMark head ∨ ∃ part ∈ tail, HasMark part := by
  rw [← ofParts_parts path, hparts, hasMark_ofParts, List.exists_mem_cons_iff]

end Path

/-! ### Scopes -/

namespace Scope

variable {scope : Scope} {binding : Binding} {next : String}

theorem addNode_withSpan (crate : String) (scope : Scope) (span : Option Span)
    (node : Source.Node) : addNode crate scope (node.withSpan span) = addNode crate scope node := by
  cases node <;> rfl

/-- The places of declarations do not matter to a scope. -/
theorem build_eq_of_withSpan {nodes others : List Source.Node}
    (hnodes : others.map (Source.Node.withSpan none) = nodes.map (Source.Node.withSpan none))
    (crate : String) (edition : Option String) :
    build crate edition others = build crate edition nodes := by
  have hbuild (nodes : List Source.Node) (scope : Scope) :
      (nodes.map (Source.Node.withSpan none)).foldl (addNode crate) scope =
        nodes.foldl (addNode crate) scope := by
    simp only [List.foldl_map, addNode_withSpan]
  rw [build, ← hbuild others, hnodes, hbuild, build]

/-- Neither the names of a scope nor the paths that they stand for have a mark. -/
structure IsUnmarked (scope : Scope) : Prop where
  names : ∀ name ∈ scope.names, ¬HasMark name
  paths : scope.Holds fun binding => ¬HasMark binding.path

theorem mem_names_of_front? (hfront : scope.front? head = some binding) : head ∈ scope.names := by
  rw [front?, get] at hfront
  cases hlookup : scope.entries.lookup head with
  | none => simp [hlookup] at hfront
  | some bindings =>
      obtain ⟨front, back, hentries, -⟩ := List.lookup_eq_some_iff.mp hlookup
      simp [names, hentries]

/-- A step replaces a head without a mark by a path without one. -/
theorem IsUnmarked.step (hscope : scope.IsUnmarked) (hstep : scope.step? path = some (binding, next)) :
    HasMark next ↔ HasMark path := by
  obtain ⟨-, head, tail, hparts, -, hfront, rfl⟩ := step?_eq_some_iff.mp hstep
  have hhead := hscope.names head (mem_names_of_front? hfront)
  have hpath : ¬HasMark binding.path := hscope.paths.of_front? hfront
  rw [Path.hasMark_ofParts, List.exists_mem_cons_iff, Path.hasMark_of_parts hparts]
  simp only [hhead, hpath]

/-- Putting a crate without a mark in place of a word for the root neither adds a mark nor takes one
away. -/
theorem hasMark_rooted (hcrate : ¬HasMark crate) (path : String) :
    HasMark (rooted crate path) ↔ HasMark path := by
  rw [rooted]
  split
  · rfl
  · split
    · next head tail hparts =>
      split
      · next hroot =>
        have hhead : ¬HasMark head := by
          simp only [Path.isRootWord, Bool.or_eq_true, decide_eq_true_eq] at hroot
          rcases hroot with rfl | rfl <;> decide
        have hseparator : ¬HasMark Path.separator := by decide
        rw [Path.hasMark_ofParts, List.exists_mem_cons_iff, Path.hasMark_of_parts hparts]
        simp [hhead, hcrate, hseparator]
      · rfl
    · rfl

/-- In a scope without marks, following a path neither adds a mark nor takes one away. -/
theorem IsUnmarked.follow (hscope : scope.IsUnmarked) (hcrate : ¬HasMark crate) (remaining : ℕ)
    (path : String) (kind : Option SymbolKind) :
    HasMark (scope.follow crate remaining path kind).path ↔ HasMark path := by
  induction remaining generalizing path kind with
  | zero =>
      cases hstep : scope.step? path with
      | none => rw [follow_of_no_step crate 0 kind hstep, hasMark_rooted hcrate]
      | some found => rw [follow_zero_of_step crate kind hstep, hscope.step hstep]
  | succ remaining ih =>
      cases hstep : scope.step? path with
      | none => rw [follow_of_no_step crate _ kind hstep, hasMark_rooted hcrate]
      | some found =>
          obtain ⟨kind', hfollow⟩ := follow_of_step crate remaining kind hstep
          rw [hfollow, ih, hscope.step hstep]

end Scope

/-! ### Addresses -/

namespace Reference

theorem hasMark_withoutCall (text : String) :
    HasMark (String.ofList (withoutCall text.toList)) ↔ HasMark text := by
  obtain ⟨ending, htext⟩ := exists_ending text.toList
  have hending : '#' ∉ ending.text := by
    cases ending <;> decide
  rw [HasMark, HasMark, String.toList_ofList]
  nth_rewrite 2 [htext]
  rw [List.mem_append, or_iff_left hending]

def Identifier.unmarked (ident : Identifier) : Identifier :=
  { ident with isRaw := false }

theorem Identifier.unmarked_eq_self {ident : Identifier} (hident : ident.isRaw = false) :
    ident.unmarked = ident := by
  rw [Identifier.unmarked, ← hident]

theorem Identifier.hash_mem_text (ident : Identifier) : '#' ∈ ident.text ↔ ident.isRaw := by
  have hname : '#' ∉ ident.name := by
    intro hmem
    exact absurd (isIdentPart_of_mem ident.isPlain hmem) (by decide)
  rw [Identifier.text, List.mem_append, or_iff_left hname]
  cases ident.isRaw <;> simp

theorem hash_mem_joined (idents : List Identifier) :
    '#' ∈ joined idents ↔ ∃ ident ∈ idents, ident.isRaw := by
  induction idents with
  | nil => simp [joined]
  | cons ident idents ih =>
      cases idents with
      | nil => simp [joined, ident.hash_mem_text]
      | cons next others =>
          rw [joined_cons_cons, List.exists_mem_cons_iff, ← ih]
          simp [ident.hash_mem_text]

namespace Route

variable (route : Route)

theorem map_unmarked_ne_nil : route.idents.map Identifier.unmarked ≠ [] :=
  mt List.map_eq_nil_iff.mp route.ne_nil

/-- A path with its identifiers written without marks. -/
def unmarked : Route :=
  { route with idents := route.idents.map Identifier.unmarked, ne_nil := route.map_unmarked_ne_nil }

theorem not_isRaw_of_mem_unmarked {ident : Identifier} (hmem : ident ∈ route.unmarked.idents) :
    ident.isRaw = false := by
  obtain ⟨_, _, rfl⟩ := List.mem_map.mp hmem
  rfl

theorem unmarked_eq_self (hroute : ∀ ident ∈ route.idents, ident.isRaw = false) :
    route.unmarked = route := by
  have hidents : route.idents.map Identifier.unmarked = route.idents := by
    conv_rhs => rw [← List.map_id route.idents]
    exact List.map_congr_left fun ident hmem => Identifier.unmarked_eq_self (hroute ident hmem)
  simp only [unmarked, hidents]

theorem hasMark_text :
    HasMark (String.ofList route.text) ↔ ∃ ident ∈ route.idents, ident.isRaw := by
  have hlead : '#' ∉ lead route.isAbsolute := by
    cases route.isAbsolute <;> decide
  have hending : '#' ∉ route.ending.text := by
    cases route.ending <;> decide
  rw [HasMark, String.toList_ofList, text_eq, List.mem_append, List.mem_append,
    or_iff_left hending, or_iff_right hlead, hash_mem_joined]

/-- The path of a reference is resolved as it stands. -/
theorem referencePath_text :
    Scope.referencePath (String.ofList route.text) = String.ofList route.text := by
  have hending : ∀ c ∈ route.ending.text, c ≠ '<' ∧ c ≠ '>' := by
    cases route.ending <;> simp [Ending.text]
  have hplain : ∀ c ∈ route.text, c ≠ '<' ∧ c ≠ '>' := by
    intro c hmem
    rw [text_eq, List.mem_append] at hmem
    rcases hmem with hmem | hmem
    · exact no_bracket (route.isRoutePart_of_mem hmem)
    · exact hending c hmem
  rw [Scope.referencePath, String.toList_ofList, strip_text, Path.withoutGenerics_eq_self hplain]

end Route

end Reference

theorem hasMark_libNameOf (package : String) : HasMark (libNameOf package) ↔ HasMark package := by
  rw [HasMark, libNameOf, String.toList_ofList, List.mem_map]
  constructor
  · rintro ⟨c, hmem, hc⟩
    split at hc
    · cases hc
    · rw [hc] at hmem
      exact hmem
  · intro hmem
    exact ⟨'#', hmem, rfl⟩

theorem Path.hasMark_segments (path : String) :
    HasMark path ↔ ∃ part ∈ Path.segments path, HasMark part := by
  have hparts (path : String) : HasMark path ↔ ∃ part ∈ Path.parts path, HasMark part := by
    rw [← hasMark_ofParts, ofParts_parts]
  rw [Path.segments]
  cases hafter : Text.after? [':', ':'] path.toList with
  | none => exact hparts path
  | some rest =>
      rw [← hparts, HasMark, Text.after?_eq_some_iff.mp hafter, HasMark, String.toList_ofList]
      simp

namespace Link

/-- A path has a mark if and only if one of its segments has one. -/
theorem hasMark_pathSegments (path : String) :
    HasMark path ↔ ∃ part ∈ pathSegments path, HasMark part := by
  have hempty : ¬HasMark "" := by simp [HasMark]
  have hfilter : HasMark path ↔ ∃ part ∈ (Path.segments path).filter (· ≠ ""), HasMark part := by
    rw [Path.hasMark_segments]
    constructor
    · rintro ⟨part, hmem, hmark⟩
      have hne : part ≠ "" := by
        rintro rfl
        exact hempty hmark
      exact ⟨part, List.mem_filter.mpr ⟨hmem, decide_eq_true hne⟩, hmark⟩
    · rintro ⟨part, hmem, hmark⟩
      exact ⟨part, (List.mem_filter.mp hmem).1, hmark⟩
  rw [hfilter, pathSegments]
  generalize (Path.segments path).filter (· ≠ "") = segments
  rcases List.eq_nil_or_concat segments with rfl | ⟨front, last, rfl⟩
  · rfl
  · simp [Reference.hasMark_withoutCall, or_and_right, exists_or]

theorem hasMark_render (version : Version) : ¬HasMark version.render :=
  version.not_mem_render (by decide) (by decide)

theorem hasMark_crateAddress (crate : String) (version : Option Version) :
    HasMark (crateAddress crate version) ↔ HasMark crate := by
  have hroot : ¬HasMark "https://crates.io/crates/" := by simp [HasMark]
  have hslash : ¬HasMark "/" := by simp [HasMark]
  unfold crateAddress
  cases version with
  | none => simp only [hasMark_append, hroot, false_or]
  | some version => simp only [hasMark_append, hroot, hslash, hasMark_render, false_or, or_false]

theorem hasMark_stdAddress (rest : List String) (kind : Option SymbolKind) :
    HasMark (stdAddress rest kind) ↔ ∃ part ∈ rest, HasMark part := by
  have hroot : ¬HasMark "https://doc.rust-lang.org/stable/std" := by simp [HasMark]
  have hprimitive : ¬HasMark "/primitive." := by simp [HasMark]
  have hmacro : ¬HasMark "/macro." := by simp [HasMark]
  have hpage : ¬HasMark ".html" := by simp [HasMark]
  have hslash : ¬HasMark "/" := by simp [HasMark]
  have hsearch : ¬HasMark "/?search=" := by simp [HasMark]
  unfold stdAddress
  split
  · simp only [hasMark_append, hroot, hprimitive, hpage, false_or, or_false, List.mem_singleton,
      exists_eq_left]
  · simp only [hasMark_append, hroot, hmacro, hpage, false_or, or_false, List.mem_singleton,
      exists_eq_left]
  · simp only [hasMark_append, hroot, hslash, or_self, List.not_mem_nil, false_and, exists_false]
  · simp only [hasMark_append, hroot, hsearch, false_or, Path.hasMark_ofParts]

theorem hasMark_pageName? {kind : SymbolKind} {name page : String}
    (hpage : pageName? kind name = some page) : HasMark page ↔ HasMark name := by
  have htexts : ∀ text ∈ ["attr.", "constant.", "derive.", "enum.", "macro.", "primitive.",
      "static.", "struct.", "trait.", "type.", "/index.html", ".html"], ¬HasMark text := by
    decide +kernel
  simp only [List.forall_mem_cons] at htexts
  cases kind <;> cases hpage <;> simp [htexts]

theorem hasMark_join (parts : List String) :
    HasMark (String.join parts) ↔ ∃ part ∈ parts, HasMark part := by
  simp [HasMark, String.toList_join]

theorem hasMark_docsAddress (crate : String) (version : Option Version) (libName : String)
    {rest : List String} (hrest : rest ≠ []) (kind : Option SymbolKind) :
    HasMark (docsAddress crate version libName rest kind) ↔
      HasMark crate ∨ HasMark libName ∨ ∃ part ∈ rest, HasMark part := by
  have hroot : ¬HasMark "https://docs.rs/" := by simp [HasMark]
  have hslash : ¬HasMark "/" := by simp [HasMark]
  have hlatest : ¬HasMark "latest" := by simp [HasMark]
  have hsearch : ¬HasMark "?search=" := by simp [HasMark]
  have hversion : ¬HasMark ((version.map Version.render).getD "latest") := by
    cases version with
    | none => exact hlatest
    | some version => exact hasMark_render version
  obtain rfl | ⟨front, last, rfl⟩ := List.eq_nil_or_concat rest
  · exact absurd rfl hrest
  · simp only [docsAddress]
    split
    · next page hpage =>
      obtain ⟨kind, -, hname⟩ := Option.bind_eq_some_iff.mp hpage
      have hlast := hasMark_pageName? hname
      simp [hroot, hslash, hversion, hlast, hasMark_join, or_assoc]
    · simp [hroot, hslash, hversion, hsearch, Path.hasMark_ofParts, or_assoc]

namespace Context

variable {context : Context}

/-- No name that a context knows has a mark. -/
structure IsUnmarked (context : Context) : Prop where
  crate : ¬HasMark context.crate
  dependencies : ∀ dependency ∈ context.dependencies,
    ¬HasMark dependency.ident ∧ ¬HasMark dependency.published
  scope : context.scope.IsUnmarked

theorem IsUnmarked.targetOf (hcontext : context.IsUnmarked) (first : String) :
    HasMark (context.targetOf first).crate ↔ HasMark first := by
  rw [Context.targetOf, target?]
  split
  · next hown =>
    have hfirst : ¬HasMark first := by
      simp only [Path.isRootWord, Bool.or_eq_true, decide_eq_true_eq] at hown
      rcases hown with ((rfl | rfl) | rfl) | rfl
      · decide
      · decide
      · rw [libName, hasMark_libNameOf]
        exact hcontext.crate
      · exact hcontext.crate
    exact iff_of_false hcontext.crate hfirst
  · cases hfind : Dependency.find? context.dependencies first with
    | none => exact Iff.rfl
    | some dependency =>
        have hmem := List.mem_of_find?_eq_some hfind
        have hident : dependency.ident = first := by
          rw [Dependency.find?] at hfind
          simpa using List.find?_some hfind
        obtain ⟨hname, hpublished⟩ := hcontext.dependencies dependency hmem
        rw [hident] at hname
        exact iff_of_false hpublished hname

/-- In a context without marks an address has a mark if and only if the path has one. -/
theorem IsUnmarked.address (hcontext : context.IsUnmarked) (trace : Trace) (link : Resolved) :
    HasMark (context.address trace link).1 ↔ HasMark link.path := by
  rw [hasMark_pathSegments link.path, Context.address]
  cases hsegments : pathSegments link.path with
  | nil => rw [hasMark_pathSegments, hsegments]
  | cons first rest =>
      rw [List.exists_mem_cons_iff]
      simp only
      split
      · next hstd =>
        have hfirst : ¬HasMark first := by
          have hcrates : ∀ crate ∈ ["std", "core", "alloc"], ¬HasMark crate := by decide
          exact hcrates first (of_decide_eq_true hstd)
        rw [hasMark_stdAddress, or_iff_right hfirst]
      · have htarget := hcontext.targetOf first
        rw [(context.target_eq trace first).1]
        cases rest with
        | nil => simp [hasMark_crateAddress, htarget]
        | cons next others =>
            rw [if_neg (by simp), hasMark_docsAddress _ _ _ (List.cons_ne_nil _ _),
              context.libName_targetOf, hasMark_libNameOf, htarget, ← or_assoc, or_self]

/-- The mark of a raw identifier in a reference is found again in the address, and nothing else puts
one there. -/
theorem IsUnmarked.resolve (hcontext : context.IsUnmarked) (trace : Trace) {raw : String}
    {route : Reference.Route} {kind : Option SymbolKind}
    (hread : Reference.parse? (String.ofList (Text.Percent.decode raw.toList)) =
      some ⟨String.ofList route.text, kind⟩) :
    HasMark (context.resolve trace raw).1 ↔ ∃ ident ∈ route.idents, ident.isRaw := by
  have hlib : ¬HasMark context.libName := by
    rw [libName, hasMark_libNameOf]
    exact hcontext.crate
  rw [Context.resolve, hread]
  simp only
  rw [hcontext.address, Scope.resolve_path, hcontext.scope.follow hlib, route.referencePath_text,
    route.hasMark_text]

end Context

/-! ### Spellings of a source and of a reference -/

def Context.withNodes (context : Context) (edition : Option String) (nodes : List Source.Node) :
    Context :=
  { context with scope := Scope.build context.libName edition nodes }

/-- Without marks in the known names, a reference leads to the same address as the one with its
identifiers written without marks exactly if it has no marks itself. -/
theorem Context.IsUnmarked.fst_resolve_eq_iff {context : Context} (hcontext : context.IsUnmarked)
    (trace : Trace) {raw plain : String} {route : Reference.Route} {kind : Option SymbolKind}
    (hraw : Reference.parse? (String.ofList (Text.Percent.decode raw.toList)) =
      some ⟨String.ofList route.text, kind⟩)
    (hplain : Reference.parse? (String.ofList (Text.Percent.decode plain.toList)) =
      some ⟨String.ofList route.unmarked.text, kind⟩) :
    (context.resolve trace raw).1 = (context.resolve trace plain).1 ↔
      ∀ ident ∈ route.idents, ident.isRaw = false := by
  constructor
  · intro heq ident hmem
    rw [Bool.eq_false_iff]
    intro hident
    have hmark := (hcontext.resolve trace hraw).mpr ⟨ident, hmem, hident⟩
    rw [heq] at hmark
    obtain ⟨other, hother, hmarked⟩ := (hcontext.resolve trace hplain).mp hmark
    rw [route.not_isRaw_of_mem_unmarked hother] at hmarked
    cases hmarked
  · intro hroute
    rw [route.unmarked_eq_self hroute] at hplain
    rw [Context.resolve, hraw, Context.resolve, hplain]

/-- A name of a source may be written as a raw identifier without any effect on links: the source is
read, with the same documentation, and every reference leads to the same address and leaves the same
behind. But a reference may not: where no known name has a mark, the address stays the same exactly
if no identifier of the reference is written as a raw one. -/
theorem resolve_rawNames (context : Context) (trace : Trace) :
    (∀ (code : String) (tokens : List Source.Token) (token : Source.Token),
      Source.tokenize code.toList = .ok tokens → Source.IsName code.toList tokens token →
      ∃ unit other, Source.read code = .ok unit ∧
        Source.read (String.ofList (Source.writeRaw token.start code.toList)) = .ok other ∧
        other.docs = unit.docs ∧
        ∀ edition raw, (context.withNodes edition other.nodes).resolve trace raw =
          (context.withNodes edition unit.nodes).resolve trace raw) ∧
    (context.IsUnmarked → ∀ raw plain (route : Reference.Route) kind,
      Reference.parse? (String.ofList (Text.Percent.decode raw.toList)) =
        some ⟨String.ofList route.text, kind⟩ →
      Reference.parse? (String.ofList (Text.Percent.decode plain.toList)) =
        some ⟨String.ofList route.unmarked.text, kind⟩ →
      ((context.resolve trace raw).1 = (context.resolve trace plain).1 ↔
        ∀ ident ∈ route.idents, ident.isRaw = false)) := by
  constructor
  · intro code tokens token htokens hname
    obtain ⟨unit, other, hunit, hother, hdocs, hnodes, -⟩ :=
      Source.exists_units_of_writeRaw htokens hname
    refine ⟨unit, other, hunit, hother, hdocs, fun edition raw => ?_⟩
    rw [Context.withNodes, Context.withNodes, Scope.build_eq_of_withSpan hnodes]
  · intro hcontext raw plain route kind hraw hplain
    exact hcontext.fst_resolve_eq_iff trace hraw hplain

/-- The name of a structure is written as a raw identifier, in its declaration and in a reference to
it. -/
theorem resolve_rawNames_struct :
    let code := "pub struct Thing;\n"
    let context : Context :=
      { contextOf [] with scope := Scope.bind {} "Thing" .struct "::my_crate::Thing" }
    let trace : Trace := { snapshot := { schema := 1, template := [], docs := [] } }
    let route : Reference.Route := ⟨false, [⟨true, "Thing".toList, by decide⟩], by simp, .bare⟩
    (∃ tokens token, Source.tokenize code.toList = .ok tokens ∧ token.start = 11 ∧
      Source.IsName code.toList tokens token ∧
      ∃ unit other, Source.read code = .ok unit ∧
        Source.read (String.ofList (Source.writeRaw token.start code.toList)) = .ok other ∧
        other.docs = unit.docs ∧
        ∀ edition raw, (context.withNodes edition other.nodes).resolve trace raw =
          (context.withNodes edition unit.nodes).resolve trace raw) ∧
      context.IsUnmarked ∧
        Reference.parse? (String.ofList (Text.Percent.decode "r#Thing".toList)) =
          some ⟨String.ofList route.text, none⟩ ∧
        Reference.parse? (String.ofList (Text.Percent.decode "Thing".toList)) =
          some ⟨String.ofList route.unmarked.text, none⟩ ∧
        ((context.resolve trace "r#Thing").1 = (context.resolve trace "Thing").1 ↔
          ∀ ident ∈ route.idents, ident.isRaw = false) := by
  intro code context trace route
  have hfound : (Source.tokenize code.toList).toOption.map (fun tokens =>
      tokens.any fun token => token.start = 11 ∧ Source.IsName code.toList tokens token) =
      some true := by
    unfold code
    decide +kernel
  have hcontext : context.IsUnmarked := by
    refine ⟨by decide, by simp [context, contextOf], by decide, ?_⟩
    change ∀ entry ∈ context.scope.entries, ∀ binding ∈ entry.2, ¬HasMark binding.path
    decide
  have hraw : Reference.parse? (String.ofList (Text.Percent.decode "r#Thing".toList)) =
      some ⟨String.ofList route.text, none⟩ := by
    unfold route
    decide +kernel
  have hplain : Reference.parse? (String.ofList (Text.Percent.decode "Thing".toList)) =
      some ⟨String.ofList route.unmarked.text, none⟩ := by
    unfold route
    decide +kernel
  have hboth := resolve_rawNames context trace
  refine ⟨?_, hcontext, hraw, hplain, hboth.2 hcontext _ _ route none hraw hplain⟩
  cases htokens : Source.tokenize code.toList with
  | error fault =>
      rw [htokens] at hfound
      cases hfound
  | ok tokens =>
      rw [htokens] at hfound
      obtain ⟨token, -, htoken⟩ := List.any_eq_true.mp (Option.some.inj hfound)
      obtain ⟨hstart, hname⟩ := of_decide_eq_true htoken
      exact ⟨tokens, token, rfl, hstart, hname, hboth.1 code tokens token htokens hname⟩

/-- A structure has a page of its own, but a reference that is written as a raw identifier leads to a
crate of its name instead. -/
theorem resolve_raw_reference_ne :
    ∃ unit, Source.read "pub struct Thing;\n" = .ok unit ∧
      ∀ trace other, ((contextOf unit.nodes).resolve trace "r#Thing").1 ≠
        ((contextOf unit.nodes).resolve other "Thing").1 := by
  let start : Trace := { snapshot := { schema := 1, template := [], docs := [] } }
  have haddresses : (Source.read "pub struct Thing;\n").toOption.map (fun unit =>
      (((contextOf unit.nodes).resolve start "r#Thing").1,
        ((contextOf unit.nodes).resolve start "Thing").1)) =
      some ("https://crates.io/crates/r#Thing",
        "https://docs.rs/my-crate/1.2.3/my_crate/struct.Thing.html") := by
    unfold start
    decide +kernel
  cases hread : Source.read "pub struct Thing;\n" with
  | error fault =>
      rw [hread] at haddresses
      cases haddresses
  | ok unit =>
      rw [hread] at haddresses
      obtain ⟨hraw, hplain⟩ := Prod.mk.inj (Option.some.inj haddresses)
      refine ⟨unit, rfl, fun trace other => ?_⟩
      rw [Context.fst_resolve_eq _ trace start, hraw, Context.fst_resolve_eq _ other start, hplain]
      decide

end Link

end CrateReadme
