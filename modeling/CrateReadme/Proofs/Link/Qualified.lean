import CrateReadme.Proofs.Link.Reference
import CrateReadme.Proofs.Link.Trace
import CrateReadme.Proofs.Scope.Kinds
import CrateReadme.Proofs.Text.Utf8
import CrateReadme.Source.Outline

/-!
# References with and without the crate root

An item of the crate may be referred to by its name, or by its path below the word `crate`. Both
lead to the same path, but they find the kind of the item in different places: the name takes that
of its front candidate, which is the latest, and the path that of its first declaration.
-/

namespace CrateReadme

variable {name : String} {kind : SymbolKind}

theorem isSegment_of_isSourceIdent (hident : Reference.isSourceIdent name.toList) :
    Path.IsSegment name := by
  refine ⟨?_, Reference.colon_not_mem hident⟩
  rintro rfl
  cases hident

namespace Scope

variable {scope : Scope} {crate : String}

/-- A name that is declared in the crate root resolves to its path and its kind. -/
theorem resolve_ident (hident : Reference.isSourceIdent name.toList)
    (hroot : Path.isRootWord name = false)
    (hfront : scope.front? name = some ⟨kind, Path.ofItem crate name⟩) :
    scope.resolve crate name none = { path := Path.ofItem crate name, kind := some kind } := by
  have hparts : ∀ c ∈ name.toList, Reference.isPathPart c := fun c hmem =>
    Reference.isPathPart_of_isWordPart (Reference.isWordPart_of_mem hident hmem)
  have hsegment := isSegment_of_isSourceIdent hident
  have hpath : String.ofList (Path.withoutGenerics (Text.strip name.toList)) = name := by
    rw [Reference.strip_eq_self_of_isPathPart hparts, Reference.withoutGenerics_eq_self hparts,
      String.ofList_toList]
  have hfollow : scope.follow crate maxReplacements
      (String.ofList (Path.withoutGenerics (Text.strip name.toList))) none =
        { path := Path.ofItem crate name, kind := some kind } := by
    rw [hpath, follow_eq, hsegment.not_isAbsolute, if_neg Bool.false_ne_true, hsegment.parts]
    simp only [hroot, hfront, Path.ofParts_singleton, isAbsolute_ofItem, List.isEmpty_nil,
      Bool.false_eq_true, if_false, if_true]
  rw [resolve_of_follow hfollow]

/-- A name behind `crate` resolves to its path and the kind that is known for that path. -/
theorem resolve_qualified (hident : Reference.isSourceIdent name.toList) :
    scope.resolve crate (Reference.qualified name) none =
      { path := Path.ofItem crate name, kind := scope.kindOfPath? (Path.ofItem crate name) } := by
  have hparts := Reference.isPathPart_qualified hident
  have hpath : String.ofList
      (Path.withoutGenerics (Text.strip (Reference.qualified name).toList)) =
        Reference.qualified name := by
    rw [Reference.strip_eq_self_of_isPathPart hparts, Reference.withoutGenerics_eq_self hparts,
      String.ofList_toList]
  have hcrate : Path.IsSegment "crate" := by decide
  have hrelative : Path.isAbsolute (Reference.qualified name) = false := by
    rw [Reference.qualified, String.append_assoc,
      Path.isAbsolute_append hcrate.1 hcrate.endsPlain, hcrate.not_isAbsolute]
  have hsplit : Path.parts (Reference.qualified name) = ["crate", name] := by
    rw [Reference.qualified, Path.parts_append_separator hcrate.endsPlain, hcrate.parts,
      (isSegment_of_isSourceIdent hident).parts]
    rfl
  have hitem : Path.ofParts [Path.separator ++ crate, name] = Path.ofItem crate name := by
    rw [Path.ofParts_cons _ (List.cons_ne_nil _ _), Path.ofParts_singleton, Path.ofItem]
  have hfollow : scope.follow crate maxReplacements
      (String.ofList (Path.withoutGenerics (Text.strip (Reference.qualified name).toList))) none =
        { path := Path.ofItem crate name, kind := none } := by
    rw [hpath, follow_eq, hrelative, if_neg Bool.false_ne_true, hsplit]
    simp only [show Path.isRootWord "crate" = true from rfl, if_true, hitem]
  rw [resolve_of_follow hfollow]
  simp only [isAbsolute_ofItem, if_true]

end Scope

namespace Link

open Source

/-- Whether the items of a kind have pages of their own at the root of a crate. In the standard
library only primitive types and macros have. -/
def hasRootPage (crate : String) (kind : SymbolKind) : Bool :=
  !isStd crate || kind = .primitive || kind = .textMacro

/-- The page of an item at the root of a crate, if it has one of its own. -/
def rootPage? (crate name : String) (kind : Option SymbolKind) : Option String :=
  kind.bind fun kind => if hasRootPage crate kind then pageName? kind name else none

/-- Where the documentation of the crate itself begins. -/
def Context.root (context : Context) : String :=
  if isStd context.libName then
    "https://doc.rust-lang.org/stable/std" ++ "/"
  else
    "https://docs.rs/" ++ context.crate ++ "/" ++ context.version.render ++ "/" ++
      context.libName ++ "/"

theorem pathSegments_ofItem {crate : String} (hcrate : Path.IsSegment crate)
    (hident : Reference.isSourceIdent name.toList) :
    pathSegments (Path.ofItem crate name) = [crate, name] := by
  have hname := isSegment_of_isSourceIdent hident
  have hsegments : Path.segments (Path.ofItem crate name) = [crate, name] := by
    have hparts := Path.parts_ofItem hcrate hname
    rw [Path.ofItem, String.append_assoc, String.append_assoc, Path.parts_separator_append,
      List.cons.injEq] at hparts
    have hafter : Text.after? [':', ':'] (Path.ofItem crate name).toList =
        some (crate ++ (Path.separator ++ name)).toList := by
      rw [Text.after?_eq_some_iff, Path.ofItem, String.append_assoc, String.append_assoc,
        String.toList_append, Path.toList_separator]
    rw [Path.segments, hafter]
    simp only [String.ofList_toList, hparts.2]
  have hkeep : ([crate, name].filter (· ≠ "")) = [crate, name] := by
    rw [List.filter_eq_self]
    intro segment hmem
    rcases List.mem_pair.mp hmem with rfl | rfl
    · exact decide_eq_true hcrate.1
    · exact decide_eq_true hname.1
  have hcall := (Reference.withoutCall_eq_self fun c hmem =>
    Reference.isPathPart_of_isWordPart (Reference.isWordPart_of_mem hident hmem)).1
  rw [pathSegments, hsegments]
  simp only [hkeep, List.getLast?_cons_cons, List.getLast?_singleton, hcall, String.ofList_toList]
  rfl

theorem stdAddress_singleton {crate : String} (hstd : isStd crate) (name : String)
    (kind : Option SymbolKind) :
    stdAddress [name] kind = "https://doc.rust-lang.org/stable/std" ++ "/" ++
      (rootPage? crate name kind).getD ("?search=" ++ name) := by
  have hsearch : "/?search=" = "/" ++ "?search=" := by decide
  have hprimitive : "/primitive." = "/" ++ "primitive." := by decide
  have hmacro : "/macro." = "/" ++ "macro." := by decide
  have hpage {kind : SymbolKind} (hkind : hasRootPage crate kind) :
      rootPage? crate name (some kind) = pageName? kind name := if_pos hkind
  unfold stdAddress
  simp only
  split
  · next heq =>
    cases heq
    rw [hpage (by simp [hasRootPage]), hprimitive]
    simp only [pageName?, Option.getD_some, String.append_assoc]
  · next heq =>
    cases heq
    rw [hpage (by simp [hasRootPage]), hmacro]
    simp only [pageName?, Option.getD_some, String.append_assoc]
  · next heq => cases heq
  · next kind _ _ _ hnotPrimitive hnotMacro =>
    have hnone : rootPage? crate name kind = none := by
      cases kind with
      | none => rfl
      | some kind =>
          refine if_neg ?_
          have hprimitive : kind ≠ .primitive := by
            rintro rfl
            exact hnotPrimitive name rfl rfl
          have hmacro : kind ≠ .textMacro := by
            rintro rfl
            exact hnotMacro name rfl rfl
          simp [hasRootPage, hstd, hprimitive, hmacro]
    rw [hsearch, hnone, Path.ofParts_singleton, Option.getD_none]
    simp only [String.append_assoc]

/-- The address of an item at the root of the crate: its page, or a search for its name. -/
theorem address_ofItem (context : Context) (trace : Trace) (hcrate : Path.IsSegment context.libName)
    (hident : Reference.isSourceIdent name.toList) (kind : Option SymbolKind) :
    (context.address trace { path := Path.ofItem context.libName name, kind }).1 =
      context.root ++ (rootPage? context.libName name kind).getD ("?search=" ++ name) := by
  rw [Context.address, pathSegments_ofItem hcrate hident]
  simp only [Context.root]
  by_cases hstd : isStd context.libName
  · simp only [if_pos hstd]
    exact stdAddress_singleton hstd name kind
  · have htarget : (context.target trace context.libName).1 =
        ⟨context.crate, some context.version, context.libName⟩ := by
      rw [Context.target, Context.target?, if_pos (by simp)]
    have hpage : rootPage? context.libName name kind =
        kind.bind fun kind => pageName? kind name := by
      simp [rootPage?, hasRootPage, hstd]
    simp only [if_neg hstd, htarget, List.isEmpty_cons, Bool.false_eq_true, if_false]
    rw [docsAddress, hpage]
    simp only [List.getLast?_singleton, Option.getD_some, List.dropLast_singleton, List.map_nil,
      Option.map_some, Path.ofParts_singleton]
    cases kind.bind fun kind => pageName? kind name with
    | none => exact String.append_assoc
    | some page => exact congrArg (· ++ page) (String.append_empty)

/-- No page is a search. -/
theorem rootPage?_ne_search (hident : Reference.isSourceIdent name.toList) {crate page : String}
    {kind : Option SymbolKind} (hpage : rootPage? crate name kind = some page) :
    page ≠ "?search=" ++ name := by
  have hhead {front : String} {c : Char} (hfront : front.toList.head? = some c) (hc : c ≠ '?')
      (back : String) : front ++ back ≠ "?search=" ++ name := by
    intro hsame
    have hlists := congrArg (fun text : String => text.toList.head?) hsame
    simp only [String.toList_append, List.head?_append, hfront, Option.some_or] at hlists
    exact hc (Option.some.inj hlists)
  have hmarked {front : String} {c : Char} (hfront : front.toList.head? = some c) (hc : c ≠ '?') :
      front ++ name ++ ".html" ≠ "?search=" ++ name := by
    rw [String.append_assoc]
    exact hhead hfront hc _
  cases kind with
  | none => cases hpage
  | some kind =>
      rw [rootPage?, Option.bind_some] at hpage
      split at hpage
      · cases kind with
        | moduleItem =>
            cases hpage
            match hname : name.toList, hident with
            | c :: rest, hident =>
                rw [Reference.isSourceIdent, Bool.and_eq_true] at hident
                refine hhead (c := c) (by rw [hname]; rfl) ?_ _
                rintro rfl
                exact absurd hident.1 (by decide)
        | attributeMacro | constant | deriveMacro | enumeration | textMacro | primitive
        | staticItem | struct | trait | typeAlias =>
            cases hpage
            exact hmarked rfl (by decide)
        | _ => cases hpage
      · cases hpage

/-- Whether two kinds of an item lead to one address is seen in its pages. -/
theorem getD_rootPage?_inj (hident : Reference.isSourceIdent name.toList) {crate : String}
    {kind other : Option SymbolKind} :
    (rootPage? crate name kind).getD ("?search=" ++ name) =
        (rootPage? crate name other).getD ("?search=" ++ name) ↔
      rootPage? crate name kind = rootPage? crate name other := by
  constructor
  · intro hsame
    cases hpage : rootPage? crate name kind with
    | none =>
        cases hother : rootPage? crate name other with
        | none => rfl
        | some page =>
            rw [hpage, hother] at hsame
            exact absurd hsame.symm (rootPage?_ne_search hident hother)
    | some page =>
        cases hother : rootPage? crate name other with
        | none =>
            rw [hpage, hother] at hsame
            exact absurd hsame (rootPage?_ne_search hident hpage)
        | some otherPage =>
            rw [hpage, hother] at hsame
            exact congrArg some hsame
  · intro hsame
    rw [hsame]

/-- A path of words is taken as it stands. -/
theorem Context.resolve_of_isPathPart (context : Context) (trace : Trace) {raw : String}
    (hraw : ∀ c ∈ raw.toList, Reference.isPathPart c) :
    (context.resolve trace raw).1 =
      match Reference.parse? raw with
      | none => raw
      | some reference =>
        (context.address trace
          (context.scope.resolve context.libName reference.path reference.kind)).1 := by
  have hpercent : '%' ∉ raw.toList := Reference.not_mem_of_isPathPart hraw (by decide)
  rw [Context.resolve, Text.Percent.decode_eq_self hpercent, String.ofList_toList]
  cases Reference.parse? raw with
  | none => rfl
  | some reference => exact context.fst_address_eq _ trace _

section Root

variable {context : Context} (hcrate : Path.IsSegment context.libName)
  (hident : Reference.isSourceIdent name.toList)
include hcrate hident

/-- The address that the name of an item leads to, by the kind of its front candidate. -/
theorem fst_resolve_ident (hplain : Reference.isPlainIdent name.toList)
    (hroot : Path.isRootWord name = false)
    (hfront : context.scope.front? name = some ⟨kind, Path.ofItem context.libName name⟩)
    (trace : Trace) :
    (context.resolve trace name).1 =
      context.root ++ (rootPage? context.libName name (some kind)).getD ("?search=" ++ name) := by
  have hparts : ∀ c ∈ name.toList, Reference.isPathPart c := fun c hmem =>
    Reference.isPathPart_of_isWordPart (Reference.isWordPart_of_mem hident hmem)
  rw [Context.resolve_of_isPathPart context trace hparts, Reference.parse?_ident hident,
    if_pos hplain]
  simp only
  rw [Scope.resolve_ident hident hroot hfront, address_ofItem context trace hcrate hident]

/-- The address that the path of an item below the crate root leads to, by the kind that was
declared for it. -/
theorem fst_resolve_qualified (hplain : Reference.isPlainIdent name.toList) (trace : Trace) :
    (context.resolve trace (Reference.qualified name)).1 =
      context.root ++ (rootPage? context.libName name
        (context.scope.kindOfPath? (Path.ofItem context.libName name))).getD
          ("?search=" ++ name) := by
  rw [Context.resolve_of_isPathPart context trace (Reference.isPathPart_qualified hident),
    Reference.parse?_qualified hident, if_pos hplain]
  simp only
  rw [Scope.resolve_qualified hident, address_ofItem context trace hcrate hident]

end Root

/-- A name and its path below the crate root lead to the same address exactly if the name is an
ASCII identifier and the kind of its front candidate has the same page as that of its first
declaration. A name outside ASCII is no reference, and both spellings stay as they are. -/
theorem resolve_eq_resolve_qualified_iff {context : Context} {edition : Option String}
    {nodes : List Node} (hscope : context.scope = Scope.build context.libName edition nodes)
    (hcrate : Path.IsSegment context.libName)
    (hident : Reference.isSourceIdent name.toList) (hroot : Path.isRootWord name = false)
    (hfront : context.scope.front? name = some ⟨kind, Path.ofItem context.libName name⟩)
    (trace other : Trace) :
    (context.resolve trace name).1 = (context.resolve other (Reference.qualified name)).1 ↔
      Reference.isPlainIdent name.toList ∧
        rootPage? context.libName name (some kind) =
          rootPage? context.libName name (Scope.firstKind? context.libName edition nodes
            (Path.ofItem context.libName name)) := by
  by_cases hplain : Reference.isPlainIdent name.toList
  · rw [fst_resolve_ident hcrate hident hplain hroot hfront,
      fst_resolve_qualified hcrate hident hplain, String.append_right_inj,
      getD_rootPage?_inj hident, hscope, Scope.kindOfPath?_build]
    exact (and_iff_right hplain).symm
  · have hparts : ∀ c ∈ name.toList, Reference.isPathPart c := fun c hmem =>
      Reference.isPathPart_of_isWordPart (Reference.isWordPart_of_mem hident hmem)
    rw [Context.resolve_of_isPathPart context trace hparts,
      Context.resolve_of_isPathPart context other (Reference.isPathPart_qualified hident),
      Reference.parse?_ident hident, Reference.parse?_qualified hident]
    simp only [if_neg hplain]
    have hlonger : name ≠ Reference.qualified name := by
      intro hsame
      have hlength := congrArg (fun text : String => text.toList.length) hsame
      simp only [Reference.toList_qualified, List.length_append, List.length_cons] at hlength
      omega
    exact ⟨fun hsame => absurd hsame hlonger, fun hboth => absurd hboth.1 hplain⟩

theorem pre_spelled_none :
    ∀ tag ∈ (none : Option String), Version.allParts Version.isPrePart tag.toList := by
  simp

theorem build_spelled_none :
    ∀ tag ∈ (none : Option String), Version.allParts Version.isBuildPart tag.toList := by
  simp

/-- A package without dependencies that declares the given nodes. -/
def contextOf (nodes : List Node) : Context where
  crate := "my-crate"
  version := ⟨1, 2, 3, none, none, pre_spelled_none, build_spelled_none⟩
  scope := Scope.build "my_crate" none nodes
  dependencies := []

theorem libName_contextOf (nodes : List Node) : (contextOf nodes).libName = "my_crate" := by
  have hname : libNameOf "my-crate" = "my_crate" := by decide
  exact hname

theorem firstKind?_my_crate (nodes : List Node) {ident : String} (hident : Path.IsSegment ident) :
    Scope.firstKind? "my_crate" none nodes (Path.ofItem "my_crate" ident) =
      nodes.findSome? (Node.kindAt? "my_crate" (Path.ofItem "my_crate" ident)) := by
  rw [Scope.firstKind?, Scope.kindOfPath?_ofPrelude (by decide) hident (by decide), Option.none_or]

/-- The name and the path of a public structure lead to the same page. -/
theorem resolve_eq_resolve_qualified_iff_struct :
    let nodes : List Node :=
      [.item { kind := .struct, ident := "Widget", visibility := .everywhere }]
    let trace : Trace := { snapshot := { schema := 1, template := [], docs := [] } }
    ((contextOf nodes).resolve trace "Widget").1 =
      ((contextOf nodes).resolve trace (Reference.qualified "Widget")).1 := by
  intro nodes trace
  have hlib := libName_contextOf nodes
  have hscope : (contextOf nodes).scope = Scope.build (contextOf nodes).libName none nodes := by
    rw [hlib]
    rfl
  have hfront : (contextOf nodes).scope.front? "Widget" =
      some ⟨.struct, Path.ofItem "my_crate" "Widget"⟩ := by
    unfold nodes
    decide +kernel
  have hfirst : nodes.findSome? (Node.kindAt? "my_crate" (Path.ofItem "my_crate" "Widget")) =
      some .struct := by
    decide
  rw [← hlib] at hfront
  refine (resolve_eq_resolve_qualified_iff hscope (hlib ▸ by decide) (by decide) (by decide)
    hfront trace trace).mpr ⟨by decide, ?_⟩
  rw [hlib, firstKind?_my_crate nodes (by decide), hfirst]

/-- A module and a function of the same name: the name leads to a search for the function, the path
to the page of the module. -/
theorem resolve_ne_resolve_qualified_of_two_namespaces :
    ∃ unit, Source.read "pub mod shape \x7b\x7d\npub fn shape() \x7b\x7d\n" = .ok unit ∧
      (contextOf unit.nodes).scope.front? "shape" =
        some ⟨.function, Path.ofItem (contextOf unit.nodes).libName "shape"⟩ ∧
      ∀ trace other, ((contextOf unit.nodes).resolve trace "shape").1 ≠
        ((contextOf unit.nodes).resolve other (Reference.qualified "shape")).1 := by
  have hkinds : (Source.read "pub mod shape \x7b\x7d\npub fn shape() \x7b\x7d\n").toOption.map
      (fun unit => ((contextOf unit.nodes).scope.front? "shape",
        unit.nodes.findSome? (Node.kindAt? "my_crate" (Path.ofItem "my_crate" "shape")))) =
      some (some ⟨.function, Path.ofItem "my_crate" "shape"⟩, some .moduleItem) := by
    decide +kernel
  cases hread : Source.read "pub mod shape \x7b\x7d\npub fn shape() \x7b\x7d\n" with
  | error fault =>
      rw [hread] at hkinds
      cases hkinds
  | ok unit =>
      rw [hread] at hkinds
      obtain ⟨hfront, hfirst⟩ := Prod.mk.inj (Option.some.inj hkinds)
      have hlib := libName_contextOf unit.nodes
      have hcrate : Path.IsSegment (contextOf unit.nodes).libName := hlib ▸ by decide
      have hkind : (contextOf unit.nodes).scope.kindOfPath? (Path.ofItem "my_crate" "shape") =
          some .moduleItem := by
        rw [contextOf, Scope.kindOfPath?_build, firstKind?_my_crate unit.nodes (by decide), hfirst]
      rw [← hlib] at hfront hkind
      refine ⟨unit, rfl, hfront, fun trace other => ?_⟩
      rw [fst_resolve_ident hcrate (by decide) (by decide) (by decide) hfront,
        fst_resolve_qualified hcrate (by decide) (by decide), hkind, hlib, Ne,
        String.append_right_inj, getD_rootPage?_inj (by decide)]
      decide

end Link

end CrateReadme
