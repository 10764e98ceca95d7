import CrateReadme.Proofs.Link.Trace
import CrateReadme.Proofs.Snapshot.Order

/-!
# Links made one after the other

Making links carries a snapshot, the unknown crates and the reports from one link to the next, but
none of it comes back into an address. What is carried depends on the crate segments of the links
alone: the snapshot records the crates they mean, and every unknown segment is reported at its first
use. Unless versions of equal precedence are written in different ways, the token at the end does
not depend on the order of the links either.
-/

namespace CrateReadme

/-! ## Order of the links in a snapshot -/

namespace Snapshot

/-- No two links to one crate have versions of equal precedence that are written differently. -/
def HasNoTies (targets : List Link.Target) : Prop :=
  ∀ first ∈ targets, ∀ second ∈ targets, first.crate = second.crate →
    ∀ version ∈ first.version, ∀ other ∈ second.version,
      version.precedence other = .eq → version.render = other.render

instance (targets : List Link.Target) : Decidable (HasNoTies targets) :=
  inferInstanceAs (Decidable (∀ first ∈ targets, ∀ second ∈ targets, first.crate = second.crate →
    ∀ version ∈ first.version, ∀ other ∈ second.version,
      version.precedence other = .eq → version.render = other.render))

/-- Links without such versions are recorded alike wherever they tie. -/
theorem HasNoTies.alike {targets : List Link.Target} (hties : HasNoTies targets)
    (hlib : ∀ target ∈ targets, target.libName = libNameOf target.crate)
    {left right : Link.Target} (htie : Tie targets left right) : Alike left right := by
  refine ⟨?_, by rw [hlib _ htie.left_mem, hlib _ htie.right_mem, htie.crate_eq]⟩
  have hspelled := hties left htie.left_mem right htie.right_mem htie.crate_eq
  have hsame := htie.version_eq
  cases hversion : left.version with
  | none =>
      cases hother : right.version with
      | none => rfl
      | some other =>
          rw [hversion, hother] at hsame
          cases hsame
  | some version =>
      cases hother : right.version with
      | none =>
          rw [hversion, hother] at hsame
          cases hsame
      | some other =>
          rw [hversion, hother] at hsame
          have hequal : version.precedence other = .eq := by
            rw [Version.precedence_eq_order]
            exact hsame
          exact congrArg some (hspelled version hversion other hother hequal)

end Snapshot

/-! ## Crate segments -/

namespace Link.Context

/-- The segments of the path that a link destination resolves to, if it is a reference. -/
def segments? (context : Context) (raw : String) : Option (List String) := do
  let reference ← Reference.parse? (String.ofList (Text.Percent.decode raw.toList))
  return pathSegments (context.scope.resolve context.libName reference.path reference.kind).path

/-- The segment that names the crate of a link destination, if it is a reference outside the
standard library. -/
def crateSegment? (context : Context) (raw : String) : Option String :=
  match context.segments? raw with
  | some (first :: _) => if isStd first then none else some first
  | _ => none

/-- The crate segments of several link destinations, in their order. -/
def crateSegments (context : Context) (raws : List String) : List String :=
  raws.filterMap context.crateSegment?

/-- The crate segments that name neither the package nor a dependency. -/
def unknownOf (context : Context) (segments : List String) : List String :=
  segments.filter fun first => (context.target? first).isNone

/-- What a name reaches is the target of the crate at the head of its path. -/
theorem reached?_eq (context : Context) (raw : String) :
    context.reached? raw = (context.crateSegment? raw).map context.targetOf := by
  rw [reached?, crateSegment?, segments?]
  cases Reference.parse? (String.ofList (Text.Percent.decode raw.toList)) with
  | none => rfl
  | some reference =>
      simp only [Option.bind_eq_bind, Option.bind_some, Option.pure_def]
      cases pathSegments (context.scope.resolve context.libName reference.path
          reference.kind).path with
      | nil => rfl
      | cons first rest =>
          simp only
          split
          · rfl
          · rfl

theorem reached_eq (context : Context) (raws : List String) :
    context.reached raws = (context.crateSegments raws).map context.targetOf := by
  rw [reached, crateSegments, List.map_filterMap, funext context.reached?_eq]

/-- The addresses are those that every link has by itself. -/
theorem fst_resolveAll (context : Context) (start other : Trace) (raws : List String) :
    (context.resolveAll start raws).1 = raws.map fun raw => (context.resolve other raw).1 := by
  induction raws generalizing start with
  | nil => rfl
  | cons raw raws ih =>
      rw [resolveAll, List.map_cons, ← ih (context.resolve start raw).2,
        context.fst_resolve_eq other start]

/-! ## Reports -/

/-- The unknown ones of the crate segments met so far have been reported, each at its first use. -/
structure HasReported (context : Context) (log : List Diagnostic) (segments : List String)
    (trace : Trace) : Prop where
  unknown : trace.unknown = (context.unknownOf segments).eraseDups
  diagnostics : trace.diagnostics = log ++ (context.unknownOf segments).eraseDups.map .unknownCrate

section Reports

variable {context : Context} {log : List Diagnostic} {segments : List String} {trace : Trace}

theorem HasReported.of_eq (hreported : HasReported context log segments trace) {other : Trace}
    (hunknown : other.unknown = trace.unknown)
    (hdiagnostics : other.diagnostics = trace.diagnostics) :
    HasReported context log segments other :=
  ⟨hunknown.trans hreported.unknown, hdiagnostics.trans hreported.diagnostics⟩

/-- Reports stay complete when a segment is looked up. -/
theorem HasReported.target (hreported : HasReported context log segments trace) (first : String) :
    HasReported context log (segments ++ [first]) (context.target trace first).2 := by
  have happend : context.unknownOf (segments ++ [first]) =
      context.unknownOf segments ++ context.unknownOf [first] := List.filter_append ..
  rw [Context.target]
  cases htarget : context.target? first with
  | some target =>
      have hsame : context.unknownOf (segments ++ [first]) = context.unknownOf segments := by
        rw [happend, unknownOf, unknownOf, List.filter_singleton, htarget]
        exact List.append_nil _
      constructor
      · rw [hsame]
        exact hreported.unknown
      · rw [hsame]
        exact hreported.diagnostics
  | none =>
      have hnew : context.unknownOf (segments ++ [first]) =
          context.unknownOf segments ++ [first] := by
        rw [happend, unknownOf, unknownOf, List.filter_singleton, htarget]
        rfl
      have hmem : first ∈ trace.unknown ↔ first ∈ context.unknownOf segments := by
        rw [hreported.unknown, List.mem_eraseDups]
      by_cases hold : first ∈ context.unknownOf segments
      · simp only [if_pos (hmem.mpr hold)]
        constructor
        · rw [hnew, Snapshot.eraseDups_append_singleton, if_pos hold, List.append_nil]
          exact hreported.unknown
        · rw [hnew, Snapshot.eraseDups_append_singleton, if_pos hold, List.append_nil]
          exact hreported.diagnostics
      · simp only [if_neg (mt hmem.mp hold)]
        constructor
        · rw [hnew, Snapshot.eraseDups_append_singleton, if_neg hold, ← hreported.unknown]
        · rw [hnew, Snapshot.eraseDups_append_singleton, if_neg hold, List.map_append,
            ← List.append_assoc, ← hreported.diagnostics]
          rfl

/-- Reports stay complete when a name is resolved. -/
theorem HasReported.resolve (hreported : HasReported context log segments trace) (raw : String) :
    HasReported context log (segments ++ (context.crateSegment? raw).toList)
      (context.resolve trace raw).2 := by
  have hnone : HasReported context log (segments ++ (none : Option String).toList) trace := by
    rwa [Option.toList_none, List.append_nil]
  rw [crateSegment?, segments?, Context.resolve]
  cases Reference.parse? (String.ofList (Text.Percent.decode raw.toList)) with
  | none => exact hnone
  | some reference =>
      simp only [Option.bind_eq_bind, Option.bind_some, Option.pure_def, address]
      cases pathSegments (context.scope.resolve context.libName reference.path
          reference.kind).path with
      | nil => exact hnone.of_eq rfl rfl
      | cons first rest =>
          simp only
          by_cases hstd : isStd first
          · rw [if_pos hstd, if_pos hstd]
            exact hnone.of_eq rfl rfl
          · rw [if_neg hstd, if_neg hstd]
            refine HasReported.of_eq (HasReported.target ?_ first) rfl rfl
            exact hreported.of_eq rfl rfl

/-- Reports are complete after a whole page of names. -/
theorem HasReported.resolveAll (hreported : HasReported context log segments trace)
    (raws : List String) :
    HasReported context log (segments ++ context.crateSegments raws)
      (context.resolveAll trace raws).2 := by
  induction raws generalizing segments trace with
  | nil =>
      rw [crateSegments, List.filterMap_nil, List.append_nil]
      exact hreported
  | cons raw raws ih =>
      have hrest := ih (hreported.resolve raw)
      rw [List.append_assoc] at hrest
      rw [Context.resolveAll]
      cases hsegment : context.crateSegment? raw with
      | none =>
          rw [crateSegments, List.filterMap_cons_none hsegment]
          rwa [hsegment] at hrest
      | some segment =>
          rw [crateSegments, List.filterMap_cons_some hsegment]
          rwa [hsegment] at hrest

end Reports

/-! ## Whole runs -/

theorem snapshot_resolve_of_segments? {context : Context} {raw : String}
    (hsegments : context.segments? raw = none ∨
      ∃ first rest, context.segments? raw = some (first :: rest) ∧ isStd first) (trace : Trace) :
    (context.resolve trace raw).2.snapshot = trace.snapshot := by
  have hnone : context.crateSegment? raw = none := by
    rw [crateSegment?]
    rcases hsegments with hnone | ⟨first, rest, hsome, hstd⟩
    · rw [hnone]
    · rw [hsome]
      exact if_pos hstd
  rw [snapshot_resolve, reached?_eq, hnone]
  rfl

theorem mem_reached_iff_of_same {context : Context} {raws others : List String}
    (hsame : ∀ raw, raw ∈ others ↔ raw ∈ raws) (target : Target) :
    target ∈ context.reached others ↔ target ∈ context.reached raws := by
  rw [reached, reached, List.mem_filterMap, List.mem_filterMap]
  simp only [hsame]

/-- What making links one after the other comes to. Every address is the one that the link has by
itself, whatever was there before it. The snapshot names the crates of the crate segments, in the
order of their first links; a destination that is no reference or leads into the standard library
changes nothing. Every unknown crate segment is reported once, at its first use. Without ties the
token is the same for all lists of the same links, in any order and with any repetitions. -/
theorem resolveAll_run (context : Context) (template docs : String) (log : List Diagnostic)
    (raws : List String) :
    let start : Trace := { snapshot := .start template docs, diagnostics := log }
    let run := context.resolveAll start raws
    (∀ trace, run.1 = raws.map fun raw => (context.resolve trace raw).1) ∧
    (run.2.snapshot.names =
        ((context.crateSegments raws).map fun first => (context.targetOf first).crate).eraseDups ∧
      ∀ raw, (context.segments? raw = none ∨
          ∃ first rest, context.segments? raw = some (first :: rest) ∧ isStd first) →
        ∀ trace, (context.resolve trace raw).2.snapshot = trace.snapshot) ∧
    run.2.diagnostics =
      log ++ (context.unknownOf (context.crateSegments raws)).eraseDups.map .unknownCrate ∧
    ∀ others, (∀ raw, raw ∈ others ↔ raw ∈ raws) →
      Snapshot.HasNoTies (context.reached raws) →
        (context.resolveAll start others).2.snapshot.token = run.2.snapshot.token := by
  intro start run
  refine ⟨fun trace => context.fst_resolveAll start trace raws, ⟨?_, ?_⟩, ?_, ?_⟩
  · rw [snapshot_resolveAll, Snapshot.names_record rfl, reached_eq, List.map_map]
    rfl
  · intro raw hsegments trace
    exact snapshot_resolve_of_segments? hsegments trace
  · have hstart : HasReported context log [] start := ⟨rfl, (List.append_nil log).symm⟩
    exact (hstart.resolveAll raws).diagnostics
  · intro others hsame hties
    rw [snapshot_resolveAll, snapshot_resolveAll]
    exact Snapshot.token_record_eq rfl (mem_reached_iff_of_same hsame) fun _ _ =>
      hties.alike fun _ => libName_of_mem_reached

/-- A package that calls one crate by two names. -/
def twoNames : Context where
  crate := "my-crate"
  version := default
  scope := .empty
  dependencies := [
    { ident := "old", published := "serde-json", version := Version.ofText? "1.0.0+a" },
    { ident := "new", published := "serde-json", version := Version.ofText? "2.0.0" }]

/-- Two names of one crate with different versions, an unknown crate that is linked twice, and links
that lead to no crate. -/
theorem resolveAll_run_two_names :
    let start : Trace := { snapshot := .start "" "", diagnostics := [] }
    let raws := ["old::A", "other::A", "a.b", "std::vec", "new::A", "other::B"]
    let others := ["std::vec", "other::B", "new::A", "new::A", "old::A", "other::A", "a.b"]
    let run := twoNames.resolveAll start raws
    (∀ raw, raw ∈ others ↔ raw ∈ raws) ∧ Snapshot.HasNoTies (twoNames.reached raws) ∧
    (∀ trace, run.1 = raws.map fun raw => (twoNames.resolve trace raw).1) ∧
    run.2.snapshot.names = ["serde-json", "other"] ∧
    run.2.diagnostics = [.unknownCrate "other"] ∧
    (twoNames.resolveAll start others).2.snapshot.token = run.2.snapshot.token := by
  have hsegments : twoNames.crateSegments
      ["old::A", "other::A", "a.b", "std::vec", "new::A", "other::B"] =
        ["old", "other", "new", "other"] := by
    decide +kernel
  have hrun := twoNames.resolveAll_run "" "" []
    ["old::A", "other::A", "a.b", "std::vec", "new::A", "other::B"]
  rw [hsegments] at hrun
  dsimp only
  refine ⟨?same, ?ties, hrun.1, hrun.2.1.1, hrun.2.2.1, hrun.2.2.2 _ ?same ?ties⟩
  case same =>
    intro raw
    simp only [List.mem_cons, List.not_mem_nil, or_false]
    tauto
  case ties =>
    rw [reached_eq, hsegments]
    decide +kernel

end Link.Context

end CrateReadme
