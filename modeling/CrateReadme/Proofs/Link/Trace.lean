import CrateReadme.Link.Address
import CrateReadme.Proofs.Snapshot.Recording

/-!
# The crates that links lead to

Which crate a link destination leads to depends on the package and its dependencies, not on the
links before it. Making the addresses of several destinations records these crates, in the order of
the destinations, and nothing else.
-/

namespace CrateReadme.Link.Context

/-- The crate that the first segment of a path means. An unknown crate has no version. -/
def targetOf (context : Context) (first : String) : Target :=
  (context.target? first).getD ⟨first, none, libNameOf first⟩

/-- The crate that a link destination leads to, if it is a reference outside the standard
library. -/
def reached? (context : Context) (raw : String) : Option Target := do
  let reference ← Reference.parse? (String.ofList (Text.Percent.decode raw.toList))
  let link := context.scope.resolve context.libName reference.path reference.kind
  match pathSegments link.path with
  | [] => none
  | first :: _ => if isStd first then none else some (context.targetOf first)

/-- The crates that several link destinations lead to, in their order. -/
def reached (context : Context) (raws : List String) : List Target :=
  raws.filterMap context.reached?

/-- The library of a crate is called after the crate, however the crate was found. -/
theorem libName_targetOf (context : Context) (first : String) :
    (context.targetOf first).libName = libNameOf (context.targetOf first).crate := by
  rw [targetOf, target?]
  split
  · rfl
  · cases Dependency.find? context.dependencies first with
    | none => rfl
    | some dependency => rfl

theorem exists_first_of_reached? {context : Context} {raw : String} {target : Target}
    (hreached : context.reached? raw = some target) :
    ∃ first, target = context.targetOf first := by
  simp only [reached?, Option.bind_eq_bind, Option.bind_eq_some_iff] at hreached
  obtain ⟨reference, -, hfound⟩ := hreached
  split at hfound
  · cases hfound
  · split at hfound
    · cases hfound
    · cases hfound
      exact ⟨_, rfl⟩

theorem libName_of_mem_reached {context : Context} {raws : List String} {target : Target}
    (hmem : target ∈ context.reached raws) : target.libName = libNameOf target.crate := by
  obtain ⟨raw, -, hreached⟩ := List.mem_filterMap.mp hmem
  obtain ⟨first, rfl⟩ := exists_first_of_reached? hreached
  exact context.libName_targetOf first

theorem target_eq (context : Context) (trace : Trace) (first : String) :
    (context.target trace first).1 = context.targetOf first ∧
      (context.target trace first).2.snapshot = trace.snapshot := by
  rw [target, targetOf]
  cases context.target? first with
  | some target => exact ⟨rfl, rfl⟩
  | none =>
      simp only
      split
      · exact ⟨rfl, rfl⟩
      · exact ⟨rfl, rfl⟩

/-- Which address a path leads to does not depend on the links before it. -/
theorem fst_address_eq (context : Context) (trace other : Trace) (link : Resolved) :
    (context.address trace link).1 = (context.address other link).1 := by
  rw [address, address]
  cases pathSegments link.path with
  | nil => rfl
  | cons first rest =>
      have htarget : (context.target trace first).1 = (context.target other first).1 := by
        rw [(context.target_eq trace first).1, (context.target_eq other first).1]
      by_cases hstd : isStd first
      · simp only [if_pos hstd]
      · simp only [if_neg hstd, htarget]

theorem fst_resolve_eq (context : Context) (trace other : Trace) (raw : String) :
    (context.resolve trace raw).1 = (context.resolve other raw).1 := by
  rw [resolve, resolve]
  cases Reference.parse? (String.ofList (Text.Percent.decode raw.toList)) with
  | none => rfl
  | some reference => exact context.fst_address_eq _ _ _

/-- An address outside the standard library records the target of its crate, and nothing else does.
-/
theorem snapshot_address (context : Context) (trace : Trace) (link : Resolved) :
    (context.address trace link).2.snapshot =
      match pathSegments link.path with
      | [] => trace.snapshot
      | first :: _ =>
        if isStd first then trace.snapshot
        else trace.snapshot.addTarget (context.targetOf first) := by
  rw [address]
  cases pathSegments link.path with
  | nil => rfl
  | cons first rest =>
      obtain ⟨htarget, hsnapshot⟩ := context.target_eq trace first
      simp only
      by_cases hstd : isStd first
      · rw [if_pos hstd, if_pos hstd]
      · rw [if_neg hstd, if_neg hstd, Snapshot.addTarget, ← htarget, ← hsnapshot]

theorem snapshot_resolve (context : Context) (trace : Trace) (raw : String) :
    (context.resolve trace raw).2.snapshot =
      trace.snapshot.record (context.reached? raw).toList := by
  rw [resolve, reached?]
  cases Reference.parse? (String.ofList (Text.Percent.decode raw.toList)) with
  | none => rfl
  | some reference =>
      simp only [snapshot_address, Option.bind_eq_bind, Option.bind_some]
      split
      · rfl
      · split
        · rfl
        · rfl

/-- The snapshot after several link destinations records the crates that they lead to. -/
theorem snapshot_resolveAll (context : Context) (trace : Trace) (raws : List String) :
    (context.resolveAll trace raws).2.snapshot = trace.snapshot.record (context.reached raws) := by
  induction raws generalizing trace with
  | nil => rfl
  | cons raw raws ih =>
      rw [resolveAll]
      simp only
      rw [ih, snapshot_resolve, ← Snapshot.record_append]
      congr 1
      cases hreached : context.reached? raw with
      | none =>
          rw [reached, reached, List.filterMap_cons_none hreached]
          rfl
      | some target =>
          rw [reached, reached, List.filterMap_cons_some hreached]
          rfl

end CrateReadme.Link.Context
