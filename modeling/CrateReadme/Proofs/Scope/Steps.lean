import CrateReadme.Proofs.Scope.Table
import CrateReadme.Proofs.Symbol.Path

/-!
# Following a path step by step

A path is followed by steps, each of which replaces the head of the path by the path that the head
stands for. Only the head matters: what stands behind it is carried along. Following ends where
there is no step, at an absolute path, below the crate root or at an unbound head, or when too many
steps have been made.
-/

namespace CrateReadme.Scope

variable {scope : Scope} {path next head tail : String} {binding : Binding}

/-- The path of a reference: its text without the blanks around it and the generic arguments. -/
def referencePath (text : String) : String :=
  String.ofList (Path.withoutGenerics (Text.strip text.toList))

/-- The step from a path: the binding of its head, and the path with that of the binding in place of
the head. There is none from an absolute path, below a word for the crate root and from an unbound
head. -/
def step? (scope : Scope) (path : String) : Option (Binding × String) :=
  if Path.isAbsolute path then
    none
  else
    match Path.parts path with
    | [] => none
    | head :: tail =>
      if Path.isRootWord head then none
      else (scope.front? head).map fun binding => (binding, Path.ofParts (binding.path :: tail))

/-- The steps from a path, `limit` of them at most: the bindings that were used and the paths that
were reached. -/
def steps (scope : Scope) : (limit : ℕ) → String → List (Binding × String)
  | 0, _ => []
  | limit + 1, path =>
    match scope.step? path with
    | none => []
    | some (binding, next) => (binding, next) :: steps scope limit next

/-- The path itself, or the path with the crate in place of a word for its root. -/
def rooted (crate path : String) : String :=
  if Path.isAbsolute path then
    path
  else
    match Path.parts path with
    | head :: tail =>
      if Path.isRootWord head then Path.ofParts ((Path.separator ++ crate) :: tail) else path
    | [] => path

def HeadUnbound (scope : Scope) (path : String) : Prop :=
  ∃ head tail, Path.parts path = head :: tail ∧ Path.isRootWord head = false ∧
    scope.front? head = none

/-- A step is possible from a relative path whose head is bound and no word for the crate root. -/
theorem step?_eq_some_iff : scope.step? path = some (binding, next) ↔
    Path.isAbsolute path = false ∧ ∃ head tail, Path.parts path = head :: tail ∧
      Path.isRootWord head = false ∧ scope.front? head = some binding ∧
        next = Path.ofParts (binding.path :: tail) := by
  rw [step?]
  cases Path.isAbsolute path with
  | true => simp
  | false =>
      cases hparts : Path.parts path with
      | nil => simp
      | cons head tail =>
          simp only [Bool.false_eq_true, if_false, true_and, List.cons.injEq]
          cases hroot : Path.isRootWord head with
          | true =>
              simp only [if_true, reduceCtorEq, false_iff, not_exists, not_and]
              rintro _ _ ⟨rfl, rfl⟩ hword
              rw [hroot] at hword
              cases hword
          | false =>
              simp only [Bool.false_eq_true, if_false, Option.map_eq_some_iff, Prod.mk.injEq]
              constructor
              · rintro ⟨found, hfront, rfl, rfl⟩
                exact ⟨head, tail, ⟨rfl, rfl⟩, hroot, hfront, rfl⟩
              · rintro ⟨_, _, ⟨rfl, rfl⟩, -, hfront, rfl⟩
                exact ⟨binding, hfront, rfl, rfl⟩

theorem step?_eq_none_of_isAbsolute (habsolute : Path.isAbsolute path) :
    scope.step? path = none := by
  rw [step?, if_pos habsolute]

theorem step?_eq_none_of_headUnbound (hunbound : scope.HeadUnbound path) :
    scope.step? path = none := by
  obtain ⟨head, tail, hparts, hroot, hfront⟩ := hunbound
  cases hstep : scope.step? path with
  | none => rfl
  | some found =>
      obtain ⟨-, other, others, hparts', -, hbound, -⟩ := step?_eq_some_iff.mp hstep
      rw [hparts, List.cons.injEq] at hparts'
      rw [← hparts'.1, hfront] at hbound
      cases hbound

theorem rooted_of_isAbsolute (crate : String) (habsolute : Path.isAbsolute path) :
    rooted crate path = path := by
  rw [rooted, if_pos habsolute]

theorem rooted_of_headUnbound (crate : String) (hunbound : scope.HeadUnbound path) :
    rooted crate path = path := by
  obtain ⟨head, tail, hparts, hroot, -⟩ := hunbound
  rw [rooted, hparts]
  simp [hroot]

/-- Where there is no step, the path leads somewhere outright or its head is unbound. -/
theorem rooted_cases (crate : String) (hstep : scope.step? path = none) :
    Path.isAbsolute (rooted crate path) ∨
      scope.HeadUnbound (rooted crate path) := by
  by_cases habsolute : Path.isAbsolute path
  · rw [rooted_of_isAbsolute crate habsolute]
    exact Or.inl habsolute
  · cases hparts : Path.parts path with
    | nil => exact absurd hparts (Path.parts_ne_nil path)
    | cons head tail =>
        cases hroot : Path.isRootWord head with
        | true =>
            left
            rw [rooted, if_neg habsolute, hparts]
            simp only [hroot, if_true]
            by_cases hne : tail = []
            · rw [hne, Path.ofParts_singleton]
              exact Path.isAbsolute_separator_append crate
            · rw [Path.ofParts_cons _ hne, String.append_assoc, String.append_assoc]
              exact Path.isAbsolute_separator_append _
        | false =>
            right
            have hunbound : scope.HeadUnbound path := by
              refine ⟨head, tail, hparts, hroot, ?_⟩
              simpa [step?, habsolute, hparts, hroot] using hstep
            rwa [rooted_of_headUnbound crate hunbound]

section Following

variable (crate : String) (remaining : ℕ) (kind : Option SymbolKind)

/-- Without a step, following gives the rooted path. -/
theorem follow_of_no_step (hstep : scope.step? path = none) :
    (scope.follow crate remaining path kind).path = rooted crate path := by
  rw [step?] at hstep
  rw [follow_eq, rooted]
  by_cases habsolute : Path.isAbsolute path
  · simp only [habsolute, if_true]
  · simp only [habsolute, Bool.false_eq_true, if_false] at hstep ⊢
    cases hparts : Path.parts path with
    | nil => exact absurd hparts (Path.parts_ne_nil path)
    | cons head tail =>
        simp only [hparts] at hstep ⊢
        cases hroot : Path.isRootWord head with
        | true => simp only [if_true]
        | false =>
            simp only [hroot, Bool.false_eq_true, if_false, Option.map_eq_none_iff] at hstep ⊢
            rw [hstep]

theorem follow_isAbsolute (habsolute : Path.isAbsolute path) :
    (scope.follow crate remaining path kind).path = path := by
  rw [follow_of_no_step crate remaining kind (step?_eq_none_of_isAbsolute habsolute),
    rooted_of_isAbsolute crate habsolute]

theorem exists_follow_of_step (hstep : scope.step? path = some (binding, next)) :
    ∃ kind', scope.follow crate (remaining + 1) path kind =
      if Path.isAbsolute next then { path := next, kind := kind' }
      else scope.follow crate remaining next kind' := by
  obtain ⟨hrelative, head, tail, hparts, hroot, hfront, rfl⟩ := step?_eq_some_iff.mp hstep
  refine ⟨if tail.isEmpty then some binding.kind else kind, ?_⟩
  rw [follow_eq]
  simp only [hrelative, hparts, hroot, hfront, Bool.false_eq_true, if_false]

/-- Which path is reached does not depend on the kind that is known. -/
theorem follow_of_step (hstep : scope.step? path = some (binding, next)) :
    ∃ kind', (scope.follow crate (remaining + 1) path kind).path =
      (scope.follow crate remaining next kind').path := by
  obtain ⟨kind', hfollow⟩ := exists_follow_of_step crate remaining kind hstep
  refine ⟨kind', ?_⟩
  rw [hfollow]
  split_ifs with habsolute
  · rw [follow_isAbsolute crate remaining kind' habsolute]
  · rfl

theorem follow_zero_of_step (hstep : scope.step? path = some (binding, next)) :
    (scope.follow crate 0 path kind).path = next := by
  obtain ⟨hrelative, head, tail, hparts, hroot, hfront, rfl⟩ := step?_eq_some_iff.mp hstep
  rw [follow_eq]
  simp only [hrelative, hparts, hroot, hfront, Bool.false_eq_true, if_false]
  split <;> rfl

/-- A reference is resolved by following its path. -/
theorem resolve_path (text : String) : (scope.resolve crate text kind).path =
    (scope.follow crate maxReplacements (referencePath text) kind).path := by
  generalize hlink : scope.follow crate maxReplacements (referencePath text) kind = link
  rw [resolve_of_follow hlink]
  cases link.kind with
  | some known => rfl
  | none => split_ifs <;> rfl

end Following

/-- Either following ends at a path, the first one or one behind a step, from which no step is left,
or it ends behind the last step, of which there was one more than those that may remain. -/
theorem follow_cases (crate : String) (remaining : ℕ) (path : String) (kind : Option SymbolKind) :
    (∃ last ∈ path :: (scope.steps (remaining + 1) path).map Prod.snd, scope.step? last = none ∧
      (scope.follow crate remaining path kind).path = rooted crate last) ∨
    ∃ front binding, front.length = remaining ∧ scope.steps (remaining + 1) path =
      front ++ [(binding, (scope.follow crate remaining path kind).path)] := by
  induction remaining generalizing path kind with
  | zero =>
      cases hstep : scope.step? path with
      | none =>
          exact Or.inl ⟨path, List.mem_cons_self, hstep, follow_of_no_step crate 0 kind hstep⟩
      | some found =>
          obtain ⟨binding, next⟩ := found
          refine Or.inr ⟨[], binding, rfl, ?_⟩
          rw [follow_zero_of_step crate kind hstep]
          simp [steps, hstep]
  | succ remaining ih =>
      cases hstep : scope.step? path with
      | none =>
          exact Or.inl ⟨path, List.mem_cons_self, hstep,
            follow_of_no_step crate (remaining + 1) kind hstep⟩
      | some found =>
          obtain ⟨binding, next⟩ := found
          obtain ⟨kind', hfollow⟩ := follow_of_step crate remaining kind hstep
          have hsteps : scope.steps (remaining + 2) path =
              (binding, next) :: scope.steps (remaining + 1) next := by
            rw [steps, hstep]
          rw [hfollow, hsteps]
          rcases ih next kind' with ⟨last, hlast, hend⟩ | ⟨front, other, hlength, hmore⟩
          · exact Or.inl ⟨last, List.mem_cons_of_mem _ hlast, hend⟩
          · refine Or.inr ⟨(binding, next) :: front, other, ?_, ?_⟩
            · rw [List.length_cons, hlength]
            · rw [hmore, List.cons_append]

def HasSegmentedPaths (scope : Scope) : Prop :=
  scope.Holds fun binding => Path.IsSegmented binding.path

theorem HasSegmentedPaths.endsPlain (hscope : scope.HasSegmentedPaths)
    (hfront : scope.front? head = some binding) :
    binding.path ≠ "" ∧ Path.EndsPlain binding.path :=
  (Holds.of_front? hscope hfront).endsPlain

/-- A text that may stand behind a path: nothing, or a separator and anything. -/
def IsTail (tail : String) : Prop :=
  tail = "" ∨ Path.isAbsolute tail

theorem ofParts_append_tail (front : String) (others : List String) (rest : String) :
    Path.ofParts (front :: (others ++ Path.parts rest)) =
      Path.ofParts (front :: others) ++ (Path.separator ++ rest) := by
  rw [← List.cons_append, Path.ofParts_append (List.cons_ne_nil _ _) (Path.parts_ne_nil rest),
    Path.ofParts_parts, String.append_assoc]

section Tails

variable (hne : path ≠ "") (hend : Path.EndsPlain path)
include hend

theorem parts_append_tail (rest : String) {others : List String}
    (hparts : Path.parts path = head :: others) :
    Path.parts (path ++ (Path.separator ++ rest)) = head :: (others ++ Path.parts rest) := by
  rw [← String.append_assoc, Path.parts_append_separator hend, hparts, List.cons_append]

theorem HasSegmentedPaths.endsPlain_of_step (hscope : scope.HasSegmentedPaths)
    (hstep : scope.step? path = some (binding, next)) : next ≠ "" ∧ Path.EndsPlain next := by
  obtain ⟨-, head, others, hparts, -, hfront, rfl⟩ := step?_eq_some_iff.mp hstep
  obtain ⟨hne', hend'⟩ := hscope.endsPlain hfront
  refine ⟨?_, hend'.ofParts_cons hend hparts⟩
  intro hempty
  by_cases hlast : others = []
  · rw [hlast, Path.ofParts_singleton] at hempty
    exact hne' hempty
  · rw [Path.ofParts_cons _ hlast, String.append_assoc] at hempty
    exact hne' (String.append_eq_empty_iff.mp hempty).1

include hne

/-- A step does not depend on what stands behind the path, and carries it along. -/
theorem step?_append (htail : IsTail tail) :
    scope.step? (path ++ tail) = (scope.step? path).map fun step => (step.1, step.2 ++ tail) := by
  rcases htail with rfl | habsolute
  · simp
  · obtain ⟨rest, rfl⟩ := Path.isAbsolute_iff.mp habsolute
    rw [step?, step?, Path.isAbsolute_append hne hend]
    cases Path.isAbsolute path with
    | true => rfl
    | false =>
        cases hparts : Path.parts path with
        | nil => exact absurd hparts (Path.parts_ne_nil path)
        | cons head others =>
            rw [parts_append_tail hend rest hparts]
            simp only [Bool.false_eq_true, if_false]
            cases Path.isRootWord head with
            | true => rfl
            | false =>
                simp only [Bool.false_eq_true, if_false, Option.map_map]
                congr 1
                funext binding
                rw [ofParts_append_tail]
                rfl

/-- Rooting a path carries along what stands behind it. -/
theorem rooted_append (crate : String) (htail : IsTail tail) :
    rooted crate (path ++ tail) = rooted crate path ++ tail := by
  rcases htail with rfl | habsolute
  · simp
  · obtain ⟨rest, rfl⟩ := Path.isAbsolute_iff.mp habsolute
    rw [rooted, rooted, Path.isAbsolute_append hne hend]
    cases Path.isAbsolute path with
    | true => rfl
    | false =>
        cases hparts : Path.parts path with
        | nil => exact absurd hparts (Path.parts_ne_nil path)
        | cons head others =>
            rw [parts_append_tail hend rest hparts]
            simp only [Bool.false_eq_true, if_false]
            cases Path.isRootWord head with
            | true => exact ofParts_append_tail _ others rest
            | false => rfl

/-- What stands behind a path is carried along. -/
theorem HasSegmentedPaths.follow_append (hscope : scope.HasSegmentedPaths) (crate : String)
    (remaining : ℕ) (htail : IsTail tail) (kind kind' : Option SymbolKind) :
    (scope.follow crate remaining (path ++ tail) kind).path =
      (scope.follow crate remaining path kind').path ++ tail := by
  induction remaining generalizing path kind kind' with
  | zero =>
      have happend : scope.step? (path ++ tail) = _ := step?_append hne hend htail
      cases hstep : scope.step? path with
      | none =>
          rw [hstep] at happend
          rw [follow_of_no_step crate 0 kind happend, follow_of_no_step crate 0 kind' hstep,
            rooted_append hne hend crate htail]
      | some found =>
          rw [hstep] at happend
          rw [follow_zero_of_step crate kind happend, follow_zero_of_step crate kind' hstep]
  | succ remaining ih =>
      have happend : scope.step? (path ++ tail) = _ := step?_append hne hend htail
      cases hstep : scope.step? path with
      | none =>
          rw [hstep] at happend
          rw [follow_of_no_step crate _ kind happend, follow_of_no_step crate _ kind' hstep,
            rooted_append hne hend crate htail]
      | some found =>
          obtain ⟨binding, next⟩ := found
          rw [hstep] at happend
          obtain ⟨longKind, hlong⟩ := follow_of_step crate remaining kind happend
          obtain ⟨shortKind, hshort⟩ := follow_of_step crate remaining kind' hstep
          obtain ⟨hne', hend'⟩ := hscope.endsPlain_of_step hend hstep
          rw [hlong, hshort, ih hne' hend']

end Tails

/-- Following a path is a matter of its head: what stands behind the head is carried along. It ends
at an absolute path, at an unbound head, or after one step more than may remain; a path at which it
ends in one of the first two ways leads to itself. -/
theorem follow_head_append_tail (hscope : scope.HasSegmentedPaths) (crate : String)
    (hhead : Path.IsSegment head) (htail : IsTail tail) (kind : Option SymbolKind) :
    let reached := (scope.follow crate maxReplacements (head ++ tail) kind).path
    (∀ kind', reached = (scope.follow crate maxReplacements head kind').path ++ tail) ∧
      (Path.isAbsolute reached ∨ scope.HeadUnbound reached ∨
        ∃ front binding, front.length = maxReplacements ∧
          scope.steps (maxReplacements + 1) (head ++ tail) = front ++ [(binding, reached)]) ∧
      (Path.isAbsolute reached ∨ scope.HeadUnbound reached →
        ∀ kind', (scope.follow crate maxReplacements reached kind').path = reached) := by
  intro reached
  refine ⟨fun kind' => ?_, ?_, ?_⟩
  · exact hscope.follow_append hhead.1 hhead.endsPlain crate maxReplacements htail kind kind'
  · rcases follow_cases crate maxReplacements (head ++ tail) kind with
      ⟨last, -, hstep, hreached⟩ | hmany
    · have hends := rooted_cases crate hstep
      rw [← hreached] at hends
      exact hends.imp_right Or.inl
    · exact Or.inr (Or.inr hmany)
  · rintro (habsolute | hunbound) kind'
    · exact follow_isAbsolute crate maxReplacements kind' habsolute
    · rw [follow_of_no_step crate _ kind' (step?_eq_none_of_headUnbound hunbound),
        rooted_of_headUnbound crate hunbound]

/-- Two imports that lead to each other make every step there may be. -/
theorem follow_head_append_tail_cycle :
    let scope : Scope :=
      { entries := [("a", [⟨.imported, "b::x"⟩]), ("b", [⟨.imported, "a::y"⟩])] }
    let reached := (scope.follow "my_crate" maxReplacements ("a" ++ "::T") none).path
    (∀ kind', reached = (scope.follow "my_crate" maxReplacements "a" kind').path ++ "::T") ∧
      (Path.isAbsolute reached ∨ scope.HeadUnbound reached ∨
        ∃ front binding, front.length = maxReplacements ∧
          scope.steps (maxReplacements + 1) ("a" ++ "::T") = front ++ [(binding, reached)]) ∧
      (Path.isAbsolute reached ∨ scope.HeadUnbound reached →
        ∀ kind', (scope.follow "my_crate" maxReplacements reached kind').path = reached) := by
  intro scope
  have hpair : ∀ first second, Path.IsSegment first → Path.IsSegment second →
      Path.IsSegmented (Path.ofParts [first, second]) := by
    intro first second hfirst hsecond
    refine ⟨[first, second], List.cons_ne_nil _ _, ?_, Or.inl rfl⟩
    intro segment hmem
    rcases List.mem_pair.mp hmem with rfl | rfl
    · exact hfirst
    · exact hsecond
  have hscope : scope.HasSegmentedPaths := by
    intro entry hentry binding hbinding
    rcases List.mem_pair.mp hentry with rfl | rfl
    · obtain rfl := List.mem_singleton.mp hbinding
      exact hpair "b" "x" (by decide) (by decide)
    · obtain rfl := List.mem_singleton.mp hbinding
      exact hpair "a" "y" (by decide) (by decide)
  exact follow_head_append_tail hscope "my_crate" (by decide) (Or.inr (by decide)) none

end CrateReadme.Scope
