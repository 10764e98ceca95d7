import CrateReadme.Files.Store
import Mathlib.Data.List.Basic

/-!
# What a write leaves behind

A write that takes effect puts the content at one place and makes directories on the way there
(`write_writes`). Nothing else that stands in the store is touched, and reading gives the content
back. A write that only begins leaves an empty file beside the place (`beginWrite_begins`).
-/

namespace CrateReadme.Files

/-! ## Where names lead -/

def step (here : List String) (name : String) : List String :=
  if name = ".." then here.dropLast else here ++ [name]

/-- Where names lead from a place, whatever stands there. -/
def lead (here names : List String) : List String :=
  names.foldl step here

/-- The places that are passed on the way, without the last one. -/
def passed : (here : List String) → List String → List (List String)
  | _, [] => []
  | here, name :: names => here :: passed (step here name) names

@[simp] theorem lead_cons (here : List String) (name : String) (names : List String) :
    lead here (name :: names) = lead (step here name) names :=
  rfl

theorem lead_append (here names more : List String) :
    lead here (names ++ more) = lead (lead here names) more :=
  List.foldl_append

theorem passed_append (here names more : List String) :
    passed here (names ++ more) = passed here names ++ passed (lead here names) more := by
  induction names generalizing here with
  | nil => rfl
  | cons name names ih => exact congrArg (here :: ·) (ih (step here name))

def Location.place (location : Location) : List String :=
  lead [] location.names

def Location.passed (location : Location) : List (List String) :=
  Files.passed [] location.names

namespace Store

variable {store made : Store} {here place : List String} {names : List String}

/-! ## Entries -/

@[simp] theorem get?_nil (store : Store) : store.get? [] = some .directory := rfl

theorem get?_of_ne_nil (h : place ≠ []) : store.get? place = store.entries.lookup place := by
  simp [get?, h]

theorem lookup_filter_ne {entries : List (List String × Entry)} {other : List String}
    (h : other ≠ place) :
    (entries.filter fun old => decide (old.1 ≠ place)).lookup other = entries.lookup other := by
  induction entries with
  | nil => rfl
  | cons old entries ih =>
    obtain ⟨name, entry⟩ := old
    by_cases hname : name = place
    · have hother : (other == name) = false := by simpa [hname] using h
      rw [List.filter_cons_of_neg (by simpa using hname), ih, List.lookup_cons, hother]
    · rw [List.filter_cons_of_pos (by simpa using hname), List.lookup_cons, List.lookup_cons, ih]

theorem get?_set_self (store : Store) (entry : Entry) (h : place ≠ []) :
    (store.set place entry).get? place = some entry := by
  simp [get?_of_ne_nil h, set]

theorem get?_set_of_ne (store : Store) (entry : Entry) {other : List String} (h : other ≠ place) :
    (store.set place entry).get? other = store.get? other := by
  by_cases hother : other = []
  · simp [hother]
  · have hbeq : (other == place) = false := by simpa using h
    rw [get?_of_ne_nil hother, get?_of_ne_nil hother, set, List.lookup_cons, hbeq]
    exact lookup_filter_ne h

/-! ## Following names -/

theorem follow_cons (store : Store) (here : List String) (name : String) (names : List String) :
    store.follow here (name :: names) =
      match store.get? here with
      | some .directory => store.follow (step here name) names
      | some (.file _) => .error .blocked
      | none => .error .missing := by
  rw [follow, step]
  cases store.get? here with
  | none => rfl
  | some entry =>
    cases entry with
    | file content => rfl
    | directory => exact (apply_ite (store.follow · names) ..).symm

/-- Names can be followed if there is a directory at each place that is passed. -/
theorem follow_eq_ok_iff :
    store.follow here names = .ok place ↔
      place = lead here names ∧
        ∀ stop ∈ passed here names, store.get? stop = some .directory := by
  induction names generalizing here with
  | nil => simp [follow, lead, passed, eq_comm]
  | cons name names ih =>
    rw [follow_cons, passed, List.forall_mem_cons]
    cases hhere : store.get? here with
    | none => simp
    | some entry =>
      cases entry with
      | file content => simp
      | directory => simpa using ih

/-! ## Making directories -/

/-- Directories are all that was added, and only at the places given. -/
def AddsDirectories (old new : Store) (places : List (List String)) : Prop :=
  ∀ place, new.get? place = old.get? place ∨
    old.get? place = none ∧ new.get? place = some .directory ∧ place ∈ places

namespace AddsDirectories

variable {old new newer : Store} {places more : List (List String)}

theorem refl (store : Store) (places : List (List String)) : AddsDirectories store store places :=
  fun _ => .inl rfl

theorem set_directory (hplace : old.get? place = none) (hmem : place ∈ places) :
    AddsDirectories old (old.set place .directory) places := by
  intro other
  by_cases hother : other = place
  · have hne : place ≠ [] := by
      rintro rfl
      simp at hplace
    subst hother
    exact .inr ⟨hplace, get?_set_self old .directory hne, hmem⟩
  · exact .inl (get?_set_of_ne old .directory hother)

theorem get?_eq {entry : Entry} (h : AddsDirectories old new places)
    (hentry : old.get? place = some entry) : new.get? place = some entry := by
  rcases h place with hsame | ⟨hnone, -⟩
  · rw [hsame, hentry]
  · simp [hentry] at hnone

theorem get?_eq_none (h : AddsDirectories old new places) (hplace : new.get? place = none) :
    old.get? place = none := by
  rcases h place with hsame | ⟨hnone, -⟩
  · rw [← hsame, hplace]
  · exact hnone

theorem trans (h : AddsDirectories old new places) (hnext : AddsDirectories new newer more)
    (hplaces : places ⊆ more) : AddsDirectories old newer more := by
  intro place
  rcases h place with hsame | ⟨hnone, hdirectory, hmem⟩
  · simpa [hsame] using hnext place
  · exact .inr ⟨hnone, hnext.get?_eq hdirectory, hplaces hmem⟩

theorem mono (h : AddsDirectories old new places) (hplaces : places ⊆ more) :
    AddsDirectories old new more :=
  h.trans (.refl new more) hplaces

end AddsDirectories

/-- A directory in directories, up to the root. -/
def Stands (store : Store) (here : List String) : Prop :=
  ∀ place, place <+: here → store.get? place = some .directory

theorem stands_nil (store : Store) : store.Stands [] := by
  intro place hplace
  simp [List.prefix_nil.mp hplace]

theorem Stands.dropLast (h : store.Stands here) : store.Stands here.dropLast :=
  fun place hplace => h place (hplace.trans (List.dropLast_prefix here))

theorem Stands.concat {name : String} (h : store.Stands here)
    (hname : store.get? (here ++ [name]) = some .directory) : store.Stands (here ++ [name]) := by
  intro place hplace
  rcases List.prefix_concat_iff.mp hplace with rfl | hplace
  · exact hname
  · exact h place hplace

theorem Stands.of_addsDirectories {places : List (List String)} (h : store.Stands here)
    (hadds : AddsDirectories store made places) : made.Stands here :=
  fun place hplace => hadds.get?_eq (h place hplace)

/-- Making directories ends where the names lead. Every place on the way is a directory then, and
nothing else has changed. -/
theorem makeDirectories_eq_ok (hhere : store.Stands here)
    (h : store.makeDirectories here names = .ok (place, made)) :
    place = lead here names ∧ made.Stands place ∧
      (∀ stop ∈ passed here names, made.get? stop = some .directory) ∧
      AddsDirectories store made (passed here names ++ [place]) := by
  induction names generalizing store here with
  | nil =>
    simp only [makeDirectories, Except.ok.injEq, Prod.mk.injEq] at h
    obtain ⟨rfl, rfl⟩ := h
    exact ⟨rfl, hhere, by simp [passed], .refl _ _⟩
  | cons name names ih =>
    -- Whichever way the step is made, it ends in a directory of a store that has grown by that
    -- directory at most.
    have hstep : ∃ between, AddsDirectories store between [step here name] ∧
        between.Stands (step here name) ∧
        between.makeDirectories (step here name) names = .ok (place, made) := by
      simp only [makeDirectories] at h
      split at h
      case isTrue hup =>
        rw [step, if_pos hup]
        exact ⟨store, .refl _ _, hhere.dropLast, h⟩
      case isFalse hup =>
        rw [step, if_neg hup]
        split at h
        case h_1 hthere => exact ⟨store, .refl _ _, hhere.concat hthere, h⟩
        case h_2 => simp at h
        case h_3 hnone =>
          have hadds : AddsDirectories store (store.set (here ++ [name]) .directory)
              [here ++ [name]] := .set_directory hnone (List.mem_singleton_self _)
          exact ⟨_, hadds, (hhere.of_addsDirectories hadds).concat
            (get?_set_self store _ (by simp)), h⟩
    obtain ⟨between, hadds, hstands, hrest⟩ := hstep
    obtain ⟨hplace, hmade, hpassed, hmore⟩ := ih hstands hrest
    have hnext : step here name ∈ passed (step here name) names ++ [place] := by
      cases names with
      | nil => simp [hplace, lead]
      | cons => simp [passed]
    refine ⟨hplace, hmade, ?_, ?_⟩
    · simp only [passed, List.forall_mem_cons]
      exact ⟨hmore.get?_eq (hadds.get?_eq (hhere here (List.prefix_refl here))), hpassed⟩
    · exact (hadds.trans hmore (by simpa using hnext)).mono (List.subset_cons_self _ _)

/-! ## Writing -/

/-- What a write does to a store: the content is at the location, and apart from that there are
at most new directories on the way there. -/
structure Writes (old new : Store) (location : Location) (content : List UInt8) : Prop where
  read : new.read location = .ok content
  others : ∀ place, place ≠ location.place →
    new.get? place = old.get? place ∨
      old.get? place = none ∧ new.get? place = some .directory ∧ place ∈ location.passed

theorem read_eq_ok_of_get? {location : Location} {content : List UInt8}
    (hpassed : ∀ stop ∈ location.passed, store.get? stop = some .directory)
    (hplace : store.get? location.place = some (.file content)) :
    store.read location = .ok content := by
  have hfollow : store.follow [] location.names = .ok location.place :=
    follow_eq_ok_iff.mpr ⟨rfl, hpassed⟩
  simp [read, find, hfollow, hplace, bind, Except.bind]

/-- A write that takes effect first makes the directory that the file is in. -/
theorem write_eq_ok {old new : Store} {location : Location} {content : List UInt8}
    (h : old.write location content = .ok new) :
    ∃ made, new = made.set location.place (.file content) ∧
      made.get? location.place ≠ some .directory ∧
      (∀ stop ∈ location.passed, made.get? stop = some .directory) ∧
      AddsDirectories old made location.passed := by
  rcases List.eq_nil_or_concat location.names with hnil | ⟨front, last, hnames⟩
  · simp [write, hnil, makeDirectories, follow, bind, Except.bind] at h
  rw [List.concat_eq_append] at hnames
  have hplace : location.place = lead (lead [] front) [last] := by
    rw [← lead_append, ← hnames, Location.place]
  have hway : location.passed = passed [] front ++ [lead [] front] := by
    rw [Location.passed, hnames, passed_append]
    rfl
  simp only [write, hnames, bind, Except.bind, List.dropLast_concat, List.length_append,
    List.length_singleton, Nat.add_sub_cancel, List.drop_left] at h
  split at h
  case h_1 => simp at h
  case h_2 pair hmake =>
    obtain ⟨directory, made⟩ := pair
    obtain ⟨rfl, -, hpassed, hadds⟩ := makeDirectories_eq_ok (stands_nil old) hmake
    split at h
    case h_1 => simp at h
    case h_2 place hfollow =>
      obtain ⟨rfl, hlast⟩ := follow_eq_ok_iff.mp hfollow
      rw [← hplace] at h
      split at h
      case h_1 => simp at h
      case h_2 hfree =>
        cases h
        refine ⟨made, rfl, hfree, ?_, hway ▸ hadds⟩
        rw [hway, List.forall_mem_append]
        exact ⟨hpassed, hlast⟩

/-- A write that takes effect writes the content and nothing else. -/
theorem write_writes {old new : Store} {location : Location} {content : List UInt8}
    (h : old.write location content = .ok new) : Writes old new location content := by
  obtain ⟨made, rfl, hfree, hpassed, hadds⟩ := write_eq_ok h
  -- No directory stands at the place, so it is neither the root nor on the way to itself.
  have hplace : location.place ≠ [] := fun hroot => hfree (by rw [hroot, get?_nil])
  constructor
  · refine read_eq_ok_of_get? (fun stop hstop => ?_) (get?_set_self made _ hplace)
    have hne : stop ≠ location.place := fun heq => hfree (heq ▸ hpassed stop hstop)
    rw [get?_set_of_ne made _ hne, hpassed stop hstop]
  · intro place hne
    rw [get?_set_of_ne made _ hne]
    exact hadds place

/-- What a write that only begins does to a store: there is a new, empty file beside the location,
and apart from that there are at most new directories on the way there. -/
structure Begins (old new : Store) (location : Location) (temporary : List String) : Prop where
  beside : ∃ mark, temporary = location.parent.place ++ ["." ++ location.name ++ "." ++ mark]
  fresh : old.get? temporary = none
  empty : new.get? temporary = some (.file [])
  others : ∀ place, place ≠ temporary →
    new.get? place = old.get? place ∨
      old.get? place = none ∧ new.get? place = some .directory ∧
        place ∈ location.parent.passed ++ [location.parent.place]

/-- A write that begins leaves an empty file beside the location and at most new directories. -/
theorem beginWrite_begins {old new : Store} {location : Location} {marks : List String}
    (h : old.beginWrite location marks = .ok new) :
    ∃ temporary, Begins old new location temporary := by
  simp only [beginWrite, bind, Except.bind] at h
  split at h
  case h_1 => simp at h
  case h_2 pair hmake =>
    obtain ⟨directory, made⟩ := pair
    obtain ⟨rfl, -, -, hadds⟩ := makeDirectories_eq_ok (stands_nil old) hmake
    dsimp only at h
    split at h
    case h_2 => simp at h
    case h_1 temporary hfind =>
      cases h
      have hnone : made.get? temporary = none := by simpa using List.find?_some hfind
      obtain ⟨mark, -, hmark⟩ := List.mem_map.mp (List.mem_of_find?_eq_some hfind)
      have hroot : temporary ≠ [] := by simp [← hmark]
      refine ⟨temporary, ⟨mark, hmark.symm⟩, hadds.get?_eq_none hnone,
        get?_set_self made _ hroot, fun place hne => ?_⟩
      rw [get?_set_of_ne made _ hne]
      exact hadds place

end Store
end CrateReadme.Files
