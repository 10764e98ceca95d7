import CrateReadme.Link.Address
import CrateReadme.Proofs.Version.Precedence
import CrateReadme.Snapshot.Basic
import Mathlib.Data.List.Induction
import Mathlib.Data.List.Nodup

/-!
# What a snapshot keeps of the links

A snapshot has at most one entry for every name. An entry that is put into it takes the place of the
entry of the same name, or stands at the end, so all other names are found as before. Of all links
to a crate a snapshot keeps the first one with the most specific version. The order of the links
matters for nothing else: an entry depends only on the links to its own crate.
-/

namespace CrateReadme.Snapshot

/-! ## Entries -/

/-- The names of the crates in the order of their entries. -/
def names (snapshot : Snapshot) : List String :=
  snapshot.crates.map LinkedCrate.name

theorem putEntry_of_not_mem {entry : LinkedCrate} {entries : List LinkedCrate}
    (hname : entry.name ∉ entries.map LinkedCrate.name) :
    putEntry entry entries = entries ++ [entry] := by
  induction entries with
  | nil => rfl
  | cons other entries ih =>
      rw [List.map_cons, List.mem_cons, not_or] at hname
      rw [putEntry, if_neg (by simpa using Ne.symm hname.1), ih hname.2, List.cons_append]

theorem map_name_putEntry_of_mem {entry : LinkedCrate} {entries : List LinkedCrate}
    (hname : entry.name ∈ entries.map LinkedCrate.name) :
    (putEntry entry entries).map LinkedCrate.name = entries.map LinkedCrate.name := by
  induction entries with
  | nil => cases hname
  | cons other entries ih =>
      rw [putEntry]
      by_cases heq : other.name = entry.name
      · rw [if_pos (by simpa using heq), List.map_cons, List.map_cons, heq]
      · have hrest : entry.name ∈ entries.map LinkedCrate.name :=
          (List.mem_cons.mp hname).resolve_left (Ne.symm heq)
        rw [if_neg (by simpa using heq), List.map_cons, List.map_cons, ih hrest]

/-- An entry that was put is found under its name, and the others as before. -/
theorem find?_putEntry (entry : LinkedCrate) (entries : List LinkedCrate) (name : String) :
    (putEntry entry entries).find? (fun other => other.name == name) =
      if entry.name = name then some entry
      else entries.find? fun other => other.name == name := by
  have hfirst (others : List LinkedCrate) :
      (entry :: others).find? (fun other => other.name == name) =
        if entry.name = name then some entry
        else others.find? fun other => other.name == name := by
    by_cases hname : entry.name = name
    · rw [List.find?_cons_of_pos (by simpa using hname), if_pos hname]
    · rw [List.find?_cons_of_neg (by simpa using hname), if_neg hname]
  induction entries with
  | nil => exact hfirst []
  | cons other entries ih =>
      rw [putEntry]
      by_cases hsame : other.name = entry.name
      · rw [if_pos (by simpa using hsame), hfirst]
        by_cases hname : entry.name = name
        · rw [if_pos hname, if_pos hname]
        · rw [if_neg hname, if_neg hname,
            List.find?_cons_of_neg (by simpa [hsame] using hname)]
      · rw [if_neg (by simpa using hsame)]
        by_cases hother : other.name = name
        · rw [List.find?_cons_of_pos (by simpa using hother),
            List.find?_cons_of_pos (by simpa using hother),
            if_neg fun hname => hsame (hother.trans hname.symm)]
        · rw [List.find?_cons_of_neg (by simpa using hother),
            List.find?_cons_of_neg (by simpa using hother), ih]

theorem mem_of_mem_putEntry {entry other : LinkedCrate} {entries : List LinkedCrate}
    (hmem : other ∈ putEntry entry entries) : other = entry ∨ other ∈ entries := by
  induction entries with
  | nil => exact Or.inl (List.mem_singleton.mp hmem)
  | cons first entries ih =>
      rw [putEntry] at hmem
      split at hmem
      · rcases List.mem_cons.mp hmem with heq | hrest
        · exact Or.inl heq
        · exact Or.inr (List.mem_cons_of_mem first hrest)
      · rcases List.mem_cons.mp hmem with rfl | hrest
        · exact Or.inr List.mem_cons_self
        · exact (ih hrest).imp_right (List.mem_cons_of_mem first)

theorem find?_put (snapshot : Snapshot) (entry : LinkedCrate) (name : String) :
    (snapshot.put entry).find? name =
      if entry.name = name then some entry else snapshot.find? name :=
  find?_putEntry entry snapshot.crates name

theorem names_put (snapshot : Snapshot) (entry : LinkedCrate) :
    (snapshot.put entry).names =
      if entry.name ∈ snapshot.names then snapshot.names
      else snapshot.names ++ [entry.name] := by
  by_cases hmem : entry.name ∈ snapshot.names
  · rw [if_pos hmem]
    exact map_name_putEntry_of_mem hmem
  · rw [if_neg hmem, names, put, putEntry_of_not_mem hmem, List.map_append]
    rfl

theorem nodup_names_put {snapshot : Snapshot} (hnames : snapshot.names.Nodup)
    (entry : LinkedCrate) : (snapshot.put entry).names.Nodup := by
  rw [names_put]
  split
  · exact hnames
  · rename_i hfresh
    exact List.nodup_append_comm.mp (List.nodup_cons.mpr ⟨hfresh, hnames⟩)

/-- If no name occurs twice, an entry is found if and only if it is in the snapshot under that name.
-/
theorem find?_eq_some_iff {snapshot : Snapshot} (hnames : snapshot.names.Nodup) {name : String}
    {entry : LinkedCrate} :
    snapshot.find? name = some entry ↔ entry ∈ snapshot.crates ∧ entry.name = name := by
  constructor
  · intro hfind
    have hname := List.find?_some hfind
    exact ⟨List.mem_of_find?_eq_some hfind, by simpa using hname⟩
  · rintro ⟨hmem, hname⟩
    have hsome : (snapshot.find? name).isSome :=
      List.find?_isSome.mpr ⟨entry, hmem, by simpa using hname⟩
    obtain ⟨found, hfound⟩ := Option.isSome_iff_exists.mp hsome
    have hfoundName := List.find?_some hfound
    have heq : found = entry :=
      List.inj_on_of_nodup_map hnames (List.mem_of_find?_eq_some hfound) hmem
        ((beq_iff_eq.mp hfoundName).trans hname.symm)
    rw [hfound, heq]

theorem find?_eq_of_perm {left right : Snapshot} (hperm : left.crates.Perm right.crates)
    (hnames : right.names.Nodup) (name : String) : left.find? name = right.find? name := by
  have hleft : left.names.Nodup := (hperm.map LinkedCrate.name).nodup_iff.mpr hnames
  apply Option.ext
  intro entry
  rw [find?_eq_some_iff hleft, find?_eq_some_iff hnames, hperm.mem_iff]

/-! ## Specific versions -/

/-- What is more specific than a version is more specific than whatever is not so. -/
theorem moreSpecific_of_not_moreSpecific {new old other : Option Version}
    (hnew : moreSpecific new old) (hother : ¬moreSpecific other old) : moreSpecific new other := by
  cases new with
  | none => cases hnew
  | some new =>
      cases other with
      | none => rfl
      | some other =>
          cases old with
          | none => exact absurd rfl hother
          | some old =>
              simp only [moreSpecific, decide_eq_true_eq] at hnew hother ⊢
              have hge : (old.precedence other).isGE := by
                rw [Std.OrientedCmp.isGE_iff_isLE, Ordering.isLE_iff_ne_gt]
                exact hother
              exact Std.TransCmp.gt_of_gt_of_isGE hnew hge

theorem moreSpecific_asymm {new old : Option Version} (hnew : moreSpecific new old) :
    ¬moreSpecific old new := by
  cases new with
  | none => cases hnew
  | some new =>
      cases old with
      | none => exact Bool.false_ne_true
      | some old =>
          simp only [moreSpecific, decide_eq_true_eq] at hnew ⊢
          exact Std.OrientedCmp.not_gt_of_gt hnew

/-! ## One link -/

def entryFor (target : Link.Target) : LinkedCrate where
  name := target.crate
  version := target.version
  libAlias := if target.libName = target.crate then none else some target.libName

@[simp]
theorem name_entryFor (target : Link.Target) : (entryFor target).name = target.crate := rfl

@[simp]
theorem libName_entryFor (target : Link.Target) : (entryFor target).libName = target.libName := by
  by_cases hsame : target.libName = target.crate
  · simp [LinkedCrate.libName, entryFor, hsame]
  · simp [LinkedCrate.libName, entryFor, hsame]

def addTarget (snapshot : Snapshot) (target : Link.Target) : Snapshot :=
  snapshot.addLink target.crate target.version target.libName

/-- A target is recorded if it is more specific than what was there, and nothing else changes. -/
theorem addTarget_cases (snapshot : Snapshot) (target : Link.Target) :
    (snapshot.addTarget target = snapshot.put (entryFor target) ∧
        ∀ current, snapshot.find? target.crate = some current →
          moreSpecific target.version current.version) ∨
      snapshot.addTarget target = snapshot ∧
        ∃ current, snapshot.find? target.crate = some current ∧
          ¬moreSpecific target.version current.version := by
  rw [addTarget, addLink]
  cases hfind : snapshot.find? target.crate with
  | none => exact Or.inl ⟨rfl, fun current hcurrent => by cases hcurrent⟩
  | some current =>
      by_cases hmore : moreSpecific target.version current.version
      · refine Or.inl ⟨if_pos hmore, fun other hother => ?_⟩
        cases hother
        exact hmore
      · exact Or.inr ⟨if_neg hmore, current, rfl, hmore⟩

theorem find?_addTarget_of_ne (snapshot : Snapshot) {target : Link.Target} {name : String}
    (hne : target.crate ≠ name) : (snapshot.addTarget target).find? name = snapshot.find? name := by
  rcases snapshot.addTarget_cases target with ⟨hput, -⟩ | ⟨hkeep, -⟩
  · rw [hput, find?_put, name_entryFor, if_neg hne]
  · rw [hkeep]

theorem names_addTarget (snapshot : Snapshot) (target : Link.Target) :
    (snapshot.addTarget target).names =
      if target.crate ∈ snapshot.names then snapshot.names
      else snapshot.names ++ [target.crate] := by
  rcases snapshot.addTarget_cases target with ⟨hput, -⟩ | ⟨hkeep, current, hcurrent, -⟩
  · rw [hput]
    exact names_put snapshot (entryFor target)
  · have hname : current.name = target.crate := by simpa using List.find?_some hcurrent
    have hmem : target.crate ∈ snapshot.names :=
      List.mem_map.mpr ⟨current, List.mem_of_find?_eq_some hcurrent, hname⟩
    rw [hkeep, if_pos hmem]

theorem nodup_names_addTarget {snapshot : Snapshot} (hnames : snapshot.names.Nodup)
    (target : Link.Target) : (snapshot.addTarget target).names.Nodup := by
  rcases snapshot.addTarget_cases target with ⟨hput, -⟩ | ⟨hkeep, -⟩
  · rw [hput]
    exact nodup_names_put hnames (entryFor target)
  · rw [hkeep]
    exact hnames

theorem mem_crates_addTarget {snapshot : Snapshot} {target : Link.Target} {entry : LinkedCrate}
    (hmem : entry ∈ (snapshot.addTarget target).crates) :
    entry = entryFor target ∨ entry ∈ snapshot.crates := by
  rcases snapshot.addTarget_cases target with ⟨hput, -⟩ | ⟨hkeep, -⟩
  · rw [hput] at hmem
    exact mem_of_mem_putEntry hmem
  · rw [hkeep] at hmem
    exact Or.inr hmem

/-- A link changes nothing but the entries. -/
theorem addTarget_frame (snapshot : Snapshot) (target : Link.Target) :
    (snapshot.addTarget target).schema = snapshot.schema ∧
      (snapshot.addTarget target).template = snapshot.template ∧
      (snapshot.addTarget target).docs = snapshot.docs := by
  rcases snapshot.addTarget_cases target with ⟨hput, -⟩ | ⟨hkeep, -⟩
  · rw [hput]
    exact ⟨rfl, rfl, rfl⟩
  · rw [hkeep]
    exact ⟨rfl, rfl, rfl⟩

/-! ## All links -/

/-- The snapshot after several links, one after the other. -/
def record (snapshot : Snapshot) (targets : List Link.Target) : Snapshot :=
  targets.foldl addTarget snapshot

theorem nodup_names_record {snapshot : Snapshot} (hnames : snapshot.names.Nodup)
    (targets : List Link.Target) : (snapshot.record targets).names.Nodup := by
  induction targets generalizing snapshot with
  | nil => exact hnames
  | cons target targets ih => exact ih (nodup_names_addTarget hnames target)

theorem mem_crates_record {snapshot : Snapshot} {targets : List Link.Target} {entry : LinkedCrate}
    (hmem : entry ∈ (snapshot.record targets).crates) :
    (∃ target ∈ targets, entry = entryFor target) ∨ entry ∈ snapshot.crates := by
  induction targets generalizing snapshot with
  | nil => exact Or.inr hmem
  | cons target targets ih =>
      rcases ih hmem with ⟨other, hother, heq⟩ | hfirst
      · exact Or.inl ⟨other, List.mem_cons_of_mem target hother, heq⟩
      · rcases mem_crates_addTarget hfirst with heq | hold
        · exact Or.inl ⟨target, List.mem_cons_self, heq⟩
        · exact Or.inr hold

theorem record_frame (snapshot : Snapshot) (targets : List Link.Target) :
    (snapshot.record targets).schema = snapshot.schema ∧
      (snapshot.record targets).template = snapshot.template ∧
      (snapshot.record targets).docs = snapshot.docs := by
  induction targets generalizing snapshot with
  | nil => exact ⟨rfl, rfl, rfl⟩
  | cons target targets ih =>
      obtain ⟨hschema, htemplate, hdocs⟩ := ih (snapshot.addTarget target)
      obtain ⟨hschema', htemplate', hdocs'⟩ := snapshot.addTarget_frame target
      exact ⟨hschema.trans hschema', htemplate.trans htemplate', hdocs.trans hdocs'⟩

theorem record_append (snapshot : Snapshot) (earlier later : List Link.Target) :
    snapshot.record (earlier ++ later) = (snapshot.record earlier).record later :=
  List.foldl_append

theorem eraseDups_append_singleton {α : Type} [BEq α] [LawfulBEq α] (values : List α)
    (value : α) :
    (values ++ [value]).eraseDups =
      values.eraseDups ++ if value ∈ values then [] else [value] := by
  have hsingle : [value].eraseDups = [value] := rfl
  rw [List.eraseDups_append]
  by_cases hmem : value ∈ values
  · simp [List.removeAll, hmem]
  · simp [List.removeAll, hmem, hsingle]

/-- The entries stand in the order in which their crates were first linked. -/
theorem names_record {snapshot : Snapshot} (hempty : snapshot.crates = [])
    (targets : List Link.Target) :
    (snapshot.record targets).names = (targets.map Link.Target.crate).eraseDups := by
  induction targets using List.reverseRecOn with
  | nil =>
      rw [record, List.foldl_nil, names, hempty]
      rfl
  | append_singleton targets target ih =>
      rw [record_append, List.map_append, List.map_singleton, eraseDups_append_singleton]
      change ((snapshot.record targets).addTarget target).names = _
      rw [names_addTarget, ih]
      simp only [List.mem_eraseDups]
      split
      · rw [List.append_nil]
      · rfl

/-- The first of several links whose version is the most specific one. -/
def IsFirstBest (targets : List Link.Target) (target : Link.Target) : Prop :=
  ∃ before after, targets = before ++ target :: after ∧
    (∀ other ∈ before, moreSpecific target.version other.version) ∧
    ∀ other ∈ after, ¬moreSpecific other.version target.version

namespace IsFirstBest

variable {targets : List Link.Target} {target other : Link.Target}

theorem mem (hbest : IsFirstBest targets target) : target ∈ targets := by
  obtain ⟨before, after, rfl, -, -⟩ := hbest
  simp

theorem not_moreSpecific (hbest : IsFirstBest targets target) (hmem : other ∈ targets) :
    ¬moreSpecific other.version target.version := by
  obtain ⟨before, after, rfl, hbefore, hafter⟩ := hbest
  rcases List.mem_append.mp hmem with hfirst | hlast
  · exact moreSpecific_asymm (hbefore other hfirst)
  · rcases List.mem_cons.mp hlast with rfl | hlast
    · exact fun hself => moreSpecific_asymm hself hself
    · exact hafter other hlast

theorem singleton (target : Link.Target) : IsFirstBest [target] target :=
  ⟨[], [], rfl, by simp, by simp⟩

/-- A link that is no more specific than the best one comes too late. -/
theorem append_of_not_moreSpecific (hbest : IsFirstBest targets target)
    (hmore : ¬moreSpecific other.version target.version) :
    IsFirstBest (targets ++ [other]) target := by
  obtain ⟨before, after, rfl, hbefore, hafter⟩ := hbest
  refine ⟨before, after ++ [other], by simp, hbefore, ?_⟩
  intro later hlater
  rcases List.mem_append.mp hlater with hlater | hlast
  · exact hafter later hlater
  · rw [List.mem_singleton.mp hlast]
    exact hmore

theorem append_of_moreSpecific (hbest : IsFirstBest targets target)
    (hmore : moreSpecific other.version target.version) :
    IsFirstBest (targets ++ [other]) other := by
  refine ⟨targets, [], rfl, ?_, by simp⟩
  intro earlier hearlier
  exact moreSpecific_of_not_moreSpecific hmore (hbest.not_moreSpecific hearlier)

/-- There is at most one first of the most specific links. -/
theorem unique (htarget : IsFirstBest targets target) (hother : IsFirstBest targets other) :
    target = other := by
  -- At two different positions the later link would have to be the more specific one.
  have hnotOther := htarget.not_moreSpecific hother.mem
  have hnotTarget := hother.not_moreSpecific htarget.mem
  obtain ⟨before, after, rfl, hbefore, -⟩ := htarget
  obtain ⟨before', after', hsplit, hbefore', -⟩ := hother
  rcases List.append_eq_append_iff.mp hsplit with ⟨middle, rfl, hrest⟩ | ⟨middle, rfl, hrest⟩
  · cases middle with
    | nil => exact (List.cons.inj hrest).1
    | cons first middle =>
        have hfirst : target = first := (List.cons.inj hrest).1
        exact absurd (hbefore' target (by simp [hfirst])) hnotOther
  · cases middle with
    | nil => exact (List.cons.inj hrest).1.symm
    | cons first middle =>
        have hfirst : other = first := (List.cons.inj hrest).1
        exact absurd (hbefore other (by simp [hfirst])) hnotTarget

end IsFirstBest

/-- An entry holds the best of all links to its crate, and there is none if no link leads there. -/
def Holds (own : List Link.Target) : Option LinkedCrate → Prop
  | none => own = []
  | some entry => ∃ target, IsFirstBest own target ∧ entry = entryFor target

/-- Recording one more link keeps the entry of its crate the first of the most specific ones. -/
theorem Holds.addTarget {snapshot : Snapshot} {own : List Link.Target} {target : Link.Target}
    (hholds : Holds own (snapshot.find? target.crate)) :
    Holds (own ++ [target]) ((snapshot.addTarget target).find? target.crate) := by
  rcases snapshot.addTarget_cases target with ⟨hput, hmore⟩ | ⟨hkeep, current, hcurrent, hmore⟩
  · rw [hput, find?_put, if_pos (name_entryFor target)]
    refine ⟨target, ?_, rfl⟩
    cases hfind : snapshot.find? target.crate with
    | none =>
        rw [hfind] at hholds
        rw [show own = [] from hholds]
        exact IsFirstBest.singleton target
    | some current =>
        rw [hfind] at hholds
        obtain ⟨best, hbest, rfl⟩ := hholds
        exact hbest.append_of_moreSpecific (hmore _ hfind)
  · rw [hkeep, hcurrent]
    rw [hcurrent] at hholds
    obtain ⟨best, hbest, rfl⟩ := hholds
    exact ⟨best, hbest.append_of_not_moreSpecific hmore, rfl⟩

/-- Links to other crates do not matter for the entry of a crate. -/
theorem holds_record {snapshot : Snapshot} (hempty : snapshot.crates = [])
    (targets : List Link.Target) (name : String) :
    Holds (targets.filter (·.crate = name)) ((snapshot.record targets).find? name) := by
  -- The last link is compared with the best of all earlier ones, so the list grows at its end.
  induction targets using List.reverseRecOn with
  | nil =>
      rw [record, List.foldl_nil, find?, hempty]
      rfl
  | append_singleton targets target ih =>
      rw [record_append, List.filter_append]
      change Holds _ (((snapshot.record targets).addTarget target).find? name)
      by_cases hname : target.crate = name
      · subst hname
        simpa using ih.addTarget
      · rw [find?_addTarget_of_ne _ hname]
        simpa [hname] using ih

end CrateReadme.Snapshot
