import CrateReadme.Proofs.Snapshot.Reading

/-!
# The order of the links

Of all links to a crate the earliest one with a maximal version is kept, where no version is below
every version and versions stand in the order of their precedence. The order of the links shows in
the order of the entries, which a token forgets, and wherever two links to one crate are both
maximal. So the token is the same for every order exactly if such links are written alike.
-/

namespace CrateReadme

/-! ## Versions in order -/

namespace Version

/-- The order of versions by precedence: the three numbers decide first, then the tags part by part,
where a version without a tag comes last. Numbers among the parts come before names, and build
metadata does not count. -/
def order : Version → Version → Ordering :=
  compareLex (compareOn major) <| compareLex (compareOn minor) <| compareLex (compareOn patch)
    fun left right => comparePreParts left.preParts right.preParts

instance : Std.TransCmp order := by
  rw [order]
  infer_instance

theorem precedence_eq_order : precedence = order :=
  precedence_eq_compareLex

end Version

namespace Snapshot

/-- The order of optional versions: none comes first. -/
def specificity : Option Version → Option Version → Ordering
  | none, none => .eq
  | none, some _ => .lt
  | some _, none => .gt
  | some left, some right => left.order right

theorem specificity_swap (left right : Option Version) :
    (specificity left right).swap = specificity right left := by
  cases left with
  | none => cases right <;> rfl
  | some left =>
      cases right with
      | none => rfl
      | some right => exact (@Std.OrientedCmp.eq_swap _ Version.order _ right left).symm

theorem moreSpecific_iff {new old : Option Version} :
    moreSpecific new old ↔ specificity new old = .gt := by
  cases new with
  | none => cases old <;> simp [moreSpecific, specificity]
  | some new =>
      cases old with
      | none => simp [moreSpecific, specificity]
      | some old => simp [moreSpecific, specificity, Version.precedence_eq_order]

theorem specificity_eq_eq_iff {left right : Option Version} :
    specificity left right = .eq ↔ ¬moreSpecific left right ∧ ¬moreSpecific right left := by
  rw [moreSpecific_iff, moreSpecific_iff, ← specificity_swap left right]
  cases specificity left right <;> decide

/-! ## The link that is kept -/

/-- The earliest of several links whose version is maximal. -/
structure IsEarliestMaximal (targets : List Link.Target) (target : Link.Target) : Prop where
  maximal : ∀ other ∈ targets, specificity other.version target.version ≠ .gt
  earliest : ∃ before after, targets = before ++ target :: after ∧
    ∀ other ∈ before, specificity other.version target.version = .lt

variable {snapshot : Snapshot} {targets others : List Link.Target} {target left right : Link.Target}

theorem IsFirstBest.isEarliestMaximal (hbest : IsFirstBest targets target) :
    IsEarliestMaximal targets target where
  maximal other hmem hmore := hbest.not_moreSpecific hmem (moreSpecific_iff.mpr hmore)
  earliest := by
    obtain ⟨before, after, htargets, hbefore, -⟩ := hbest
    refine ⟨before, after, htargets, fun other hmem => ?_⟩
    rw [← specificity_swap, moreSpecific_iff.mp (hbefore other hmem)]
    rfl

/-- Two links to one crate that both have a maximal version among the links there. -/
structure Tie (targets : List Link.Target) (left right : Link.Target) : Prop where
  left_mem : left ∈ targets
  right_mem : right ∈ targets
  crate_eq : left.crate = right.crate
  version_eq : specificity left.version right.version = .eq
  maximal : ∀ other ∈ targets, other.crate = left.crate →
    specificity other.version left.version ≠ .gt

theorem Tie.maximal_right (htie : Tie targets left right) :
    ∀ other ∈ targets, other.crate = right.crate →
      specificity other.version right.version ≠ .gt := by
  intro other hmem hcrate hmore
  have hnot := (specificity_eq_eq_iff.mp htie.version_eq).1
  have hmoreLeft := moreSpecific_of_not_moreSpecific (moreSpecific_iff.mpr hmore) hnot
  exact htie.maximal other hmem (hcrate.trans htie.crate_eq.symm) (moreSpecific_iff.mp hmoreLeft)

/-- Two links that are recorded alike: the texts of their versions and their library names are the
same. -/
def Alike (left right : Link.Target) : Prop :=
  left.version.map Version.render = right.version.map Version.render ∧
    left.libName = right.libName

theorem Alike.entryFor_eq (halike : Alike left right) (hcrate : left.crate = right.crate) :
    entryFor left = entryFor right := by
  have hversion : left.version = right.version :=
    Option.map_injective (fun _ _ => Version.render_injective) halike.1
  rw [entryFor, entryFor, hcrate, hversion, halike.2]

theorem alike_of_entryFor_eq (hentry : entryFor left = entryFor right) : Alike left right := by
  have hlib := congrArg LinkedCrate.libName hentry
  rw [libName_entryFor, libName_entryFor] at hlib
  exact ⟨congrArg (Option.map Version.render) (congrArg LinkedCrate.version hentry), hlib⟩

/-- The links that two orders choose for one crate are a tie. -/
theorem tie_of_isFirstBest (hsame : ∀ target, target ∈ others ↔ target ∈ targets) {name : String}
    (hleft : IsFirstBest (others.filter (·.crate = name)) left)
    (hright : IsFirstBest (targets.filter (·.crate = name)) right) : Tie targets left right := by
  have hown : ∀ target,
      target ∈ others.filter (·.crate = name) ↔ target ∈ targets ∧ target.crate = name := by
    intro target
    rw [List.mem_filter, hsame, decide_eq_true_eq]
  obtain ⟨hleftMem, hleftName⟩ := (hown left).mp hleft.mem
  obtain ⟨hrightMem, hrightName⟩ := List.mem_filter.mp hright.mem
  have hrightName := of_decide_eq_true hrightName
  have hleftOwn : left ∈ targets.filter (·.crate = name) :=
    List.mem_filter.mpr ⟨hleftMem, decide_eq_true hleftName⟩
  refine ⟨hleftMem, hrightMem, hleftName.trans hrightName.symm, ?_, ?_⟩
  · rw [specificity_eq_eq_iff]
    exact ⟨hright.not_moreSpecific hleftOwn,
      hleft.not_moreSpecific ((hown right).mpr ⟨hrightMem, hrightName⟩)⟩
  · intro other hmem hcrate hmore
    have hother := (hown other).mpr ⟨hmem, hcrate.trans hleftName⟩
    exact hleft.not_moreSpecific hother (moreSpecific_iff.mpr hmore)

/-! ## Tokens of links in any order -/

/-- The entry for a crate depends only on which links there are, if ties are recorded alike. -/
theorem find?_record_eq (hempty : snapshot.crates = [])
    (hsame : ∀ target, target ∈ others ↔ target ∈ targets)
    (halike : ∀ left right, Tie targets left right → Alike left right) (name : String) :
    (snapshot.record others).find? name = (snapshot.record targets).find? name := by
  have hleft := holds_record hempty others name
  have hright := holds_record hempty targets name
  have hnone : others.filter (·.crate = name) = [] ↔ targets.filter (·.crate = name) = [] := by
    simp only [List.filter_eq_nil_iff, hsame]
  cases hother : (snapshot.record others).find? name with
  | none =>
      rw [hother] at hleft
      cases hfound : (snapshot.record targets).find? name with
      | none => rfl
      | some entry =>
          rw [hfound] at hright
          obtain ⟨best, hbest, -⟩ := hright
          rw [hnone.mp hleft] at hbest
          cases hbest.mem
  | some entry =>
      rw [hother] at hleft
      obtain ⟨otherBest, hotherBest, rfl⟩ := hleft
      cases hfound : (snapshot.record targets).find? name with
      | none =>
          rw [hfound] at hright
          rw [hnone.mpr hright] at hotherBest
          cases hotherBest.mem
      | some entry =>
          rw [hfound] at hright
          obtain ⟨best, hbest, rfl⟩ := hright
          have htie := tie_of_isFirstBest hsame hotherBest hbest
          rw [(halike _ _ htie).entryFor_eq htie.crate_eq]

/-- Recording the same links in another order gives the same token, if links that tie are alike. -/
theorem token_record_eq (hempty : snapshot.crates = [])
    (hsame : ∀ target, target ∈ others ↔ target ∈ targets)
    (halike : ∀ left right, Tie targets left right → Alike left right) :
    (snapshot.record others).token = (snapshot.record targets).token := by
  have hnames (links : List Link.Target) : (snapshot.record links).names.Nodup :=
    nodup_names_record (by rw [names, hempty]; exact List.nodup_nil) links
  have hperm : (snapshot.record others).crates.Perm (snapshot.record targets).crates := by
    rw [List.perm_ext_iff_of_nodup (.of_map _ (hnames others)) (.of_map _ (hnames targets))]
    intro entry
    have hfind := find?_record_eq hempty hsame halike entry.name
    have hmem (links : List Link.Target) : entry ∈ (snapshot.record links).crates ↔
        (snapshot.record links).find? entry.name = some entry := by
      rw [find?_eq_some_iff (hnames links), and_iff_left rfl]
    rw [hmem, hmem, hfind]
  obtain ⟨hschema, htemplate, hdocs⟩ := snapshot.record_frame others
  obtain ⟨hschema', htemplate', hdocs'⟩ := snapshot.record_frame targets
  exact token_eq_of_perm (hschema.trans hschema'.symm) (htemplate.trans htemplate'.symm)
    (hdocs.trans hdocs'.symm) hperm (hnames targets)

/-- A link that is made first is kept if its version is maximal. -/
theorem find?_record_of_first (hempty : snapshot.crates = [])
    (hmaximal : ∀ other ∈ targets, other.crate = target.crate →
      specificity other.version target.version ≠ .gt) :
    (snapshot.record (target :: targets)).find? target.crate = some (entryFor target) := by
  have hbest : IsFirstBest ((target :: targets).filter (·.crate = target.crate)) target := by
    refine ⟨[], targets.filter (·.crate = target.crate), by simp, by simp, ?_⟩
    intro other hmem hmore
    obtain ⟨hmem, hcrate⟩ := List.mem_filter.mp hmem
    exact hmaximal other hmem (of_decide_eq_true hcrate) (moreSpecific_iff.mp hmore)
  have hholds := holds_record hempty (target :: targets) target.crate
  cases hfind : (snapshot.record (target :: targets)).find? target.crate with
  | none =>
      rw [hfind] at hholds
      rw [show (target :: targets).filter (·.crate = target.crate) = [] from hholds] at hbest
      cases hbest.mem
  | some entry =>
      rw [hfind] at hholds
      obtain ⟨other, hother, rfl⟩ := hholds
      rw [hother.unique hbest]

theorem isWellFormed_start (template docs : String) : (start template docs).IsWellFormed where
  schema := by simp [start, currentSchema]
  template := length_digest template
  docs := length_digest docs
  names := List.nodup_nil

theorem IsWellFormed.record (hformed : snapshot.IsWellFormed) (targets : List Link.Target) :
    (snapshot.record targets).IsWellFormed := by
  obtain ⟨hschema, htemplate, hdocs⟩ := snapshot.record_frame targets
  exact ⟨hschema ▸ hformed.schema, htemplate ▸ hformed.template, hdocs ▸ hformed.docs,
    nodup_names_record hformed.names targets⟩

theorem find?_eq_of_token_eq {first second : Snapshot} (hfirst : first.IsWellFormed)
    (hsecond : second.IsWellFormed) (htoken : first.token = second.token) (name : String) :
    first.find? name = second.find? name := by
  have hread := hfirst.ofToken_token Reader.isFaithful_standard
  rw [htoken, hsecond.ofToken_token Reader.isFaithful_standard] at hread
  have hsorted : first.sorted = second.sorted := (Except.ok.inj hread).symm
  rw [← find?_eq_of_perm first.perm_sorted hfirst.names, hsorted,
    find?_eq_of_perm second.perm_sorted hsecond.names]

/-- Links in a fresh snapshot: the entries stand in the order of the first links, every entry is
that of the earliest link with a maximal version, and the token is the same for every order of the
links exactly if ties are recorded alike. -/
theorem record_start (template docs : String) (targets : List Link.Target) :
    let run := (start template docs).record
    (run targets).names = (targets.map Link.Target.crate).eraseDups ∧
    (∀ name,
      ((run targets).find? name = none ∧ ∀ target ∈ targets, target.crate ≠ name) ∨
      ∃ target, (run targets).find? name = some (entryFor target) ∧
        IsEarliestMaximal (targets.filter (·.crate = name)) target) ∧
    ((∀ others, targets.Perm others → (run others).token = (run targets).token) ↔
      ∀ left right, Tie targets left right → Alike left right) := by
  intro run
  refine ⟨names_record rfl targets, fun name => ?_, fun hperm left right htie => ?_,
    fun halike others hperm => token_record_eq rfl (fun _ => hperm.mem_iff.symm) halike⟩
  · have hholds := holds_record (show (start template docs).crates = [] from rfl) targets name
    cases hfind : (run targets).find? name with
    | none =>
        rw [show (run targets).find? name = none from hfind] at hholds
        have hnone := List.filter_eq_nil_iff.mp (show targets.filter (·.crate = name) = [] from hholds)
        exact .inl ⟨rfl, fun target hmem hcrate => hnone target hmem (decide_eq_true hcrate)⟩
    | some entry =>
        rw [show (run targets).find? name = some entry from hfind] at hholds
        obtain ⟨target, hbest, rfl⟩ := hholds
        exact .inr ⟨target, rfl, hbest.isEarliestMaximal⟩
  · -- Either link of the tie may be made first, and then it is the one that is kept.
    have hfirst (target : Link.Target) (hmem : target ∈ targets)
        (hmaximal : ∀ other ∈ targets, other.crate = target.crate →
          specificity other.version target.version ≠ .gt) :
        (run targets).find? target.crate = some (entryFor target) := by
      have hformed (links : List Link.Target) := (isWellFormed_start template docs).record links
      have htoken := hperm _ (List.perm_cons_erase hmem)
      rw [← find?_eq_of_token_eq (hformed _) (hformed _) htoken]
      exact find?_record_of_first rfl fun other hother =>
        hmaximal other (List.mem_of_mem_erase hother)
    have hkept := hfirst left htie.left_mem htie.maximal
    rw [htie.crate_eq, hfirst right htie.right_mem htie.maximal_right] at hkept
    exact alike_of_entryFor_eq (Option.some.inj hkept).symm

end Snapshot

end CrateReadme
