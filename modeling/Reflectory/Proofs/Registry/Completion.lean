/-
What consolidation leaves of each descriptor.

The steps of a walk are taken one after the other, and a descriptor is finished
from those of its bases as they stand at that moment. `get?_along` follows a
valid trail: a settled type has been finished from bases that do not change any
more. At the end of the walk this is an equation between the descriptors that
consolidation leaves, without any trace of the order in which they were
finished:

* `get?_consolidate`: every descriptor is the one registered, with its links
  where consolidation leaves them, finished from the consolidated registry.

What holds of consolidated registries is derived from this equation and from the
order of the walk.
-/

import Reflectory.Proofs.Registry.WalkOrder
import Reflectory.Registry.Consolidation

namespace Reflectory

/-! ### Registries -/

namespace Registry

variable {r : Registry} {config : Configuration}

theorem get?_modify (r : Registry) (x id : TypeId) (f : Descriptor → Descriptor) :
    (r.modify x f).get? id = if x = id then (r.get? id).map f else r.get? id := by
  obtain ⟨x⟩ := x
  obtain ⟨i⟩ := id
  simp only [get?, modify, List.getElem?_modify, TypeId.mk.injEq]
  split_ifs
  · rfl
  · exact Option.map_id'

theorem mem_ids {id : TypeId} : id ∈ r.ids ↔ id.index < r.types.length := by
  obtain ⟨i⟩ := id
  simp [ids]

theorem nodup_ids (r : Registry) : r.ids.Nodup :=
  List.nodup_range.map fun _ _ h => TypeId.mk.inj h

theorem mem_ids_iff_get? {id : TypeId} : id ∈ r.ids ↔ ∃ d, r.get? id = some d := by
  simp [mem_ids, get?, List.getElem?_eq_some_iff]

theorem mem_types_iff_get? {d : Descriptor} : d ∈ r.types ↔ ∃ id, r.get? id = some d := by
  rw [List.mem_iff_getElem?]
  exact ⟨fun ⟨i, h⟩ => ⟨⟨i⟩, h⟩, fun ⟨id, h⟩ => ⟨id.index, h⟩⟩

theorem idsByName_perm (r : Registry) : r.idsByName.Perm r.ids :=
  List.mergeSort_perm _ _

/-- A name leads to registered types only. -/
theorem mem_ids_of_resolve {scope : Option String} {name : String} {id : TypeId}
    (found : r.resolve scope name = some id) : id ∈ r.ids := by
  obtain ⟨spelling, -, looked⟩ := List.exists_of_findSome?_eq_some found
  obtain ⟨candidate, -, looked⟩ := List.exists_of_findSome?_eq_some looked
  obtain ⟨i, there, rfl⟩ := Option.map_eq_some_iff.mp looked
  rw [mem_ids]
  exact (List.findIdx?_eq_some_iff_getElem.mp there).1

/-! ### Links -/

theorem get?_linked (r : Registry) (config : Configuration) (id : TypeId) :
    (r.linked config).get? id = (r.get? id).map fun d =>
      { d with bases := d.bases.map fun b => { b with target := r.target config d.name b } } := by
  rw [get?, linked, List.getElem?_map]
  rfl

theorem ids_linked (r : Registry) (config : Configuration) : (r.linked config).ids = r.ids := by
  simp [ids, linked]

/-- A link leads to the type that its name means; where it means none, the base
is external or missing. -/
theorem target_cases (r : Registry) (config : Configuration) (type : String) (b : BaseLink) :
    (∃ id, r.resolve (some type) b.name = some id ∧ r.target config type b = .resolved id) ∨
      r.resolve (some type) b.name = none ∧
        (r.target config type b = .external ∨ r.target config type b = .invalid .missing) := by
  unfold target
  cases r.resolve (some type) b.name with
  | none =>
    rw [BaseLink.targetOf]
    exact .inr ⟨rfl, by split_ifs <;> simp⟩
  | some id => exact .inl ⟨id, rfl, rfl⟩

theorem target_eq_resolved_iff {type : String} {b : BaseLink} {id : TypeId} :
    r.target config type b = .resolved id ↔ r.resolve (some type) b.name = some id := by
  rcases target_cases r config type b with ⟨_, found, h⟩ | ⟨found, h | h⟩ <;> simp [found, h]

theorem target_ne_cycle (r : Registry) (config : Configuration) (type : String) (b : BaseLink) :
    r.target config type b ≠ .invalid .cycle := by
  rcases target_cases r config type b with ⟨_, _, h⟩ | ⟨_, h | h⟩ <;> simp [h]

theorem target_ne_unresolved (r : Registry) (config : Configuration) (type : String)
    (b : BaseLink) : r.target config type b ≠ .unresolved := by
  rcases target_cases r config type b with ⟨_, _, h⟩ | ⟨_, h | h⟩ <;> simp [h]

/-- The links of a linked registry lead where the names of the bases do. -/
theorem leadsTo_linked_iff {id base : TypeId} {i : Nat} :
    LeadsTo (r.linked config).targets id i base ↔
      ∃ d l, r.get? id = some d ∧ d.bases[i]? = some l ∧
        r.resolve (some d.name) l.name = some base := by
  unfold LeadsTo targets
  rw [get?_linked]
  cases r.get? id with
  | none => simp
  | some d => simp [target_eq_resolved_iff]

theorem leadsInto_linked (r : Registry) (config : Configuration) :
    LeadsInto (r.linked config).targets (r.linked config).ids := by
  intro id i base link
  obtain ⟨d, l, -, -, found⟩ := leadsTo_linked_iff.mp link
  rw [ids_linked]
  exact mem_ids_of_resolve found

theorem mem_idsByName_linked (r : Registry) (config : Configuration) (id : TypeId) :
    id ∈ (r.linked config).idsByName ↔ id ∈ (r.linked config).ids :=
  (idsByName_perm _).mem_iff

/-! ### The walk of a consolidation -/

/-- The walk that consolidation takes. -/
def trail (r : Registry) (config : Configuration) : Trail :=
  walk (r.linked config).targets (r.linked config).ids (r.linked config).idsByName

theorem trail_valid (r : Registry) (config : Configuration) :
    (r.trail config).Valid (r.linked config).targets :=
  walk_valid (leadsInto_linked r config) (nodup_ids _)
    fun u => (mem_idsByName_linked r config u).mp

theorem mem_settled_trail {id : TypeId} : id ∈ (r.trail config).settled ↔ id ∈ r.ids := by
  rw [trail, mem_settled_walk (leadsInto_linked r config) (nodup_ids _)
    (mem_idsByName_linked r config), ids_linked]

/-- The registry after the steps of a trail. -/
def along (r : Registry) (config : Configuration) (t : Trail) : Consolidation :=
  t.steps.foldl (Consolidation.step config) { registry := r.linked config }

theorem along_drop (r : Registry) (config : Configuration) (t : Trail) (x : TypeId) (i : Nat) :
    r.along config (t.drop x i) = (r.along config t).drop x i := by
  simp [along, Trail.drop, Consolidation.step]

theorem along_settle (r : Registry) (config : Configuration) (t : Trail) (x : TypeId) :
    r.along config (t.settle x) = (r.along config t).settle config x := by
  simp [along, Trail.settle, Consolidation.step]

end Registry

/-! ### Finishing reads the bases only -/

namespace Descriptor

variable {config : Configuration} {get? get?' : TypeId → Option Descriptor} {d : Descriptor}

/-- Two registries have the same descriptors for the bases of a type. -/
def SameBases (get? get?' : TypeId → Option Descriptor) (d : Descriptor) : Prop :=
  ∀ b ∈ d.bases, ∀ base, b.target = .resolved base → get? base = get?' base

theorem invalidReason?_congr (same : SameBases get? get?' d) :
    d.invalidReason? get? = d.invalidReason? get?' := by
  unfold invalidReason?
  rw [← List.head?_filterMap, ← List.head?_filterMap]
  congr 1
  refine List.filterMap_congr fun b mem => ?_
  cases h : b.target with
  | resolved base => simp only [same b mem base h]
  | unresolved => rfl
  | external => rfl
  | invalid defect => cases defect <;> rfl

theorem leftOver_congr (same : SameBases get? get?' d) :
    d.leftOver get? = d.leftOver get?' := by
  unfold leftOver
  congr 1
  refine List.flatMap_congr fun b mem => ?_
  cases h : b.target with
  | resolved base => simp only [same b mem base h]
  | unresolved => rfl
  | external => rfl
  | invalid => rfl

/-- A type is finished alike from registries that have the same bases for it. -/
theorem finished_congr (same : SameBases get? get?' d) :
    d.finished config get? = d.finished config get?' := by
  unfold finished
  rw [invalidReason?_congr same, leftOver_congr same]

@[simp] theorem finished_name : (d.finished config get?).name = d.name := rfl

@[simp] theorem finished_bases : (d.finished config get?).bases = d.bases := rfl

@[simp] theorem finished_pureVirtuals :
    (d.finished config get?).pureVirtuals = d.pureVirtuals := rfl

@[simp] theorem finished_implemented :
    (d.finished config get?).implemented = d.implemented := rfl

@[simp] theorem finished_unimplemented :
    (d.finished config get?).unimplemented = d.leftOver get? := rfl

@[simp] theorem finished_kind :
    (d.finished config get?).kind = d.kind.completed !(d.leftOver get?).isEmpty := rfl

@[simp] theorem finished_eligible :
    (d.finished config get?).eligible =
      d.isEligible config (d.invalidReason? get?).isSome := rfl

theorem finished_state :
    (d.finished config get?).state =
      if d.state = .invalid || (d.invalidReason? get?).isSome then .invalid
      else .consolidated := rfl

end Descriptor

/-! ### Taking steps -/

namespace Consolidation

variable {config : Configuration} {c : Consolidation} {x id : TypeId} {i : Nat}

theorem get?_drop_of_ne (h : id ≠ x) : (c.drop x i).registry.get? id = c.registry.get? id := by
  unfold drop
  split
  · rfl
  · rw [Registry.get?_modify, if_neg (Ne.symm h)]

theorem get?_drop_self {d : Descriptor} (there : c.registry.get? x = some d) :
    (c.drop x i).registry.get? x =
      some { d with bases := d.bases.modify i fun b => { b with target := .invalid .cycle } } := by
  simp [drop, there, Registry.get?_modify]

theorem get?_settle_of_ne (h : id ≠ x) :
    (c.settle config x).registry.get? id = c.registry.get? id := by
  unfold settle
  split
  · rfl
  · rw [Registry.get?_modify, if_neg (Ne.symm h)]

theorem get?_settle_self :
    (c.settle config x).registry.get? x =
      (c.registry.get? x).map fun d => d.finished config c.registry.get? := by
  unfold settle
  split
  · simp_all
  · simp [Registry.get?_modify]

end Consolidation

namespace Registry

variable {r : Registry} {config : Configuration} {t : Trail}

/-- The descriptor of a type with the links marked that a trail drops. -/
def cut (t : Trail) (id : TypeId) (d : Descriptor) : Descriptor :=
  { d with
    bases := d.bases.mapIdx fun i b =>
      if .drop id i ∈ t.steps then { b with target := .invalid .cycle } else b }

theorem cut_start (id : TypeId) (d : Descriptor) : cut {} id d = d := by
  have same : d.bases.mapIdx (fun _ b => b) = d.bases := by simp [List.mapIdx_eq_iff]
  simp [cut, same]

theorem cut_settle (x id : TypeId) (d : Descriptor) : cut (t.settle x) id d = cut t id d := by
  simp [cut]

theorem cut_drop_of_ne {x id : TypeId} (h : id ≠ x) (i : Nat) (d : Descriptor) :
    cut (t.drop x i) id d = cut t id d := by
  simp [cut, Trail.drop_mem_drop, h]

theorem cut_drop_self (x : TypeId) (i : Nat) (d : Descriptor) :
    cut (t.drop x i) x d =
      { cut t x d with
        bases := (cut t x d).bases.modify i fun b => { b with target := .invalid .cycle } } := by
  unfold cut
  congr 1
  refine List.ext_getElem? fun j => ?_
  simp only [List.getElem?_mapIdx, List.getElem?_modify, Trail.drop_mem_drop, true_and]
  cases d.bases[j]? with
  | none => simp
  | some b =>
    by_cases same : i = j
    · subst same
      by_cases dropped : Step.drop x i ∈ t.steps <;> simp [dropped]
    · by_cases dropped : Step.drop x j ∈ t.steps <;> simp [dropped, same, Ne.symm same]

/-- What a link of a cut descriptor leads to is a base by a link that is kept. -/
theorem leadsTo_of_cut {id base : TypeId} {d : Descriptor} {b : BaseLink}
    (there : (r.linked config).get? id = some d) (mem : b ∈ (cut t id d).bases)
    (target : b.target = .resolved base) :
    ∃ i, LeadsTo (r.linked config).targets id i base ∧ .drop id i ∉ t.steps := by
  obtain ⟨i, h⟩ := List.mem_iff_getElem?.mp mem
  simp only [cut, List.getElem?_mapIdx, Option.map_eq_some_iff] at h
  obtain ⟨l, at_i, rfl⟩ := h
  split_ifs at target with dropped
  refine ⟨i, ?_, dropped⟩
  unfold LeadsTo targets
  simp [there, at_i, target]

/-- A step about another type leaves a settled type as it was finished. -/
theorem sameBases_cut {x id : TypeId} {d : Descriptor} {get? get?' : TypeId → Option Descriptor}
    (there : (r.linked config).get? id = some d)
    (bases : ∀ i base, LeadsTo (r.linked config).targets id i base → .drop id i ∉ t.steps →
      base ∈ t.settled)
    (unsettled : x ∉ t.settled) (other : ∀ u, u ≠ x → get? u = get?' u) :
    (cut t id d).SameBases get? get?' := by
  intro b mem base target
  obtain ⟨i, link, kept⟩ := leadsTo_of_cut there mem target
  exact other base fun same => unsettled (same ▸ bases i base link kept)

/-- **After the steps of a valid trail**, every type has the links cut that are
dropped, and a settled type has been finished from its bases as they are. -/
theorem get?_along (valid : t.Valid (r.linked config).targets) (id : TypeId) :
    (r.along config t).registry.get? id = ((r.linked config).get? id).map fun d =>
      if id ∈ t.settled then (cut t id d).finished config (r.along config t).registry.get?
      else cut t id d := by
  induction valid generalizing id with
  | start => simp [along, cut_start]
  | @drop t x base i valid link unsettled _ _ ih =>
    rw [along_drop, Trail.settled_drop]
    have other : ∀ u, u ≠ x →
        (r.along config t).registry.get? u =
          ((r.along config t).drop x i).registry.get? u :=
      fun u h => (Consolidation.get?_drop_of_ne h).symm
    by_cases same : id = x
    · subst same
      obtain ⟨d, there⟩ : ∃ d, (r.linked config).get? id = some d := by
        obtain ⟨d, l, there, -⟩ := leadsTo_linked_iff.mp link
        exact ⟨_, by rw [get?_linked, there]; rfl⟩
      have before := ih id
      rw [there, Option.map_some, if_neg unsettled] at before
      rw [Consolidation.get?_drop_self before, there, Option.map_some, if_neg unsettled,
        cut_drop_self]
    · rw [← other id same, ih id]
      cases there : (r.linked config).get? id with
      | none => rfl
      | some d =>
        rw [Option.map_some, Option.map_some, cut_drop_of_ne same]
        split_ifs with settled
        · have same_bases := sameBases_cut there (fun _ _ => valid.settled_of_kept settled)
            unsettled other
          rw [Descriptor.finished_congr same_bases]
        · rfl
  | @settle t x valid unsettled bases ih =>
    rw [along_settle]
    have other : ∀ u, u ≠ x →
        (r.along config t).registry.get? u =
          ((r.along config t).settle config x).registry.get? u :=
      fun u h => (Consolidation.get?_settle_of_ne h).symm
    by_cases same : id = x
    · subst same
      rw [Consolidation.get?_settle_self, ih id]
      cases there : (r.linked config).get? id with
      | none => rfl
      | some d =>
        have kept := fun i base link kept => (bases i base link).resolve_left kept
        have settled : id ∈ (t.settle id).settled := Trail.mem_settled_settle.mpr (.inr rfl)
        simp only [Option.map_some, if_neg unsettled, if_pos settled, cut_settle]
        rw [Descriptor.finished_congr (sameBases_cut there kept unsettled other)]
    · rw [← other id same, ih id]
      cases there : (r.linked config).get? id with
      | none => rfl
      | some d =>
        simp only [Option.map_some, cut_settle, Trail.mem_settled_settle, same, or_false]
        split_ifs with settled
        · have same_bases := sameBases_cut there (fun _ _ => valid.settled_of_kept settled)
            unsettled other
          rw [Descriptor.finished_congr same_bases]
        · rfl

/-! ### The consolidated registry -/

/-- Where consolidation leaves the link at this place of a type. -/
def finalTarget (r : Registry) (config : Configuration) (id : TypeId) (type : String)
    (place : Nat) (b : BaseLink) : BaseTarget :=
  if .drop id place ∈ (r.trail config).steps then .invalid .cycle else r.target config type b

/-- The descriptor of a type with its links where consolidation leaves them. -/
def relinked (r : Registry) (config : Configuration) (id : TypeId) (d : Descriptor) :
    Descriptor :=
  { d with
    bases := d.bases.mapIdx fun i b => { b with target := r.finalTarget config id d.name i b } }

theorem relinked_name (r : Registry) (config : Configuration) (id : TypeId)
    (d : Descriptor) : (r.relinked config id d).name = d.name := rfl

theorem getElem?_bases_relinked (r : Registry) (config : Configuration) (id : TypeId)
    (d : Descriptor) (i : Nat) :
    (r.relinked config id d).bases[i]? =
      d.bases[i]?.map fun b => { b with target := r.finalTarget config id d.name i b } := by
  rw [relinked, List.getElem?_mapIdx]

/-- The links that the walk drops are the only ones that do not lead where their
names do. -/
theorem cut_linked (r : Registry) (config : Configuration) (id : TypeId) (d : Descriptor) :
    cut (r.trail config) id
        { d with bases := d.bases.map fun b => { b with target := r.target config d.name b } } =
      r.relinked config id d := by
  unfold cut relinked finalTarget
  congr 1
  refine List.ext_getElem? fun i => ?_
  simp only [List.getElem?_mapIdx, List.getElem?_map]
  cases d.bases[i]? with
  | none => rfl
  | some b =>
    simp only [Option.map_some]
    split_ifs <;> rfl

/-- **The equation of consolidation.** Every descriptor is the one registered,
with its links where consolidation leaves them, finished from its consolidated
bases. -/
theorem get?_consolidate (r : Registry) (config : Configuration) (id : TypeId) :
    (r.consolidate config).registry.get? id = (r.get? id).map fun d =>
      (r.relinked config id d).finished config (r.consolidate config).registry.get? := by
  have along := get?_along (trail_valid r config) id
  change (r.consolidate config).registry.get? id = _ at along
  rw [along, get?_linked]
  cases there : r.get? id with
  | none => rfl
  | some d =>
    have settled : id ∈ (r.trail config).settled :=
      mem_settled_trail.mpr (mem_ids_iff_get?.mpr ⟨d, there⟩)
    simp only [Option.map_some, if_pos settled, cut_linked]
    rfl

/-- Every registered descriptor is completed. -/
theorem consolidated_of_registered {id : TypeId} {d : Descriptor} (there : r.get? id = some d) :
    (r.consolidate config).registry.get? id =
      some ((r.relinked config id d).finished config (r.consolidate config).registry.get?) := by
  rw [get?_consolidate, there, Option.map_some]

/-- Every consolidated descriptor comes from one that is registered. -/
theorem registered_of_consolidated {id : TypeId} {D : Descriptor}
    (there : (r.consolidate config).registry.get? id = some D) :
    ∃ d, r.get? id = some d ∧
      D = (r.relinked config id d).finished config (r.consolidate config).registry.get? := by
  rw [get?_consolidate] at there
  obtain ⟨d, registered, rfl⟩ := Option.map_eq_some_iff.mp there
  exact ⟨d, registered, rfl⟩

/-- Consolidation keeps the names of all types. -/
theorem names_consolidate (r : Registry) (config : Configuration) :
    (r.consolidate config).registry.types.map Descriptor.name = r.types.map Descriptor.name := by
  refine List.ext_getElem? fun i => ?_
  have equation := get?_consolidate r config ⟨i⟩
  unfold get? at equation
  rw [List.getElem?_map, List.getElem?_map, equation, Option.map_map]
  rfl

theorem ids_consolidate (r : Registry) (config : Configuration) :
    ∀ id, id ∈ (r.consolidate config).registry.ids ↔ id ∈ r.ids := by
  intro id
  rw [mem_ids_iff_get?, mem_ids_iff_get?, get?_consolidate]
  cases r.get? id with
  | none => simp
  | some d => simp

end Registry

end Reflectory
