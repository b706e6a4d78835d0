/-
Registries that differ in the numbers of their types only.

Numbers are handed out in the order of registration. Nothing that consolidation
does depends on them: names are looked up, roots are taken in the order of names,
and bases in the order of links. So the walk over a renumbered registry makes the
same moves under other numbers (`Move.renumber`), and where the walk ends there
is only one way to have come (`walk_renumber`). Links and finished types follow
along the order of the types.

* `renumbered_consolidate`: consolidation takes registries that differ in their
  numbers to registries that do.
-/

import Reflectory.Proofs.Registry.Construction
import Reflectory.Proofs.Registry.Repetition

namespace Reflectory

open Relation

/-! ### Renumbered values -/

/-- The target under other numbers. -/
def BaseTarget.renumber (f : TypeId → TypeId) : BaseTarget → BaseTarget
  | resolved id => resolved (f id)
  | target => target

/-- The link under other numbers. -/
def BaseLink.renumber (f : TypeId → TypeId) (b : BaseLink) : BaseLink :=
  { b with target := b.target.renumber f }

/-- The descriptor under other numbers. -/
def Descriptor.renumber (f : TypeId → TypeId) (d : Descriptor) : Descriptor :=
  { d with bases := d.bases.map (BaseLink.renumber f) }

/-- The step under other numbers. -/
def Step.renumber (f : TypeId → TypeId) : Step → Step
  | drop type base => drop (f type) base
  | settle type => settle (f type)

/-- The trail under other numbers. -/
def Trail.renumber (f : TypeId → TypeId) (t : Trail) : Trail where
  steps := t.steps.map (Step.renumber f)
  settled := t.settled.map f

/-- The frame under other numbers. -/
def Frame.renumber (f : TypeId → TypeId) (x : Frame) : Frame :=
  ⟨f x.type, x.next⟩

/-- The walk under way under other numbers. -/
def Descent.renumber (f : TypeId → TypeId) (s : Descent) : Descent :=
  ⟨s.roots.map f, s.stack.map (Frame.renumber f), s.trail.renumber f⟩

section Renumber

variable {f : TypeId → TypeId}

@[simp] theorem Descriptor.renumber_name (d : Descriptor) : (d.renumber f).name = d.name := rfl

@[simp] theorem Descriptor.renumber_kind (d : Descriptor) : (d.renumber f).kind = d.kind := rfl

@[simp] theorem Descriptor.renumber_bases (d : Descriptor) :
    (d.renumber f).bases = d.bases.map (BaseLink.renumber f) := rfl

@[simp] theorem Trail.renumber_drop (t : Trail) (type : TypeId) (base : Nat) :
    (t.drop type base).renumber f = (t.renumber f).drop (f type) base := by
  simp [renumber, drop, Step.renumber]

@[simp] theorem Trail.renumber_settle (t : Trail) (type : TypeId) :
    (t.settle type).renumber f = (t.renumber f).settle (f type) := by
  simp [renumber, settle, Step.renumber]

theorem Trail.drop_mem_renumber (inj : Function.Injective f) {t : Trail} {type : TypeId}
    {base : Nat} : .drop (f type) base ∈ (t.renumber f).steps ↔ .drop type base ∈ t.steps := by
  rw [renumber, List.mem_map]
  constructor
  · rintro ⟨step, mem, same⟩
    cases step with
    | drop =>
      injection same with same_type same_base
      rw [← inj same_type, ← same_base]
      exact mem
    | settle => cases same
  · exact fun mem => ⟨_, mem, rfl⟩

/-! ### The walk -/

variable {targets targets' : TypeId → List BaseTarget}

/-- The links of one graph are those of another under other numbers. -/
def SameLinks (f : TypeId → TypeId) (targets targets' : TypeId → List BaseTarget) : Prop :=
  ∀ id, targets' (f id) = (targets id).map (BaseTarget.renumber f)

theorem SameLinks.leadsTo (same : SameLinks f targets targets') {type base : TypeId}
    {place : Nat} (link : LeadsTo targets type place base) :
    LeadsTo targets' (f type) place (f base) := by
  unfold LeadsTo at *
  rw [same, List.getElem?_map, link]
  rfl

/-- One turn of the loop is one turn under other numbers. -/
theorem Move.renumber (inj : Function.Injective f) (same : SameLinks f targets targets')
    {s s' : Descent} (move : Move targets s s') :
    Move targets' (s.renumber f) (s'.renumber f) := by
  have settled_iff : ∀ (t : Trail) (u : TypeId), f u ∈ (t.renumber f).settled ↔ u ∈ t.settled :=
    fun t u => List.mem_map_of_injective inj
  have inside_iff : ∀ (u x : TypeId) (below : List Frame),
      f u ∈ f x :: (below.map (Frame.renumber f)).map Frame.type ↔
        u ∈ x :: below.map Frame.type := by
    intro u x below
    have types : f x :: (below.map (Frame.renumber f)).map Frame.type =
        (x :: below.map Frame.type).map f := by
      rw [List.map_cons, List.map_map, List.map_map]
      rfl
    rw [types, List.mem_map_of_injective inj]
  cases move with
  | skipRoot settled => exact .skipRoot ((settled_iff _ _).mpr settled)
  | enterRoot unsettled => exact .enterRoot fun settled => unsettled ((settled_iff _ _).mp settled)
  | @settle roots x n below t last =>
    have last' : (targets' (f x))[n]? = none := by
      rw [same, List.getElem?_map, last]
      rfl
    simpa [Descent.renumber, Frame.renumber] using Move.settle last'
  | @pass roots x n below t target link settled =>
    have link' : (targets' (f x))[n]? = some (target.renumber f) := by
      rw [same, List.getElem?_map, link]
      rfl
    refine .pass link' fun base lead => ?_
    cases target with
    | resolved id =>
      cases lead
      exact (settled_iff _ _).mpr (settled id rfl)
    | unresolved | external | invalid => cases lead
  | @drop roots x base n below t link unsettled within =>
    have dropped : Move targets'
        ⟨roots.map f, ⟨f x, n⟩ :: below.map (Frame.renumber f), t.renumber f⟩
        ⟨roots.map f, ⟨f x, n + 1⟩ :: below.map (Frame.renumber f),
          (t.renumber f).drop (f x) n⟩ :=
      .drop (same.leadsTo link) (fun settled => unsettled ((settled_iff t base).mp settled))
        ((inside_iff base x below).mpr within)
    simpa [Descent.renumber, Frame.renumber] using dropped
  | @enter roots x base n below t link unsettled without =>
    exact .enter (same.leadsTo link) (fun settled => unsettled ((settled_iff t base).mp settled))
      fun within => without ((inside_iff base x below).mp within)

/-- Any number of turns are as many turns under other numbers. -/
theorem Runs.renumber (inj : Function.Injective f) (same : SameLinks f targets targets')
    {s s' : Descent} (runs : Runs targets s s') :
    Runs targets' (s.renumber f) (s'.renumber f) := by
  induction runs with
  | refl => exact .refl
  | tail _ move ih => exact ih.tail (move.renumber inj same)

/-- The loop ends in one way only. -/
theorem Runs.unique_end {s : Descent} {t t' : Trail} (runs : Runs targets s ⟨[], [], t⟩)
    (runs' : Runs targets s ⟨[], [], t'⟩) : t = t' := by
  have ends : ∀ {t t' : Trail}, Runs targets ⟨[], [], t⟩ ⟨[], [], t'⟩ → t = t' := by
    intro t t' runs
    rcases ReflTransGen.cases_head runs with same | ⟨_, move, -⟩
    · injection same
    · exact absurd move not_move_of_done
  have right_unique : Relator.RightUnique (Move targets) := fun _ _ _ => Move.unique
  rcases ReflTransGen.total_of_right_unique right_unique runs runs' with on | on
  · exact ends on
  · exact (ends on).symm

/-- **The walk under other numbers** is the walk, under other numbers. -/
theorem walk_renumber (inj : Function.Injective f) (same : SameLinks f targets targets')
    {types types' roots roots' : List TypeId} (into : LeadsInto targets types)
    (into' : LeadsInto targets' types') (nodup : types.Nodup) (nodup' : types'.Nodup)
    (known : ∀ u ∈ roots, u ∈ types) (known' : ∀ u ∈ roots', u ∈ types')
    (same_roots : roots' = roots.map f) :
    walk targets' types' roots' = (walk targets types roots).renumber f := by
  have runs := (walk_runs into nodup known).renumber inj same
  have runs' := walk_runs into' nodup' known'
  rw [same_roots] at runs' ⊢
  exact runs'.unique_end runs

end Renumber

/-! ### Registries with other numbers -/

namespace Registry

/-- The same descriptors under other numbers, with their targets as they are. -/
structure Reordered (f : TypeId → TypeId) (r r' : Registry) : Prop where
  bijective : Function.Bijective f
  get?_eq : ∀ id, r'.get? (f id) = r.get? id
  distinct : r.Distinct

/-- The same registry under other numbers. -/
structure Renumbered (f : TypeId → TypeId) (r r' : Registry) : Prop where
  get?_eq : ∀ id, r'.get? (f id) = (r.get? id).map (Descriptor.renumber f)
  lookup_eq : ∀ name, r'.lookup name = (r.lookup name).map f
  order_eq : r'.order = r.order.map f

variable {r r' : Registry} {f : TypeId → TypeId}

theorem nameOf_of_get? {id : TypeId} {d : Descriptor} (there : r.get? id = some d) :
    r.nameOf id = d.name := by
  rw [nameOf, there]
  rfl

theorem get?_of_lookup {name : String} {id : TypeId} (found : r.lookup name = some id) :
    ∃ d, r.get? id = some d ∧ d.name = name := by
  obtain ⟨i, there, rfl⟩ := Option.map_eq_some_iff.mp found
  obtain ⟨inside, named, -⟩ := List.findIdx?_eq_some_iff_getElem.mp there
  exact ⟨_, List.getElem?_eq_getElem inside, by simpa using named⟩

/-- Names are resolved by looking them up. -/
theorem resolve_eq_map (lookup_eq : ∀ name, r'.lookup name = (r.lookup name).map f)
    (scope : Option String) (name : String) :
    r'.resolve scope name = (r.resolve scope name).map f := by
  have lookup : r'.lookup = fun name => (r.lookup name).map f := funext lookup_eq
  simp only [resolve, resolveBy, lookup, List.map_findSome?, Function.comp_def]

theorem lookup_eq_some_iff (distinct : r.Distinct) {name : String} {id : TypeId} :
    r.lookup name = some id ↔ ∃ d, r.get? id = some d ∧ d.name = name := by
  refine ⟨get?_of_lookup, ?_⟩
  rintro ⟨d, there, rfl⟩
  cases found : r.lookup d.name with
  | none =>
    have unnamed := List.findIdx?_eq_none_iff.mp (Option.map_eq_none_iff.mp found)
    simpa using unnamed d (List.mem_of_getElem? there)
  | some id' =>
    obtain ⟨d', there', named⟩ := get?_of_lookup found
    rw [distinct id' id d' d there' there named]

theorem pairwise_idsByName (r : Registry) :
    r.idsByName.Pairwise fun a b => r.nameOf a ≤ r.nameOf b :=
  List.pairwise_mergeSort' (Order.Preimage r.nameOf (· ≤ ·)) r.ids

namespace Reordered

variable {config : Configuration} (h : Reordered f r r')
include h

theorem distinct' : r'.Distinct := by
  intro id id' d d' there there' named
  obtain ⟨a, rfl⟩ := h.bijective.surjective id
  obtain ⟨b, rfl⟩ := h.bijective.surjective id'
  rw [h.get?_eq] at there there'
  rw [h.distinct a b d d' there there' named]

theorem lookup_eq (name : String) : r'.lookup name = (r.lookup name).map f := by
  cases found : r.lookup name with
  | some id =>
    obtain ⟨d, there, named⟩ := get?_of_lookup found
    exact (lookup_eq_some_iff h.distinct').mpr ⟨d, (h.get?_eq id).trans there, named⟩
  | none =>
    cases found' : r'.lookup name with
    | none => rfl
    | some id' =>
      obtain ⟨d, there, named⟩ := get?_of_lookup found'
      obtain ⟨id, rfl⟩ := h.bijective.surjective id'
      rw [h.get?_eq] at there
      cases found.symm.trans ((lookup_eq_some_iff h.distinct).mpr ⟨d, there, named⟩)

theorem nameOf_eq (id : TypeId) : r'.nameOf (f id) = r.nameOf id := by
  rw [nameOf, nameOf, h.get?_eq]

theorem mem_ids_iff (id : TypeId) : f id ∈ r'.ids ↔ id ∈ r.ids := by
  rw [mem_ids_iff_get?, mem_ids_iff_get?, h.get?_eq]

theorem ids_perm : r'.ids.Perm (r.ids.map f) := by
  refine (List.perm_ext_iff_of_nodup (nodup_ids r')
    ((nodup_ids r).map h.bijective.injective)).mpr fun id' => ?_
  obtain ⟨id, rfl⟩ := h.bijective.surjective id'
  rw [h.mem_ids_iff, List.mem_map_of_injective h.bijective.injective]

/-- Names come in the same order, as no two are equal. -/
theorem idsByName_eq : r'.idsByName = r.idsByName.map f := by
  refine List.Perm.eq_of_pairwise ?_ r'.pairwise_idsByName ?_ ?_
  · intro a b a_mem b_mem le le'
    obtain ⟨d, there⟩ := mem_ids_iff_get?.mp ((idsByName_perm r').mem_iff.mp a_mem)
    obtain ⟨c, c_mem, rfl⟩ := List.mem_map.mp b_mem
    obtain ⟨d', there'⟩ := mem_ids_iff_get?.mp
      ((h.mem_ids_iff c).mpr ((idsByName_perm r).mem_iff.mp c_mem))
    have named := le_antisymm le le'
    rw [nameOf_of_get? there, nameOf_of_get? there'] at named
    exact h.distinct' _ _ d d' there there' named
  · rw [List.pairwise_map]
    refine r.pairwise_idsByName.imp fun {a b} le => ?_
    rw [h.nameOf_eq, h.nameOf_eq]
    exact le
  · exact (idsByName_perm r').trans (h.ids_perm.trans ((idsByName_perm r).symm.map f))

theorem target_eq (type : String) (b : BaseLink) :
    r'.target config type b = (r.target config type b).renumber f := by
  unfold target
  rw [resolve_eq_map h.lookup_eq]
  cases r.resolve (some type) b.name with
  | some id => rfl
  | none =>
    simp only [Option.map_none, BaseLink.targetOf]
    split_ifs <;> rfl

theorem sameLinks (config : Configuration) :
    SameLinks f (r.linked config).targets (r'.linked config).targets := by
  intro id
  unfold targets
  rw [get?_linked, get?_linked, h.get?_eq]
  cases r.get? id with
  | none => rfl
  | some d => simp [h.target_eq, Function.comp_def]

/-- The walk of a consolidation under other numbers. -/
theorem trail_eq (config : Configuration) : r'.trail config = (r.trail config).renumber f := by
  have roots : (r'.linked config).idsByName = (r.linked config).idsByName.map f := by
    rw [idsByName_congr (names_linked r' config), idsByName_congr (names_linked r config),
      h.idsByName_eq]
  exact walk_renumber h.bijective.injective (h.sameLinks config)
    (leadsInto_linked r config) (leadsInto_linked r' config) (nodup_ids _) (nodup_ids _)
    (fun u => (mem_idsByName_linked r config u).mp)
    (fun u => (mem_idsByName_linked r' config u).mp) roots

theorem finalTarget_eq (id : TypeId) (type : String) (i : Nat) (b : BaseLink) :
    r'.finalTarget config (f id) type i b = (r.finalTarget config id type i b).renumber f := by
  unfold finalTarget
  simp only [h.trail_eq, Trail.drop_mem_renumber h.bijective.injective, h.target_eq]
  split_ifs <;> rfl

theorem relinked_eq (id : TypeId) (d : Descriptor) :
    r'.relinked config (f id) d = (r.relinked config id d).renumber f := by
  have bases : (r'.relinked config (f id) d).bases =
      (r.relinked config id d).bases.map (BaseLink.renumber f) := by
    refine List.ext_getElem? fun i => ?_
    rw [List.getElem?_map, getElem?_bases_relinked, getElem?_bases_relinked, Option.map_map]
    simp only [Function.comp_def, h.finalTarget_eq, BaseLink.renumber]
  exact congrArg (fun bases => { d with bases }) bases

end Reordered

end Registry

/-! ### Finished types -/

namespace Descriptor

variable {config : Configuration} {f : TypeId → TypeId} {get? get?' : TypeId → Option Descriptor}
  {d : Descriptor}

/-- Two registries have the same descriptors for the bases of a type, under other
numbers. -/
def RenumberedBases (f : TypeId → TypeId) (get? get?' : TypeId → Option Descriptor)
    (d : Descriptor) : Prop :=
  ∀ b ∈ d.bases, ∀ base, b.target = .resolved base →
    get?' (f base) = (get? base).map (renumber f)

theorem invalidReason?_renumber (same : RenumberedBases f get? get?' d) :
    (d.renumber f).invalidReason? get?' = d.invalidReason? get? := by
  unfold invalidReason?
  rw [renumber_bases, List.findSome?_map, ← List.head?_filterMap, ← List.head?_filterMap]
  congr 1
  refine List.filterMap_congr fun b mem => ?_
  cases h : b.target with
  | resolved base =>
    simp only [Function.comp_apply, BaseLink.renumber, BaseTarget.renumber, h,
      same b mem base h]
    cases get? base <;> rfl
  | unresolved | external => simp [BaseLink.renumber, BaseTarget.renumber, h]
  | invalid defect => cases defect <;> simp [BaseLink.renumber, BaseTarget.renumber, h]

theorem leftOver_renumber (same : RenumberedBases f get? get?' d) :
    (d.renumber f).leftOver get?' = d.leftOver get? := by
  unfold leftOver
  rw [renumber_bases, List.flatMap_map]
  congr 1
  refine List.flatMap_congr fun b mem => ?_
  cases h : b.target with
  | resolved base =>
    simp only [BaseLink.renumber, BaseTarget.renumber, h, same b mem base h]
    cases get? base <;> rfl
  | unresolved | external | invalid => simp [BaseLink.renumber, BaseTarget.renumber, h]

/-- A type is finished alike under other numbers. -/
theorem finished_renumber (same : RenumberedBases f get? get?' d) :
    (d.renumber f).finished config get?' = (d.finished config get?).renumber f := by
  unfold finished
  rw [invalidReason?_renumber same, leftOver_renumber same]
  rfl

end Descriptor

/-! ### Consolidated registries -/

namespace Registry

variable {r r' : Registry} {f : TypeId → TypeId} {config : Configuration}

/-- Every descriptor is completed alike under other numbers. The induction is
along the order of the types. -/
theorem Reordered.get?_consolidate_eq (h : Reordered f r r') (id : TypeId) :
    (r'.consolidate config).registry.get? (f id) =
      ((r.consolidate config).registry.get? id).map (Descriptor.renumber f) := by
  induction id using base_induction r config with
  | step id ih =>
    rw [get?_consolidate r', h.get?_eq]
    cases registered : r.get? id with
    | none => rw [get?_consolidate, registered, Option.map_none, Option.map_none, Option.map_none]
    | some d =>
      have there : (r.consolidate config).registry.get? id =
          some ((r.relinked config id d).finished config (r.consolidate config).registry.get?) :=
        consolidated_of_registered registered
      have same : (r.relinked config id d).RenumberedBases f (r.consolidate config).registry.get?
          (r'.consolidate config).registry.get? :=
        fun b mem base target => ih base ⟨_, there, b, mem, target⟩
      rw [there, Option.map_some, Option.map_some, h.relinked_eq,
        Descriptor.finished_renumber same]

/-- **Consolidation does not depend on numbers**: it takes registries that differ
in the numbers of their types to registries that do. -/
theorem renumbered_consolidate (h : Reordered f r r') (config : Configuration) :
    Renumbered f (r.consolidate config).registry (r'.consolidate config).registry where
  get?_eq := h.get?_consolidate_eq
  lookup_eq name := by
    rw [lookup_eq_findIdx?, lookup_eq_findIdx?, names_consolidate, names_consolidate,
      ← lookup_eq_findIdx?, ← lookup_eq_findIdx?, h.lookup_eq]
  order_eq := congrArg Trail.settled (h.trail_eq config)

end Registry

end Reflectory
