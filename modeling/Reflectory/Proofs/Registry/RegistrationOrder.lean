/-
The order of registration.

Registering the same types in another order gives the same registry under other
numbers (`exists_reordered`). Consolidation and the making of units do not
depend on numbers, so types are completed alike, settled in the same order by
name, and written to the same files (`same_units_in_any_order`).
-/

import Reflectory.Generation.Units
import Reflectory.Proofs.Registry.Renumbering

namespace Reflectory

/-! ### Units under other numbers -/

namespace Registry.Renumbered

variable {r r' : Registry} {f : TypeId → TypeId} (h : Renumbered f r r')
include h

theorem nameOf_eq (id : TypeId) : r'.nameOf (f id) = r.nameOf id := by
  rw [nameOf, nameOf, h.get?_eq]
  cases r.get? id <;> rfl

theorem headerOf?_eq : r'.headerOf? = r.headerOf? := by
  funext type
  unfold headerOf?
  rw [resolve_eq_map h.lookup_eq]
  cases r.resolve none (Spelling.pointee (Spelling.valueType type)) with
  | none => rfl
  | some id =>
    simp only [Option.map_some, Option.bind_some, h.get?_eq]
    cases r.get? id <;> rfl

theorem ofBase?_renumber (b : BaseLink) :
    Entry.ofBase? r' (b.renumber f) = Entry.ofBase? r b := by
  unfold Entry.ofBase?
  cases target : b.target with
  | resolved id => simp [BaseLink.renumber, BaseTarget.renumber, target, h.nameOf_eq]
  | unresolved | external | invalid => simp [BaseLink.renumber, BaseTarget.renumber, target]

theorem baseEntries_renumber (d : Descriptor) :
    (d.renumber f).baseEntries r' = d.baseEntries r := by
  unfold Descriptor.baseEntries
  rw [Descriptor.renumber_kind, Descriptor.renumber_bases, List.filterMap_map]
  have entry : Entry.ofBase? r' ∘ BaseLink.renumber f = Entry.ofBase? r :=
    funext h.ofBase?_renumber
  rw [entry]

/-- A class has the same entries: bases are written by name. -/
theorem memberEntries_renumber (d : Descriptor) :
    (d.renumber f).memberEntries r' = d.memberEntries r := by
  unfold Descriptor.memberEntries
  rw [h.baseEntries_renumber]
  rfl

theorem reflector_renumber (d : Descriptor) :
    Reflector.ofDescriptor r' (d.renumber f) = Reflector.ofDescriptor r d := by
  unfold Reflector.ofDescriptor
  rw [h.memberEntries_renumber]
  rfl

theorem headers_eq (reflector : Reflector) : reflector.headers r' = reflector.headers r := by
  unfold Reflector.headers
  rw [h.headerOf?_eq]

/-- The unit of a type is the same. -/
theorem sourceUnit_renumber (d : Descriptor) :
    SourceUnit.ofDescriptor r' (d.renumber f) = SourceUnit.ofDescriptor r d := by
  unfold SourceUnit.ofDescriptor
  simp only [h.reflector_renumber, h.headers_eq]
  rfl

theorem settledTypes_eq : r'.settledTypes = r.settledTypes.map (Descriptor.renumber f) := by
  unfold settledTypes
  rw [h.order_eq, List.filterMap_map, List.map_filterMap]
  exact List.filterMap_congr fun id _ => h.get?_eq id

theorem emitted_eq : r'.emitted = r.emitted.map (Descriptor.renumber f) := by
  unfold emitted
  rw [h.settledTypes_eq, List.filter_map]
  rfl

/-- **The units do not depend on numbers.** -/
theorem units_eq (naming : Configuration) :
    UnitFile.ofRegistry r' naming = UnitFile.ofRegistry r naming := by
  have names : r'.emitted.map Descriptor.name = r.emitted.map Descriptor.name := by
    rw [h.emitted_eq, List.map_map]
    rfl
  unfold UnitFile.ofRegistry
  rw [names, h.emitted_eq, List.map_map]
  simp only [Function.comp_def, h.sourceUnit_renumber, Descriptor.renumber_name]

theorem namesInOrder_eq : r'.order.map r'.nameOf = r.order.map r.nameOf := by
  rw [h.order_eq, List.map_map]
  exact List.map_congr_left fun id _ => h.nameOf_eq id

end Registry.Renumbered

/-! ### Descriptors by name -/

/-- Two targets lead to the same: to types of one name, or for the same reason to
none. -/
inductive SameTarget (r r' : Registry) : BaseTarget → BaseTarget → Prop where
  | resolved {id id' : TypeId} {d d' : Descriptor} :
      r.get? id = some d → r'.get? id' = some d' → d.name = d'.name →
      SameTarget r r' (.resolved id) (.resolved id')
  | unresolved : SameTarget r r' .unresolved .unresolved
  | external : SameTarget r r' .external .external
  | invalid (defect : BaseDefect) : SameTarget r r' (.invalid defect) (.invalid defect)

/-- Two links are the same, their targets compared by name. -/
structure SameLink (r r' : Registry) (b b' : BaseLink) : Prop where
  apart : { b with target := .unresolved } = { b' with target := .unresolved }
  target : SameTarget r r' b.target b'.target

/-- Two descriptors are the same, the targets of their links compared by name. -/
structure SameType (r r' : Registry) (d d' : Descriptor) : Prop where
  apart : { d with bases := [] } = { d' with bases := [] }
  links : List.Forall₂ (SameLink r r') d.bases d'.bases

namespace Registry

variable {r r' : Registry} {f : TypeId → TypeId}

theorem Renumbered.find?_eq (h : Renumbered f r r') (name : String) :
    r'.find? name = (r.find? name).map (Descriptor.renumber f) := by
  unfold find?
  rw [h.lookup_eq]
  cases r.lookup name with
  | none => rfl
  | some id => exact h.get?_eq id

/-- A descriptor is the same under other numbers, if all its bases are
registered. -/
theorem Renumbered.sameType (h : Renumbered f r r') {d : Descriptor}
    (registered : ∀ b ∈ d.bases, ∀ id, b.target = .resolved id → ∃ e, r.get? id = some e) :
    SameType r r' d (d.renumber f) := by
  refine ⟨rfl, ?_⟩
  rw [Descriptor.renumber_bases, List.forall₂_map_right_iff, List.forall₂_same]
  intro b mem
  refine ⟨rfl, ?_⟩
  unfold BaseLink.renumber
  cases target : b.target with
  | resolved id =>
    obtain ⟨e, there⟩ := registered b mem id target
    have there' : r'.get? (f id) = some (e.renumber f) := by
      rw [h.get?_eq, there]
      rfl
    exact .resolved there there' rfl
  | unresolved => exact .unresolved
  | external => exact .external
  | invalid defect => exact .invalid defect

/-! ### Registering a list of types -/

/-- Registers descriptors one after the other; the first refusal ends it. -/
def registerAll (r : Registry) (ds : List Descriptor) : Except RegistryError Registry :=
  ds.foldlM (fun r d => (r.register d).map Prod.snd) r

theorem register_of_fresh {d : Descriptor} (fresh : d.name ∉ r.types.map Descriptor.name) :
    r.register d = .ok (⟨r.types.length⟩, { r with types := r.types ++ [d] }) := by
  have unknown : r.lookup d.name = none := by
    rw [lookup, Option.map_eq_none_iff, List.findIdx?_eq_none_iff]
    intro e mem
    exact beq_eq_false_iff_ne.mpr fun same => fresh (same ▸ List.mem_map_of_mem mem)
  rw [register, unknown]

/-- Types of different names are all registered, each behind those before it. -/
theorem registerAll_of_nodup {ds : List Descriptor}
    (distinct : ((r.types ++ ds).map Descriptor.name).Nodup) :
    r.registerAll ds = .ok { r with types := r.types ++ ds } := by
  induction ds generalizing r with
  | nil => simp [registerAll, pure, Except.pure]
  | cons d ds ih =>
    have fresh : d.name ∉ r.types.map Descriptor.name := by
      rw [List.map_append, List.nodup_append] at distinct
      intro mem
      exact distinct.2.2 _ mem _ (List.mem_map_of_mem List.mem_cons_self) rfl
    have rest : (({ r with types := r.types ++ [d] } : Registry).types ++ ds).map
        Descriptor.name = (r.types ++ d :: ds).map Descriptor.name := by simp
    have registered := ih (rest ▸ distinct)
    rw [registerAll, List.foldlM_cons, register_of_fresh fresh]
    exact registered.trans (by simp)

/-- The first place stays, and behind it the places move. -/
def movedBehind (f : Nat → Nat) (i : Nat) : Nat :=
  if i = 0 then 0 else f (i - 1) + 1

theorem leftInverse_movedBehind {f g : Nat → Nat} (inverse : Function.LeftInverse g f) :
    Function.LeftInverse (movedBehind g) (movedBehind f) := by
  intro i
  cases i with
  | zero => rfl
  | succ i => simp [movedBehind, inverse i]

/-- The elements of a list stand at other places in a permuted one. -/
theorem exists_places_of_perm {α : Type} {l l' : List α} (perm : l.Perm l') :
    ∃ f : Nat ≃ Nat, ∀ i, l'[f i]? = l[i]? := by
  induction perm with
  | nil => exact ⟨.refl _, fun _ => rfl⟩
  | cons a _ ih =>
    obtain ⟨f, at_f⟩ := ih
    refine ⟨⟨movedBehind f, movedBehind f.symm, leftInverse_movedBehind f.left_inv,
      leftInverse_movedBehind f.right_inv⟩, fun i => ?_⟩
    cases i with
    | zero => rfl
    | succ i => simpa [movedBehind] using at_f i
  | swap a b l =>
    refine ⟨Equiv.swap 0 1, fun i => ?_⟩
    rcases i with - | - | i
    · rfl
    · rfl
    · rw [Equiv.swap_apply_of_ne_of_ne (by omega) (by omega)]
      rfl
  | trans _ _ ih ih' =>
    obtain ⟨f, at_f⟩ := ih
    obtain ⟨g, at_g⟩ := ih'
    exact ⟨f.trans g, fun i => (at_g (f i)).trans (at_f i)⟩

/-- Types in another order are the same types under other numbers. -/
theorem exists_reordered {ds ds' : List Descriptor} (perm : ds.Perm ds')
    (distinct : (ds.map Descriptor.name).Nodup) :
    ∃ f, Reordered f { types := ds } { types := ds' } := by
  obtain ⟨f, at_f⟩ := exists_places_of_perm perm
  refine ⟨fun id => ⟨f id.index⟩, ⟨?_, ?_⟩, fun id => at_f id.index, ?_⟩
  · intro id id' same
    exact congrArg TypeId.mk (f.injective (TypeId.mk.inj same))
  · intro id
    exact ⟨⟨f.symm id.index⟩, by simp⟩
  · intro id id' d d' there there' named
    have place : (ds.map Descriptor.name)[id.index]? = some d.name := by
      rw [List.getElem?_map]
      exact congrArg (Option.map Descriptor.name) there
    have place' : (ds.map Descriptor.name)[id'.index]? = some d'.name := by
      rw [List.getElem?_map]
      exact congrArg (Option.map Descriptor.name) there'
    obtain ⟨inside, -⟩ := List.getElem?_eq_some_iff.mp place
    have same_place := place.trans ((congrArg some named).trans place'.symm)
    exact congrArg TypeId.mk ((List.getElem?_inj inside distinct).mp same_place)

/-- Types that are registered in another order are completed to the same ones under every
name. -/
theorem Reordered.rel_find? {r r' : Registry} {f : TypeId → TypeId} (reordered : Reordered f r r')
    (config : Configuration) (name : String) :
    let c := (r.consolidate config).registry
    let c' := (r'.consolidate config).registry
    Option.Rel (SameType c c') (c.find? name) (c'.find? name) := by
  intro c c'
  have renumbered := renumbered_consolidate reordered config
  rw [renumbered.find?_eq]
  cases found : c.find? name with
  | none => exact .none
  | some D =>
    refine .some (renumbered.sameType fun b mem base target => ?_)
    obtain ⟨id, -, there⟩ := Option.bind_eq_some_iff.mp found
    have registered := mem_ids_of_hasBase ⟨D, there, b, mem, target⟩
    exact mem_ids_iff_get?.mp ((ids_consolidate _ config base).mpr registered)

/-- **The order of registration does not matter.** Types of different names,
registered in any order, give registries that consolidation completes alike: under
every name there is the same descriptor, the targets of its links compared by
name; the types are settled in the same order by name; and the units are the
same, with their names, files and contents. -/
theorem same_units_in_any_order {ds ds' : List Descriptor} (perm : ds.Perm ds')
    (distinct : (ds.map Descriptor.name).Nodup) (config : Configuration) :
    ∃ r r' : Registry, ({} : Registry).registerAll ds = .ok r ∧
      ({} : Registry).registerAll ds' = .ok r' ∧
      let c := (r.consolidate config).registry
      let c' := (r'.consolidate config).registry
      (∀ name, Option.Rel (SameType c c') (c.find? name) (c'.find? name)) ∧
      c.order.map c.nameOf = c'.order.map c'.nameOf ∧
      ∀ naming, UnitFile.ofRegistry c naming = UnitFile.ofRegistry c' naming := by
  have distinct' : (ds'.map Descriptor.name).Nodup := (perm.map _).nodup_iff.mp distinct
  obtain ⟨f, reordered⟩ := exists_reordered perm distinct
  have renumbered := renumbered_consolidate reordered config
  refine ⟨{ types := ds }, { types := ds' }, registerAll_of_nodup distinct,
    registerAll_of_nodup distinct', reordered.rel_find? config, renumbered.namesInOrder_eq.symm,
    fun naming => (renumbered.units_eq naming).symm⟩

/-- The types of `rings`, registered from the last to the first, are settled in
the order in which they are settled otherwise. -/
theorem same_units_in_any_order_rings :
    rings.types.reverse.Perm rings.types ∧ (rings.types.reverse.map Descriptor.name).Nodup ∧
      ∃ r r' : Registry, ({} : Registry).registerAll rings.types.reverse = .ok r ∧
        ({} : Registry).registerAll rings.types = .ok r' ∧
        (r.consolidate {}).registry.order.map (r.consolidate {}).registry.nameOf =
          ["C", "B", "A", "D"] := by
  have perm : rings.types.reverse.Perm rings.types := List.reverse_perm _
  have distinct : (rings.types.reverse.map Descriptor.name).Nodup := by decide
  obtain ⟨r, r', registered, registered', -, order, -⟩ :=
    same_units_in_any_order perm distinct {}
  have given : ({} : Registry).registerAll rings.types = .ok rings := by cbv
  have settled : (rings.consolidate {}).registry.order.map (rings.consolidate {}).registry.nameOf =
      ["C", "B", "A", "D"] := by cbv
  cases given.symm.trans registered'
  exact ⟨perm, distinct, r, rings, registered, given, order.trans settled⟩

end Registry

end Reflectory
