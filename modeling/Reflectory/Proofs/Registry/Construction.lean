/-
The registries that the operations make.

A registry begins empty, and types are registered in it and consolidated. All the
while no two of its types have the same name: a name that is taken is not
registered again, and consolidation changes no names. The order stays that of the last
consolidation, and types that are registered later do not stand in it.

* `Built.nodup_names`, `Built.distinct`: the names of a registry that the operations make.
* `Built.ordered`: its order has every type once, behind the bases of the type.
-/

import Mathlib
import Reflectory.Proofs.Registry.Bases

namespace Reflectory.Registry

/-- No two types have the same name. -/
def Distinct (r : Registry) : Prop :=
  ∀ id id' d d', r.get? id = some d → r.get? id' = some d' → d.name = d'.name → id = id'

/-- What registering and consolidating make of the empty registry. -/
inductive Built : Registry → Prop where
  | empty : Built {}
  | register {r r' : Registry} {d : Descriptor} {id : TypeId} :
      Built r → r.register d = .ok (id, r') → Built r'
  | consolidate {r : Registry} {config : Configuration} :
      Built r → Built (r.consolidate config).registry

/-- A type that is registered is new and stands last, or nothing changes. -/
theorem register_ok {r r' : Registry} {d : Descriptor} {id : TypeId}
    (registered : r.register d = .ok (id, r')) :
    r' = r ∨ d.name ∉ r.types.map Descriptor.name ∧ r' = { r with types := r.types ++ [d] } := by
  unfold register at registered
  split at registered
  next unknown =>
    cases registered
    refine .inr ⟨?_, rfl⟩
    rw [lookup, Option.map_eq_none_iff, List.findIdx?_eq_none_iff] at unknown
    intro mem
    obtain ⟨e, mem, named⟩ := List.mem_map.mp mem
    simpa [named] using unknown e mem
  next known _ =>
    cases answer : r.registerAgain known d with
    | error =>
      rw [answer] at registered
      cases registered
    | ok =>
      rw [answer] at registered
      cases registered
      exact .inl rfl

/-- No two types have the same name. -/
theorem Built.nodup_names {r : Registry} (built : r.Built) :
    (r.types.map Descriptor.name).Nodup := by
  induction built with
  | empty => exact List.nodup_nil
  | register _ registered ih =>
    obtain rfl | ⟨fresh, rfl⟩ := register_ok registered
    · exact ih
    · rw [List.map_append]
      refine ih.append (List.nodup_singleton _) ?_
      simpa using fresh
  | consolidate _ ih =>
    rw [names_consolidate]
    exact ih

theorem Built.distinct {r : Registry} (built : r.Built) : r.Distinct := by
  intro id id' d d' there there' named
  have nodup := built.nodup_names
  have place : (r.types.map Descriptor.name)[id.index]? = some d.name := by
    rw [List.getElem?_map]
    exact congrArg (Option.map Descriptor.name) there
  have place' : (r.types.map Descriptor.name)[id'.index]? = some d.name := by
    rw [List.getElem?_map, named]
    exact congrArg (Option.map Descriptor.name) there'
  obtain ⟨inside, -⟩ := List.getElem?_eq_some_iff.mp place
  exact congrArg TypeId.mk ((List.getElem?_inj inside nodup).mp (place.trans place'.symm))

/-- Types in use that have one name are one type. -/
theorem Built.eq_of_nameOf_eq {r : Registry} (built : r.Built) {id id' : TypeId}
    (mem : id ∈ r.ids) (mem' : id' ∈ r.ids) (same : r.nameOf id = r.nameOf id') : id = id' := by
  obtain ⟨d, there⟩ := mem_ids_iff_get?.mp mem
  obtain ⟨d', there'⟩ := mem_ids_iff_get?.mp mem'
  refine built.distinct id id' d d' there there' ?_
  simpa only [nameOf, there, there', Option.map_some, Option.getD_some] using same

/-! ### The order -/

/-- The order has every type at most once, and behind the bases of the type. -/
structure Ordered (r : Registry) : Prop where
  nodup : r.order.Nodup
  inUse : ∀ id ∈ r.order, id ∈ r.ids
  basesFirst : ∀ id ∈ r.order, ∀ base, r.HasBase id base → [base, id].Sublist r.order

theorem ordered_consolidate (r : Registry) (config : Configuration) :
    (r.consolidate config).registry.Ordered where
  nodup := order_nodup r config
  inUse id mem := (ids_consolidate r config id).mpr ((order_perm_ids r config).mem_iff.mp mem)
  basesFirst _ _ _ := base_sublist

/-- A type that is registered later stands nowhere in the order, and changes no type that
does. -/
theorem Ordered.append {r : Registry} (ordered : r.Ordered) (d : Descriptor) :
    ({ r with types := r.types ++ [d] } : Registry).Ordered where
  nodup := ordered.nodup
  inUse id mem := by
    have inside := mem_ids.mp (ordered.inUse id mem)
    exact mem_ids.mpr (List.length_append ▸ Nat.lt_add_right 1 inside)
  basesFirst id mem base := by
    rintro ⟨e, there, b, link, target⟩
    have inside := mem_ids.mp (ordered.inUse id mem)
    refine ordered.basesFirst id mem base ⟨e, ?_, b, link, target⟩
    exact (List.getElem?_append_left inside).symm.trans there

/-- The operations keep the order. -/
theorem Built.ordered {r : Registry} (built : r.Built) : r.Ordered := by
  induction built with
  | empty => exact ⟨List.nodup_nil, nofun, nofun⟩
  | register _ registered ih =>
    obtain rfl | ⟨-, rfl⟩ := register_ok registered
    · exact ih
    · exact ih.append _
  | @consolidate r config _ _ => exact ordered_consolidate r config

end Reflectory.Registry
