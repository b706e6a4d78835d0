/-
The map from names to numbers keeps in step with the descriptors.

A catalog is in step if each name is entered under the number of the type that has it, and
no other name is entered. Registering and consolidating keep it so, whether or not they
succeed, and a catalog in step does what its registry does by going through the
descriptors: names mean the same types, registrations come out alike, types are listed and
entered in the same order.

* `InStep.numbers_eq`: the entries come in the order of the names.
* `InStep.register_eq`, `InStep.consolidate_eq`: both operations are those of the registry.
* `InStep.register`, `InStep.consolidate`: both keep a catalog in step.
-/

import Reflectory.Proofs.Registry.Renumbering
import Reflectory.Registry.Catalog

namespace Reflectory

namespace Catalog

/-- Each name is entered under the number of the type that has it, and no other is. -/
def InStep (c : Catalog) : Prop :=
  ∀ name, c.lookup name = c.registry.lookup name

theorem inStep_empty : InStep {} := by
  intro name
  exact Std.TreeMap.getElem?_emptyc

theorem lookup_concat (r : Registry) (d : Descriptor) (name : String) :
    ({ r with types := r.types ++ [d] } : Registry).lookup name =
      (r.lookup name).or (if d.name = name then some ⟨r.types.length⟩ else none) := by
  rw [Registry.lookup, Registry.lookup, List.findIdx?_append, List.findIdx?_singleton]
  by_cases named : d.name = name
  · rw [if_pos named, if_pos (by simpa using named)]
    cases r.types.findIdx? fun e => e.name == name <;> simp
  · rw [if_neg named, if_neg (by simpa using named)]
    cases r.types.findIdx? fun e => e.name == name <;> simp

namespace InStep

variable {c c' : Catalog} {d : Descriptor} {id : TypeId} {config : Configuration}

theorem resolve_eq (inStep : c.InStep) (scope : Option String) (name : String) :
    c.resolve scope name = c.registry.resolve scope name := by
  rw [resolve, Registry.resolve, funext inStep]

theorem find?_eq (inStep : c.InStep) (name : String) : c.find? name = c.registry.find? name := by
  rw [find?, Registry.find?, inStep]

/-! ### The order of the entries -/

theorem mem_toList_iff (inStep : c.InStep) (distinct : c.registry.Distinct) {name : String} :
    (name, id) ∈ c.byName.toList ↔ ∃ d, c.registry.get? id = some d ∧ d.name = name := by
  rw [Std.TreeMap.mem_toList_iff_getElem?_eq_some, ← Registry.lookup_eq_some_iff distinct,
    ← inStep]
  rfl

theorem nameOf_eq (inStep : c.InStep) (distinct : c.registry.Distinct) {e : String × TypeId}
    (mem : e ∈ c.byName.toList) : c.registry.nameOf e.2 = e.1 := by
  obtain ⟨d, there, named⟩ := (inStep.mem_toList_iff distinct).mp mem
  rw [Registry.nameOf_of_get? there, named]

/-- The entries come in the order of the names, each number once. -/
theorem pairwise_numbers (inStep : c.InStep) (distinct : c.registry.Distinct) :
    c.numbers.Pairwise fun a b => c.registry.nameOf a < c.registry.nameOf b := by
  rw [numbers, List.pairwise_map]
  refine Std.TreeMap.ordered_keys_toList.imp_of_mem fun {a b} a_mem b_mem rise => ?_
  rw [inStep.nameOf_eq distinct a_mem, inStep.nameOf_eq distinct b_mem]
  exact compare_lt_iff_lt.mp rise

theorem mem_numbers_iff (inStep : c.InStep) (distinct : c.registry.Distinct) :
    id ∈ c.numbers ↔ id ∈ c.registry.ids := by
  rw [numbers, List.mem_map, Registry.mem_ids_iff_get?]
  constructor
  · rintro ⟨⟨name, id⟩, mem, rfl⟩
    obtain ⟨d, there, -⟩ := (inStep.mem_toList_iff distinct).mp mem
    exact ⟨d, there⟩
  · rintro ⟨d, there⟩
    exact ⟨(d.name, id), (inStep.mem_toList_iff distinct).mpr ⟨d, there, rfl⟩, rfl⟩

theorem numbers_eq (inStep : c.InStep) (distinct : c.registry.Distinct) :
    c.numbers = c.registry.idsByName := by
  have rise := inStep.pairwise_numbers distinct
  have once : c.numbers.Nodup := rise.imp fun less => by
    rintro rfl
    exact lt_irrefl _ less
  have same : c.numbers.Perm c.registry.idsByName := by
    refine List.Perm.trans ?_ (Registry.idsByName_perm c.registry).symm
    exact (List.perm_ext_iff_of_nodup once (Registry.nodup_ids c.registry)).mpr
      fun id => inStep.mem_numbers_iff distinct
  refine same.eq_of_pairwise ?_ (rise.imp le_of_lt) (Registry.pairwise_idsByName c.registry)
  intro a b a_mem b_mem le le'
  obtain ⟨d, there⟩ := Registry.mem_ids_iff_get?.mp ((inStep.mem_numbers_iff distinct).mp a_mem)
  obtain ⟨d', there'⟩ := Registry.mem_ids_iff_get?.mp
    ((Registry.idsByName_perm c.registry).mem_iff.mp b_mem)
  have named := le_antisymm le le'
  rw [Registry.nameOf_of_get? there, Registry.nameOf_of_get? there'] at named
  exact distinct a b d d' there there' named

theorem listing_eq (inStep : c.InStep) (distinct : c.registry.Distinct) :
    c.listing = c.registry.sorted := by
  rw [listing, Registry.sorted, inStep.numbers_eq distinct]

/-! ### Registering -/

theorem register_eq (inStep : c.InStep) (d : Descriptor) :
    (c.register d).map (fun e => (e.1, e.2.registry)) = c.registry.register d := by
  rw [Catalog.register, Registry.register, inStep]
  cases c.registry.lookup d.name with
  | none => rfl
  | some id =>
    dsimp only
    cases c.registry.registerAgain id d <;> rfl

/-- A name is entered where its descriptor is added; nothing else is entered or added. -/
theorem register (inStep : c.InStep) (registered : c.register d = .ok (id, c')) : c'.InStep := by
  rw [Catalog.register] at registered
  cases found : c.lookup d.name with
  | some known =>
    rw [found] at registered
    dsimp only at registered
    cases answer : c.registry.registerAgain known d with
    | error =>
      rw [answer] at registered
      cases registered
    | ok =>
      rw [answer] at registered
      cases registered
      exact inStep
  | none =>
    rw [found] at registered
    cases registered
    intro name
    rw [lookup_concat, ← inStep]
    change (c.byName.insert d.name _)[name]? = _
    rw [Std.TreeMap.getElem?_insert]
    by_cases named : d.name = name
    · subst named
      rw [found, if_pos (compare_eq_iff_eq.mpr rfl), if_pos rfl, Option.none_or]
    · rw [if_neg (mt compare_eq_iff_eq.mp named), if_neg named, Option.or_none]
      rfl

/-! ### Consolidating -/

theorem linked_eq (inStep : c.InStep) (config : Configuration) :
    c.linked config = c.registry.linked config := by
  have resolves : c.resolve = c.registry.resolve := by
    funext scope name
    exact inStep.resolve_eq scope name
  rw [linked, Registry.linked, resolves]

theorem consolidate_eq (inStep : c.InStep) (distinct : c.registry.Distinct)
    (config : Configuration) :
    c.consolidate config =
      ({ c with registry := (c.registry.consolidate config).registry },
        (c.registry.consolidate config).events) := by
  have roots : c.numbers = (c.registry.linked config).idsByName := by
    rw [inStep.numbers_eq distinct,
      Registry.idsByName_congr (Registry.names_linked c.registry config).symm]
  rw [Catalog.consolidate, inStep.linked_eq, roots]
  rfl

theorem consolidate (inStep : c.InStep) (distinct : c.registry.Distinct) :
    (c.consolidate config).1.InStep := by
  intro name
  rw [inStep.consolidate_eq distinct, Registry.lookup_eq_findIdx?, Registry.names_consolidate,
    ← Registry.lookup_eq_findIdx?]
  exact inStep name

end InStep

end Catalog

end Reflectory
