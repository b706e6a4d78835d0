/-
Names and numbers of registered types.

A type is found under its name, and under no other; a number stands for the same name
for good. Both hold after any operations, refused ones among them: a descriptor is
added only under a name that is not taken, behind all others, and completing types
changes neither their names nor their places. A catalog that goes through the same
operations has the same descriptors, and its map answers as they do.

* `names_and_numbers_agree`: what holds after any operations.
-/

import Reflectory.Proofs.Registry.Catalog

namespace Reflectory

/-! ### Kinds -/

/-- The kinds are equal, whether object types are abstract apart. -/
def Kind.Agrees (k k' : Kind) : Prop :=
  k = k' ∨ ∃ isAbstract isAbstract', k = .object isAbstract ∧ k' = .object isAbstract'

theorem Kind.sameRegistration_iff {k k' : Kind} : k.sameRegistration k' ↔ k.Agrees k' := by
  unfold sameRegistration Agrees
  split
  next isAbstract isAbstract' => simp
  next not_objects =>
    rw [decide_eq_true_iff, or_iff_left]
    rintro ⟨isAbstract, isAbstract', rfl, rfl⟩
    exact not_objects _ _ rfl rfl

namespace Registry

/-! ### Operations -/

/-- What changes a registry. -/
inductive Operation where
  | register (d : Descriptor)
  | consolidate (config : Configuration)

/-- The registry after an operation; a descriptor that is refused changes nothing. -/
def perform (r : Registry) : Operation → Registry
  | .register d =>
    match r.register d with
    | .ok (_, r) => r
    | .error _ => r
  | .consolidate config => (r.consolidate config).registry

/-- The registry after operations. -/
def after (r : Registry) (ops : List Operation) : Registry :=
  ops.foldl perform r

theorem after_append (r : Registry) (ops ops' : List Operation) :
    r.after (ops ++ ops') = (r.after ops).after ops' :=
  List.foldl_append

variable {r r' : Registry} {d e : Descriptor} {id : TypeId}

theorem Built.perform (built : r.Built) (op : Operation) : (r.perform op).Built := by
  unfold Registry.perform
  split
  next d =>
    split
    next registered => exact built.register registered
    next => exact built
  next config => exact built.consolidate

theorem Built.after (built : r.Built) (ops : List Operation) : (r.after ops).Built := by
  induction ops generalizing r with
  | nil => exact built
  | cons op ops ih => exact ih (built.perform op)

/-! ### Registering -/

/-- What comes of registering a descriptor. -/
inductive RegisterOutcome (r : Registry) (d : Descriptor) :
    Except RegistryError (TypeId × Registry) → Prop where
  /-- The type is known, and nothing changes. -/
  | known {id : TypeId} {e : Descriptor} :
      r.get? id = some e → e.name = d.name → e.kind.Agrees d.kind →
      RegisterOutcome r d (.ok (id, r))
  /-- The name is taken by a type of another kind. -/
  | refused {id : TypeId} {e : Descriptor} :
      r.get? id = some e → e.name = d.name → ¬ e.kind.Agrees d.kind →
      RegisterOutcome r d (.error (.duplicateType d.name e.kind d.kind))
  /-- The name is new, and the descriptor is added behind all others. -/
  | added : (∀ e ∈ r.types, e.name ≠ d.name) →
      RegisterOutcome r d (.ok (⟨r.types.length⟩, { r with types := r.types ++ [d] }))

/-- Registering under a name that is taken compares the kinds. -/
theorem register_of_lookup (found : r.lookup d.name = some id) (there : r.get? id = some e) :
    r.register d =
      if e.kind.sameRegistration d.kind then .ok (id, r)
      else .error (.duplicateType d.name e.kind d.kind) := by
  rw [register, found]
  dsimp only
  rw [registerAgain, there]
  dsimp only
  split_ifs <;> rfl

theorem register_outcome (r : Registry) (d : Descriptor) : RegisterOutcome r d (r.register d) := by
  cases found : r.lookup d.name with
  | none =>
    have fresh : ∀ e ∈ r.types, e.name ≠ d.name := by
      simpa [lookup] using found
    rw [register, found]
    exact .added fresh
  | some id =>
    obtain ⟨e, there, named⟩ := get?_of_lookup found
    rw [register_of_lookup found there]
    split_ifs with same
    · exact .known there named (Kind.sameRegistration_iff.mp same)
    · exact .refused there named (mt Kind.sameRegistration_iff.mpr same)

/-- What is registered is there under its number, with its name and kind. -/
theorem exists_of_register (registered : r.register d = .ok (id, r')) :
    ∃ e, r'.get? id = some e ∧ e.name = d.name ∧ e.kind.Agrees d.kind := by
  have outcome := r.register_outcome d
  rw [registered] at outcome
  cases outcome with
  | known there named agrees => exact ⟨_, there, named, agrees⟩
  | added => exact ⟨d, List.getElem?_concat_length, rfl, .inl rfl⟩

theorem perform_of_ok (registered : r.register d = .ok (id, r')) :
    r.perform (.register d) = r' := by
  rw [perform, registered]

theorem perform_of_error {cause : RegistryError} (refused : r.register d = .error cause) :
    r.perform (.register d) = r := by
  rw [perform, refused]

/-- A descriptor is added behind all others, unless its name is taken. -/
theorem perform_register (r : Registry) (d : Descriptor) :
    r.perform (.register d) =
      if d.name ∈ r.types.map Descriptor.name then r
      else { r with types := r.types ++ [d] } := by
  have outcome := r.register_outcome d
  generalize result_eq : r.register d = result at outcome
  cases outcome with
  | known there named =>
    rw [perform_of_ok result_eq, if_pos (named ▸ List.mem_map_of_mem (List.mem_of_getElem? there))]
  | refused there named =>
    rw [perform_of_error result_eq,
      if_pos (named ▸ List.mem_map_of_mem (List.mem_of_getElem? there))]
  | added fresh =>
    rw [perform_of_ok result_eq, if_neg]
    intro taken
    obtain ⟨e, mem, named⟩ := List.mem_map.mp taken
    exact fresh e mem named

/-! ### Numbers stay -/

/-- Registering leaves the types that are there as they are. -/
theorem get?_perform_register (there : r.get? id = some d) (e : Descriptor) :
    (r.perform (.register e)).get? id = some d := by
  rw [perform_register]
  split
  next => exact there
  next =>
    have inside : id.index < r.types.length := mem_ids.mp (mem_ids_iff_get?.mpr ⟨d, there⟩)
    exact (List.getElem?_append_left inside).trans there

theorem get?_perform (there : r.get? id = some d) (op : Operation) :
    ∃ d', (r.perform op).get? id = some d' ∧ d'.name = d.name := by
  cases op with
  | register e => exact ⟨d, get?_perform_register there e, rfl⟩
  | consolidate config => exact ⟨_, consolidated_of_registered there, rfl⟩

/-- A number stands for the same name for good. -/
theorem get?_after (there : r.get? id = some d) (ops : List Operation) :
    ∃ d', (r.after ops).get? id = some d' ∧ d'.name = d.name := by
  induction ops generalizing r d with
  | nil => exact ⟨d, there, rfl⟩
  | cons op ops ih =>
    obtain ⟨d', there', named⟩ := get?_perform there op
    obtain ⟨d'', there'', named'⟩ := ih there'
    exact ⟨d'', there'', named'.trans named⟩

/-! ### Names lead to numbers -/

theorem mem_sorted_iff : (id, d) ∈ r.sorted ↔ r.get? id = some d := by
  unfold sorted
  rw [(r.idsByName_perm.filterMap _).mem_iff, List.mem_filterMap]
  constructor
  · rintro ⟨id, -, there⟩
    obtain ⟨d, there, same⟩ := Option.map_eq_some_iff.mp there
    cases same
    exact there
  · exact fun there => ⟨id, mem_ids_iff_get?.mpr ⟨d, there⟩, by rw [there]; rfl⟩

/-- The names of different types in order rise. -/
theorem Distinct.pairwise_sorted (distinct : r.Distinct) :
    (r.sorted.map fun e => e.2.name).Pairwise (· < ·) := by
  have nodup : r.idsByName.Nodup := r.idsByName_perm.nodup_iff.mpr (nodup_ids r)
  unfold sorted
  rw [List.pairwise_map, List.pairwise_filterMap]
  refine (r.pairwise_idsByName.and nodup).imp ?_
  rintro a b ⟨le, ne⟩ x x_eq y y_eq
  obtain ⟨d, there, rfl⟩ := Option.map_eq_some_iff.mp x_eq
  obtain ⟨e, there', rfl⟩ := Option.map_eq_some_iff.mp y_eq
  rw [nameOf_of_get? there, nameOf_of_get? there'] at le
  exact lt_of_le_of_ne le fun named => ne (distinct a b d e there there' named)

/-- Names and numbers stand for each other. -/
structure Indexed (r : Registry) : Prop where
  /-- No two types have the same name. -/
  nodup_names : (r.types.map Descriptor.name).Nodup
  /-- A name leads to the type that has it, and to none if no type has it. -/
  lookup_iff : ∀ name id, r.lookup name = some id ↔ ∃ d, r.get? id = some d ∧ d.name = name
  /-- All types are listed, each under its number. -/
  mem_sorted : ∀ id d, (id, d) ∈ r.sorted ↔ r.get? id = some d
  /-- They are listed in order of their names, none twice. -/
  rising : (r.sorted.map fun e => e.2.name).Pairwise (· < ·)

theorem Built.indexed (built : r.Built) : r.Indexed where
  nodup_names := built.nodup_names
  lookup_iff _ _ := lookup_eq_some_iff built.distinct
  mem_sorted _ _ := mem_sorted_iff
  rising := built.distinct.pairwise_sorted

end Registry

/-! ### Entries -/

namespace Catalog

/-- The catalog after an operation; a descriptor that is refused changes nothing. -/
def perform (c : Catalog) : Registry.Operation → Catalog
  | .register d =>
    match c.register d with
    | .ok (_, c) => c
    | .error _ => c
  | .consolidate config => (c.consolidate config).1

/-- The catalog after operations. -/
def after (c : Catalog) (ops : List Registry.Operation) : Catalog :=
  ops.foldl perform c

variable {c : Catalog}

/-- An operation changes the descriptors as it does in the registry, and keeps the entries in
step. -/
theorem InStep.perform (inStep : c.InStep) (built : c.registry.Built) (op : Registry.Operation) :
    (c.perform op).InStep ∧ (c.perform op).registry = c.registry.perform op := by
  cases op with
  | register d =>
    have answers := inStep.register_eq d
    rw [Catalog.perform]
    cases answer : c.register d with
    | ok registered =>
      rw [answer] at answers
      exact ⟨inStep.register answer, (Registry.perform_of_ok answers.symm).symm⟩
    | error cause =>
      rw [answer] at answers
      exact ⟨inStep, (Registry.perform_of_error answers.symm).symm⟩
  | consolidate config =>
    refine ⟨inStep.consolidate built.distinct, ?_⟩
    rw [Catalog.perform, inStep.consolidate_eq built.distinct]
    rfl

theorem InStep.after (inStep : c.InStep) (built : c.registry.Built)
    (ops : List Registry.Operation) :
    (c.after ops).InStep ∧ (c.after ops).registry = c.registry.after ops := by
  induction ops generalizing c with
  | nil => exact ⟨inStep, rfl⟩
  | cons op ops ih =>
    obtain ⟨inStep', same⟩ := inStep.perform built op
    obtain ⟨inStep'', same'⟩ := ih inStep' (same ▸ built.perform op)
    exact ⟨inStep'', same'.trans (congrArg (Registry.after · ops) same)⟩

/-- The catalog has the descriptors of the registry, and answers as the registry does. -/
structure Mirrors (c : Catalog) (r : Registry) : Prop where
  registry : c.registry = r
  lookup : ∀ name, c.lookup name = r.lookup name
  find : ∀ name, c.find? name = r.find? name
  resolve : ∀ scope name, c.resolve scope name = r.resolve scope name
  listing : c.listing = r.sorted
  register : ∀ d, (c.register d).map (fun e => (e.1, e.2.registry)) = r.register d
  consolidate : ∀ config, (c.consolidate config).1.registry = (r.consolidate config).registry ∧
    (c.consolidate config).2 = (r.consolidate config).events

theorem InStep.mirrors (inStep : c.InStep) (built : c.registry.Built) : c.Mirrors c.registry where
  registry := rfl
  lookup := inStep
  find := inStep.find?_eq
  resolve := inStep.resolve_eq
  listing := inStep.listing_eq built.distinct
  register := inStep.register_eq
  consolidate config := by
    rw [inStep.consolidate_eq built.distinct]
    exact ⟨rfl, rfl⟩

end Catalog

namespace Registry

/-- **Names and numbers agree.** After any operations on an empty registry, no two types
have the same name, a name leads to the type that has it and to no other, and types are
listed once each in order of their names. A number that has been given stands for the
same name after any further operations. A descriptor that is registered then is
known already, or is refused as one of another kind, or is added under the next
number. And a map from names to numbers that goes through the same operations answers as
the descriptors do. -/
theorem names_and_numbers_agree (ops : List Operation) :
    let r := ({} : Registry).after ops
    r.Indexed ∧
      (∀ further id d, r.get? id = some d →
        ∃ d', (r.after further).get? id = some d' ∧ d'.name = d.name) ∧
      (∀ d, RegisterOutcome r d (r.register d)) ∧
      (({} : Catalog).after ops).Mirrors r := by
  intro r
  have built : r.Built := Built.empty.after ops
  obtain ⟨inStep, same⟩ := Catalog.inStep_empty.after Built.empty ops
  refine ⟨built.indexed, fun further _ _ there => get?_after there further,
    r.register_outcome, ?_⟩
  have same : (({} : Catalog).after ops).registry = r := same
  have mirrors := inStep.mirrors (same ▸ built)
  rwa [same] at mirrors

end Registry

end Reflectory
