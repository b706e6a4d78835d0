/-
Where the types of a registry come from.

Whatever index a registry is built from, and however the types are spelled that its
compounds use, every type in it is offered by a compound of the index
(`offered_of_mem_build`). What holds of all that compounds offer therefore holds of all
that is registered. Of the types that are built, only the classes of the index have
properties (`class_or_bare_of_mem_build`).
-/

import Reflectory.Proofs.Registry.Offers

namespace Reflectory

open Spelling

namespace Building

variable {config : Configuration} {offers offers' : List Descriptor} {b b' b'' : Building}

/-- Each type afterwards was there before, or is one of those that are offered. -/
def Adds (offers : List Descriptor) (b b' : Building) : Prop :=
  ∀ d ∈ b'.registry.types, d ∈ b.registry.types ∨ d ∈ offers

theorem Adds.refl (b : Building) : Adds offers b b :=
  fun _ mem => .inl mem

theorem Adds.trans (first : Adds offers b b') (second : Adds offers' b' b'') :
    Adds (offers ++ offers') b b'' := by
  intro d mem
  obtain mem | mem := second d mem
  · exact (first d mem).imp_right (List.mem_append_left _)
  · exact .inr (List.mem_append_right _ mem)

theorem adds_of_registry (registry : b'.registry = b.registry.registerEach offers) :
    Adds offers b b' := by
  intro d mem
  rw [registry] at mem
  exact Registry.mem_of_mem_registerEach mem

/-- Steps that each add what they offer add what all of them offer. -/
theorem adds_foldl {α : Type} {f : Building → α → Building} {offers : α → List Descriptor}
    (step : ∀ b x, Adds (offers x) b (f b x)) (xs : List α) (b : Building) :
    Adds (xs.flatMap offers) b (xs.foldl f b) := by
  induction xs generalizing b with
  | nil => exact .refl b
  | cons x xs ih => exact (step b x).trans (ih (f b x))

theorem adds_registerWritten (b : Building) (spelled : String) :
    Adds (config.writtenType? spelled).toList b (b.registerWritten config spelled) := by
  unfold registerWritten
  split
  next body _ written =>
    rw [Configuration.writtenType?, written]
    exact adds_of_registry (register_registry b _)
  next => exact .refl b

theorem adds_registerUses (b : Building) (type : String) :
    Adds (config.offeredFor type) b (b.registerUses config type) := by
  unfold registerUses Configuration.offeredFor
  rw [List.filterMap_eq_flatMap_toList, List.filterMap_eq_flatMap_toList]
  exact (adds_foldl (fun b s => adds_of_registry (registerContainer_registry b s)) _ b).trans
    (adds_foldl adds_registerWritten _ _)

theorem adds_addNested (scope : String) (header? : Option String) (b : Building)
    (m : MemberDeclaration) :
    Adds ((m.synonymOf? scope).toList.flatMap config.offeredFor ++
      (m.nestedType? config scope header?).toList) b (b.addNested config scope header? m) := by
  cases own : m.declaredIn? with
  | some owner =>
    rw [addNested, own]
    exact .refl b
  | none =>
    cases kind : m.kind with
    | enumeration enumerators isScoped =>
      rw [addNested_enumeration own kind]
      refine adds_of_registry ((register_registry _ _).trans ?_)
      simp [MemberDeclaration.nestedType?, MemberDeclaration.nestedKind?,
        MemberDeclaration.synonymOf?, own, kind]
    | typedef spelled =>
      rw [addNested_typedef own kind, MemberDeclaration.nestedType?,
        MemberDeclaration.nestedKind?, own, kind]
      cases synonym : m.synonymOf? scope with
      | none => exact .refl b
      | some target =>
        simpa using (adds_registerUses b target).trans (adds_of_registry (register_registry _ _))
    | _ =>
      rw [addNested, own, kind]
      exact .refl b

/-- A compound adds what it offers. -/
theorem adds_addCompound (b : Building) (c : CompoundDeclaration) :
    Adds (c.offered config) b (b.addCompound config c) := by
  have nested (b : Building) := adds_foldl
    (fun b m => @adds_addNested config (normalize c.name) (c.headerOf? m) b m)
    c.members b
  have used (b : Building) := adds_foldl (@adds_registerUses config)
    (c.memberTypes config) b
  unfold addCompound CompoundDeclaration.offered
  cases kind : c.kind with
  | isNamespace =>
    simp only [CompoundDeclaration.headerOf?, kind] at nested
    simpa [CompoundDeclaration.headerOf?, CompoundDeclaration.type?,
      CompoundDeclaration.memberTypes, kind] using nested b
  | isClass | isStruct | isUnion =>
    simp only [CompoundDeclaration.headerOf?, CompoundDeclaration.memberTypes, kind] at nested used
    simp only [CompoundDeclaration.headerOf?, CompoundDeclaration.type?,
      CompoundDeclaration.memberTypes, kind]
    exact ((nested b).trans (adds_of_registry (register_registry (note _ _) _))).trans (used _)

end Building

/-- The types that the compound with this handle offers, if it can be read. -/
def DeclarationIndex.offered (index : DeclarationIndex) (config : Configuration)
    (handle : String) : List Descriptor :=
  match index.resolve handle with
  | .ok c => c.offered config
  | .error _ => []

/-- **What is built is offered** by a compound of the index. -/
theorem Registry.offered_of_mem_build {index : DeclarationIndex} {config : Configuration}
    {d : Descriptor} (mem : d ∈ (Registry.build index config).registry.types) :
    ∃ handle ∈ index.handles, ∃ c, index.resolve handle = .ok c ∧ d ∈ c.offered config := by
  have step (b : Building) (handle : String) :
      Building.Adds (index.offered config handle) b (b.addHandle index config handle) := by
    unfold Building.addHandle DeclarationIndex.offered
    cases index.resolve handle with
    | ok c => exact b.adds_addCompound c
    | error cause => exact .refl b
  have added := Building.adds_foldl step index.handles { events := [.building] }
  obtain ⟨handle, listed, offered⟩ :=
    List.mem_flatMap.mp ((added d mem).resolve_left List.not_mem_nil)
  unfold DeclarationIndex.offered at offered
  split at offered
  next c resolved => exact ⟨handle, listed, c, resolved, offered⟩
  next => cases offered

/-- The compounds of an index in memory are those that it was made of. -/
theorem Registry.mem_of_resolve_ofCompounds {cs : List CompoundDeclaration} {handle : String}
    {c : CompoundDeclaration}
    (resolved : (DeclarationIndex.ofCompounds cs).resolve handle = .ok c) : c ∈ cs := by
  dsimp only [DeclarationIndex.ofCompounds] at resolved
  split at resolved
  next found =>
    obtain rfl := Except.ok.inj resolved
    obtain ⟨n, -, at_n⟩ := Option.bind_eq_some_iff.mp found
    exact List.mem_of_getElem? at_n
  next => cases resolved

/-- Only classes of the index have properties when they are built. -/
theorem Registry.class_or_bare_of_mem_build {index : DeclarationIndex} {config : Configuration}
    {d : Descriptor} (mem : d ∈ (Registry.build index config).registry.types) :
    (∃ handle ∈ index.handles, ∃ c, index.resolve handle = .ok c ∧
        d = (Descriptor.ofClass config c).begun) ∨
      d.properties = [] := by
  obtain ⟨handle, listed, c, resolved, offered⟩ := offered_of_mem_build mem
  obtain declared | ⟨type, -, offered⟩ := CompoundDeclaration.mem_offered.mp offered
  · obtain nested | own := List.mem_append.mp declared
    · obtain ⟨m, -, nested⟩ := List.mem_filterMap.mp nested
      obtain ⟨kind, -, rfl⟩ := Option.map_eq_some_iff.mp nested
      exact .inr rfl
    · rw [Option.mem_toList, CompoundDeclaration.type?] at own
      split at own <;> cases own <;> exact .inl ⟨handle, listed, c, resolved, rfl⟩
  · obtain used | written := List.mem_append.mp offered
    · obtain ⟨s, -, used⟩ := List.mem_filterMap.mp used
      obtain ⟨container, -, rfl⟩ := Option.map_eq_some_iff.mp used
      exact .inr rfl
    · obtain ⟨s, -, written⟩ := List.mem_filterMap.mp written
      obtain ⟨body, -, rfl⟩ := Option.map_eq_some_iff.mp written
      exact .inr rfl

end Reflectory
