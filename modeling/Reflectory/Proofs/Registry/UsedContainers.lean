/-
The containers that are registered are those that are used.

A built registry has a standard container under a name if a type that a compound uses
mentions it, or if a class is declared under its name. The other way round, every container
that is mentioned by a type in use is registered as one, unless the user has written a
reflector for it, or an enumeration or a synonym is declared under its name.

* `containers_as_mentioned`: what is found in a type and what is registered for it.
-/

import Reflectory.Proofs.Registry.DeclaredMethods
import Reflectory.Proofs.Registry.Provenance
import Reflectory.Proofs.Spelling.Containers

namespace Reflectory

open Spelling

variable {index : DeclarationIndex} {config : Configuration} {d : Descriptor}

/-! ### What an index uses and declares -/

namespace DeclarationIndex

/-- Whether the type is the target of a synonym, or the type of a registered member. -/
def Uses (index : DeclarationIndex) (config : Configuration) (type : String) : Prop :=
  ∃ handle ∈ index.handles, ∃ c, index.resolve handle = .ok c ∧ type ∈ c.uses config

/-- Whether a class, an enumeration or a synonym is declared like this. -/
def Declares (index : DeclarationIndex) (config : Configuration) (d : Descriptor) : Prop :=
  ∃ handle ∈ index.handles, ∃ c, index.resolve handle = .ok c ∧ d ∈ c.declared config

/-- Whether this is a class that is declared under the name of a container. -/
def DeclaresContainer (index : DeclarationIndex) (config : Configuration) (d : Descriptor) :
    Prop :=
  ∃ handle ∈ index.handles, ∃ c container, index.resolve handle = .ok c ∧
    c.type? config = some d ∧ stdContainer? (normalize c.name) = some container ∧
    d.kind = .ofContainer container

theorem mem_offered {handle : String} : d ∈ index.offered config handle ↔
    ∃ c, index.resolve handle = .ok c ∧ d ∈ c.offered config := by
  unfold offered
  split
  next c resolved => simp [resolved]
  next cause failed => simp [failed]

/-- What is offered is declared, or offered where a type is used. -/
theorem mem_flatMap_offered : d ∈ index.handles.flatMap (index.offered config) ↔
    index.Declares config d ∨ ∃ type, index.Uses config type ∧ d ∈ config.offeredFor type := by
  simp only [List.mem_flatMap, mem_offered, CompoundDeclaration.mem_offered, Declares, Uses]
  constructor
  · rintro ⟨handle, listed, c, resolved, declared | ⟨type, used, offered⟩⟩
    · exact .inl ⟨handle, listed, c, resolved, declared⟩
    · exact .inr ⟨type, ⟨handle, listed, c, resolved, used⟩, offered⟩
  · rintro (⟨handle, listed, c, resolved, declared⟩ |
      ⟨type, ⟨handle, listed, c, resolved, used⟩, offered⟩)
    · exact ⟨handle, listed, c, resolved, .inl declared⟩
    · exact ⟨handle, listed, c, resolved, .inr ⟨type, used, offered⟩⟩

end DeclarationIndex

/-- What is built is what the compounds of the index offer, one after another. -/
theorem Registry.build_registry_of_index
    (paired : ∀ type, index.Uses config type → PairedColons type) :
    (Registry.build index config).registry =
      ({} : Registry).registerEach (index.handles.flatMap (index.offered config)) := by
  refine Building.foldl_registry { events := [.building] } fun handle listed b => ?_
  unfold Building.addHandle DeclarationIndex.offered
  cases resolved : index.resolve handle with
  | ok c =>
    exact b.addCompound_registry fun type used => paired type ⟨handle, listed, c, resolved, used⟩
  | error cause => rfl

/-! ### Declared containers -/

/-- A nested type is no container. -/
theorem MemberDeclaration.kind_of_nestedType? {m : MemberDeclaration} {scope : String}
    {header? : Option String} (nested : m.nestedType? config scope header? = some d)
    (container : ContainerType) : d.kind ≠ .ofContainer container := by
  obtain ⟨kind, declared, rfl⟩ := Option.map_eq_some_iff.mp nested
  have other : kind ≠ .ofContainer container := by
    rintro rfl
    unfold nestedKind? at declared
    split at declared
    · cases declared
    · obtain ⟨target, -, typedef⟩ := Option.map_eq_some_iff.mp declared
      cases typedef
  intro same
  let name := (Descriptor.ofSpelled (m.qualifiedName scope) kind).name
  have chosen : (config.customReflector? name).elim kind .custom = .ofContainer container := same
  cases written : config.customReflector? name with
  | none => exact other (by rwa [written] at chosen)
  | some body =>
    rw [written] at chosen
    cases chosen

/-- Among what is declared, only classes with the name of a container are containers. -/
theorem DeclarationIndex.Declares.container {container : ContainerType}
    (declares : index.Declares config d) (kind : d.kind = .ofContainer container) :
    index.DeclaresContainer config d := by
  obtain ⟨handle, listed, c, resolved, declared⟩ := declares
  obtain nested | own := List.mem_append.mp declared
  · obtain ⟨m, -, nested⟩ := List.mem_filterMap.mp nested
    exact absurd kind (MemberDeclaration.kind_of_nestedType? nested container)
  · have own := Option.mem_toList.mp own
    have same : d.kind = c.typeKind config (normalize c.name) := by
      unfold CompoundDeclaration.type? at own
      split at own <;> cases own <;> exact Descriptor.kind_ofClass config c
    have chosen := same
    rw [kind, CompoundDeclaration.typeKind] at chosen
    split at chosen
    · cases chosen
    · rename_i recognised
      exact ⟨handle, listed, c, _, resolved, own, recognised, kind.trans chosen⟩
    · split at chosen <;> cases chosen

/-! ### Used containers -/

namespace Registry

section

variable (regular : ∀ type, index.Uses config type → Regular type)

include regular

/-- A container that is mentioned by a type in use is registered, unless its name is declared
or has a reflector of the user's. -/
theorem exists_registered_container {type : String} {us : List Token} {shape : ContainerShape}
    {args : List (List Token)} (used : index.Uses config type)
    (inside : Inside bare (tokenize type) us) (container : IsContainer (bare us) shape args)
    (last : args.getLast? ≠ some []) :
    ∃ d ∈ (Registry.build index config).registry.types,
      d.name = containerName shape (args.map render) ∧
      (d.kind = .ofContainer ⟨shape, args.map render⟩ ∨ index.Declares config d ∨
        (config.customReflector? d.name).isSome) := by
  have found : containerName shape (args.map render) ∈ collectContainers type [] :=
    (regular type used).mem_collectContainers_iff.mpr ⟨us, shape, args, inside, container, rfl⟩
  obtain ⟨canonical, recognised⟩ := (regular type used).name_of_isContainer inside container last
  generalize containerName shape (args.map render) = name at *
  rw [build_registry_of_index fun type used => (regular type used).paired]
  have named : name ∈ (({} : Registry).registerEach
      (index.handles.flatMap (index.offered config))).types.map Descriptor.name := by
    rw [mem_names_registerEach]
    obtain ⟨e, offered, same⟩ : ∃ e, config.usedContainer? name = some e ∧ e.name = name := by
      rw [Configuration.usedContainer?, recognised]
      exact ⟨_, rfl, canonical⟩
    have mem : e ∈ config.offeredFor type :=
      List.mem_append_left _ (List.mem_filterMap.mpr ⟨name, found, offered⟩)
    have offered := DeclarationIndex.mem_flatMap_offered.mpr (.inr ⟨type, used, mem⟩)
    exact .inr (List.mem_map.mpr ⟨e, offered, same⟩)
  obtain ⟨d, mem, rfl⟩ := List.mem_map.mp named
  refine ⟨d, mem, rfl, ?_⟩
  have offered := (mem_of_mem_registerEach mem).resolve_left List.not_mem_nil
  obtain declared | ⟨type', used', offered⟩ := DeclarationIndex.mem_flatMap_offered.mp offered
  · exact .inr (.inl declared)
  · have made := Configuration.usedType?_of_mem_offeredFor (regular type' used').paired offered
    rw [Configuration.usedType?, recognised] at made
    cases written : config.customReflector? d.name with
    | some body => exact .inr (.inr rfl)
    | none =>
      rw [written] at made
      exact .inl (congrArg Descriptor.kind (Option.some.inj made)).symm

/-- A container is registered because it is found in a type that is used, or because it is
declared as one. -/
theorem used_or_declared_of_container {container : ContainerType}
    (mem : d ∈ (Registry.build index config).registry.types)
    (kind : d.kind = .ofContainer container) :
    (∃ type, index.Uses config type ∧ d.name ∈ collectContainers type []) ∨
      index.DeclaresContainer config d := by
  obtain ⟨handle, listed, c, resolved, offered⟩ := offered_of_mem_build mem
  obtain declared | ⟨type, used, offered⟩ := CompoundDeclaration.mem_offered.mp offered
  · have declares : index.Declares config d := ⟨handle, listed, c, resolved, declared⟩
    exact .inr (declares.container kind)
  · have used : index.Uses config type := ⟨handle, listed, c, resolved, used⟩
    refine .inl ⟨type, used, ?_⟩
    obtain found | written := List.mem_append.mp offered
    · obtain ⟨s, listed, made⟩ := List.mem_filterMap.mp found
      obtain ⟨container, recognised, rfl⟩ := Option.map_eq_some_iff.mp made
      have canonical := normalize_of_mem_containers (regular type used).paired listed recognised
      have named : normalize s ∈ collectContainers type [] := canonical.symm ▸ listed
      exact named
    · obtain ⟨s, -, made⟩ := List.mem_filterMap.mp written
      obtain ⟨body, -, rfl⟩ := Option.map_eq_some_iff.mp made
      cases kind

end

end Registry

/-- **Containers are those that types mention.** What is found in a type are the names of
the containers that it mentions without passing a pointer, each once; and these are all
that it mentions if no instantiation stands behind a pointer. What is found in a type that
the index uses is registered under its name, as this container unless the name is declared
or has a reflector of the user's; and containers are registered only where they are found
in a type that is used, or where a class is declared as one. -/
theorem containers_as_mentioned (type : String) (index : DeclarationIndex) (config : Configuration)
    (regular : Regular type) (used_regular : ∀ type, index.Uses config type → Regular type) :
    ((collectContainers type []).Nodup ∧
      (∀ name, name ∈ collectContainers type [] ↔ Mentions bare (tokenize type) name) ∧
      (∀ name, Mentions bare (tokenize type) name → Mentions target (tokenize type) name) ∧
      (¬ PointsToInstantiation (tokenize type) → ∀ name,
        Mentions target (tokenize type) name → name ∈ collectContainers type [])) ∧
    (∀ type us shape args, index.Uses config type → Inside bare (tokenize type) us →
      IsContainer (bare us) shape args → args.getLast? ≠ some [] →
      ∃ d ∈ (Registry.build index config).registry.types,
        d.name = containerName shape (args.map render) ∧
        (d.kind = .ofContainer ⟨shape, args.map render⟩ ∨ index.Declares config d ∨
          (config.customReflector? d.name).isSome)) ∧
    (∀ d ∈ (Registry.build index config).registry.types, ∀ container,
      d.kind = .ofContainer container →
      (∃ type, index.Uses config type ∧ d.name ∈ collectContainers type []) ∨
        index.DeclaresContainer config d) := by
  refine ⟨⟨?_, ?_, ?_, ?_⟩, ?_, ?_⟩
  · exact nodup_foldl_insertNew _ List.nodup_nil
  · exact fun name => regular.mem_collectContainers_iff
  · exact fun name => Mentions.target
  · exact fun free name mentions =>
      regular.mem_collectContainers_iff.mpr (mentions_bare_of_target free mentions)
  · exact fun type us shape args => Registry.exists_registered_container used_regular
  · exact fun d mem container => Registry.used_or_declared_of_container used_regular mem

/-- A class with a method that returns a container of containers. -/
def groupedMesh : CompoundDeclaration :=
  (CompoundDeclaration.ofClass "Mesh").member <|
    .function "groups" "std::map<int, std::vector<Node *> >"

/-- The type that `groupedMesh` uses. -/
def groupedType : String :=
  "std::map< int, std::vector< Node * > >"

/-- The tokens of `Node *`. -/
def nodePointer : List Token :=
  [.word "Node".toList, .mark '*']

/-- The tokens of the inner container. -/
def nodeVector : List Token :=
  .word "std::vector".toList :: .mark '<' :: (nodePointer ++ [.mark '>'])

theorem tokenize_groupedType : tokenize groupedType =
    Token.word "std::map".toList :: Token.mark '<' ::
      (Token.word "int".toList :: Token.mark ',' :: nodeVector ++ [Token.mark '>']) := by
  decide +kernel

theorem regular_groupedType : Regular groupedType where
  paired := by
    rw [PairedColons, tokenize_groupedType]
    decide +kernel
  balanced := by
    have pointer : Balanced false true true nodePointer := .cons rfl nofun (.cons rfl nofun .nil)
    have vector : Balanced false true true nodeVector := .cons rfl nofun (.angles pointer .nil)
    rw [tokenize_groupedType]
    exact .cons rfl nofun (.angles (.cons rfl nofun (.cons rfl (fun _ => rfl) vector)) .nil)

theorem regular_of_uses_groupedMesh (type : String)
    (used : (DeclarationIndex.ofCompounds [groupedMesh]).Uses {} type) : Regular type := by
  obtain ⟨handle, listed, c, resolved, used⟩ := used
  have only : (DeclarationIndex.ofCompounds [groupedMesh]).handles = [toString 0] := by
    decide +kernel
  rw [only, List.mem_singleton] at listed
  have found :
      (DeclarationIndex.ofCompounds [groupedMesh]).resolve (toString 0) = .ok groupedMesh :=
    DeclarationIndex.resolve_ofCompounds (by decide) rfl
  obtain rfl := Except.ok.inj (found.symm.trans (listed ▸ resolved))
  have uses : groupedMesh.uses {} = [groupedType] := by decide +kernel
  rw [uses, List.mem_singleton] at used
  exact used ▸ regular_groupedType

/-- The inner container is found in the type that `groupedMesh` uses, and is registered. -/
theorem containers_as_mentioned_grouped :
    Regular groupedType ∧
      (∀ type, (DeclarationIndex.ofCompounds [groupedMesh]).Uses {} type → Regular type) ∧
      "std::vector< Node * >" ∈ collectContainers groupedType [] ∧
      ∃ d ∈ (Registry.build (.ofCompounds [groupedMesh]) {}).registry.types,
        d.name = "std::vector< Node * >" := by
  obtain ⟨found, registered, -⟩ := containers_as_mentioned groupedType
    (.ofCompounds [groupedMesh]) {} regular_groupedType regular_of_uses_groupedMesh
  have int : Balanced true true false [.word "int".toList] := .cons rfl nofun .nil
  have pointer : Balanced true true false nodePointer := .cons rfl nofun (.cons rfl nofun .nil)
  have vector : Balanced true true false nodeVector := .cons rfl nofun
    (.angles (pointer.mono id id nofun) .nil)
  have inside : Inside bare (tokenize groupedType) nodeVector := by
    have map : Instantiates true (bare (tokenize groupedType)) "std::map".toList
        [[.word "int".toList], nodeVector] := by
      refine ⟨.word "int".toList :: .mark ',' :: nodeVector, ?_, ?_⟩
      · rw [tokenize_groupedType]
        decide +kernel
      · exact .cons int (.last vector (List.cons_ne_nil _ _))
    exact .argument .self map (by simp)
  have container : IsContainer (bare nodeVector) .vector [nodePointer] := by
    have same : bare nodeVector = nodeVector := by decide +kernel
    rw [same]
    exact ⟨_, _, ⟨nodePointer, rfl, .last pointer (List.cons_ne_nil _ _)⟩, by decide +kernel,
      by decide, rfl⟩
  have name : containerName .vector ([nodePointer].map render) = "std::vector< Node * >" := by
    decide +kernel
  have mentions : Mentions bare (tokenize groupedType) "std::vector< Node * >" :=
    ⟨nodeVector, .vector, [nodePointer], inside, container, name.symm⟩
  have uses : (DeclarationIndex.ofCompounds [groupedMesh]).Uses {} groupedType := by
    refine ⟨toString 0, by decide +kernel, groupedMesh, ?_, by decide +kernel⟩
    exact DeclarationIndex.resolve_ofCompounds (by decide) rfl
  obtain ⟨d, mem, named, -⟩ :=
    registered groupedType nodeVector .vector [nodePointer] uses inside container (by decide)
  exact ⟨regular_groupedType, regular_of_uses_groupedMesh, (found.2.1 _).mpr mentions, d, mem,
    named.trans name⟩

end Reflectory
