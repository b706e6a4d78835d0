/-
The order of an index.

What compounds declare stands under names of their own, and what is offered where types
are used follows from the names alone. So compounds can be listed in any order, as long
as none uses a type that another one declares (`build_alike_in_any_order`). Where one
does, what is offered for the use takes the name if it comes first, and what is declared
is lost (`order_matters_where_declared_types_are_used`). Names are canonical where colons
stand in pairs; where they do not, one name may be offered with two reflectors
(`order_matters_where_colons_stand_alone`).
-/

import Reflectory.Proofs.Registry.Offers
import Reflectory.Proofs.Registry.RegistrationOrder

namespace Reflectory

open Spelling

/-! ### Independent compounds -/

/-- Compounds of which none uses what another one declares. -/
structure Independent (config : Configuration) (cs : List CompoundDeclaration) : Prop where
  /-- What a compound declares, no other one declares or uses. -/
  apart : ∀ c ∈ cs, ∀ c' ∈ cs, c ≠ c' →
    ∀ d ∈ c.declared config, ∀ d' ∈ c'.offered config, d.name ≠ d'.name
  /-- In the types that are used, colons stand in pairs. -/
  paired : ∀ c ∈ cs, ∀ type ∈ c.uses config, PairedColons type

theorem Independent.agree {config : Configuration} {cs : List CompoundDeclaration}
    (independent : Independent config cs) :
    Registry.Agree (CompoundDeclaration.offered config) cs := by
  intro c mem c' mem' ne d offered d' offered' same
  obtain declared | ⟨type, used, offered_for⟩ := CompoundDeclaration.mem_offered.mp offered
  · exact absurd same (independent.apart c mem c' mem' ne d declared d' offered')
  obtain declared | ⟨type', used', offered_for'⟩ := CompoundDeclaration.mem_offered.mp offered'
  · exact absurd same.symm (independent.apart c' mem' c mem ne.symm d' declared d offered)
  have made := Configuration.usedType?_of_mem_offeredFor (independent.paired c mem type used)
    offered_for
  have made' := Configuration.usedType?_of_mem_offeredFor (independent.paired c' mem' type' used')
    offered_for'
  rw [same, made'] at made
  exact (Option.some.inj made).symm

/-- Completion makes no kind one that the user has written a reflector for. -/
theorem Kind.completed_eq_custom {k : Kind} {leavesOver : Bool} {body : String} :
    k.completed leavesOver = .custom body ↔ k = .custom body := by
  cases k with
  | plain => cases leavesOver <;> simp [completed]
  | object | typedef | custom | enumeration | container => simp [completed]

namespace Registry

/-- Two registries are the same but for the order of registration: the same descriptors
under the same names, the targets of links compared by name, and the same units. -/
structure Alike (r r' : Registry) : Prop where
  types : ∀ name, Option.Rel (SameType r r') (r.find? name) (r'.find? name)
  order : r.order.map r.nameOf = r'.order.map r'.nameOf
  units : ∀ naming, UnitFile.ofRegistry r naming = UnitFile.ofRegistry r' naming

/-- Types that are registered in another order are completed alike. -/
theorem Reordered.alike {r r' : Registry} {f : TypeId → TypeId} (reordered : Reordered f r r')
    (config : Configuration) :
    Alike (r.consolidate config).registry (r'.consolidate config).registry := by
  have renumbered := renumbered_consolidate reordered config
  exact ⟨reordered.rel_find? config, renumbered.namesInOrder_eq.symm,
    fun naming => (renumbered.units_eq naming).symm⟩

/-- **The order of an index does not matter**, as long as no compound uses a type that
another one declares. -/
theorem build_alike_in_any_order {cs cs' : List CompoundDeclaration} (perm : cs.Perm cs')
    (few : cs.length ≤ UInt64.size) (config : Configuration)
    (independent : Independent config cs) :
    Alike ((build (.ofCompounds cs) config).registry.consolidate config).registry
      ((build (.ofCompounds cs') config).registry.consolidate config).registry := by
  have paired' : ∀ c ∈ cs', ∀ type ∈ c.uses config, PairedColons type :=
    fun c mem => independent.paired c (perm.mem_iff.mpr mem)
  have same := registerEach_flatMap_perm independent.agree perm
  obtain ⟨f, reordered⟩ := exists_reordered same (nodup_names_registerEach _)
  rw [build_registry few independent.paired, build_registry (perm.length_eq ▸ few) paired',
    registerEach_eq, registerEach_eq (cs'.flatMap _)]
  exact reordered.alike config

/-- A class with a method that returns a container. -/
def mesh : CompoundDeclaration :=
  (CompoundDeclaration.ofClass "Mesh").member (.function "points" "std::vector<int>")

/-- A namespace with a name for the same container. -/
def geometry : CompoundDeclaration :=
  (CompoundDeclaration.ofNamespace "geometry").member <|
    MemberDeclaration.typedef "Points" "std::vector<int>"

/-- `mesh` and `geometry` use a container that none of them declares. -/
theorem build_alike_in_any_order_mesh :
    [mesh, geometry].Perm [geometry, mesh] ∧ [mesh, geometry].length ≤ UInt64.size ∧
      Independent {} [mesh, geometry] ∧
      Alike ((build (.ofCompounds [mesh, geometry]) {}).registry.consolidate {}).registry
        ((build (.ofCompounds [geometry, mesh]) {}).registry.consolidate {}).registry := by
  have perm : [mesh, geometry].Perm [geometry, mesh] := .swap geometry mesh []
  have few : [mesh, geometry].length ≤ UInt64.size := by decide
  have paired : ∀ c ∈ [mesh, geometry], ∀ type ∈ c.uses {}, Token.mark ':' ∉ tokenize type := by
    decide +kernel
  have independent : Independent {} [mesh, geometry] := ⟨by decide +kernel, paired⟩
  exact ⟨perm, few, independent, build_alike_in_any_order perm few {} independent⟩

/-! ### Where the order matters -/

/-- What does not depend on the links is the same under every name. -/
theorem Alike.map_eq {α : Type} {r r' : Registry} (alike : Alike r r') {g : Descriptor → α}
    (apart : ∀ d, g { d with bases := [] } = g d) (name : String) :
    (r.find? name).map g = (r'.find? name).map g := by
  have same := alike.types name
  generalize r.find? name = d at same
  generalize r'.find? name = d' at same
  cases same with
  | none => rfl
  | @some d d' same =>
    rw [Option.map_some, Option.map_some, ← apart d, same.apart, apart]

/-- What completion leaves alone is the same under every name. -/
theorem map_find?_consolidate {α : Type} (r : Registry) (config : Configuration)
    {g : Descriptor → α}
    (kept : ∀ id d get?, g ((r.relinked config id d).finished config get?) = g d)
    (name : String) :
    ((r.consolidate config).registry.find? name).map g = (r.find? name).map g := by
  unfold find?
  rw [lookup_eq_findIdx?, names_consolidate, ← lookup_eq_findIdx?]
  cases r.lookup name with
  | none => rfl
  | some id =>
    rw [Option.bind_some, Option.bind_some, get?_consolidate, Option.map_map]
    exact Option.map_congr fun d _ => kept id d _

/-- A class that is declared under the name of a container. -/
def fastVector : CompoundDeclaration :=
  (CompoundDeclaration.ofClass "std::vector<int>").header "fast/vector"

/-- Where a type is used before it is declared, its declaration is lost. -/
theorem order_matters_where_declared_types_are_used :
    ¬ ∀ (cs cs' : List CompoundDeclaration) (config : Configuration), cs.Perm cs' →
      ((cs.flatMap (CompoundDeclaration.declared config)).map Descriptor.name).Nodup →
        Alike ((build (.ofCompounds cs) config).registry.consolidate config).registry
          ((build (.ofCompounds cs') config).registry.consolidate config).registry := by
  intro alike
  have same := (alike [fastVector, mesh] [mesh, fastVector] {} (.swap mesh fastVector [])
    (by decide +kernel)).map_eq (g := Descriptor.header?) (fun _ => rfl) "std::vector< int >"
  rw [map_find?_consolidate _ _ fun _ _ _ => rfl, map_find?_consolidate _ _ fun _ _ _ => rfl]
    at same
  have declared : ((build (.ofCompounds [fastVector, mesh]) {}).registry.find?
      "std::vector< int >").map Descriptor.header? = some (some "fast/vector") := by
    decide +kernel
  have used : ((build (.ofCompounds [mesh, fastVector]) {}).registry.find?
      "std::vector< int >").map Descriptor.header? = some none := by
    decide +kernel
  rw [declared, used] at same
  cases same

/-- A class that uses an instantiation whose name is canonical only after several rounds
of spelling: each of them closes the first gap between the colons. -/
def gappyMap : CompoundDeclaration :=
  (CompoundDeclaration.ofClass "Map").member (.function "cells" "Grid<: :: :: :: ::>")

/-- A class that uses the instantiation by its canonical name. -/
def gaplessView : CompoundDeclaration :=
  (CompoundDeclaration.ofClass "View").member (.function "cells" "Grid<:::::::::>")

/-- Two reflectors for the instantiation: one for its canonical name and one for a name
that is canonical a round later. -/
def reflectsTwice : Configuration :=
  (({} : Configuration).customReflector "Grid<::::: :: ::>" "FIRST").customReflector
    "Grid<:::::::::>" "SECOND"

/-- Where single colons stand in a type that is used, it is registered under another name
than the one by which its reflector was found, and keeps the reflector from there. -/
theorem order_matters_where_colons_stand_alone :
    ¬ ∀ (cs cs' : List CompoundDeclaration) (config : Configuration), cs.Perm cs' →
      (∀ c ∈ cs, ∀ c' ∈ cs, c ≠ c' →
        ∀ d ∈ c.declared config, ∀ d' ∈ c'.offered config, d.name ≠ d'.name) →
        Alike ((build (.ofCompounds cs) config).registry.consolidate config).registry
          ((build (.ofCompounds cs') config).registry.consolidate config).registry := by
  intro alike
  have same := (alike [gappyMap, gaplessView] [gaplessView, gappyMap] reflectsTwice
    (.swap gaplessView gappyMap []) (by decide +kernel)).map_eq
    (g := fun d => decide (d.kind = .custom "FIRST")) (fun _ => rfl) "Grid< ::::::::: >"
  have kept (r : Registry) := map_find?_consolidate r reflectsTwice
    (g := fun d => decide (d.kind = .custom "FIRST")) fun _ _ _ =>
      decide_eq_decide.mpr Kind.completed_eq_custom
  rw [kept, kept] at same
  have first : ((build (.ofCompounds [gappyMap, gaplessView]) reflectsTwice).registry.find?
      "Grid< ::::::::: >").map (fun d => decide (d.kind = .custom "FIRST")) = some true := by
    decide +kernel
  have second : ((build (.ofCompounds [gaplessView, gappyMap]) reflectsTwice).registry.find?
      "Grid< ::::::::: >").map (fun d => decide (d.kind = .custom "FIRST")) = some false := by
    decide +kernel
  rw [first, second] at same
  cases same

end Registry

end Reflectory
