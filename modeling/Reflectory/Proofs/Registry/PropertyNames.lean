/-
The names of a type's properties.

Properties come from three sources: accessors, public data members, and both of them
again where the index has copied members of a base into a class. Inference gives each name
once, the data members of a class have names of their own, and consolidation drops the
inherited properties whose names are taken. Between the first two sources nothing is
compared: `ofClass` puts the data members behind what was inferred, so a class with a
public `width` and a `getWidth` has two properties of this name, and because both are its
own, consolidation keeps them.

* `OwnApart`: which own properties of a class have different names.
* `property_names_apart`: where the names of data members are their own, a property shares
  its name with at most one other, an inferred one with a data member of the same class.
-/

import Reflectory.Proofs.Property.Coverage
import Reflectory.Proofs.Registry.Completion
import Reflectory.Proofs.Registry.Provenance
import Reflectory.Proofs.Registry.Shadowing

namespace Reflectory

/-! ### The properties of a class -/

/-- Whether a property belongs to the type itself. -/
def Property.isOwn (p : Property) : Bool :=
  p.declaredIn?.isNone

/-- Whether a member is a data member that its class declares itself, whatever its access. -/
def MemberDeclaration.isOwnField (m : MemberDeclaration) : Bool :=
  match m.kind with
  | .variable _ => m.declaredIn?.isNone
  | _ => false

/-- The data members that a class declares itself have different names. -/
def CompoundDeclaration.OwnFieldsDistinct (c : CompoundDeclaration) : Prop :=
  ((c.members.filter MemberDeclaration.isOwnField).map MemberDeclaration.name).Nodup

instance (c : CompoundDeclaration) : Decidable c.OwnFieldsDistinct :=
  inferInstanceAs (Decidable (List.Nodup _))

/-- What is known of a property that is made of a data member. -/
theorem MemberDeclaration.of_field? {m : MemberDeclaration} {kind : Kind} {p : Property}
    (field : m.field? kind = some p) :
    p.name = m.name ∧ p.shape = .field ∧ p.isOwn = m.isOwnField := by
  unfold field? at field
  split at field
  next ty data =>
    split_ifs at field
    cases field
    refine ⟨rfl, rfl, ?_⟩
    rw [isOwnField, data]
    rfl
  next => cases field

/-- What is inferred from accessors is no data member. -/
theorem PropertyInference.shape_ne_field {policy : PropertyPolicy} {methods : List Method}
    {p : Property} (mem : p ∈ (ofMethods policy methods).properties) : p.shape ≠ .field := by
  obtain ⟨f, found, rfl⟩ := mem_properties_iff.mp mem
  obtain ⟨_, made⟩ := Findings.made_of_mem_ofAccessors found
  cases made <;> exact PropertyShape.noConfusion

namespace Descriptor

/-- Of two own properties with one name, the first is inferred from accessors, and the
second is a data member. -/
def OwnApart (d : Descriptor) : Prop :=
  d.properties.Pairwise fun p q =>
    p.isOwn → q.isOwn → p.name = q.name → p.shape ≠ .field ∧ q.shape = .field

theorem ownApart_ofClass (config : Configuration) {c : CompoundDeclaration}
    (distinct : c.OwnFieldsDistinct) : (ofClass config c).OwnApart := by
  refine List.pairwise_append.mpr ⟨?_, ?_, ?_⟩
  · unfold inference
    split_ifs
    · refine (List.pairwise_map.mp (PropertyInference.nodup_names _ _)).imp ?_
      exact fun apart _ _ same => absurd same apart
    · exact .nil
  · have apart := List.pairwise_filter.mp (List.pairwise_map.mp distinct)
    refine List.pairwise_filterMap.mpr (apart.imp ?_)
    intro m m' apart p field p' field' own own' same
    obtain ⟨name, -, declared⟩ := MemberDeclaration.of_field? field
    obtain ⟨name', -, declared'⟩ := MemberDeclaration.of_field? field'
    exact absurd (name ▸ name' ▸ same) (apart (declared ▸ own) (declared' ▸ own'))
  · intro p inferred q field _ _ _
    obtain ⟨m, -, field⟩ := List.mem_filterMap.mp field
    refine ⟨?_, (MemberDeclaration.of_field? field).2.1⟩
    unfold inference at inferred
    split_ifs at inferred
    · exact PropertyInference.shape_ne_field inferred
    · cases inferred

end Descriptor

namespace Registry

variable {index : DeclarationIndex} {config : Configuration} {id : TypeId} {d : Descriptor}

theorem ownApart_of_mem_build
    (distinct : ∀ handle ∈ index.handles, ∀ c, index.resolve handle = .ok c → c.OwnFieldsDistinct)
    (mem : d ∈ (build index config).registry.types) : d.OwnApart := by
  obtain ⟨handle, listed, c, resolved, rfl⟩ | bare := class_or_bare_of_mem_build mem
  · exact Descriptor.ownApart_ofClass config (distinct handle listed c resolved)
  · rw [Descriptor.OwnApart, bare]
    exact .nil

/-- **Names of properties.** In an index whose compounds each declare data members with
different names, two properties of a consolidated type share a name only if both belong to
the type itself, the first is inferred from its accessors, and the second is a data member.
So the names are different unless some data member is named like an inferred property of
the same class. -/
theorem property_names_apart
    (distinct : ∀ handle ∈ index.handles, ∀ c, index.resolve handle = .ok c → c.OwnFieldsDistinct)
    (there : ((build index config).registry.consolidate config).registry.get? id = some d) :
    (d.properties.Pairwise fun p q => p.name = q.name →
      p.isOwn ∧ q.isOwn ∧ p.shape ≠ .field ∧ q.shape = .field) ∧
    ((d.properties.map Property.name).Nodup ↔
      ∀ p ∈ d.properties, ∀ q ∈ d.properties, p.isOwn → q.isOwn → p.shape ≠ .field →
        q.shape = .field → p.name ≠ q.name) := by
  obtain ⟨registered, given, rfl⟩ := registered_of_consolidated there
  have apart : registered.OwnApart := ownApart_of_mem_build distinct (List.mem_of_getElem? given)
  have shared := (dropShadowed_pairwise Property.isOwn Property.name registered.properties).and
    (apart.sublist (dropShadowed_sublist Property.isOwn Property.name registered.properties))
  have pairs : (dropShadowed Property.isOwn Property.name registered.properties).Pairwise
      fun p q => p.name = q.name → p.isOwn ∧ q.isOwn ∧ p.shape ≠ .field ∧ q.shape = .field := by
    refine shared.imp ?_
    intro p q ⟨own, apart⟩ same
    obtain ⟨own, own'⟩ := own same
    exact ⟨own, own', apart own own' same⟩
  refine ⟨pairs, fun nodup p mem q mem' _ _ inferred field same => ?_, fun apart => ?_⟩
  · have eq := List.inj_on_of_nodup_map nodup mem mem' same
    exact inferred (eq ▸ field)
  · refine List.pairwise_map.mpr (pairs.imp_of_mem ?_)
    intro p q mem mem' shared same
    obtain ⟨own, own', inferred, field⟩ := shared same
    exact apart p mem q mem' own own' inferred field same

/-- A class that declares data members again which its index has copied from a base: one
that has a getter there, and one that is public there as well. -/
def plate : CompoundDeclaration :=
  { CompoundDeclaration.ofClass "Plate" with
    members := [(MemberDeclaration.function "getDepth" "int").constant.inheritedFrom "Panel",
      .ofVariable "depth" "int", .ofVariable "width" "int",
      (MemberDeclaration.ofVariable "width" "int").inheritedFrom "Panel"] }

/-- The inherited properties of `plate` are gone, so the names are different. -/
theorem property_names_apart_plate :
    ∃ d, ((build (.ofCompounds [plate]) {}).registry.consolidate {}).registry.get? ⟨0⟩ = some d ∧
      d.properties.map Property.name = ["depth", "width"] ∧
      (d.properties.map Property.name).Nodup := by
  have facts : (((build (.ofCompounds [plate]) {}).registry.consolidate {}).registry.get?
      ⟨0⟩).any fun d => decide (d.properties.map Property.name = ["depth", "width"] ∧
        ∀ p ∈ d.properties, ∀ q ∈ d.properties, p.isOwn → q.isOwn → p.shape ≠ .field →
          q.shape = .field → p.name ≠ q.name) := by
    decide +kernel
  obtain ⟨d, there, facts⟩ := (Option.any_eq_true _ _).mp facts
  obtain ⟨names, apart⟩ := of_decide_eq_true facts
  have distinct : plate.OwnFieldsDistinct := by decide
  refine ⟨d, there, names, (property_names_apart (fun handle _ c resolved => ?_) there).2.mpr apart⟩
  obtain rfl := List.mem_singleton.mp (mem_of_resolve_ofCompounds resolved)
  exact distinct

/-- A class with a public data member and a getter of its name. -/
def openBox : CompoundDeclaration :=
  { CompoundDeclaration.ofClass "Box" with
    members := [(MemberDeclaration.function "getWidth" "int").constant,
      .ofVariable "width" "int"] }

/-- The names of properties are not always different. -/
theorem property_names_not_always_apart :
    ¬ ∀ (cs : List CompoundDeclaration) (config : Configuration) (id : TypeId) (d : Descriptor),
      (∀ c ∈ cs, c.OwnFieldsDistinct) →
        ((build (.ofCompounds cs) config).registry.consolidate config).registry.get? id = some d →
          (d.properties.map Property.name).Nodup := by
  intro always
  have twice : (((build (.ofCompounds [openBox]) {}).registry.consolidate {}).registry.get?
      ⟨0⟩).any fun d => decide (d.properties.map Property.name = ["width", "width"]) := by
    decide +kernel
  obtain ⟨d, there, twice⟩ := (Option.any_eq_true _ _).mp twice
  have nodup := always [openBox] {} ⟨0⟩ d (List.forall_mem_singleton.mpr (by decide)) there
  rw [of_decide_eq_true twice] at nodup
  exact absurd nodup (by decide)

end Registry

end Reflectory
