/-
What the passes over the base names can do.

A pass looks at one base name after the other and makes one property there,
rejects one pair, or does nothing. `Fusion.Made` lists the ways in which a
property can be made, with everything that was checked of its accessors;
`Findings.Next` is one change of the findings. Each pass does nothing but such
changes, and so does the whole run (`reaches_ofAccessors`): a property of the
findings that every change keeps holds of the result.
-/

import Mathlib.Data.List.Forall2
import Mathlib.Data.Option.Basic
import Mathlib.Logic.Relation
import Reflectory.Proofs.Property.Roles

namespace Reflectory

open Spelling

variable {policy : PropertyPolicy} {accessors : List Accessor}

/-! ### Places of accessors -/

namespace Accessors

variable {α β : Type} {R : α → β → Prop} {as : Accessors α} {bs : Accessors β}

theorem map_map {γ : Type} (g : β → γ) (f : α → β) (as : Accessors α) :
    (as.map f).map g = as.map (g ∘ f) := by
  simp [map]

theorem map_congr {f g : α → β} (same : ∀ a ∈ as.toList, f a = g a) : as.map f = as.map g := by
  simp only [toList, List.mem_filterMap, id_eq, List.mem_cons, List.not_mem_nil, or_false,
    exists_eq_right] at same
  simp only [map, mk.injEq]
  refine ⟨?_, ?_, ?_, ?_, ?_, ?_⟩ <;> exact Option.map_congr fun a there => same a (by simp [there])

/-- Every accessor that is present has a counterpart in its place. -/
structure Within (R : α → β → Prop) (as : Accessors α) (bs : Accessors β) : Prop where
  getter : ∀ a ∈ as.getter, ∃ b ∈ bs.getter, R a b
  setter : ∀ a ∈ as.setter, ∃ b ∈ bs.setter, R a b
  counter : ∀ a ∈ as.counter, ∃ b ∈ bs.counter, R a b
  adder : ∀ a ∈ as.adder, ∃ b ∈ bs.adder, R a b
  inserter : ∀ a ∈ as.inserter, ∃ b ∈ bs.inserter, R a b
  remover : ∀ a ∈ as.remover, ∃ b ∈ bs.remover, R a b

theorem sublistForall₂_filterMap_cons {a? : Option α} {b? : Option β} {as : List (Option α)}
    {bs : List (Option β)} (first : ∀ a ∈ a?, ∃ b ∈ b?, R a b)
    (rest : List.SublistForall₂ R (as.filterMap id) (bs.filterMap id)) :
    List.SublistForall₂ R ((a? :: as).filterMap id) ((b? :: bs).filterMap id) := by
  cases a? with
  | none =>
    cases b? with
    | none => exact rest
    | some b => exact .cons_right rest
  | some a =>
    obtain ⟨b, rfl, related⟩ := first a rfl
    exact .cons related rest

/-- The counterparts stand in the order of the accessors. -/
theorem Within.sublistForall₂ (within : as.Within R bs) :
    List.SublistForall₂ R as.toList bs.toList :=
  sublistForall₂_filterMap_cons within.getter <|
    sublistForall₂_filterMap_cons within.setter <|
    sublistForall₂_filterMap_cons within.counter <|
    sublistForall₂_filterMap_cons within.adder <|
    sublistForall₂_filterMap_cons within.inserter <|
    sublistForall₂_filterMap_cons within.remover .nil

theorem exists_of_sublistForall₂ {as : List α} {bs : List β} (h : List.SublistForall₂ R as bs)
    {a : α} (mem : a ∈ as) : ∃ b ∈ bs, R a b := by
  induction h with
  | nil => cases mem
  | cons related _ ih =>
    rcases List.mem_cons.mp mem with rfl | mem
    · exact ⟨_, List.mem_cons_self, related⟩
    · obtain ⟨b, there, related⟩ := ih mem
      exact ⟨b, List.mem_cons_of_mem _ there, related⟩
  | cons_right _ ih =>
    obtain ⟨b, there, related⟩ := ih mem
    exact ⟨b, List.mem_cons_of_mem _ there, related⟩

end Accessors

/-! ### Free accessors -/

theorem Findings.mem_free_iff {s : Findings} {base : String} {role : Role} {a : Accessor} :
    a ∈ s.free accessors base role ↔
      a ∈ accessors ∧ a.base = base ∧ a.role = role ∧ s.uses a.index = false := by
  simp [Findings.free, and_assoc]

/-! ### One change -/

/-- The ways in which the passes make a property of accessors that are free. -/
inductive Fusion.Made (policy : PropertyPolicy) (accessors : List Accessor) (s : Findings) :
    Fusion → Prop
  | array {base plural : String} {getter counter : Accessor}
      {setter? adder? inserter? remover? : Option Accessor}
      (getter_free : getter ∈ s.free accessors base .keyedGetter)
      (getter_key : getter.method.takesIndexAt policy 0)
      (counter_free : counter ∈ s.free accessors plural .counter)
      (plural_of : isPluralOf plural base)
      (setter_fits : ∀ a ∈ setter?, a ∈ s.free accessors base .keyedSetter ∧
        a.method.takesIndexAt policy 0 ∧ a.method.paramValue 1 = getter.method.returnValue)
      (adder_fits : ∀ a ∈ adder?, a ∈ s.free accessors base .adder ∧
        a.method.paramValue 0 = getter.method.returnValue)
      (inserter_fits : ∀ a ∈ inserter?, a ∈ s.free accessors base .inserter ∧
        a.method.paramValue 1 = getter.method.returnValue)
      (remover_free : ∀ a ∈ remover?, a ∈ s.free accessors base .remover) :
      Made policy accessors s <|
        .of getter.index (propertyName counter.base) .array getter.method.returnType
          (some (getter.method.paramValue 0))
          { getter := some getter
            counter := some counter
            setter := setter?
            adder := adder?
            inserter := inserter?
            remover := remover? }
  | indexed {base : String} {getter : Accessor} {setter? : Option Accessor}
      (getter_free : getter ∈ s.free accessors base .keyedGetter)
      (setter_fits : ∀ a ∈ setter?, a ∈ s.free accessors base .keyedSetter ∧
        a.method.paramValue 0 = getter.method.paramValue 0 ∧
        a.method.paramValue 1 = getter.method.returnValue) :
      Made policy accessors s <|
        .of getter.index (propertyName base) .indexed getter.method.returnType
          (some (getter.method.paramValue 0)) { getter := some getter, setter := setter? }
  | simple {base : String} {getter : Accessor} {setter? : Option Accessor}
      (getter_free : getter ∈ s.free accessors base .getter)
      (setter_fits : ∀ a ∈ setter?, a ∈ s.free accessors base .setter ∧
        a.method.paramValue 0 = getter.method.returnValue) :
      Made policy accessors s <|
        .of getter.index (propertyName base) .simple getter.method.returnType none
          { getter := some getter, setter := setter? }
  | writeOnly {base type : String} {setter : Accessor}
      (setter_free : setter ∈ s.free accessors base .setter) :
      Made policy accessors s <|
        .of setter.index (propertyName base) .simple type none { setter := some setter }

/-- The roles of the accessors of each shape of property. -/
def PropertyShape.roles : PropertyShape → Accessors Role
  | .field => {}
  | .simple => { getter := some .getter, setter := some .setter }
  | .array =>
    { getter := some .keyedGetter
      setter := some .keyedSetter
      counter := some .counter
      adder := some .adder
      inserter := some .inserter
      remover := some .remover }
  | .indexed => { getter := some .keyedGetter, setter := some .keyedSetter }

/-- A free accessor with a role under a base name, which counters need not share. -/
def Findings.Offers (s : Findings) (accessors : List Accessor) (base : String) (a : Accessor)
    (role : Role) : Prop :=
  ∃ named, a ∈ s.free accessors named role ∧ (role ≠ .counter → named = base)

namespace Fusion.Made

variable {f : Fusion} {s : Findings}

/-- In each place stands a free accessor with the role of that place. -/
theorem within_roles (made : f.Made policy accessors s) :
    ∃ base, f.members.Within (s.Offers accessors base) f.property.shape.roles := by
  cases made with
  | @array base plural _ _ _ _ _ _ getter_free _ counter_free _ setter_fits adder_fits
      inserter_fits remover_free =>
    refine ⟨base, ?_, ?_, ?_, ?_, ?_, ?_⟩
    · rintro _ ⟨⟩
      exact ⟨.keyedGetter, rfl, base, getter_free, fun _ => rfl⟩
    · exact fun a chosen => ⟨.keyedSetter, rfl, base, (setter_fits a chosen).1, fun _ => rfl⟩
    · rintro _ ⟨⟩
      exact ⟨.counter, rfl, plural, counter_free, fun other => absurd rfl other⟩
    · exact fun a chosen => ⟨.adder, rfl, base, (adder_fits a chosen).1, fun _ => rfl⟩
    · exact fun a chosen => ⟨.inserter, rfl, base, (inserter_fits a chosen).1, fun _ => rfl⟩
    · exact fun a chosen => ⟨.remover, rfl, base, remover_free a chosen, fun _ => rfl⟩
  | @indexed base _ _ getter_free setter_fits =>
    refine ⟨base, ?_, ?_, ?_, ?_, ?_, ?_⟩
    · rintro _ ⟨⟩
      exact ⟨.keyedGetter, rfl, base, getter_free, fun _ => rfl⟩
    · exact fun a chosen => ⟨.keyedSetter, rfl, base, (setter_fits a chosen).1, fun _ => rfl⟩
    all_goals rintro _ ⟨⟩
  | @simple base _ _ getter_free setter_fits =>
    refine ⟨base, ?_, ?_, ?_, ?_, ?_, ?_⟩
    · rintro _ ⟨⟩
      exact ⟨.getter, rfl, base, getter_free, fun _ => rfl⟩
    · exact fun a chosen => ⟨.setter, rfl, base, (setter_fits a chosen).1, fun _ => rfl⟩
    all_goals rintro _ ⟨⟩
  | @writeOnly base _ _ setter_free =>
    refine ⟨base, ?_, ?_, ?_, ?_, ?_, ?_⟩
    · rintro _ ⟨⟩
    · rintro _ ⟨⟩
      exact ⟨.setter, rfl, base, setter_free, fun _ => rfl⟩
    all_goals rintro _ ⟨⟩

theorem accessors_eq (made : f.Made policy accessors s) :
    f.property.accessors = f.members.map fun a => a.method.signature := by
  cases made <;> rfl

theorem mem_accessors (made : f.Made policy accessors s) {a : Accessor}
    (mem : a ∈ f.members.toList) : a ∈ accessors ∧ s.uses a.index = false := by
  obtain ⟨base, within⟩ := made.within_roles
  obtain ⟨role, -, named, free, -⟩ := Accessors.exists_of_sublistForall₂ within.sublistForall₂ mem
  obtain ⟨mem, -, -, unused⟩ := Findings.mem_free_iff.mp free
  exact ⟨mem, unused⟩

/-- The methods that come to serve a property have served none before. -/
theorem unused_of_mem_indices (made : f.Made policy accessors s) {i : Nat} (mem : i ∈ f.indices) :
    s.uses i = false := by
  obtain ⟨a, member, rfl⟩ := List.mem_map.mp mem
  exact (made.mem_accessors member).2

end Fusion.Made

/-- One change of the findings: a property under a name that no other has, or a
rejected pair. -/
inductive Findings.Next (policy : PropertyPolicy) (accessors : List Accessor) :
    Findings → Findings → Prop
  | fuse {s : Findings} {f : Fusion} (made : f.Made policy accessors s)
      (fresh : s.names f.property.name = false) :
      Next policy accessors s { s with found := s.found ++ [f] }
  | reject {s : Findings} (r : Rejection) :
      Next policy accessors s { s with rejected := s.rejected ++ [r] }

/-- Some changes, one after the other. -/
abbrev Findings.Reaches (policy : PropertyPolicy) (accessors : List Accessor) :
    Findings → Findings → Prop :=
  Relation.ReflTransGen (Findings.Next policy accessors)

namespace Findings

theorem reaches_add {s : Findings} {f : Fusion} (made : f.Made policy accessors s) :
    Reaches policy accessors s (s.add f) := by
  unfold add
  split
  · exact .refl
  · rename_i fresh
    exact .single (.fuse made (Bool.eq_false_iff.mpr fresh))

/-- A property was made when it was found. -/
theorem made_of_mem_found {s s' : Findings} (run : Reaches policy accessors s s') {f : Fusion}
    (found : f ∈ s'.found) : f ∈ s.found ∨ ∃ t, f.Made policy accessors t := by
  induction run with
  | refl => exact .inl found
  | tail _ next ih =>
    cases next with
    | fuse made _ =>
      rcases List.mem_append.mp found with found | found
      · exact ih found
      · exact .inr ⟨_, List.mem_singleton.mp found ▸ made⟩
    | reject _ => exact ih found

/-! ### The passes -/

/-- A choice from the free accessors is free and was accepted. -/
theorem free_of_find? {free : List Accessor} {accept : Accessor → Bool} {a : Accessor}
    (chosen : free.find? accept = some a) : a ∈ free ∧ accept a :=
  ⟨List.mem_of_find?_eq_some chosen, List.find?_some chosen⟩

theorem reaches_addArray (s : Findings) (base : String) :
    Reaches policy accessors s (s.addArray policy accessors base) := by
  unfold addArray
  dsimp only
  split
  · exact .refl
  · rename_i getter getter_found
    obtain ⟨getter_free, getter_key⟩ := free_of_find? getter_found
    split
    · exact .refl
    · rename_i counter counter_found
      obtain ⟨plural, -, counts⟩ := List.exists_of_findSome?_eq_some counter_found
      split_ifs at counts with plural_of
      refine reaches_add (.array getter_free getter_key (List.mem_of_head? counts) plural_of ?_ ?_
        ?_ ?_)
      · intro a chosen
        obtain ⟨free, fits⟩ := free_of_find? chosen
        obtain ⟨key, value⟩ := (Bool.and_eq_true _ _).mp fits
        exact ⟨free, key, eq_of_beq value⟩
      · intro a chosen
        obtain ⟨free, value⟩ := free_of_find? chosen
        exact ⟨free, eq_of_beq value⟩
      · intro a chosen
        obtain ⟨free, value⟩ := free_of_find? chosen
        exact ⟨free, eq_of_beq value⟩
      · exact fun a chosen => List.mem_of_head? chosen

theorem reaches_addIndexed (s : Findings) (base : String) :
    Reaches policy accessors s (s.addIndexed accessors base) := by
  unfold addIndexed
  dsimp only
  split
  · exact .refl
  · rename_i getter getter_found
    refine reaches_add (.indexed (List.mem_of_head? getter_found) ?_)
    intro a chosen
    obtain ⟨free, fits⟩ := free_of_find? chosen
    obtain ⟨key, value⟩ := (Bool.and_eq_true _ _).mp fits
    exact ⟨free, eq_of_beq key, eq_of_beq value⟩

theorem reaches_addSimple (s : Findings) (base : String) :
    Reaches policy accessors s (s.addSimple accessors base) := by
  unfold addSimple
  dsimp only
  split
  · exact .refl
  · rename_i setter setters _ free
    have setter_free : setter ∈ s.free accessors base .setter := free ▸ List.mem_cons_self
    exact reaches_add (.writeOnly setter_free)
  · rename_i getter getter_found
    have getter_free : getter ∈ s.free accessors base .getter := by
      rcases (Option.orElse_eq_some _ _ _).mp getter_found with found | ⟨-, found⟩
      · exact (free_of_find? found).1
      · exact List.mem_of_head? found
    split
    · rename_i setter setter_found
      refine reaches_add (.simple getter_free ?_)
      rintro a ⟨⟩
      obtain ⟨free, value⟩ := free_of_find? setter_found
      exact ⟨free, eq_of_beq value⟩
    · refine reaches_add (.simple getter_free ?_)
      intro a chosen
      cases chosen
    · split
      · exact .refl
      · exact .single (.reject _)

/-- A pass changes the findings only in the ways that its step does. -/
theorem reaches_foldl {add : Findings → String → Findings}
    (step : ∀ s base, Reaches policy accessors s (add s base)) (bases : List String)
    (s : Findings) : Reaches policy accessors s (bases.foldl add s) := by
  induction bases generalizing s with
  | nil => exact .refl
  | cons base bases ih => exact (step s base).trans (ih (add s base))

theorem reaches_ofAccessors (policy : PropertyPolicy) (accessors : List Accessor) :
    Reaches policy accessors {} (ofAccessors policy accessors) := by
  unfold ofAccessors
  exact ((reaches_foldl reaches_addArray _ _).trans (reaches_foldl reaches_addIndexed _ _)).trans
    (reaches_foldl reaches_addSimple _ _)

end Findings

/-! ### The result -/

theorem Findings.made_of_mem_ofAccessors {f : Fusion}
    (found : f ∈ (ofAccessors policy accessors).found) : ∃ s, f.Made policy accessors s :=
  (made_of_mem_found (reaches_ofAccessors policy accessors) found).resolve_left List.not_mem_nil

theorem PropertyInference.mem_properties_iff {methods : List Method} {p : Property} :
    p ∈ (ofMethods policy methods).properties ↔
      ∃ f ∈ (Findings.ofAccessors policy (Accessor.ofMethods policy methods)).found,
        f.property = p := by
  simp [ofMethods]

end Reflectory
