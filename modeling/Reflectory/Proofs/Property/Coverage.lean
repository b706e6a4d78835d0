/-
No accessor is passed over in silence.

A property that was found stays, and so does a rejected pair, so a method that is left
over was free all the time. Every base name has its turn in every pass, and whoever is
free then is reason enough: a keyed getter gives the name a property in the second pass,
unless one has it already, and in the third pass a getter or a setter does so or is
rejected together with its counterpart.

* `Findings.grows`, `Findings.exists_turn`: what a run keeps, and that no name is left out.
* `leftovers_explained`: for every accessor that is left over, a property or a message has
  its name, and no two properties share one.
-/

import Mathlib.Data.List.Nodup
import Reflectory.Proofs.Property.Passes

namespace Reflectory

open Spelling

variable {policy : PropertyPolicy} {accessors : List Accessor}

namespace Findings

variable {s t : Findings} {base name : String}

/-! ### What a run keeps -/

/-- Changes only add, behind what is there. -/
theorem grows (run : Reaches policy accessors s t) :
    s.found <+: t.found ∧ s.rejected <+: t.rejected := by
  induction run with
  | refl => exact ⟨List.prefix_rfl, List.prefix_rfl⟩
  | tail _ next ih =>
    obtain ⟨found, rejected⟩ := ih
    cases next with
    | fuse _ _ => exact ⟨found.trans (List.prefix_append _ _), rejected⟩
    | reject _ => exact ⟨found, rejected.trans (List.prefix_append _ _)⟩

theorem names_of_reaches (run : Reaches policy accessors s t) (named : s.names name) :
    t.names name := by
  obtain ⟨f, found, same⟩ := List.any_eq_true.mp named
  exact List.any_eq_true.mpr ⟨f, (grows run).1.subset found, same⟩

/-- What serves no property in the end has been free before. -/
theorem free_of_reaches (run : Reaches policy accessors s t) {a : Accessor} {role : Role}
    (free : a ∈ t.free accessors base role) : a ∈ s.free accessors base role := by
  obtain ⟨mem, named, plays, unused⟩ := mem_free_iff.mp free
  refine mem_free_iff.mpr ⟨mem, named, plays, Bool.eq_false_iff.mpr fun used => ?_⟩
  obtain ⟨f, found, serves⟩ := List.any_eq_true.mp used
  exact Bool.eq_false_iff.mp unused
    (List.any_eq_true.mpr ⟨f, (grows run).1.subset found, serves⟩)

/-- A name is given to one property only. -/
theorem nodup_names (run : Reaches policy accessors s t)
    (nodup : (s.found.map fun f => f.property.name).Nodup) :
    (t.found.map fun f => f.property.name).Nodup := by
  induction run with
  | refl => exact nodup
  | tail _ next ih =>
    cases next with
    | reject _ => exact ih
    | fuse _ fresh =>
      rw [List.map_append, List.map_singleton]
      refine ih.append (List.nodup_singleton _) ?_
      simpa [names] using fresh

/-! ### The turn of a name -/

/-- Every name has its turn in a pass, and what comes after it are more changes. -/
theorem exists_turn {add : Findings → String → Findings}
    (step : ∀ s base, Reaches policy accessors s (add s base)) {bases : List String}
    (mem : base ∈ bases) (s : Findings) :
    ∃ t, Reaches policy accessors (add t base) (bases.foldl add s) := by
  obtain ⟨before, behind, rfl⟩ := List.append_of_mem mem
  rw [List.foldl_append, List.foldl_cons]
  exact ⟨before.foldl add s, reaches_foldl step behind _⟩

theorem names_add (s : Findings) (f : Fusion) : (s.add f).names f.property.name := by
  unfold add
  split_ifs with taken
  · exact taken
  · simp [names]

/-- A keyed getter that is free gives its base name a property. -/
theorem names_addIndexed {a : Accessor} (free : a ∈ s.free accessors base .keyedGetter) :
    (s.addIndexed accessors base).names (propertyName base) := by
  obtain ⟨first, others, cons⟩ := List.exists_cons_of_ne_nil (List.ne_nil_of_mem free)
  simp only [addIndexed, cons, List.head?_cons]
  exact names_add s _

/-- Some property has the name, or it was rejected. -/
def Explains (s : Findings) (name : String) : Prop :=
  s.names name ∨ ∃ r ∈ s.rejected, r.property = name

theorem explains_of_reaches (run : Reaches policy accessors s t) (explained : s.Explains name) :
    t.Explains name := by
  obtain named | ⟨r, rejected, about⟩ := explained
  · exact .inl (names_of_reaches run named)
  · exact .inr ⟨r, (grows run).2.subset rejected, about⟩

/-- A getter or a setter that is free gives its base name a property, or is rejected. -/
theorem explains_addSimple {a : Accessor} {role : Role} (plain : role = .getter ∨ role = .setter)
    (free : a ∈ s.free accessors base role) :
    (s.addSimple accessors base).Explains (propertyName base) := by
  unfold addSimple
  dsimp only
  split
  · -- Nothing is free, neither getters nor setters.
    rename_i no_getter no_setter
    have no_getter : s.free accessors base .getter = [] :=
      List.head?_eq_none_iff.mp ((Option.orElse_eq_none _ _).mp no_getter).2
    obtain rfl | rfl := plain
    · rw [no_getter] at free
      cases free
    · rw [no_setter] at free
      cases free
  · exact .inl (names_add s _)
  · split
    · exact .inl (names_add s _)
    · exact .inl (names_add s _)
    · split_ifs with taken
      · exact .inl taken
      · exact .inr ⟨_, List.mem_append_right _ List.mem_cons_self, rfl⟩

/-! ### The whole run -/

/-- The base name of an accessor is one of those that the passes go through. -/
theorem base_mem_baseNames {a : Accessor} (mem : a ∈ accessors) :
    a.base ∈ Accessor.baseNames accessors :=
  mem_foldl_insertNew.mpr (.inr (List.mem_map_of_mem mem))

/-- A keyed getter that is left over shares its base name with a property. -/
theorem names_ofAccessors {a : Accessor}
    (free : a ∈ (ofAccessors policy accessors).free accessors base .keyedGetter) :
    (ofAccessors policy accessors).names (propertyName base) := by
  obtain ⟨mem, rfl, -, -⟩ := mem_free_iff.mp free
  obtain ⟨t, run⟩ : ∃ t : Findings, Reaches policy accessors (t.addIndexed accessors a.base)
      (ofAccessors policy accessors) := by
    obtain ⟨t, behind⟩ := exists_turn reaches_addIndexed (base_mem_baseNames mem)
      ((Accessor.baseNames accessors).foldl (addArray policy accessors) {})
    exact ⟨t, behind.trans (reaches_foldl reaches_addSimple _ _)⟩
  have free := free_of_reaches ((reaches_addIndexed t a.base).trans run) free
  exact names_of_reaches run (names_addIndexed free)

/-- A getter or a setter that is left over shares its base name with a property or with a
rejected pair. -/
theorem explains_ofAccessors {a : Accessor} {role : Role}
    (plain : role = .getter ∨ role = .setter)
    (free : a ∈ (ofAccessors policy accessors).free accessors base role) :
    (ofAccessors policy accessors).Explains (propertyName base) := by
  obtain ⟨mem, rfl, -, -⟩ := mem_free_iff.mp free
  obtain ⟨t, run⟩ : ∃ t : Findings, Reaches policy accessors (t.addSimple accessors a.base)
      (ofAccessors policy accessors) :=
    exists_turn reaches_addSimple (base_mem_baseNames mem) _
  have free := free_of_reaches ((reaches_addSimple t a.base).trans run) free
  exact explains_of_reaches run (explains_addSimple plain free)

end Findings

/-! ### The result -/

/-- The properties of a method list have different names. -/
theorem PropertyInference.nodup_names (policy : PropertyPolicy) (methods : List Method) :
    ((ofMethods policy methods).properties.map Property.name).Nodup := by
  have found := Findings.nodup_names
    (Findings.reaches_ofAccessors policy (Accessor.ofMethods policy methods)) List.nodup_nil
  rw [ofMethods, List.map_map]
  exact ((List.mergeSort_perm _ _).map _).nodup_iff.mpr found

theorem PropertyInference.exists_of_names {methods : List Method} {name : String}
    (named : (Findings.ofAccessors policy (Accessor.ofMethods policy methods)).names name) :
    ∃ p ∈ (ofMethods policy methods).properties, p.name = name := by
  obtain ⟨f, found, same⟩ := List.any_eq_true.mp named
  exact ⟨f.property, mem_properties_iff.mpr ⟨f, found, rfl⟩, of_decide_eq_true same⟩

/-- A method that is left over is free in each of its roles. -/
theorem PropertyInference.exists_free {methods : List Method} {m : Method}
    (left : m ∈ (ofMethods policy methods).leftover) (candidate : m.isCandidate) {role : Role}
    {base : String} (plays : (role, base) ∈ m.roles policy) :
    ∃ a, a ∈ (Findings.ofAccessors policy (Accessor.ofMethods policy methods)).free
      (Accessor.ofMethods policy methods) base role := by
  obtain ⟨⟨m, i⟩, kept, rfl⟩ := List.mem_map.mp left
  obtain ⟨there, unused⟩ := List.mem_filter.mp kept
  refine ⟨⟨i, m, role, base⟩, Findings.mem_free_iff.mpr ⟨?_, rfl, rfl, by simpa using unused⟩⟩
  exact List.mem_flatMap.mpr ⟨(m, i), List.mem_filter.mpr ⟨there, candidate⟩,
    List.mem_map_of_mem plays⟩

/-- A message begins with the property that it is about. -/
theorem Rejection.exists_message_eq (r : Rejection) :
    ∃ details, r.message = "property `" ++ r.property ++ "`: " ++ details := by
  have marks : "`: getter `" = "`: " ++ "getter `" := by simp
  unfold message
  rw [marks]
  simp only [String.append_assoc, -String.reduceAppend]
  exact ⟨_, rfl⟩

/-- **No accessor is passed over in silence.** No two properties have the same name. A
public method of the instance that is left over, and is a keyed getter, shares its base
name with a property; one that is a getter or a setter shares it with a property too, or
with a pair that was rejected, and the message says so. -/
theorem leftovers_explained (policy : PropertyPolicy) (methods : List Method) :
    let result := PropertyInference.ofMethods policy methods
    (result.properties.map Property.name).Nodup ∧
      ∀ m ∈ result.leftover, m.visibility = .isPublic → m.isStatic = false →
        m.isConstructor = false → ∀ base,
          ((.keyedGetter, base) ∈ m.roles policy →
            ∃ p ∈ result.properties, p.name = propertyName base) ∧
          ((.getter, base) ∈ m.roles policy ∨ (.setter, base) ∈ m.roles policy →
            (∃ p ∈ result.properties, p.name = propertyName base) ∨
              ∃ r ∈ result.rejected, ∃ details,
                r.message = "property `" ++ propertyName base ++ "`: " ++ details) := by
  intro result
  refine ⟨PropertyInference.nodup_names policy methods, ?_⟩
  intro m left visible not_static no_constructor base
  have candidate : m.isCandidate := by
    simp [Method.isCandidate, visible, not_static, no_constructor]
  constructor
  · intro plays
    obtain ⟨a, free⟩ := PropertyInference.exists_free left candidate plays
    exact PropertyInference.exists_of_names (Findings.names_ofAccessors free)
  · intro plays
    obtain ⟨role, plain, plays⟩ :
        ∃ role, (role = .getter ∨ role = .setter) ∧ (role, base) ∈ m.roles policy := by
      obtain plays | plays := plays
      · exact ⟨.getter, .inl rfl, plays⟩
      · exact ⟨.setter, .inr rfl, plays⟩
    obtain ⟨a, free⟩ := PropertyInference.exists_free left candidate plays
    obtain named | ⟨r, rejected, about⟩ := Findings.explains_ofAccessors plain free
    · exact .inl (PropertyInference.exists_of_names named)
    · exact .inr ⟨r, rejected, about ▸ r.exists_message_eq⟩

/-- The methods of a layer: a getter and a setter that do not agree, and two keyed getters
of one name. -/
def layerMethods : List Method :=
  [{ Method.ofSpelled "getName" "const std::string &" [] with isConst := true },
    .ofSpelled "setName" "void" [⟨"const char *", "name", none⟩],
    .ofSpelled "getValue" "int" [⟨"const std::string &", "key", none⟩],
    .ofSpelled "getValue" "double" [⟨"int", "i", none⟩]]

/-- Of the accessors of a layer that are left over, the second keyed getter is explained by
the property of the first, and the setter by the message about the getter. -/
theorem leftovers_explained_layer :
    let result := PropertyInference.ofMethods {} layerMethods
    result.leftover.map Method.name = ["getName", "setName", "getValue"] ∧
      (∃ p ∈ result.properties, p.name = "value") ∧
        ∃ r ∈ result.rejected, ∃ details, r.message = "property `name`: " ++ details := by
  intro result
  have left : result.leftover = layerMethods.eraseIdx 2 := by decide +kernel
  have unnamed : ∀ p ∈ result.properties, p.name ≠ "name" := by decide +kernel
  have value : propertyName "Value" = "value" := by decide +kernel
  have name : propertyName "Name" = "name" := by decide +kernel
  obtain ⟨-, explained⟩ := leftovers_explained {} layerMethods
  have keyed := (explained (.ofSpelled "getValue" "double" [⟨"int", "i", none⟩])
    (left ▸ .tail _ (.tail _ (.head _))) rfl rfl rfl "Value").1 (by decide +kernel)
  have setter := (explained (.ofSpelled "setName" "void" [⟨"const char *", "name", none⟩])
    (left ▸ .tail _ (.head _)) rfl rfl rfl "Name").2 (.inr (by decide +kernel))
  rw [value] at keyed
  rw [name] at setter
  refine ⟨by rw [left]; decide, keyed, ?_⟩
  obtain ⟨p, inferred, named⟩ | rejected := setter
  · exact absurd named (unnamed p inferred)
  · exact rejected

end Reflectory
