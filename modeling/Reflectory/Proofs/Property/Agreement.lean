/-
The accessors of a property agree.

`Accessors.Agree` is what makes it safe to use a getter, a setter and the other
accessors as one property: their names have one base name, and the types of keys,
positions and values are the same. Every property that is inferred has accessors
that agree (`accessors_agree`), under every naming convention.
-/

import Reflectory.Proofs.Property.Passes

namespace Reflectory

open Spelling

/-! ### Agreement -/

/-- The accessors of an array agree on positions and on the type of the elements. -/
structure Accessors.AgreeOnElements (policy : PropertyPolicy) (base element : String)
    (as : Accessors Method) : Prop where
  getter : ∀ g ∈ as.getter, ∃ key, g.params = [key] ∧ policy.isIndexType key.type
  setter : ∀ s ∈ as.setter, ∃ key value, s.params = [key, value] ∧ policy.isIndexType key.type
  counter : ∃ c ∈ as.counter, ∃ plural, NamedAfter policy.countPrefixes plural c.name ∧
    (plural = base ∨ IsPluralForm plural base)
  adder : ∀ a ∈ as.adder, NamedAfter policy.adderPrefixes base a.name ∧
    ∃ value, a.params = [value] ∧ valueType value.type = valueType element
  inserter : ∀ i ∈ as.inserter, NamedAfter policy.inserterPrefixes base i.name ∧
    ∃ position value, i.params = [position, value] ∧ policy.isIndexType position.type ∧
      valueType value.type = valueType element
  remover : ∀ r ∈ as.remover, NamedAfter policy.removerPrefixes base r.name ∧
    ∃ position rest, r.params = position :: rest ∧ policy.isIndexType position.type

/-- The accessors of a property of this shape agree on the base name, on the type
of the value and, where there are any, on the types of keys and elements. -/
structure Accessors.Agree (policy : PropertyPolicy) (shape : PropertyShape) (base : String)
    (as : Accessors Method) : Prop where
  getter_named : ∀ g ∈ as.getter, NamedAfter policy.getterPrefixes base g.name
  setter_named : ∀ s ∈ as.setter, NamedAfter policy.setterPrefixes base s.name
  value : ∀ g ∈ as.getter, ∀ s ∈ as.setter,
    ∃ v ∈ s.params.getLast?, valueType v.type = valueType g.returnType
  key : shape = .indexed → ∀ g ∈ as.getter, ∀ s ∈ as.setter,
    ∃ k ∈ g.params.head?, ∃ k' ∈ s.params.head?, valueType k.type = valueType k'.type
  elements : shape = .array → ∃ g ∈ as.getter, as.AgreeOnElements policy base g.returnType

/-! ### Parameters by role -/

namespace Method

variable {policy : PropertyPolicy} {role : Role} {base : String} {m : Method} {p q : Parameter}
  {rest : List Parameter}

theorem paramValue_zero (h : m.params = p :: rest) : m.paramValue 0 = valueType p.type := by
  simp [paramValue, h]

theorem paramValue_one (h : m.params = p :: q :: rest) : m.paramValue 1 = valueType q.type := by
  simp [paramValue, h]

theorem takesIndexAt_zero (h : m.params = p :: rest) :
    m.takesIndexAt policy 0 = policy.isIndexType p.type := by
  simp [takesIndexAt, h]

theorem Plays.params_eq_one (plays : m.Plays policy role base)
    (one : role.takes = Role.adder.takes) : ∃ p, m.params = [p] :=
  List.length_eq_one_iff.mp (of_decide_eq_true (one ▸ plays.arity :))

theorem Plays.params_eq_two (plays : m.Plays policy role base)
    (two : role.takes = Role.inserter.takes) : ∃ p q, m.params = [p, q] :=
  List.length_eq_two.mp (of_decide_eq_true (two ▸ plays.arity :))

end Method

/-! ### Properties as they are made -/

section

variable {policy : PropertyPolicy} {methods : List Method} {s : Findings} {base value : String}

namespace Accessor

variable {a : Accessor} {a? : Option Accessor}

theorem plays_of_mem_free {role : Role} (free : a ∈ s.free (ofMethods policy methods) base role) :
    a.method.Plays policy role base := by
  obtain ⟨mem, rfl, rfl, -⟩ := Findings.mem_free_iff.mp free
  exact (fits_of_mem_ofMethods mem).plays

/-- A free accessor that is chosen for a role has a name for it. -/
theorem named_of_chosen {role : Role}
    (free : ∀ a ∈ a?, a ∈ s.free (ofMethods policy methods) base role) :
    ∀ m ∈ a?.map method, NamedAfter (policy.prefixes role) base m.name := by
  refine Option.forall_mem_map.mpr fun a chosen => ?_
  exact (plays_of_mem_free (free a chosen)).named

theorem value_of_setter (fits : ∀ a ∈ a?, a ∈ s.free (ofMethods policy methods) base .setter ∧
      a.method.paramValue 0 = value) :
    ∀ m ∈ a?.map method, ∃ v ∈ m.params.getLast?, valueType v.type = value := by
  refine Option.forall_mem_map.mpr fun a chosen => ?_
  obtain ⟨free, agrees⟩ := fits a chosen
  obtain ⟨v, params⟩ := (plays_of_mem_free free).params_eq_one rfl
  exact ⟨v, by rw [params]; rfl, (Method.paramValue_zero params).symm.trans agrees⟩

theorem value_of_keyedSetter
    (fits : ∀ a ∈ a?, a ∈ s.free (ofMethods policy methods) base .keyedSetter ∧
      a.method.paramValue 1 = value) :
    ∀ m ∈ a?.map method, ∃ v ∈ m.params.getLast?, valueType v.type = value := by
  refine Option.forall_mem_map.mpr fun a chosen => ?_
  obtain ⟨free, agrees⟩ := fits a chosen
  obtain ⟨key, v, params⟩ := (plays_of_mem_free free).params_eq_two rfl
  exact ⟨v, by rw [params]; rfl, (Method.paramValue_one params).symm.trans agrees⟩

end Accessor

namespace Fusion.Made

/-- What the pass over arrays checks of each accessor is what makes them agree on
positions and elements. -/
theorem agreeOnElements {plural : String} {getter counter : Accessor}
    {setter? adder? inserter? remover? : Option Accessor}
    (getter_free : getter ∈ s.free (Accessor.ofMethods policy methods) base .keyedGetter)
    (getter_key : getter.method.takesIndexAt policy 0)
    (counter_free : counter ∈ s.free (Accessor.ofMethods policy methods) plural .counter)
    (plural_of : isPluralOf plural base)
    (setter_fits : ∀ a ∈ setter?, a ∈ s.free (Accessor.ofMethods policy methods) base .keyedSetter ∧
      a.method.takesIndexAt policy 0)
    (adder_fits : ∀ a ∈ adder?, a ∈ s.free (Accessor.ofMethods policy methods) base .adder ∧
      a.method.paramValue 0 = getter.method.returnValue)
    (inserter_fits : ∀ a ∈ inserter?,
      a ∈ s.free (Accessor.ofMethods policy methods) base .inserter ∧
        a.method.paramValue 1 = getter.method.returnValue)
    (remover_free : ∀ a ∈ remover?, a ∈ s.free (Accessor.ofMethods policy methods) base .remover) :
    Accessors.AgreeOnElements policy base getter.method.returnType
      { getter := some getter.method
        counter := some counter.method
        setter := setter?.map Accessor.method
        adder := adder?.map Accessor.method
        inserter := inserter?.map Accessor.method
        remover := remover?.map Accessor.method } where
  getter := by
    rintro _ ⟨⟩
    obtain ⟨key, params⟩ := (Accessor.plays_of_mem_free getter_free).params_eq_one rfl
    exact ⟨key, params, Method.takesIndexAt_zero params ▸ getter_key⟩
  setter := by
    refine Option.forall_mem_map.mpr fun a chosen => ?_
    obtain ⟨free, key⟩ := setter_fits a chosen
    obtain ⟨p, q, params⟩ := (Accessor.plays_of_mem_free free).params_eq_two rfl
    exact ⟨p, q, params, Method.takesIndexAt_zero params ▸ key⟩
  counter := by
    have plays := Accessor.plays_of_mem_free counter_free
    exact ⟨counter.method, rfl, plural, plays.named, pluralForm_of_isPluralOf plural_of⟩
  adder := by
    refine Option.forall_mem_map.mpr fun a chosen => ?_
    obtain ⟨free, value⟩ := adder_fits a chosen
    have plays := Accessor.plays_of_mem_free free
    obtain ⟨p, params⟩ := plays.params_eq_one rfl
    exact ⟨plays.named, p, params, (Method.paramValue_zero params).symm.trans value⟩
  inserter := by
    refine Option.forall_mem_map.mpr fun a chosen => ?_
    obtain ⟨free, value⟩ := inserter_fits a chosen
    have plays := Accessor.plays_of_mem_free free
    obtain ⟨p, q, params⟩ := plays.params_eq_two rfl
    exact ⟨plays.named, p, q, params, Method.takesIndexAt_zero params ▸ plays.position rfl,
      (Method.paramValue_one params).symm.trans value⟩
  remover := by
    refine Option.forall_mem_map.mpr fun a chosen => ?_
    have plays := Accessor.plays_of_mem_free (remover_free a chosen)
    obtain ⟨p, rest, params⟩ := List.exists_cons_of_length_pos (of_decide_eq_true plays.arity)
    exact ⟨plays.named, p, rest, params, Method.takesIndexAt_zero params ▸ plays.position rfl⟩

theorem agree {f : Fusion} (made : f.Made policy (Accessor.ofMethods policy methods) s) :
    ∃ base, (f.members.map Accessor.method).Agree policy f.property.shape base := by
  cases made with
  | @array base _ getter _ _ _ _ _ getter_free getter_key counter_free plural_of setter_fits
      adder_fits inserter_fits remover_free =>
    refine ⟨base, ?_, ?_, ?_, nofun, fun _ => ⟨getter.method, rfl, ?_⟩⟩
    · rintro _ ⟨⟩
      exact (Accessor.plays_of_mem_free getter_free).named
    · exact Accessor.named_of_chosen fun a chosen => (setter_fits a chosen).1
    · rintro _ ⟨⟩
      exact Accessor.value_of_keyedSetter fun a chosen => (setter_fits a chosen).imp_right And.right
    · exact agreeOnElements getter_free getter_key counter_free plural_of
        (fun a chosen => (setter_fits a chosen).imp_right And.left) adder_fits inserter_fits
        remover_free
  | @indexed base getter _ getter_free setter_fits =>
    have getter_plays := Accessor.plays_of_mem_free getter_free
    refine ⟨base, ?_, ?_, ?_, ?_, nofun⟩
    · rintro _ ⟨⟩
      exact getter_plays.named
    · exact Accessor.named_of_chosen fun a chosen => (setter_fits a chosen).1
    · rintro _ ⟨⟩
      exact Accessor.value_of_keyedSetter fun a chosen => (setter_fits a chosen).imp_right And.right
    · rintro - _ ⟨⟩
      refine Option.forall_mem_map.mpr fun a chosen => ?_
      obtain ⟨free, key, -⟩ := setter_fits a chosen
      obtain ⟨k, params⟩ := getter_plays.params_eq_one rfl
      obtain ⟨k', q, params'⟩ := (Accessor.plays_of_mem_free free).params_eq_two rfl
      refine ⟨k, by rw [params]; rfl, k', by rw [params']; rfl, ?_⟩
      rw [← Method.paramValue_zero params, ← Method.paramValue_zero params', key]
  | @simple base getter _ getter_free setter_fits =>
    refine ⟨base, ?_, ?_, ?_, nofun, nofun⟩
    · rintro _ ⟨⟩
      exact (Accessor.plays_of_mem_free getter_free).named
    · exact Accessor.named_of_chosen fun a chosen => (setter_fits a chosen).1
    · rintro _ ⟨⟩
      exact Accessor.value_of_setter setter_fits
  | @writeOnly base _ setter setter_free =>
    refine ⟨base, ?_, ?_, ?_, nofun, nofun⟩
    · rintro _ ⟨⟩
    · rintro _ ⟨⟩
      exact (Accessor.plays_of_mem_free setter_free).named
    · rintro _ ⟨⟩

end Fusion.Made

end

/-! ### Inferred properties -/

/-- **Only accessors that agree become a property.** The signatures of every
property are those of methods of the list that are public, not static and no
constructors, and these methods agree. -/
theorem accessors_agree (policy : PropertyPolicy) (methods : List Method) {p : Property}
    (mem : p ∈ (PropertyInference.ofMethods policy methods).properties) :
    ∃ (as : Accessors Method) (base : String), p.accessors = as.map Method.signature ∧
      (∀ m ∈ as.toList, m ∈ methods ∧ m.visibility = .isPublic ∧ m.isStatic = false ∧
        m.isConstructor = false) ∧
      as.Agree policy p.shape base := by
  obtain ⟨f, found, rfl⟩ := PropertyInference.mem_properties_iff.mp mem
  obtain ⟨s, made⟩ := Findings.made_of_mem_ofAccessors found
  obtain ⟨base, agree⟩ := made.agree
  refine ⟨f.members.map Accessor.method, base, ?_, ?_, agree⟩
  · rw [made.accessors_eq, Accessors.map_map]
    rfl
  · intro m there
    rw [Accessors.toList_map] at there
    obtain ⟨a, served, rfl⟩ := List.mem_map.mp there
    have fits := Accessor.fits_of_mem_ofMethods (made.mem_accessors served).1
    have candidate := fits.candidate
    simp only [Method.isCandidate, Bool.and_eq_true, decide_eq_true_eq,
      Bool.not_eq_true'] at candidate
    obtain ⟨⟨visible, notStatic⟩, notConstructor⟩ := candidate
    exact ⟨List.mem_of_getElem? fits.there, visible, notStatic, notConstructor⟩

/-- The methods of a node that has children. -/
def nodeMethods : List Method :=
  [{ Method.ofSpelled "getNumChildren" "unsigned int" [] with isConst := true },
    .ofSpelled "getChild" "Node *" [⟨"unsigned int", "i", none⟩],
    .ofSpelled "setChild" "bool" [⟨"unsigned int", "i", none⟩, ⟨"Node *", "node", none⟩],
    .ofSpelled "addChild" "bool" [⟨"Node *", "node", none⟩],
    .ofSpelled "addChild" "bool" [⟨"const std::string &", "name", none⟩],
    .ofSpelled "removeChild" "void" [⟨"unsigned int", "i", none⟩]]

/-- The property of a node whose elements are its children. -/
def nodeChildren : Property where
  name := "children"
  shape := .array
  type := "Node *"
  indexType? := some "unsigned int"
  accessors :=
    { getter := some ⟨"getChild", ["unsigned int"], false⟩
      setter := some ⟨"setChild", ["unsigned int", "Node *"], false⟩
      counter := some ⟨"getNumChildren", [], true⟩
      adder := some ⟨"addChild", ["Node *"], false⟩
      remover := some ⟨"removeChild", ["unsigned int"], false⟩ }

/-- The accessors of the children of a node agree. -/
theorem accessors_agree_children :
    nodeChildren ∈ (PropertyInference.ofMethods {} nodeMethods).properties ∧
      ∃ (as : Accessors Method) (base : String), nodeChildren.accessors = as.map Method.signature ∧
        (∀ m ∈ as.toList, m ∈ nodeMethods ∧ m.visibility = .isPublic ∧ m.isStatic = false ∧
          m.isConstructor = false) ∧
        as.Agree {} .array base := by
  have inferred : nodeChildren ∈ (PropertyInference.ofMethods {} nodeMethods).properties :=
    PropertyInference.mem_properties_iff.mpr (by decide +kernel)
  exact ⟨inferred, accessors_agree {} nodeMethods inferred⟩

end Reflectory
