/-
What the statistics count is what the units contain.

The statistics go through the registered types, the units through the order of
the last consolidation; and what the statistics count as wrapped methods, a unit
groups by overloads before it writes them. Neither loses or repeats anything.

* `statistics_count_units`: the numbers of types are those of the types with a
  unit, the numbers of methods and properties those of the entries of the units.
-/

import Reflectory.Generation.Units
import Reflectory.Proofs.Registry.Bases

namespace Reflectory

/-! ### Entries of units -/

namespace Entry

/-- Whether the entry wraps a constructor or another method. -/
def isMethod : Entry → Bool
  | method _ => true
  | _ => false

/-- Whether the entry wraps a constructor. -/
def isConstructor : Entry → Bool
  | method m => m.isConstructor
  | _ => false

/-- Whether the entry reflects a property. -/
def isProperty : Entry → Bool
  | property _ _ => true
  | _ => false

end Entry

/-- The members that a unit reflects. -/
def SourceUnit.members (u : SourceUnit) : List Entry :=
  match u.reflector with
  | .members _ _ entries => entries
  | _ => []

/-- The numbers are those of these types and of the members of their units. -/
structure Statistics.Counts (s : Statistics) (types : List Descriptor) (members : List Entry) :
    Prop where
  typedefs : s.typedefs = types.countP fun d => d.kind matches .typedef _
  custom : s.customTypes = types.countP fun d => d.kind matches .custom _
  objects : s.objectTypes = types.countP fun d => d.kind matches .object _
  abstracts : s.abstractTypes = types.countP fun d => d.kind matches .object true
  values : s.valueTypes =
    types.countP fun d => d.kind matches .plain | .enumeration _ _ | .container _ _ _
  enumerations : s.enumerations = types.countP fun d => d.kind matches .enumeration _ _
  containers : s.containers = types.countP fun d => d.kind matches .container _ _ _
  all_types : s.types = types.length
  all_kinds : s.typedefs + s.customTypes + s.objectTypes + s.valueTypes = s.types
  methods : s.methods = members.countP Entry.isMethod
  constructors : s.constructors = members.countP Entry.isConstructor
  properties : s.properties = members.countP Entry.isProperty
  all_shapes : s.simpleProperties + s.arrayProperties + s.indexedProperties = s.properties

/-! ### Overloads -/

/-- Grouping by keys that are all different puts together again what has one of them. -/
theorem groups_perm {α : Type} (key : α → String) (items : List α) {keys : List String}
    (nodup : keys.Nodup) (covered : ∀ x ∈ items, key x ∈ keys) :
    (keys.flatMap fun k => items.filter fun x => key x == k).Perm items := by
  induction keys generalizing items with
  | nil =>
    obtain rfl := List.eq_nil_iff_forall_not_mem.mpr fun x mem => List.not_mem_nil (covered x mem)
    exact .refl _
  | cons k keys ih =>
    obtain ⟨fresh, nodup⟩ := List.nodup_cons.mp nodup
    have others : ∀ x ∈ items.filter (fun x => !(key x == k)), key x ∈ keys := by
      intro x mem
      obtain ⟨mem, other⟩ := List.mem_filter.mp mem
      exact (List.mem_cons.mp (covered x mem)).resolve_left (by simpa using other)
    -- The groups of the other keys are the same among the items of the other keys.
    have same : ∀ k' ∈ keys, (items.filter fun x => key x == k') =
        (items.filter fun x => !(key x == k)).filter fun x => key x == k' := by
      intro k' mem
      rw [List.filter_filter]
      refine List.filter_congr fun x _ => ?_
      by_cases eq : key x = k'
      · have other : k' ≠ k := fun eq => fresh (eq ▸ mem)
        simp [eq, other]
      · simp [eq]
    rw [List.flatMap_cons, List.flatMap_congr same]
    exact ((ih _ nodup others).append_left _).trans (List.filter_append_perm ..)

/-! ### Entries of a type -/

theorem Entry.eq_base_of_ofBase? {r : Registry} {b : BaseLink} {e : Entry}
    (made : Entry.ofBase? r b = some e) : ∃ type isVirtual, e = .base type isVirtual := by
  unfold ofBase? at made
  split_ifs at made
  split at made <;> first | exact ⟨_, _, (Option.some.inj made).symm⟩ | cases made

namespace Descriptor

theorem eq_declaringFile_of_mem_headerEntries {d : Descriptor} {e : Entry}
    (mem : e ∈ d.headerEntries) : ∃ header, e = .declaringFile header := by
  obtain ⟨header, -, rfl⟩ := List.mem_map.mp mem
  exact ⟨header, rfl⟩

theorem eq_base_of_mem_baseEntries {r : Registry} {d : Descriptor} {e : Entry}
    (mem : e ∈ d.baseEntries r) : ∃ type isVirtual, e = .base type isVirtual := by
  unfold baseEntries at mem
  split at mem
  next =>
    obtain ⟨b, -, made⟩ := List.mem_filterMap.mp mem
    exact Entry.eq_base_of_ofBase? made
  next => cases mem

/-- The groups of overloads are the wrapped methods that are no constructors. -/
theorem groupedMethods_perm (d : Descriptor) :
    d.groupedMethods.Perm (d.wrappedMethods.filter fun m => !m.isConstructor) := by
  refine groups_perm Method.name _ (Spelling.nodup_foldl_insertNew _ List.nodup_nil)
    fun m mem => ?_
  exact Spelling.mem_foldl_insertNew.mpr (.inr (List.mem_map_of_mem mem))

/-- A unit writes every wrapped method once. -/
theorem written_perm (d : Descriptor) :
    (d.constructors ++ d.groupedMethods).Perm d.wrappedMethods :=
  (d.groupedMethods_perm.append_left _).trans (List.filter_append_perm ..)

theorem countP_memberEntries (r : Registry) (d : Descriptor) (p : Entry → Bool)
    (no_file : ∀ header, p (.declaringFile header) = false)
    (no_base : ∀ type isVirtual, p (.base type isVirtual) = false) :
    (d.memberEntries r).countP p =
      d.wrappedMethods.countP (fun m => p (.method m)) +
        d.wrappedProperties.countP fun q => p (d.propertyEntry q) := by
  have headers : d.headerEntries.countP p = 0 := by
    rw [List.countP_eq_zero]
    intro e mem
    obtain ⟨header, rfl⟩ := eq_declaringFile_of_mem_headerEntries mem
    simp [no_file]
  have bases : (d.baseEntries r).countP p = 0 := by
    rw [List.countP_eq_zero]
    intro e mem
    obtain ⟨type, isVirtual, rfl⟩ := eq_base_of_mem_baseEntries mem
    simp [no_base]
  rw [memberEntries, List.countP_append, List.countP_append, List.countP_append, headers, bases,
    List.countP_map, List.countP_map, d.written_perm.countP_eq]
  simp [Function.comp_def]

theorem members_ofDescriptor (r : Registry) (d : Descriptor) :
    (SourceUnit.ofDescriptor r d).members =
      if d.kind.hasMembers then d.memberEntries r else [] := by
  unfold SourceUnit.ofDescriptor SourceUnit.members Reflector.ofDescriptor
  cases d.kind <;> rfl

/-- What a unit contains of a sort of entries, other than the header and the bases, is
what the type has of it. -/
theorem countP_members (r : Registry) (d : Descriptor) (p : Entry → Bool)
    (no_file : ∀ header, p (.declaringFile header) = false)
    (no_base : ∀ type isVirtual, p (.base type isVirtual) = false) :
    (SourceUnit.ofDescriptor r d).members.countP p =
      d.wrappedMethods.countP (fun m => p (.method m)) +
        d.wrappedProperties.countP fun q => p (d.propertyEntry q) := by
  rw [members_ofDescriptor]
  split_ifs with has_members
  · exact d.countP_memberEntries r p no_file no_base
  · simp [wrappedMethods, wrappedProperties, has_members]

end Descriptor

/-! ### Totals -/

theorem filterMap_range {α : Type} (items : List α) :
    (List.range items.length).filterMap (fun i => items[i]?) = items := by
  induction items with
  | nil => rfl
  | cons x items ih =>
    rw [List.length_cons, List.range_succ_eq_map, List.filterMap_cons, List.filterMap_map]
    exact congrArg (x :: ·) ih

/-- The types of all numbers are all types. -/
theorem Registry.filterMap_ids (r : Registry) : r.ids.filterMap r.get? = r.types := by
  rw [ids, List.filterMap_map]
  exact filterMap_range r.types

/-- The types with a unit are those that the statistics count. -/
theorem Registry.emitted_perm (r : Registry) (config : Configuration) :
    (r.consolidate config).registry.emitted.Perm
      ((r.consolidate config).registry.types.filter Descriptor.isEmitted) := by
  set consolidated := (r.consolidate config).registry
  have same_ids : r.ids.Perm consolidated.ids :=
    (List.perm_ext_iff_of_nodup (nodup_ids r) (nodup_ids consolidated)).mpr
      fun id => (ids_consolidate r config id).symm
  have settled : consolidated.settledTypes.Perm consolidated.types := by
    have all := ((order_perm_ids r config).trans same_ids).filterMap consolidated.get?
    rwa [filterMap_ids] at all
  exact settled.filter _

theorem Statistics.ofTypes_perm {types types' : List Descriptor} (perm : types.Perm types') :
    ofTypes types = ofTypes types' := by
  have kinds := perm.map Descriptor.kind
  have methods := perm.flatMap_right Descriptor.wrappedMethods
  have properties := perm.flatMap_right Descriptor.wrappedProperties
  simp only [ofTypes, perm.length_eq, kinds.countP_eq, methods.length_eq, methods.countP_eq,
    properties.length_eq, properties.countP_eq]

/-- Every kind of type is counted as one of four. -/
theorem Statistics.countP_kinds (kinds : List Kind) :
    kinds.countP (fun k => k matches .typedef _) + kinds.countP Kind.isCustom +
      kinds.countP (fun k => k matches .object _) +
      kinds.countP (fun k => k matches .plain | .enumeration _ _ | .container _ _ _) =
        kinds.length := by
  induction kinds with
  | nil => rfl
  | cons k kinds ih =>
    simp only [List.countP_cons, List.length_cons]
    cases k <;> simp [Kind.isCustom] <;> omega

/-- Every property is counted as one of three. -/
theorem Statistics.countP_shapes (properties : List Property) :
    properties.countP (fun p => p.shape matches .field | .simple) +
      properties.countP (fun p => p.shape = .array) +
      properties.countP (fun p => p.shape = .indexed) = properties.length := by
  induction properties with
  | nil => rfl
  | cons p properties ih =>
    simp only [List.countP_cons, List.length_cons]
    cases p.shape <;> simp <;> omega

/-- What the units of some types contain of a sort of entries is what the types have
of it. -/
theorem countP_members_flatMap (r : Registry) (types : List Descriptor) (p : Entry → Bool)
    (no_file : ∀ header, p (.declaringFile header) = false)
    (no_base : ∀ type isVirtual, p (.base type isVirtual) = false) :
    (types.flatMap fun d => (SourceUnit.ofDescriptor r d).members).countP p =
      (types.flatMap Descriptor.wrappedMethods).countP (fun m => p (.method m)) +
        (types.flatMap fun d => d.wrappedProperties.map d.propertyEntry).countP p := by
  induction types with
  | nil => rfl
  | cons d types ih =>
    simp only [List.flatMap_cons, List.countP_append, ih,
      d.countP_members r p no_file no_base, List.countP_map, Function.comp_def]
    omega

/-- The numbers for some types are those of the types and of their units. -/
theorem Statistics.counts_ofTypes (r : Registry) (types : List Descriptor) :
    (ofTypes types).Counts types
      (types.flatMap fun d => (SourceUnit.ofDescriptor r d).members) where
  typedefs := List.countP_map
  custom := List.countP_map
  objects := List.countP_map
  abstracts := List.countP_map
  values := List.countP_map
  enumerations := List.countP_map
  containers := List.countP_map
  all_types := rfl
  all_kinds := (countP_kinds (types.map Descriptor.kind)).trans (List.length_map _)
  methods := by
    rw [countP_members_flatMap r types Entry.isMethod (fun _ => rfl) fun _ _ => rfl]
    simp [ofTypes, List.countP_flatMap, Entry.isMethod, Descriptor.propertyEntry, Function.comp_def]
  constructors := by
    rw [countP_members_flatMap r types Entry.isConstructor (fun _ => rfl) fun _ _ => rfl]
    simp [ofTypes, List.countP_flatMap, Entry.isConstructor, Descriptor.propertyEntry,
      Function.comp_def]
  properties := by
    rw [countP_members_flatMap r types Entry.isProperty (fun _ => rfl) fun _ _ => rfl]
    simp [ofTypes, List.countP_flatMap, Entry.isProperty, Descriptor.propertyEntry,
      Function.comp_def]
  all_shapes := countP_shapes _

end Reflectory
