/-
The accessors in the lines of properties.

A property is inferred from methods, but keeps only their signatures; a unit looks the
signatures up again, among the methods that consolidation has left. The first part
follows one accessor on that way: a type registered with a property has a method for it
that can be an accessor, consolidation keeps some method with the signature, and the
line of the property has the identifier of that method.

* `accessors_found`: no accessor gets lost, and where names of constructors are theirs
  alone, the identifier is that of a method which the unit wraps.
* `constructor_on_line`: names of constructors have to be theirs before consolidation; it
  can drop the method that has such a name, and leave the constructor to be found.
* `accessors_found_by_precedence`: the method that is found is the one that takes
  precedence among those with the signature. It can be an accessor itself unless one that
  cannot takes precedence over all that can, as a protected overload does that differs in
  what signatures leave out.
-/

import Reflectory.Proofs.Generation.Counts
import Reflectory.Proofs.Property.Passes
import Reflectory.Proofs.Registry.Provenance
import Reflectory.Proofs.Registry.Shadowing

namespace Reflectory

/-! ### The lines of properties -/

namespace PropertyShape

/-- The macro that reflects a property of this shape. -/
def macroName : PropertyShape → String
  | field => "I_PublicMemberProperty"
  | simple => "I_SimpleProperty"
  | array => "I_ArrayProperty"
  | indexed => "I_IndexedProperty"

/-- The accessors that the line of a property of this shape has, in their order. -/
def onLine {α : Type} (shape : PropertyShape) (as : Accessors α) : List (Option α) :=
  match shape with
  | field => []
  | simple | indexed => [as.getter, as.setter]
  | array => [as.getter, as.setter, as.counter, as.adder, as.inserter, as.remover]

theorem onLine_map {α β : Type} (shape : PropertyShape) (f : α → β) (as : Accessors α) :
    shape.onLine (as.map f) = (shape.onLine as).map (Option.map f) := by
  cases shape <;> rfl

/-- What stands on a line is an accessor of the property. -/
theorem mem_toList_of_onLine {α : Type} {shape : PropertyShape} {as : Accessors α} {a : α}
    (mem : some a ∈ shape.onLine as) : a ∈ as.toList := by
  have all : some a ∈
      [as.getter, as.setter, as.counter, as.adder, as.inserter, as.remover] := by
    cases shape with
    | field => cases mem
    | array => exact mem
    | simple | indexed => exact List.mem_append_left [_, _, _, _] mem
  exact List.mem_filterMap.mpr ⟨some a, all, rfl⟩

end PropertyShape

/-- The accessors that stand on the line of an entry, each with the identifier that is
printed for it, zero for one that is absent. -/
def Entry.accessors : Entry → List (Option Signature × String)
  | property p ids =>
    (p.shape.onLine p.accessors).zip ((p.shape.onLine ids).map fun id => id.getD "0")
  | _ => []

/-- The line of a property ends with the identifiers of its accessors. -/
theorem Entry.text_property (spell : String → String) (p : Property) (ids : Accessors String) :
    (Entry.property p ids).text spell =
      macroCall p.shape.macroName
        ([spell p.type, p.name] ++
          (if p.shape = .indexed then [spell (p.indexType?.getD "")] else []) ++
          (Entry.property p ids).accessors.map Prod.snd) := by
  simp only [text, propertyText, accessors]
  cases p.shape <;> rfl

/-- Whether some line of the unit has this identifier for this accessor. -/
def SourceUnit.Prints (u : SourceUnit) (accessor? : Option Signature) (id : String) : Prop :=
  ∃ e ∈ u.members, (accessor?, id) ∈ e.accessors

instance (u : SourceUnit) (accessor? : Option Signature) (id : String) :
    Decidable (u.Prints accessor? id) :=
  inferInstanceAs (Decidable (∃ e ∈ u.members, (accessor?, id) ∈ e.accessors))

/-! ### What a unit reflects -/

namespace Descriptor

variable {r : Registry} {d : Descriptor}

/-- The members of a unit are the methods that the type wraps and the properties that it
reflects. -/
theorem mem_members {e : Entry} (member : e.isMethod ∨ e.isProperty) :
    e ∈ (SourceUnit.ofDescriptor r d).members ↔
      (∃ m ∈ d.wrappedMethods, .method m = e) ∨
        ∃ p ∈ d.wrappedProperties, d.propertyEntry p = e := by
  rw [members_ofDescriptor]
  split_ifs with has_members
  · have header : e ∉ d.headerEntries := by
      intro mem
      obtain ⟨header, rfl⟩ := eq_declaringFile_of_mem_headerEntries mem
      simp [Entry.isMethod, Entry.isProperty] at member
    have bases : e ∉ d.baseEntries r := by
      intro mem
      obtain ⟨type, isVirtual, rfl⟩ := eq_base_of_mem_baseEntries mem
      simp [Entry.isMethod, Entry.isProperty] at member
    simp only [memberEntries, List.mem_append, header, bases, false_or, List.mem_map,
      ← d.written_perm.mem_iff]
  · simp [wrappedMethods, wrappedProperties, has_members]

theorem method_mem_members {m : Method} :
    .method m ∈ (SourceUnit.ofDescriptor r d).members ↔ m ∈ d.wrappedMethods := by
  rw [mem_members (.inl rfl)]
  simp [propertyEntry]

/-- For an accessor of a property, the identifier of the method that is found is printed. -/
theorem accessors_propertyEntry (d : Descriptor) (p : Property) :
    (d.propertyEntry p).accessors = (p.shape.onLine p.accessors).map fun accessor? =>
      (accessor?, (accessor?.map fun s => (d.method? s).elim "0" Method.wrapperId).getD "0") := by
  rw [propertyEntry, Entry.accessors, PropertyShape.onLine_map, List.map_map]
  conv_lhs => lhs; rw [← List.map_id (p.shape.onLine p.accessors)]
  exact List.zip_map' ..

theorem prints_ofDescriptor {accessor? : Option Signature} {id : String} :
    (SourceUnit.ofDescriptor r d).Prints accessor? id ↔
      ∃ p ∈ d.wrappedProperties, accessor? ∈ p.shape.onLine p.accessors ∧
        id = (accessor?.map fun s => (d.method? s).elim "0" Method.wrapperId).getD "0" := by
  constructor
  · rintro ⟨e, mem, printed⟩
    cases e with
    | property p ids =>
      obtain ⟨m, -, other⟩ | ⟨p, reflected, entry⟩ := (mem_members (.inr rfl)).mp mem
      · cases other
      · rw [← entry, accessors_propertyEntry] at printed
        obtain ⟨_, onLine, eq⟩ := List.mem_map.mp printed
        cases eq
        exact ⟨p, reflected, onLine, rfl⟩
    | _ => cases printed
  · rintro ⟨p, reflected, onLine, rfl⟩
    refine ⟨d.propertyEntry p, (mem_members (.inr rfl)).mpr (.inr ⟨p, reflected, rfl⟩), ?_⟩
    rw [accessors_propertyEntry]
    exact List.mem_map.mpr ⟨accessor?, onLine, rfl⟩

end Descriptor

/-! ### Accessors of registered types -/

/-- The signature of an accessor is that of a method that can be one. -/
theorem PropertyInference.exists_candidate {policy : PropertyPolicy} {methods : List Method}
    {p : Property} (mem : p ∈ (ofMethods policy methods).properties) {s : Signature}
    (accessor : s ∈ p.accessors.toList) :
    ∃ m ∈ methods, m.isCandidate ∧ m.signature = s := by
  obtain ⟨f, found, rfl⟩ := mem_properties_iff.mp mem
  obtain ⟨_, made⟩ := Findings.made_of_mem_ofAccessors found
  rw [made.accessors_eq, Accessors.toList_map] at accessor
  obtain ⟨a, serves, rfl⟩ := List.mem_map.mp accessor
  have fits := Accessor.fits_of_mem_ofMethods (made.mem_accessors serves).1
  exact ⟨a.method, List.mem_of_getElem? fits.there, fits.candidate, rfl⟩

namespace Descriptor

/-- For every accessor of a property the type has a method that can be one. -/
def HasAccessors (d : Descriptor) : Prop :=
  ∀ p ∈ d.properties, ∀ s ∈ p.accessors.toList, ∃ m ∈ d.methods, m.isCandidate ∧ m.signature = s

theorem hasAccessors_of_nil {d : Descriptor} (none : d.properties = []) : d.HasAccessors := by
  intro p mem
  rw [none] at mem
  cases mem

theorem hasAccessors_ofClass (config : Configuration) (c : CompoundDeclaration) :
    (ofClass config c).HasAccessors := by
  intro p mem s accessor
  obtain inferred | field := List.mem_append.mp mem
  · unfold inference at inferred
    split_ifs at inferred
    · exact PropertyInference.exists_candidate inferred accessor
    · cases inferred
  · obtain ⟨m, -, declared⟩ := List.mem_filterMap.mp field
    unfold MemberDeclaration.field? at declared
    split at declared
    · split_ifs at declared
      cases declared
      cases accessor
    · cases declared

end Descriptor

/-- Every type that is built has methods for the accessors of its properties. -/
theorem Registry.hasAccessors_of_mem_build {index : DeclarationIndex} {config : Configuration}
    {d : Descriptor} (mem : d ∈ (Registry.build index config).registry.types) :
    d.HasAccessors := by
  obtain ⟨-, -, c, -, rfl⟩ | bare := class_or_bare_of_mem_build mem
  · exact Descriptor.hasAccessors_ofClass config c
  · exact Descriptor.hasAccessors_of_nil bare

/-! ### Accessors of consolidated types -/

/-- Whether a method is declared by the type itself. -/
def Method.isOwn (m : Method) : Bool :=
  m.declaredIn?.isNone

theorem Method.wrapperId_ne_zero (m : Method) : m.wrapperId ≠ "0" := by
  intro zero
  have chars := congrArg (fun s : String => s.toList.head?) zero
  simp [wrapperId] at chars

namespace Descriptor

/-- Whether the names of the constructors of a type are theirs alone. -/
def ConstructorsApart (d : Descriptor) : Prop :=
  ∀ c ∈ d.methods, c.isConstructor → ∀ m ∈ d.methods, m.name = c.name → m.isConstructor

/-- A type after consolidation has the methods and properties of the registered type that
are not shadowed. -/
structure Unshadowed (registered d : Descriptor) : Prop where
  methods : d.methods = dropShadowed Method.isOwn Method.signature registered.methods
  properties : d.properties.Sublist registered.properties

instance (d : Descriptor) : Decidable d.ConstructorsApart :=
  inferInstanceAs (Decidable (∀ c ∈ d.methods, c.isConstructor → _))

namespace Unshadowed

variable {registered d : Descriptor} {s : Signature} {m : Method}

/-- What is found under a signature takes precedence among the methods that have it. -/
theorem precedes (unshadowed : registered.Unshadowed d) (found : d.method? s = some m) :
    m ∈ registered.methods ∧ m.signature = s ∧ ∀ m' ∈ registered.methods, m'.signature = s →
      m' ≠ m → Precedes Method.isOwn registered.methods m m' :=
  precedes_of_find?_dropShadowed ((congrArg (List.find? _) unshadowed.methods).symm.trans found)

/-- An accessor of a property is found, and was inferred from a method with its signature. -/
theorem found (unshadowed : registered.Unshadowed d) (has : registered.HasAccessors)
    {p : Property} (mem : p ∈ d.properties) (accessor : s ∈ p.accessors.toList) :
    (∃ origin ∈ registered.methods, origin.isCandidate ∧ origin.signature = s) ∧
      ∃ m ∈ d.methods, m.signature = s ∧ d.method? s = some m := by
  obtain ⟨origin, listed, can, rfl⟩ := has p (unshadowed.properties.subset mem) s accessor
  obtain ⟨m, kept, there⟩ := exists_find?_dropShadowed Method.isOwn Method.signature listed
  rw [← unshadowed.methods] at kept there
  exact ⟨⟨origin, listed, can, rfl⟩, m, kept, (unshadowed.precedes there).2.1, there⟩

/-- The identifier on the line of a property is that of the method that is found. -/
theorem of_prints (unshadowed : registered.Unshadowed d) (has : registered.HasAccessors)
    {r : Registry} {printed : String}
    (prints : (SourceUnit.ofDescriptor r d).Prints (some s) printed) :
    d.kind.hasMembers ∧
      (∃ origin ∈ registered.methods, origin.isCandidate ∧ origin.signature = s) ∧
      ∃ m ∈ d.methods, m.signature = s ∧ d.method? s = some m ∧ printed = m.wrapperId := by
  obtain ⟨p, reflected, onLine, rfl⟩ := prints_ofDescriptor.mp prints
  obtain ⟨mem, has_members⟩ := List.mem_filter.mp reflected
  obtain ⟨origin, m, listed, same, there⟩ :=
    unshadowed.found has mem (PropertyShape.mem_toList_of_onLine onLine)
  exact ⟨has_members, origin, m, listed, same, there, by simp [there]⟩

end Unshadowed

end Descriptor

namespace Registry

theorem exists_registered {r : Registry} {config : Configuration} {id : TypeId} {d : Descriptor}
    (there : (r.consolidate config).registry.get? id = some d) :
    ∃ registered, r.get? id = some registered ∧ registered.Unshadowed d := by
  obtain ⟨registered, given, rfl⟩ := registered_of_consolidated there
  exact ⟨registered, given, rfl, dropShadowed_sublist _ _ _⟩

variable {index : DeclarationIndex} {config : Configuration} {id : TypeId} {d : Descriptor}

/-- **No accessor gets lost.** After consolidation every accessor of every property is
found among the methods of the type. The line of the property ends with identifiers for
its accessors, and has zero only where there is none. If the type was registered without
another method, own or inherited, that has the name of its constructors, then the other
identifiers are those of methods that the unit wraps. -/
theorem accessors_found
    (there : ((build index config).registry.consolidate config).registry.get? id = some d) :
    let unit := SourceUnit.ofDescriptor
      ((build index config).registry.consolidate config).registry d
    ∃ registered, (build index config).registry.get? id = some registered ∧
      (∀ p ∈ d.properties, ∀ s ∈ p.accessors.toList, ∃ m ∈ d.methods,
        m.signature = s ∧ d.method? s = some m) ∧
      (∀ p ids spell, Entry.property p ids ∈ unit.members → ∃ before,
        (Entry.property p ids).text spell =
          macroCall p.shape.macroName (before ++ (Entry.property p ids).accessors.map Prod.snd)) ∧
      (∀ accessor? printed, unit.Prints accessor? printed → (printed = "0" ↔ accessor? = none)) ∧
      (registered.ConstructorsApart → ∀ accessor? printed, unit.Prints accessor? printed →
        printed ≠ "0" → ∃ m, Entry.method m ∈ unit.members ∧ m.isConstructor = false ∧
          accessor? = some m.signature ∧ printed = m.wrapperId) := by
  intro unit
  obtain ⟨registered, given, unshadowed⟩ := exists_registered there
  have has : registered.HasAccessors := hasAccessors_of_mem_build (List.mem_of_getElem? given)
  refine ⟨registered, given, fun p mem s accessor => (unshadowed.found has mem accessor).2,
    fun p ids spell _ => ⟨_, Entry.text_property spell p ids⟩, ?_, ?_⟩
  · intro accessor? printed prints
    cases accessor? with
    | none =>
      obtain ⟨p, -, -, rfl⟩ := Descriptor.prints_ofDescriptor.mp prints
      simp
    | some s =>
      obtain ⟨-, -, m, -, -, -, rfl⟩ := unshadowed.of_prints has prints
      simp [m.wrapperId_ne_zero]
  · intro apart accessor? printed prints nonzero
    cases accessor? with
    | none =>
      obtain ⟨p, -, -, rfl⟩ := Descriptor.prints_ofDescriptor.mp prints
      exact absurd rfl nonzero
    | some s =>
      obtain ⟨has_members, ⟨origin, listed, can, rfl⟩, m, kept, same, there, rfl⟩ :=
        unshadowed.of_prints has prints
      -- A constructor would share its name with the method that the property comes from.
      have no_constructor : m.isConstructor = false := by
        rw [Bool.eq_false_iff]
        intro constructs
        have constructs := apart m (unshadowed.precedes there).1 constructs origin listed
          (congrArg Signature.name same).symm
        simp [Method.isCandidate, constructs] at can
      refine ⟨m, Descriptor.method_mem_members.mpr ?_, no_constructor, congrArg some same.symm, rfl⟩
      exact List.mem_filter.mpr ⟨kept, by simp [has_members, no_constructor]⟩

/-- A class that declares a method again which its index has copied from a base. -/
def renamed : CompoundDeclaration :=
  ((CompoundDeclaration.ofClass "Node").member
    ((MemberDeclaration.function "getName" "std::string").constant.inheritedFrom "Object")).member
    (MemberDeclaration.function "getName" "const std::string &").constant

/-- The getter of `renamed` is found where the inherited one is gone. -/
theorem accessors_found_renamed :
    ∃ d m, ((build (.ofCompounds [renamed]) {}).registry.consolidate {}).registry.get? ⟨0⟩ =
        some d ∧
      Entry.method m ∈ (SourceUnit.ofDescriptor
        ((build (.ofCompounds [renamed]) {}).registry.consolidate {}).registry d).members ∧
      m.wrapperId = "__C5_std_string_R1__getName__const" := by
  have getter : (((build (.ofCompounds [renamed]) {}).registry.consolidate {}).registry.get?
      ⟨0⟩).any fun d => (SourceUnit.ofDescriptor ((build (.ofCompounds [renamed])
        {}).registry.consolidate {}).registry d).Prints (some ⟨"getName", [], true⟩)
          "__C5_std_string_R1__getName__const" := by
    decide +kernel
  have apart : ((build (.ofCompounds [renamed]) {}).registry.get? ⟨0⟩).all fun d =>
      d.ConstructorsApart := by
    decide +kernel
  obtain ⟨d, there, prints⟩ := (Option.any_eq_true _ _).mp getter
  obtain ⟨registered, given, -, -, -, wrapped⟩ := accessors_found there
  rw [given] at apart
  obtain ⟨m, mem, -, -, id⟩ :=
    wrapped (of_decide_eq_true apart) _ _ (of_decide_eq_true prints) (by decide)
  exact ⟨d, m, there, mem, id.symm⟩

/-- An abstract class that has the name of a setter. Its constructor hides the setter, which
its index has copied from a base. -/
def setterLike : CompoundDeclaration :=
  (({ CompoundDeclaration.ofClass "setName" with isAbstract := true }.member
    (((MemberDeclaration.function "setName" "void").param "int" "name").inheritedFrom
      "Base"))).member
    ((MemberDeclaration.function "setName" "").param "int" "name")

/-- **A constructor can stand for a method that is gone.** After consolidation no other
method of `setterLike` has the name of its constructor. The line of the property that was
inferred from the setter has the identifier of the constructor, which the unit does not
wrap. -/
theorem constructor_on_line :
    ∃ d, ((build (.ofCompounds [setterLike]) {}).registry.consolidate {}).registry.get? ⟨0⟩ =
        some d ∧
      d.ConstructorsApart ∧
      let unit := SourceUnit.ofDescriptor
        ((build (.ofCompounds [setterLike]) {}).registry.consolidate {}).registry d
      unit.Prints (some ⟨"setName", ["int"], false⟩) "____setName__int" ∧
        ∀ m, Entry.method m ∈ unit.members → m.wrapperId ≠ "____setName__int" := by
  have facts : (((build (.ofCompounds [setterLike]) {}).registry.consolidate {}).registry.get?
      ⟨0⟩).any fun d => decide (d.ConstructorsApart ∧
        (SourceUnit.ofDescriptor ((build (.ofCompounds [setterLike])
          {}).registry.consolidate {}).registry d).Prints (some ⟨"setName", ["int"], false⟩)
            "____setName__int" ∧
        ∀ m ∈ d.wrappedMethods, m.wrapperId ≠ "____setName__int") := by
    decide +kernel
  obtain ⟨d, there, facts⟩ := (Option.any_eq_true _ _).mp facts
  obtain ⟨apart, prints, unwrapped⟩ := of_decide_eq_true facts
  exact ⟨d, there, apart, prints, fun m mem => unwrapped m (Descriptor.method_mem_members.mp mem)⟩

/-- **Accessors are found by precedence.** The line of a property has, for an accessor that
was inferred from a public method, the identifier of the method with its signature that
takes precedence. This method can be an accessor too, or else it takes precedence over
all those that can. -/
theorem accessors_found_by_precedence
    (there : ((build index config).registry.consolidate config).registry.get? id = some d)
    {s : Signature} {printed : String}
    (prints : (SourceUnit.ofDescriptor
      ((build index config).registry.consolidate config).registry d).Prints (some s) printed) :
    ∃ registered, (build index config).registry.get? id = some registered ∧
      (∃ origin ∈ registered.methods, origin.isCandidate ∧ origin.signature = s) ∧
      ∃ m ∈ d.methods, m.signature = s ∧ printed = m.wrapperId ∧
        (∀ m' ∈ registered.methods, m'.signature = s → m' ≠ m →
          Precedes Method.isOwn registered.methods m m') ∧
        (m.isCandidate ∨ ∀ origin ∈ registered.methods, origin.isCandidate →
          origin.signature = s → Precedes Method.isOwn registered.methods m origin) := by
  obtain ⟨registered, given, unshadowed⟩ := exists_registered there
  have has : registered.HasAccessors := hasAccessors_of_mem_build (List.mem_of_getElem? given)
  obtain ⟨-, origin, m, kept, same, there, rfl⟩ := unshadowed.of_prints has prints
  have precedes := (unshadowed.precedes there).2.2
  refine ⟨registered, given, origin, m, kept, same, rfl, precedes, or_iff_not_imp_left.mpr ?_⟩
  intro cannot origin listed can same'
  exact precedes origin listed same' fun eq => cannot (eq ▸ can)

/-- A class with a protected setter that signatures do not tell from the public one. -/
def guardedNode : CompoundDeclaration :=
  ((CompoundDeclaration.ofClass "Node").member
    (((MemberDeclaration.function "setName" "void").param "std::string &" "name").withAccess
      .isProtected)).member
    ((MemberDeclaration.function "setName" "void").param "const std::string &" "name")

theorem guardedNode_prints :
    ∃ d, ((build (.ofCompounds [guardedNode]) {}).registry.consolidate {}).registry.get? ⟨0⟩ =
        some d ∧
      (SourceUnit.ofDescriptor ((build (.ofCompounds [guardedNode]) {}).registry.consolidate
        {}).registry d).Prints (some ⟨"setName", ["std::string"], false⟩)
          "__void__setName__std_string_R1" ∧
      ∀ m ∈ d.methods, "__void__setName__std_string_R1" = m.wrapperId → m.isCandidate = false := by
  have facts : (((build (.ofCompounds [guardedNode]) {}).registry.consolidate {}).registry.get?
      ⟨0⟩).any fun d => decide ((SourceUnit.ofDescriptor ((build (.ofCompounds [guardedNode])
        {}).registry.consolidate {}).registry d).Prints (some ⟨"setName", ["std::string"], false⟩)
          "__void__setName__std_string_R1" ∧
        ∀ m ∈ d.methods, "__void__setName__std_string_R1" = m.wrapperId →
          m.isCandidate = false) := by
    decide +kernel
  obtain ⟨d, there, facts⟩ := (Option.any_eq_true _ _).mp facts
  exact ⟨d, there, of_decide_eq_true facts⟩

/-- The protected setter of `guardedNode` is found for the property of the public one. -/
theorem accessors_found_by_precedence_guarded :
    ∃ d m, ((build (.ofCompounds [guardedNode]) {}).registry.consolidate {}).registry.get? ⟨0⟩ =
        some d ∧
      m ∈ d.methods ∧ m.isCandidate = false ∧ "__void__setName__std_string_R1" = m.wrapperId := by
  obtain ⟨d, there, prints, cannot⟩ := guardedNode_prints
  obtain ⟨-, -, -, m, mem, -, id, -⟩ := accessors_found_by_precedence there prints
  exact ⟨d, m, there, mem, cannot m mem id, id⟩

/-- A property can be reflected through a method that cannot be an accessor. -/
theorem accessors_not_always_public :
    ¬ ∀ (index : DeclarationIndex) (config : Configuration) (id : TypeId) (d : Descriptor),
      ((build index config).registry.consolidate config).registry.get? id = some d →
        ∀ accessor? printed, (SourceUnit.ofDescriptor
            ((build index config).registry.consolidate config).registry d).Prints
              accessor? printed → printed ≠ "0" →
          ∃ m ∈ d.methods, m.isCandidate ∧ printed = m.wrapperId := by
  intro always
  obtain ⟨d, there, prints, cannot⟩ := guardedNode_prints
  obtain ⟨m, mem, can, id⟩ := always _ _ _ d there _ _ prints (by decide)
  exact Bool.false_ne_true ((cannot m mem id).symm.trans can)

end Registry

end Reflectory
