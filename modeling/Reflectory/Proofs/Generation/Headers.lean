/-
The headers that a unit includes.

A unit includes the headers of the types that its members mention, each once. What a member
mentions is looked up by one name only: that of the outermost type of its spelling, without
qualifiers, references and pointers around it, and failing that the same without template
arguments. So a type that stands there gets its header, and a type that stands among the
arguments does not.

* `headerOf?_eq`: the type whose header is included for a spelling.
* `outermost_headers_included`: which headers a unit includes.
* `argument_headers_missing`: a type that is mentioned as an argument, without its header.
-/

import Reflectory.Proofs.Generation.MethodLines
import Reflectory.Proofs.Registry.IndexOrder
import Reflectory.Proofs.Registry.Resolution
import Reflectory.Proofs.Spelling.Pointees

namespace Reflectory

open Spelling Text

/-! ### Outermost types -/

namespace Registry

variable {r : Registry}

/-- The type of the outermost name of a spelling: what it is or points to, or else the type
that has its name without template arguments. -/
def outermost? (r : Registry) (type : String) : Option Descriptor :=
  let name := Spelling.normalize (render (Spelling.target (tokenize type)))
  (r.find? (localName name)).or (r.find? (localName (stripTemplateArgs name)))

theorem find?_or (r : Registry) (name name' : String) :
    (r.find? name).or (r.find? name') = ((r.lookup name).or (r.lookup name')).bind r.get? := by
  cases found : r.lookup name with
  | none => simp [find?, found]
  | some id =>
    obtain ⟨d, there, -⟩ := get?_of_lookup found
    simp [find?, found, there]

/-- The header of the outermost type is the one that is included. -/
theorem headerOf?_eq (r : Registry) (type : String) :
    r.headerOf? type = (r.outermost? type).bind Descriptor.header? := by
  rw [headerOf?, pointee_valueType, resolve_none, outermost?, find?_or]

/-- Consolidation does not change whose header is included for a spelling. -/
theorem headerOf?_consolidate (r : Registry) (config : Configuration) (type : String) :
    (r.consolidate config).registry.headerOf? type = r.headerOf? type := by
  have kept (name : String) : ((r.consolidate config).registry.find? name).map Descriptor.header? =
      (r.find? name).map Descriptor.header? :=
    map_find?_consolidate r config (fun _ _ _ => rfl) name
  have joined (d? : Option Descriptor) : d?.bind Descriptor.header? =
      (d?.map Descriptor.header?).join := by
    cases d? <;> rfl
  rw [headerOf?_eq, headerOf?_eq, joined, joined, outermost?, outermost?, Option.map_or,
    Option.map_or, kept, kept]

/-- A registered type is the outermost one of its name behind qualifiers, references and
pointers. -/
theorem outermost?_of_surrounded {t : Descriptor} (registered : r.find? t.name = some t)
    (is_name : IsTypeName t.name) (relative : ¬ [':', ':'] <+: t.name.toList) {type : String}
    {before behind : List Token} (qualified : ∀ q ∈ before, q ∈ qualifiers)
    (marked : ∀ q ∈ behind, q = .mark '*' ∨ q ∈ qualifiers)
    (tokens : tokenize type = before ++ tokenize t.name ++ behind) :
    r.outermost? type = some t := by
  have name : Spelling.normalize (render (Spelling.target (tokenize type))) = t.name := by
    rw [tokens, target_of_surrounded is_name qualified marked, ← Spelling.normalize,
      is_name.canonical, is_name.canonical]
  rw [outermost?, name, localName_eq_self relative, registered, Option.some_or]

end Registry

/-! ### Mentioned types -/

namespace Descriptor

/-- The types of the members that are reflected: those of the parameters and results of
methods, and those of properties. -/
def memberTypes (d : Descriptor) : List String :=
  d.wrappedMethods.flatMap (fun m => m.returnType?.toList ++ m.params.map Parameter.type) ++
    d.wrappedProperties.map Property.type

/-- The types that are mentioned in the unit of a class: the bases that are written, and the
types of the members. -/
def mentionedTypes (r : Registry) (d : Descriptor) : List String :=
  (d.baseEntries r).flatMap Entry.mentions ++ d.memberTypes

theorem mem_mentions {r : Registry} {d : Descriptor} {type : String} :
    type ∈ (d.memberEntries r).flatMap Entry.mentions ↔ type ∈ d.mentionedTypes r := by
  have headers : d.headerEntries.flatMap Entry.mentions = [] := by
    rw [List.flatMap_eq_nil_iff]
    intro e mem
    obtain ⟨header, rfl⟩ := eq_declaringFile_of_mem_headerEntries mem
    rfl
  have methods : ((d.constructors ++ d.groupedMethods).map .method).flatMap Entry.mentions =
      (d.constructors ++ d.groupedMethods).flatMap fun m =>
        m.returnType?.toList ++ m.params.map Parameter.type :=
    List.flatMap_map ..
  have properties : (d.wrappedProperties.map d.propertyEntry).flatMap Entry.mentions =
      d.wrappedProperties.map Property.type := by
    rw [List.flatMap_map, List.map_eq_flatMap]
    rfl
  rw [memberEntries, List.flatMap_append, List.flatMap_append, List.flatMap_append, headers,
    methods, properties, mentionedTypes, memberTypes, List.nil_append, List.append_assoc,
    List.mem_append, List.mem_append, List.mem_append, List.mem_append,
    (d.written_perm.flatMap_right _).mem_iff]

end Descriptor

/-! ### Lines -/

/-- The line that includes a header. -/
def includeLine (header : String) : String :=
  "#include <" ++ header ++ ">"

theorem includeLine_injective : Function.Injective includeLine := by
  intro h h' same
  have letters := congrArg String.toList same
  simp only [includeLine, String.toList_append, List.append_assoc, List.append_cancel_left_eq,
    List.append_cancel_right_eq] at letters
  exact String.toList_inj.mp letters

/-- What does not begin like an inclusion is none. -/
theorem includeLine_notMem {lines : List String}
    (others : ∀ line ∈ lines, ¬ "#include <".toList <+: line.toList) (h : String) :
    includeLine h ∉ lines := by
  intro mem
  refine others _ mem ?_
  rw [includeLine, String.append_assoc, String.toList_append]
  exact List.prefix_append _ _

theorem SourceUnit.includeLine_notMem_aliasLines (aliases : AliasTable) (h : String) :
    includeLine h ∉ aliasLines aliases := by
  refine includeLine_notMem (fun line mem begins => ?_) h
  obtain ⟨rest, split⟩ := begins
  have first := head?_of_mem_aliasLines mem
  rw [← split] at first
  simp at first

/-- The reflector of a class has no line that includes a header. -/
theorem Reflector.includeLine_notMem_members (spell : String → String) {opening : String}
    (begins : opening.toList.head? = some 'B') (name : String) (entries : List Entry)
    (h : String) : includeLine h ∉ (members opening name entries).lines spell := by
  refine includeLine_notMem (fun line mem => ?_) h
  simp only [lines, lines.block, List.mem_append, List.mem_singleton, List.mem_map] at mem
  obtain (rfl | ⟨e, -, rfl⟩) | rfl := mem
  · obtain ⟨cs, split⟩ := List.head?_eq_some_iff.mp begins
    simp [split]
  · simp
  · decide

namespace SourceUnit

variable {r : Registry} {d : Descriptor} (reflected : d.kind.hasMembers)

include reflected

/-- A header is included as often as it is listed. -/
theorem count_includeLine (h : String) :
    (ofDescriptor r d).lines.count (includeLine h) = (ofDescriptor r d).headers.count h := by
  obtain ⟨opening, begins, written⟩ := d.exists_reflector_eq r reflected
  have none (lines : List String)
      (others : ∀ line ∈ lines, ¬ "#include <".toList <+: line.toList) :
      lines.count (includeLine h) = 0 :=
    List.count_eq_zero.mpr (includeLine_notMem others h)
  have included : ((ofDescriptor r d).headers.map fun h => "#include <" ++ h ++ ">").count
      (includeLine h) = (ofDescriptor r d).headers.count h :=
    List.count_map_of_injective _ _ includeLine_injective h
  have aliases := List.count_eq_zero.mpr
    (includeLine_notMem_aliasLines (ofDescriptor r d).aliases h)
  have entries := List.count_eq_zero.mpr <|
    Reflector.includeLine_notMem_members (ofDescriptor r d).aliases.spell begins d.name
      (d.memberEntries r) h
  have no_banner := none banner (by decide +kernel)
  have no_guard := none directionGuard (by decide +kernel)
  have no_blank := none [""] (by decide +kernel)
  rw [lines, preamble, written]
  simp only [List.count_append, included, aliases, entries, no_banner, no_guard, no_blank]
  omega

theorem includeLine_mem_lines {h : String} :
    includeLine h ∈ (ofDescriptor r d).lines ↔ h ∈ (ofDescriptor r d).headers := by
  rw [← List.count_pos_iff, count_includeLine reflected, List.count_pos_iff]

/-- A header is listed for a reason. -/
theorem mem_headers {h : String} : h ∈ (ofDescriptor r d).headers ↔
    h ∈ runtimeHeaders ∨ d.header? = some h ∨
      ∃ type ∈ d.mentionedTypes r, r.headerOf? type = some h := by
  obtain ⟨opening, -, written⟩ := d.exists_reflector_eq r reflected
  have listed : (ofDescriptor r d).headers =
      (d.header?.toList ++ (ofDescriptor r d).reflector.headers r).foldl insertNew runtimeHeaders :=
    rfl
  rw [listed, written, Reflector.headers, mem_foldl_insertNew, List.mem_append, Option.mem_toList,
    List.mem_filterMap]
  simp only [Descriptor.mem_mentions]

omit reflected in
theorem nodup_headers : (ofDescriptor r d).headers.Nodup :=
  nodup_foldl_insertNew _ (by decide)

end SourceUnit

/-! ### Headers of members -/

/-- **A unit includes the headers of the outermost types.** In the unit of a class no header
is included twice, and included are those that every unit has, the header of the class itself,
and for each type that is mentioned the header of its outermost type. So a registered type
whose name stands, behind any qualifiers, references and pointers, as the type of a parameter,
a result or a property has its header included. -/
theorem outermost_headers_included (r : Registry) {d : Descriptor}
    (reflected : d.kind.hasMembers) :
    let unit := SourceUnit.ofDescriptor r d
    unit.render = unlines unit.lines ∧
    (∀ h, unit.lines.count (includeLine h) ≤ 1) ∧
    (∀ h, includeLine h ∈ unit.lines ↔ h ∈ runtimeHeaders ∨ d.header? = some h ∨
      ∃ type ∈ d.mentionedTypes r, ∃ t, r.outermost? type = some t ∧ t.header? = some h) ∧
    ∀ type ∈ d.memberTypes, ∀ t h, r.find? t.name = some t → t.header? = some h →
      IsTypeName t.name → ¬ [':', ':'] <+: t.name.toList →
      ∀ before behind, (∀ q ∈ before, q ∈ qualifiers) →
        (∀ q ∈ behind, q = .mark '*' ∨ q ∈ qualifiers) →
        tokenize type = before ++ tokenize t.name ++ behind → includeLine h ∈ unit.lines := by
  intro unit
  have included (h : String) : includeLine h ∈ unit.lines ↔
      h ∈ runtimeHeaders ∨ d.header? = some h ∨
        ∃ type ∈ d.mentionedTypes r, ∃ t, r.outermost? type = some t ∧ t.header? = some h := by
    rw [SourceUnit.includeLine_mem_lines reflected, SourceUnit.mem_headers reflected]
    simp only [Registry.headerOf?_eq, Option.bind_eq_some_iff]
  refine ⟨unit.render_eq, fun h => ?_, included, ?_⟩
  · rw [SourceUnit.count_includeLine reflected]
    exact List.nodup_iff_count_le_one.mp SourceUnit.nodup_headers h
  · intro type mem t h registered header is_name relative before behind qualified marked tokens
    exact (included h).mpr (.inr (.inr ⟨type, List.mem_append_right _ mem, t,
      Registry.outermost?_of_surrounded registered is_name relative qualified marked tokens,
      header⟩))

/-- A type with a header. -/
def pointedNode : Descriptor :=
  { Descriptor.ofSpelled "Node" (.object false) with header? := some "scene/Node" }

/-- A class with a method whose result has this type. -/
def nodeHolder (type : String) : Descriptor :=
  { Descriptor.ofSpelled "Holder" (.object false) with methods := [.ofSpelled "get" type []] }

/-- Behind `const`, a reference and pointers, the type has its header included. -/
theorem outermost_headers_included_pointer :
    let holder := nodeHolder "const Node * const *&"
    (SourceUnit.ofDescriptor { types := [pointedNode, holder] } holder).lines.count
      (includeLine "scene/Node") = 1 := by
  intro holder
  obtain ⟨-, once, -, surrounded⟩ := outermost_headers_included
    { types := [pointedNode, holder] } (by decide : holder.kind.hasMembers)
  have included := surrounded "const Node * const *&" (by decide +kernel) pointedNode "scene/Node"
    (by decide +kernel) rfl (by decide +kernel) (by decide +kernel) [.word "const".toList]
    [.mark '*', .word "const".toList, .mark '*', .mark '&'] (by decide) (by decide)
    (by decide +kernel)
  exact le_antisymm (once _) (List.count_pos_iff.mpr included)

theorem inside_vector : Inside Spelling.target (tokenize "std::vector< Node * >")
    [Token.word "Node".toList, Token.mark '*'] := by
  have tokens : Spelling.target (tokenize "std::vector< Node * >") =
      [Token.word "std::vector".toList, Token.mark '<', Token.word "Node".toList, Token.mark '*',
        Token.mark '>'] := by
    decide +kernel
  have pointer : Balanced true true false [Token.word "Node".toList, Token.mark '*'] :=
    .cons rfl nofun (.cons rfl nofun .nil)
  exact .argument .self ⟨_, tokens, .last pointer (List.cons_ne_nil _ _)⟩ List.mem_cons_self

/-- As an argument, it has not. -/
theorem argument_headers_missing :
    ¬ ∀ (r : Registry) (config : Configuration),
      let consolidated := (r.consolidate config).registry
      ∀ d ∈ consolidated.types, d.isEmitted → d.kind.hasMembers → ∀ type ∈ d.memberTypes,
        ∀ t h, consolidated.find? t.name = some t → t.header? = some h →
          (∃ ts, Inside Spelling.target (tokenize type) ts ∧
            Spelling.target ts = tokenize t.name) →
          includeLine h ∈ (SourceUnit.ofDescriptor consolidated d).lines := by
  intro always
  set vector := "std::vector< Node * >"
  set r : Registry := { types := [pointedNode, nodeHolder vector] }
  set consolidated := (r.consolidate {}).registry with consolidated_eq
  set holder := (nodeHolder vector).finished {} fun _ => none
  -- without bases, a type is completed by itself
  have there : consolidated.get? ⟨1⟩ = some holder := by
    have registered : r.get? ⟨1⟩ = some (nodeHolder vector) := rfl
    have no_links : r.relinked {} ⟨1⟩ (nodeHolder vector) = nodeHolder vector := rfl
    rw [consolidated_eq, Registry.consolidated_of_registered registered, no_links]
    exact congrArg some (Descriptor.finished_congr fun b mem => absurd mem List.not_mem_nil)
  have described : (consolidated.find? "Node").map (fun t => (t.name, t.header?)) =
      some ("Node", some "scene/Node") := by
    rw [consolidated_eq, Registry.map_find?_consolidate r {} fun _ _ _ => rfl]
    decide +kernel
  obtain ⟨t, found, described⟩ := Option.map_eq_some_iff.mp described
  obtain ⟨named, header⟩ := Prod.mk.inj described
  have included := always r {} holder (List.mem_of_getElem? there) (by decide +kernel)
    (by decide +kernel) vector (by decide +kernel) t "scene/Node" (named ▸ found) header
    ⟨_, inside_vector, by rw [named]; decide +kernel⟩
  rw [SourceUnit.includeLine_mem_lines (by decide +kernel),
    SourceUnit.mem_headers (by decide +kernel)] at included
  obtain runtime | own | ⟨type, mentioned, needed⟩ := included
  · exact absurd runtime (by decide)
  · cases own
  · have only : holder.memberTypes = [vector] := by decide +kernel
    have mentioned : type ∈ holder.memberTypes := mentioned
    rw [only, List.mem_singleton] at mentioned
    have unknown : r.headerOf? vector = none := by decide +kernel
    rw [mentioned, Registry.headerOf?_consolidate, unknown] at needed
    cases needed

end Reflectory
