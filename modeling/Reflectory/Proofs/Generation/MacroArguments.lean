/-
Types as arguments of macros.

A comma inside an argument would make two of it. Every type that a macro call of a unit
takes is spelled through the unit's aliases, so it has no comma: either its name has none
and it is spelled as it is, or a `typedef` of the unit gives it another. There is one
exception. The reflectors of synonyms and of enumerations print the names of their own
types as they are, and these have a comma wherever their scopes do.

* `Reflector.lines_eq`: a reflector is the layout of its macro calls.
* `type_arguments_spelled`: how the types in the macro calls of a unit are spelled.
* `commas_in_arguments`: a synonym whose own name has a comma.
-/

import Reflectory.Proofs.Generation.FileNames
import Reflectory.Proofs.Registry.Scopes

namespace Reflectory

/-! ### Aliases -/

namespace AliasTable

variable {t : AliasTable} {types : List String} {type : String}

/-- The table names just those of the types that need it, each by a plain name of its
own. -/
structure Names (types : List String) (t : AliasTable) : Prop where
  all : ∀ type ∈ types, ',' ∈ type.toList → (t.nameOf? type).isSome
  plain : ∀ a ∈ t, ∀ c ∈ a.name.toList, Spelling.IsPlain c
  distinct : (t.map Alias.name).Nodup

theorem nameOf?_append (t t' : AliasTable) (type : String) :
    AliasTable.nameOf? (t ++ t') type = (t.nameOf? type).or (AliasTable.nameOf? t' type) := by
  simp only [nameOf?, List.find?_append, Option.map_or]

theorem mem_of_nameOf? {name : String} (named : t.nameOf? type = some name) :
    ⟨type, name⟩ ∈ t := by
  obtain ⟨a, found, rfl⟩ := Option.map_eq_some_iff.mp named
  obtain rfl : a.type = type := by simpa using List.find?_some found
  exact List.mem_of_find?_eq_some found

/-- No more candidates are taken than there are aliases. -/
theorem exists_free (t : AliasTable) (base : String) :
    ∃ n ≤ t.length, t.isTaken (Text.numbered base n) = false := by
  obtain ⟨n, le, free⟩ :=
    Text.exists_not_taken (t.map Alias.name) (Text.numbered_injective base)
  refine ⟨n, by simpa using le, ?_⟩
  simpa [isTaken] using free

/-- The name that a type is given is free. -/
theorem isTaken_fresh (t : AliasTable) (base : String) :
    t.isTaken (Text.firstFree t.isTaken base t.length) = false :=
  Text.isTaken_firstFree (t.exists_free base)

theorem Names.add (names : Names types t) (type : String) :
    Names (types ++ [type]) (t.add type) := by
  unfold AliasTable.add
  split_ifs with needed
  · obtain ⟨comma, unnamed⟩ := Bool.and_eq_true_iff.mp needed
    set name := Text.firstFree t.isTaken (Spelling.fileStem type) t.length with name_eq
    refine ⟨?_, ?_, ?_⟩
    · intro type' mem comma'
      rw [nameOf?_append, Option.isSome_or, Bool.or_eq_true]
      obtain mem | mem := List.mem_append.mp mem
      · exact .inl (names.all type' mem comma')
      · obtain rfl := List.mem_singleton.mp mem
        exact .inr (by simp [nameOf?])
    · intro a mem c c_mem
      obtain mem | mem := List.mem_append.mp mem
      · exact names.plain a mem c c_mem
      · obtain rfl := List.mem_singleton.mp mem
        obtain ⟨n, is_numbered⟩ :=
          Text.firstFree_eq_numbered t.isTaken (Spelling.fileStem type) t.length
        by_contra odd
        refine Spelling.notMem_numbered odd (fun mem => odd ?_) n
          (name_eq.trans is_numbered ▸ c_mem)
        exact Spelling.isPlain_of_mem_fileStem mem
    · rw [List.map_append]
      refine names.distinct.append (List.nodup_singleton _) ?_
      have free := isTaken_fresh t (Spelling.fileStem type)
      simpa [isTaken] using free
  · refine ⟨fun type' mem comma => ?_, names.plain, names.distinct⟩
    obtain mem | mem := List.mem_append.mp mem
    · exact names.all type' mem comma
    · obtain rfl := List.mem_singleton.mp mem
      have needs : needsAlias type' := by simpa [needsAlias] using comma
      simpa [needs, Option.isSome_iff_ne_none] using needed

theorem names_foldl (names : Names types t) (more : List String) :
    Names (types ++ more) (more.foldl AliasTable.add t) := by
  induction more generalizing types t with
  | nil => rwa [List.append_nil]
  | cons type more ih =>
    have names := ih (names.add type)
    rwa [List.append_assoc] at names

theorem names_ofTypes (types : List String) : Names types (ofTypes types) := by
  have none : Names [] [] := ⟨by simp, by simp, by simp⟩
  exact names_foldl none types

/-- The spelling has no comma: it is the type's name, or one that the table declares. -/
structure Spells (t : AliasTable) (type spelled : String) : Prop where
  no_comma : ',' ∉ spelled.toList
  kept : ',' ∉ type.toList → spelled = type
  declared : ',' ∈ type.toList → ⟨type, spelled⟩ ∈ t

/-- **Types that are used are spelled without commas.** -/
theorem spells_ofTypes (mem : type ∈ types) :
    (ofTypes types).Spells type ((ofTypes types).spell type) := by
  have names := names_ofTypes types
  by_cases comma : ',' ∈ type.toList
  · obtain ⟨name, named⟩ := Option.isSome_iff_exists.mp (names.all type mem comma)
    have spelled : (ofTypes types).spell type = name := by
      simp [spell, needsAlias, comma, named]
    have there := mem_of_nameOf? named
    rw [spelled]
    refine ⟨fun odd => absurd (names.plain _ there _ odd) (by decide), ?_, fun _ => there⟩
    exact fun no_comma => absurd comma no_comma
  · have spelled : (ofTypes types).spell type = type := by simp [spell, needsAlias, comma]
    rw [spelled]
    exact ⟨comma, fun _ => rfl, fun comma' => absurd comma' comma⟩

end AliasTable

/-! ### Macro calls -/

/-- An argument of a macro call. -/
inductive MacroArg where
  /-- A type that is spelled through the aliases of the unit. -/
  | type (name : String)
  /-- The type of the reflector itself, printed as it is. -/
  | ownName (name : String)
  | text (s : String)

namespace MacroArg

/-- The argument as it is printed. -/
def print (spell : String → String) : MacroArg → String
  | type name => spell name
  | ownName name => name
  | text s => s

/-- The type that is to be spelled. -/
def type? : MacroArg → Option String
  | type name => some name
  | ownName _ | text _ => none

/-- The type that the argument stands for. -/
def named? : MacroArg → Option String
  | type name | ownName name => some name
  | text _ => none

end MacroArg

/-- A macro call with its arguments. -/
structure MacroCall where
  name : String
  args : List MacroArg

/-- The call as it is printed. -/
def MacroCall.print (spell : String → String) (c : MacroCall) : String :=
  c.name ++ "(" ++ Text.join ", " (c.args.map (MacroArg.print spell)) ++ ")"

namespace Entry

/-- The arguments for a parameter at a place. -/
def paramCallArgs (withDefaults : Bool) (p : Parameter) (place : Nat) : List MacroArg :=
  [.text (direction p.type), .type p.type,
      .text (if p.name.isEmpty then "x" ++ toString place else p.name)] ++
    if withDefaults then [.text (p.default?.getD "")] else []

/-- The macro call of an entry. -/
def call : Entry → MacroCall
  | declaringFile header => ⟨"I_DeclaringFile", [.text (quoted header)]⟩
  | base type isVirtual => ⟨if isVirtual then "I_VirtualBaseType" else "I_BaseType", [.type type]⟩
  | method m =>
    { name := methodMacro m ++ toString m.params.length
      args := (m.returnType?.elim [] fun type => [.type type, .text m.name]) ++
        (m.params.zipIdx.flatMap fun (p, place) => paramCallArgs m.hasDefaults p place) ++
        (methodFlags m ++ closingArgs m).map .text }
  | property p ids =>
    let id (accessor? : Option String) : MacroArg := .text (accessor?.getD "0")
    match p.shape with
    | .field => ⟨"I_PublicMemberProperty", [.type p.type, .text p.name]⟩
    | .simple =>
      ⟨"I_SimpleProperty", [.type p.type, .text p.name, id ids.getter, id ids.setter]⟩
    | .array =>
      ⟨"I_ArrayProperty", [.type p.type, .text p.name, id ids.getter, id ids.setter,
        id ids.counter, id ids.adder, id ids.inserter, id ids.remover]⟩
    | .indexed =>
      ⟨"I_IndexedProperty", [.type p.type, .text p.name, .type (p.indexType?.getD ""),
        id ids.getter, id ids.setter]⟩
  | enumLabel label => ⟨"I_EnumLabel", [.text label]⟩

variable (spell : String → String)

theorem map_print_paramCallArgs (withDefaults : Bool) (p : Parameter) (place : Nat) :
    (paramCallArgs withDefaults p place).map (MacroArg.print spell) =
      paramArgs spell withDefaults p place := by
  cases withDefaults <;> rfl

/-- An entry is printed as its call. -/
theorem text_eq (e : Entry) : e.text spell = e.call.print spell ++ ";" := by
  have printed : e.text spell = macroCall e.call.name (e.call.args.map (MacroArg.print spell)) := by
    cases e with
    | declaringFile header => rfl
    | base type isVirtual => rfl
    | enumLabel label => rfl
    | method m =>
      have texts (ss : List String) : (ss.map MacroArg.text).map (MacroArg.print spell) = ss := by
        rw [List.map_map]
        exact List.map_id ss
      rw [text, methodText, call]
      simp only [List.map_append, texts, List.map_flatMap, map_print_paramCallArgs, paramsArgs,
        List.append_assoc]
      cases m.returnType? <;> rfl
    | property p ids =>
      obtain ⟨name, shape, type, indexType?, accessors, declaredIn?⟩ := p
      cases shape <;> rfl
  simp [printed, macroCall, MacroCall.print, String.append_assoc]

theorem filterMap_paramCallArgs (withDefaults : Bool) (p : Parameter) (place : Nat) :
    (paramCallArgs withDefaults p place).filterMap MacroArg.type? = [p.type] := by
  cases withDefaults <;> rfl

/-- The types that an entry spells are those in its call. -/
theorem types_eq (e : Entry) : e.types = e.call.args.filterMap MacroArg.type? := by
  cases e with
  | declaringFile header => rfl
  | base type isVirtual => rfl
  | enumLabel label => rfl
  | method m =>
    have texts (ss : List String) : (ss.map MacroArg.text).filterMap MacroArg.type? = [] := by
      rw [List.filterMap_map]
      exact List.filterMap_eq_nil_iff.mpr fun s _ => rfl
    have params : (m.params.zipIdx.flatMap fun (p, place) =>
        paramCallArgs m.hasDefaults p place).filterMap MacroArg.type? =
          m.params.map Parameter.type := by
      rw [List.filterMap_flatMap]
      simp only [filterMap_paramCallArgs]
      rw [← List.map_eq_flatMap]
      conv_rhs => rw [← List.zipIdx_map_fst 0 m.params, List.map_map]
      rfl
    rw [types, call, List.filterMap_append, List.filterMap_append, texts, params, List.append_nil]
    cases m.returnType? <;> rfl
  | property p ids =>
    obtain ⟨name, shape, type, indexType?, accessors, declaredIn?⟩ := p
    cases shape <;> rfl

/-- No entry prints a type as it is. -/
theorem ownName_notMem (e : Entry) (name : String) : .ownName name ∉ e.call.args := by
  cases e with
  | declaringFile header => simp [call]
  | base type isVirtual => simp [call]
  | enumLabel label => simp [call]
  | method m => cases returns : m.returnType? <;> simp [call, paramCallArgs, returns]
  | property p ids => cases shape : p.shape <;> simp [call, shape]

end Entry

/-! ### Reflectors -/

/-- Whether the reflectors of types of this kind print the names of their types as they
are. -/
def Kind.printsOwnName : Kind → Bool
  | typedef _ | enumeration _ _ => true
  | _ => false

/-- The entries of an enumeration name no types. -/
theorem Descriptor.types_labelEntries (d : Descriptor) (enumerators : List Enumerator)
    (isScoped : Bool) : (d.labelEntries enumerators isScoped).flatMap Entry.types = [] := by
  rw [List.flatMap_eq_nil_iff]
  intro e mem
  obtain mem | mem := List.mem_append.mp mem
  · obtain ⟨header, -, rfl⟩ := List.mem_map.mp mem
    rfl
  · obtain ⟨label, -, rfl⟩ := List.mem_map.mp mem
    rfl

namespace Reflector

/-- The macro calls of a reflector that is not written by the user. -/
def calls : Reflector → List MacroCall
  | written _ => []
  | synonym target name => [⟨"TYPE_NAME_ALIAS", [.type target, .ownName name]⟩]
  | container shape _ _ name => [⟨shape.reflectorMacro, [.type name]⟩]
  | enumeration name entries => ⟨"BEGIN_ENUM_REFLECTOR", [.ownName name]⟩ :: entries.map Entry.call
  | members opening name entries => ⟨opening, [.type name]⟩ :: entries.map Entry.call

/-- The lines behind the calls. -/
def closing : Reflector → List String
  | written _ | synonym _ _ | container _ _ _ _ => []
  | enumeration _ _ | members _ _ _ => ["END_REFLECTOR"]

/-- A reflector is laid out as its calls: the first stands alone, and the others are
statements. -/
theorem lines_eq (spell : String → String) {reflector : Reflector}
    (not_written : ∀ body, reflector ≠ .written body) :
    ∃ opening entries, reflector.calls = opening :: entries ∧
      reflector.lines spell = opening.print spell ::
        entries.map (fun c => "\t" ++ c.print spell ++ ";") ++ reflector.closing := by
  have entry_lines (entries : List Entry) :
      entries.map (fun e => "\t" ++ e.text spell) =
        (entries.map Entry.call).map fun c => "\t" ++ c.print spell ++ ";" := by
    rw [List.map_map]
    refine List.map_congr_left fun e _ => ?_
    rw [Entry.text_eq, Function.comp_apply, String.append_assoc]
  cases reflector with
  | written body => exact absurd rfl (not_written body)
  | synonym target name =>
    refine ⟨_, _, rfl, ?_⟩
    simp [lines, closing, MacroCall.print, MacroArg.print, Text.join, String.append_assoc]
  | container shape element mapped? name =>
    refine ⟨_, _, rfl, ?_⟩
    simp [lines, closing, MacroCall.print, MacroArg.print, Text.join, String.append_assoc]
  | enumeration name entries =>
    refine ⟨_, _, rfl, ?_⟩
    rw [lines, lines.block, entry_lines]
    simp [closing, MacroCall.print, MacroArg.print, Text.join]
  | members opening name entries =>
    refine ⟨_, _, rfl, ?_⟩
    rw [lines, lines.block, entry_lines]
    simp [closing, MacroCall.print, MacroArg.print, Text.join]

/-- A type in the call of an entry is one that the entry spells. -/
theorem mem_types_of_call {entries : List Entry} {c : MacroCall}
    (called : c ∈ entries.map Entry.call) {arg : MacroArg} (mem : arg ∈ c.args) {name : String}
    (named : arg.named? = some name) :
    arg = .type name ∧ name ∈ entries.flatMap Entry.types := by
  obtain ⟨e, e_mem, rfl⟩ := List.mem_map.mp called
  cases arg with
  | text s => cases named
  | ownName own => exact absurd mem (e.ownName_notMem own)
  | type other =>
    obtain rfl : other = name := Option.some.inj named
    refine ⟨rfl, List.mem_flatMap.mpr ⟨e, e_mem, ?_⟩⟩
    rw [e.types_eq]
    exact List.mem_filterMap.mpr ⟨_, mem, rfl⟩

/-- What a type in a call of a descriptor's reflector is: one that the aliases of the unit
are made for, or the name of the type itself. -/
theorem mem_types_or_ownName {r : Registry} {d : Descriptor} {c : MacroCall}
    (called : c ∈ (ofDescriptor r d).calls) {arg : MacroArg} (mem : arg ∈ c.args) {name : String}
    (named : arg.named? = some name) :
    arg = .type name ∧ name ∈ (ofDescriptor r d).types ∨
      arg = .ownName name ∧ name = d.name ∧ d.kind.printsOwnName := by
  unfold ofDescriptor at called ⊢
  cases kind : d.kind with
  | custom body =>
    rw [kind] at called
    cases called
  | typedef target =>
    rw [kind] at called
    obtain rfl := List.mem_singleton.mp called
    obtain rfl | mem := List.mem_cons.mp mem
    · obtain rfl : target = name := Option.some.inj named
      exact .inl ⟨rfl, List.mem_singleton.mpr rfl⟩
    · obtain rfl := List.mem_singleton.mp mem
      obtain rfl : d.name = name := Option.some.inj named
      exact .inr ⟨rfl, rfl, rfl⟩
  | container shape element mapped? =>
    rw [kind] at called
    obtain rfl := List.mem_singleton.mp called
    obtain rfl := List.mem_singleton.mp mem
    obtain rfl : d.name = name := Option.some.inj named
    exact .inl ⟨rfl, List.mem_singleton.mpr rfl⟩
  | enumeration enumerators isScoped =>
    rw [kind] at called
    obtain rfl | called := List.mem_cons.mp called
    · obtain rfl := List.mem_singleton.mp mem
      obtain rfl : d.name = name := Option.some.inj named
      exact .inr ⟨rfl, rfl, rfl⟩
    · obtain ⟨-, used⟩ := mem_types_of_call called mem named
      rw [d.types_labelEntries] at used
      cases used
  | _ =>
    rw [kind] at called
    obtain rfl | called := List.mem_cons.mp called
    · obtain rfl := List.mem_singleton.mp mem
      obtain rfl : d.name = name := Option.some.inj named
      exact .inl ⟨rfl, List.mem_cons_self⟩
    · obtain ⟨rfl, used⟩ := mem_types_of_call called mem named
      exact .inl ⟨rfl, List.mem_cons_of_mem _ used⟩

end Reflector

/-! ### Units -/

namespace SourceUnit

/-- The types in the macro calls of a unit, each with what stands for it there. -/
def typeArgs (u : SourceUnit) : List (String × String) :=
  (u.reflector.calls.flatMap MacroCall.args).filterMap fun arg =>
    arg.named?.map fun name => (name, arg.print u.aliases.spell)

theorem mem_typeArgs {u : SourceUnit} {name spelled : String} :
    (name, spelled) ∈ u.typeArgs ↔ ∃ c ∈ u.reflector.calls, ∃ arg ∈ c.args,
      arg.named? = some name ∧ arg.print u.aliases.spell = spelled := by
  simp only [typeArgs, List.mem_filterMap, List.mem_flatMap, Option.map_eq_some_iff,
    Prod.mk.injEq]
  constructor
  · rintro ⟨arg, ⟨c, called, mem⟩, _, named, rfl, printed⟩
    exact ⟨c, called, arg, mem, named, printed⟩
  · rintro ⟨c, called, arg, mem, named, printed⟩
    exact ⟨arg, ⟨c, called, mem⟩, _, named, rfl, printed⟩

variable {r : Registry} {d : Descriptor}

/-- A type in a macro call is spelled without commas, unless it is the own name of a
synonym or an enumeration. -/
theorem spells_or_ownName {name spelled : String}
    (mem : (name, spelled) ∈ (ofDescriptor r d).typeArgs) :
    (ofDescriptor r d).aliases.Spells name spelled ∨
      d.kind.printsOwnName ∧ name = d.name ∧ spelled = d.name := by
  obtain ⟨c, called, arg, arg_mem, named, rfl⟩ := mem_typeArgs.mp mem
  obtain ⟨rfl, used⟩ | ⟨rfl, rfl, own⟩ := Reflector.mem_types_or_ownName called arg_mem named
  · exact .inl (AliasTable.spells_ofTypes used)
  · exact .inr ⟨own, rfl, rfl⟩

theorem ownName_mem_typeArgs (own : d.kind.printsOwnName) :
    (d.name, d.name) ∈ (ofDescriptor r d).typeArgs := by
  rw [mem_typeArgs]
  simp only [ofDescriptor, Reflector.ofDescriptor]
  cases kind : d.kind with
  | typedef target =>
    exact ⟨_, List.mem_cons_self, .ownName d.name, by simp, rfl, rfl⟩
  | enumeration enumerators isScoped =>
    exact ⟨_, List.mem_cons_self, .ownName d.name, by simp, rfl, rfl⟩
  | _ =>
    rw [kind] at own
    cases own

/-- The arguments have no commas but for the one exception. -/
theorem no_commas_iff :
    (∀ a ∈ (ofDescriptor r d).typeArgs, ',' ∉ a.2.toList) ↔
      ¬ (d.kind.printsOwnName ∧ ',' ∈ d.name.toList) := by
  constructor
  · rintro none ⟨own, comma⟩
    exact none _ (ownName_mem_typeArgs own) comma
  · rintro allowed ⟨name, spelled⟩ mem comma
    obtain spells | ⟨own, -, rfl⟩ := spells_or_ownName mem
    · exact spells.no_comma comma
    · exact allowed ⟨own, comma⟩

end SourceUnit

namespace Registry

/-- **Types in macro calls are spelled without commas, but for the own names of synonyms
and enumerations.** A unit whose reflector the user has not written is laid out as its
macro calls. A type in one of them is spelled by its name, or by an alias that the unit
declares if the name has a comma; no two aliases are the same. The own name of a synonym
or an enumeration is printed as it is, and just where it has a comma an argument has one. -/
theorem type_arguments_spelled (r : Registry) (naming : Configuration) :
    ∀ u ∈ UnitFile.ofRegistry r naming, ∃ id d, r.get? id = some d ∧ u.type = d.name ∧
      let unit := SourceUnit.ofDescriptor r d
      u.contents = unit.render ∧ (unit.aliases.map Alias.name).Nodup ∧
        (d.kind.isCustom = false →
          (∃ opening entries, unit.reflector.calls = opening :: entries ∧
            unit.reflector.lines unit.aliases.spell = opening.print unit.aliases.spell ::
              entries.map (fun c => "\t" ++ c.print unit.aliases.spell ++ ";") ++
                unit.reflector.closing) ∧
          (∀ a ∈ unit.typeArgs, unit.aliases.Spells a.1 a.2 ∨
            d.kind.printsOwnName ∧ a.1 = d.name ∧ a.2 = d.name) ∧
          ((∀ a ∈ unit.typeArgs, ',' ∉ a.2.toList) ↔
            ¬ (d.kind.printsOwnName ∧ ',' ∈ d.name.toList))) := by
  intro u mem
  obtain ⟨id, d, there, type, contents, -⟩ := type_of_unit mem
  refine ⟨id, d, there, type, contents, (AliasTable.names_ofTypes _).distinct, ?_⟩
  refine fun no_custom => ⟨Reflector.lines_eq _ fun body written => ?_, ?_, ?_⟩
  · have custom : d.kind = .custom body := by
      cases kind : d.kind <;>
        simp [SourceUnit.ofDescriptor, Reflector.ofDescriptor, kind] at written
      rw [written]
    rw [custom] at no_custom
    cases no_custom
  · exact fun ⟨name, spelled⟩ mem => SourceUnit.spells_or_ownName mem
  · exact SourceUnit.no_commas_iff

/-- A class with a comma in its name, and with a member. -/
def pairWith (m : MemberDeclaration) : CompoundDeclaration :=
  (CompoundDeclaration.ofClass "Pair<int, float>").member m

/-- A method that returns another instantiation: both names are spelled by aliases. -/
theorem type_arguments_spelled_pair :
    let consolidated := ((build (.ofCompounds [pairWith (.function "swapped" "Pair<float, int>")])
      {}).registry.consolidate {}).registry
    ∃ u ∈ UnitFile.ofRegistry consolidated {}, ∃ d, u.type = d.name ∧
      ("Pair< float, int >", "Pair_float_int") ∈ (SourceUnit.ofDescriptor consolidated d).typeArgs ∧
      ∀ a ∈ (SourceUnit.ofDescriptor consolidated d).typeArgs, ',' ∉ a.2.toList := by
  intro consolidated
  have facts : ∀ d ∈ consolidated.types, d.kind.isCustom = false ∧ d.kind.printsOwnName = false ∧
      ("Pair< float, int >", "Pair_float_int") ∈
        (SourceUnit.ofDescriptor consolidated d).typeArgs := by
    decide +kernel
  have emitted : consolidated.emitted ≠ [] := by decide +kernel
  have units : UnitFile.ofRegistry consolidated {} ≠ [] := by
    simpa [UnitFile.ofRegistry] using emitted
  obtain ⟨u, mem⟩ := List.exists_mem_of_ne_nil _ units
  obtain ⟨id, d, there, type, -, -, spelled⟩ := type_arguments_spelled consolidated {} u mem
  obtain ⟨no_custom, no_own, used⟩ := facts d (mem_types_iff_get?.mpr ⟨id, there⟩)
  refine ⟨u, mem, d, type, used, (spelled no_custom).2.2.mpr ?_⟩
  simp [no_own]

/-- A synonym in the scope of a class with a comma in its name prints the comma. -/
theorem commas_in_arguments :
    ¬ ∀ (index : DeclarationIndex) (config : Configuration),
      let consolidated := ((build index config).registry.consolidate config).registry
      ∀ d ∈ consolidated.types, d.isEmitted → d.kind.isCustom = false →
        ∀ a ∈ (SourceUnit.ofDescriptor consolidated d).typeArgs, ',' ∉ a.2.toList := by
  intro always
  have inside : ∃ d ∈ (build (.ofCompounds [pairWith <|
        MemberDeclaration.typedef "Key" "int"]) {}).registry.types,
      (d.state ≠ .invalid ∧ d.bases = [] ∧ d.IsOpen {}) ∧ d.kind = Kind.typedef "int" ∧
        ',' ∈ d.name.toList := by
    decide +kernel
  obtain ⟨d, registered, ⟨valid, no_bases, is_open⟩, synonym, comma⟩ := inside
  obtain ⟨D, mem, same, emitted, leavesOver, completed⟩ :=
    exists_emitted rfl registered valid no_bases is_open
  have kind : D.kind = Kind.typedef "int" := by rw [completed, synonym]; rfl
  rw [← same.name] at comma
  have own : D.kind.printsOwnName := by rw [kind]; rfl
  have none := always _ {} D mem emitted (by rw [kind]; rfl)
  exact SourceUnit.no_commas_iff.mp none ⟨own, comma⟩

end Registry

end Reflectory
