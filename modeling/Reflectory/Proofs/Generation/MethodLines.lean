/-
The lines of methods in a unit.

A type keeps its methods as they are declared. Its unit writes the constructors first and
puts the overloads of each other name side by side: it collects the names, and goes through
all methods again for each of them. The names that are collected are in the order of their
first declaration, and each overload has one of them.

* `groupsOverloads_groupedMethods`: how the other methods are written.
* `method_lines_grouped`: the lines of a unit that wrap constructors and methods.
-/

import Reflectory.Proofs.Generation.Counts

namespace Reflectory

open Text

/-! ### Lines -/

namespace SourceUnit

/-- The lines before the reflector. -/
def preamble (u : SourceUnit) : List String :=
  banner ++ u.headers.map (fun h => "#include <" ++ h ++ ">") ++ [""] ++ directionGuard ++
    aliasLines u.aliases

/-- The lines of a unit without line ends. -/
def lines (u : SourceUnit) : List String :=
  u.preamble ++ u.reflector.lines u.aliases.spell

theorem render_eq (u : SourceUnit) : u.render = unlines u.lines :=
  rfl

end SourceUnit

/-- The macros for constructors and other methods, without what follows for the defaults and
the number of parameters. -/
def methodMacros : List String :=
  ["I_Constructor", "I_StaticMethod", "I_ProtectedMethod", "I_Method"]

/-- Whether the line of a unit calls a macro for a constructor or another method. -/
def wrapsMethod (line : String) : Bool :=
  methodMacros.any fun name => ("\t" ++ name).toList.isPrefixOf line.toList

theorem wrapsMethod_of_ne_tab {line : String} (ne : line.toList.head? ≠ some '\t') :
    wrapsMethod line = false := by
  cases split : line.toList with
  | nil => simp [wrapsMethod, methodMacros, split]
  | cons c cs =>
    have other : '\t' ≠ c := by simpa [split, eq_comm] using ne
    simp [wrapsMethod, methodMacros, split, List.isPrefixOf_cons_cons, other]

theorem isPrefixOf_append_cons {c : Char} {part before after : List Char} (absent : c ∉ part) :
    part.isPrefixOf (before ++ c :: after) = part.isPrefixOf before := by
  induction before generalizing part with
  | nil =>
    cases part with
    | nil => rfl
    | cons d part => simp [List.isPrefixOf_cons_cons, (List.ne_of_not_mem_cons absent).symm]
  | cons d before ih =>
    cases part with
    | nil => rfl
    | cons e part =>
      rw [List.cons_append, List.isPrefixOf_cons_cons, List.isPrefixOf_cons_cons,
        ih (List.not_mem_of_not_mem_cons absent)]

/-- The name of a macro is what tells its calls. -/
theorem wrapsMethod_macroCall (name : String) (args : List String) :
    wrapsMethod ("\t" ++ macroCall name args) =
      methodMacros.any fun start => start.toList.isPrefixOf name.toList := by
  have absent : ∀ start ∈ methodMacros, '(' ∉ start.toList := by decide
  have line : ("\t" ++ macroCall name args).toList =
      '\t' :: (name.toList ++ '(' :: ((join ", " args).toList ++ [')', ';'])) := by
    simp [macroCall]
  rw [wrapsMethod, line, Bool.eq_iff_iff, List.any_eq_true, List.any_eq_true]
  refine exists_congr fun start => and_congr_right fun mem => ?_
  rw [← isPrefixOf_append_cons (absent start mem), String.toList_append]
  rfl

namespace Entry

theorem prefix_methodMacro (m : Method) :
    ∃ start ∈ methodMacros, start.toList <+: (methodMacro m).toList := by
  unfold methodMacro
  dsimp only
  split_ifs <;> decide

/-- Of the entries, those for methods are written with these macros. -/
theorem wrapsMethod_text (spell : String → String) (e : Entry) :
    wrapsMethod ("\t" ++ e.text spell) = e.isMethod := by
  cases e with
  | declaringFile header => exact (wrapsMethod_macroCall ..).trans (by rfl)
  | base type isVirtual => cases isVirtual <;> exact (wrapsMethod_macroCall ..).trans (by rfl)
  | enumLabel label => exact (wrapsMethod_macroCall ..).trans (by rfl)
  | property p ids =>
    rw [text, propertyText]
    cases p.shape <;> exact (wrapsMethod_macroCall ..).trans (by rfl)
  | method m =>
    obtain ⟨start, mem, begins⟩ := prefix_methodMacro m
    rw [text, methodText, wrapsMethod_macroCall]
    refine List.any_eq_true.mpr ⟨start, mem, List.isPrefixOf_iff_prefix.mpr ?_⟩
    rw [String.toList_append]
    exact begins.trans (List.prefix_append _ _)

end Entry

namespace SourceUnit

/-- The lines for the aliases are typedefs and a blank line. -/
theorem head?_of_mem_aliasLines {aliases : AliasTable} {line : String}
    (mem : line ∈ aliasLines aliases) :
    line.toList.head? = some 't' ∨ line.toList.head? = none := by
  unfold aliasLines at mem
  split_ifs at mem
  · cases mem
  · obtain mem | mem := List.mem_append.mp mem
    · obtain ⟨a, -, rfl⟩ := List.mem_map.mp mem
      simp
    · obtain rfl := List.mem_singleton.mp mem
      exact .inr rfl

/-- What comes before the reflector wraps nothing. -/
theorem wrapsMethod_preamble (u : SourceUnit) {line : String} (mem : line ∈ u.preamble) :
    wrapsMethod line = false := by
  refine wrapsMethod_of_ne_tab ?_
  simp only [preamble, List.mem_append, or_assoc] at mem
  obtain mem | mem | mem | mem | mem := mem
  · exact (by decide +kernel : ∀ line ∈ banner, line.toList.head? ≠ some '\t') line mem
  · obtain ⟨h, -, rfl⟩ := List.mem_map.mp mem
    simp
  · obtain rfl := List.mem_singleton.mp mem
    decide
  · exact (by decide +kernel : ∀ line ∈ directionGuard, line.toList.head? ≠ some '\t') line mem
  · obtain first | first := head?_of_mem_aliasLines mem <;> simp [first]

end SourceUnit

/-- Only the entries of a reflector are indented. -/
theorem Reflector.filter_wrapsMethod_members (spell : String → String) {opening : String}
    (begins : opening.toList.head? = some 'B') (name : String) (entries : List Entry) :
    ((members opening name entries).lines spell).filter wrapsMethod =
      (entries.filter Entry.isMethod).map fun e => "\t" ++ e.text spell := by
  have first : wrapsMethod (opening ++ "(" ++ spell name ++ ")") = false := by
    refine wrapsMethod_of_ne_tab ?_
    obtain ⟨cs, split⟩ := List.head?_eq_some_iff.mp begins
    simp [split]
  have last : wrapsMethod "END_REFLECTOR" = false := wrapsMethod_of_ne_tab (by decide)
  have entry_lines : (entries.map fun e => "\t" ++ e.text spell).filter wrapsMethod =
      (entries.filter Entry.isMethod).map fun e => "\t" ++ e.text spell := by
    rw [List.filter_map]
    exact congrArg _ (List.filter_congr fun e _ => Entry.wrapsMethod_text spell e)
  rw [lines, lines.block, List.filter_append, List.filter_append, entry_lines]
  simp [first, last]

/-! ### Overloads -/

/-- How methods are printed whose overloads are put side by side: the overloads of a name
follow each other, the names in the order in which they are declared first, and the overloads
of each name in theirs. -/
structure GroupsOverloads (declared printed : List Method) : Prop where
  perm : printed.Perm declared
  together : ∀ m between m', m :: (between ++ [m']) <:+: printed → m.name = m'.name →
    ∀ o ∈ between, o.name = m.name
  by_first : printed.Pairwise fun m m' =>
    (declared.map Method.name).idxOf m.name ≤ (declared.map Method.name).idxOf m'.name
  stable : ∀ name, printed.filter (fun m => m.name == name) =
    declared.filter fun m => m.name == name

/-- New texts are collected in the order in which they come first. -/
theorem pairwise_idxOf_foldl_insertNew (names : List String) :
    (names.foldl Spelling.insertNew []).Pairwise fun a b => names.idxOf a < names.idxOf b := by
  induction names using List.reverseRecOn with
  | nil => exact .nil
  | append_singleton names name ih =>
    have kept : (names.foldl Spelling.insertNew []).Pairwise fun a b =>
        (names ++ [name]).idxOf a < (names ++ [name]).idxOf b := by
      refine ih.imp_of_mem fun {a b} mem mem' less => ?_
      have there := (Spelling.mem_foldl_insertNew.mp mem).resolve_left List.not_mem_nil
      have there' := (Spelling.mem_foldl_insertNew.mp mem').resolve_left List.not_mem_nil
      rwa [List.idxOf_append_of_mem there, List.idxOf_append_of_mem there']
    rw [List.foldl_append, List.foldl_cons, List.foldl_nil, Spelling.insertNew]
    split_ifs with old
    · exact kept
    · have fresh : name ∉ names := fun mem => old <|
        List.elem_eq_true_of_mem (Spelling.mem_foldl_insertNew.mpr (.inr mem))
      refine List.pairwise_append.mpr ⟨kept, List.pairwise_singleton _ _, ?_⟩
      intro a mem b mem'
      obtain rfl := List.mem_singleton.mp mem'
      have there := (Spelling.mem_foldl_insertNew.mp mem).resolve_left List.not_mem_nil
      rw [List.idxOf_append_of_mem there, List.idxOf_append_of_notMem fresh]
      have := List.idxOf_lt_length_of_mem there
      omega

/-- Grouping by different keys keeps the items of each of them as they were. -/
theorem filter_groups {α : Type} (key : α → String) (items : List α) {keys : List String}
    (nodup : keys.Nodup) (k : String) :
    (keys.flatMap fun k' => items.filter fun x => key x == k').filter (fun x => key x == k) =
      if k ∈ keys then items.filter fun x => key x == k else [] := by
  induction keys with
  | nil => rfl
  | cons k' keys ih =>
    obtain ⟨fresh, nodup⟩ := List.nodup_cons.mp nodup
    rw [List.flatMap_cons, List.filter_append, List.filter_filter, ih nodup]
    obtain rfl | other := eq_or_ne k k'
    · simp [fresh]
    · have none : (items.filter fun x => key x == k && key x == k') = [] := by
        rw [List.filter_eq_nil_iff]
        rintro x - both
        obtain ⟨same, same'⟩ := Bool.and_eq_true_iff.mp both
        exact other ((eq_of_beq same).symm.trans (eq_of_beq same'))
      simp [none, other]

namespace Descriptor

/-- **Overloads are put side by side.** -/
theorem groupsOverloads_groupedMethods (d : Descriptor) :
    GroupsOverloads (d.wrappedMethods.filter fun m => !m.isConstructor) d.groupedMethods := by
  set declared := d.wrappedMethods.filter fun m => !m.isConstructor with declared_eq
  set names := (declared.map Method.name).foldl Spelling.insertNew [] with names_eq
  have grouped : d.groupedMethods =
      names.flatMap fun name => declared.filter fun m => m.name == name := rfl
  have collected (m : Method) (mem : m ∈ declared) : m.name ∈ names :=
    Spelling.mem_foldl_insertNew.mpr (.inr (List.mem_map_of_mem mem))
  have by_first : d.groupedMethods.Pairwise fun m m' =>
      (declared.map Method.name).idxOf m.name ≤ (declared.map Method.name).idxOf m'.name := by
    rw [grouped, List.pairwise_flatMap]
    constructor
    · intro name _
      refine List.pairwise_of_forall_mem_list fun m mem m' mem' => ?_
      rw [eq_of_beq (List.mem_filter.mp mem).2, eq_of_beq (List.mem_filter.mp mem').2]
    · refine (pairwise_idxOf_foldl_insertNew _).imp fun {a b} less m mem m' mem' => ?_
      rw [eq_of_beq (List.mem_filter.mp mem).2, eq_of_beq (List.mem_filter.mp mem').2]
      exact less.le
  refine ⟨d.groupedMethods_perm, ?_, by_first, fun name => ?_⟩
  · intro m between m' part same o mem
    have there : m.name ∈ declared.map Method.name :=
      List.mem_map_of_mem (d.groupedMethods_perm.subset (part.subset List.mem_cons_self))
    obtain ⟨before, others⟩ := List.pairwise_cons.mp (by_first.sublist part.sublist)
    have le := before o (List.mem_append_left _ mem)
    have ge := (List.pairwise_append.mp others).2.2 o mem m' (List.mem_singleton.mpr rfl)
    rw [← same] at ge
    exact ((List.idxOf_inj there).mp (le_antisymm le ge)).symm
  · rw [grouped, filter_groups Method.name declared
      (Spelling.nodup_foldl_insertNew _ List.nodup_nil)]
    split_ifs with named
    · rfl
    · rw [eq_comm, List.filter_eq_nil_iff]
      rintro m mem same
      exact named (eq_of_beq same ▸ collected m mem)

/-- The constructors of a type that is not abstract are all wrapped. -/
theorem constructors_eq {d : Descriptor} (reflected : d.kind.hasMembers) :
    d.constructors = if d.isAbstract then [] else d.methods.filter Method.isConstructor := by
  rw [constructors, wrappedMethods, List.filter_filter]
  split_ifs with abstract_type
  · rw [List.filter_eq_nil_iff]
    intro m _
    cases m.isConstructor <;> simp [abstract_type]
  · simp [reflected, abstract_type]

/-- The other methods of a type are all wrapped. -/
theorem filter_wrappedMethods {d : Descriptor} (reflected : d.kind.hasMembers) :
    (d.wrappedMethods.filter fun m => !m.isConstructor) =
      d.methods.filter fun m => !m.isConstructor := by
  rw [wrappedMethods, List.filter_filter]
  refine List.filter_congr fun m _ => ?_
  cases constructor : m.isConstructor <;> simp [reflected]

/-- The reflector of a class has its members between the first line and the last. -/
theorem exists_reflector_eq (r : Registry) {d : Descriptor} (reflected : d.kind.hasMembers) :
    ∃ opening : String, opening.toList.head? = some 'B' ∧
      (SourceUnit.ofDescriptor r d).reflector = .members opening d.name (d.memberEntries r) := by
  unfold SourceUnit.ofDescriptor Reflector.ofDescriptor
  cases kind : d.kind with
  | object is_abstract => cases is_abstract <;> exact ⟨_, by rfl, rfl⟩
  | plain => exact ⟨_, by rfl, rfl⟩
  | _ => simp [kind, Kind.hasMembers] at reflected

theorem filter_isMethod_memberEntries (r : Registry) (d : Descriptor) :
    (d.memberEntries r).filter Entry.isMethod =
      (d.constructors ++ d.groupedMethods).map .method := by
  have headers : d.headerEntries.filter Entry.isMethod = [] := by
    rw [List.filter_eq_nil_iff]
    intro e mem
    obtain ⟨header, rfl⟩ := eq_declaringFile_of_mem_headerEntries mem
    exact Bool.false_ne_true
  have bases : (d.baseEntries r).filter Entry.isMethod = [] := by
    rw [List.filter_eq_nil_iff]
    intro e mem
    obtain ⟨type, isVirtual, rfl⟩ := eq_base_of_mem_baseEntries mem
    exact Bool.false_ne_true
  have properties : (d.wrappedProperties.map d.propertyEntry).filter Entry.isMethod = [] := by
    rw [List.filter_map]
    simp [Entry.isMethod, propertyEntry, Function.comp_def]
  have methods (ms : List Method) :
      (ms.map Entry.method).filter Entry.isMethod = ms.map .method := by
    rw [List.filter_map]
    simp [Entry.isMethod, Function.comp_def]
  rw [memberEntries, List.filter_append, List.filter_append, List.filter_append, headers, bases,
    properties, methods]
  simp

end Descriptor

/-- **The methods of a unit are grouped by overloads.** In the unit of a class, the lines that
wrap constructors and methods are those for the constructors as they are declared, none for an
abstract type, and then those for all other methods, with overloads put side by side. -/
theorem method_lines_grouped (r : Registry) {d : Descriptor} (reflected : d.kind.hasMembers) :
    let unit := SourceUnit.ofDescriptor r d
    let constructors := if d.isAbstract then [] else d.methods.filter Method.isConstructor
    unit.render = unlines unit.lines ∧
    ∃ others, GroupsOverloads (d.methods.filter fun m => !m.isConstructor) others ∧
      unit.lines.filter wrapsMethod = (constructors ++ others).map fun m =>
        "\t" ++ Entry.methodText unit.aliases.spell m := by
  intro unit constructors
  have grouped := d.groupsOverloads_groupedMethods
  rw [Descriptor.filter_wrappedMethods reflected] at grouped
  refine ⟨unit.render_eq, d.groupedMethods, grouped, ?_⟩
  have before : unit.preamble.filter wrapsMethod = [] := by
    rw [List.filter_eq_nil_iff]
    intro line mem
    rw [unit.wrapsMethod_preamble mem]
    exact Bool.false_ne_true
  have reflector : (unit.reflector.lines unit.aliases.spell).filter wrapsMethod =
      ((d.memberEntries r).filter Entry.isMethod).map fun e =>
        "\t" ++ e.text unit.aliases.spell := by
    obtain ⟨opening, begins, written⟩ := Descriptor.exists_reflector_eq r reflected
    rw [written, Reflector.filter_wrapsMethod_members _ begins]
  rw [SourceUnit.lines, List.filter_append, before, reflector,
    d.filter_isMethod_memberEntries, Descriptor.constructors_eq reflected, List.map_map]
  rfl

/-- A class with another method and the constructor between two overloads. -/
def groupNode : Descriptor :=
  { Descriptor.ofSpelled "Group" (.object false) with
    methods := [.ofSpelled "add" "void" [.ofSpelled "Node *" "child" none],
      .constructor "Group" [], .ofSpelled "clear" "void" [],
      .ofSpelled "add" "void" [.ofSpelled "int" "count" none]] }

/-- Its unit wraps the constructor and three methods, the overloads in their order. -/
theorem method_lines_grouped_groupNode :
    let unit := SourceUnit.ofDescriptor {} groupNode
    ∃ others, others.length = 3 ∧
      (others.filter fun m => m.name == "add") = groupNode.methods.filter (·.name == "add") ∧
      unit.lines.filter wrapsMethod = ([.constructor "Group" []] ++ others).map fun m =>
        "\t" ++ Entry.methodText unit.aliases.spell m := by
  obtain ⟨-, others, grouped, lines⟩ :=
    method_lines_grouped {} (by decide : groupNode.kind.hasMembers)
  refine ⟨others, grouped.perm.length_eq, ?_, lines⟩
  exact (grouped.stable "add").trans (by decide +kernel)

end Reflectory
