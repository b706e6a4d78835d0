/-
Stems for the files of types.

Stems are given out in the order of type names. Each type takes the first of its candidates
that no type before it has, in any case of letters: its base name, which the configuration
gives or which is made of the type's name, and then the base name with a number from two on.
A type never takes more than one candidate from another one, so the search ends before the
types do; and since only the order of names counts, the types can be listed in any order.

* `InTurn`: every stem is the first candidate that those before it leave free.
* `stems_tell_types_apart`: the stems of the types of a registry.
-/

import Reflectory.Proofs.Generation.FileNames

namespace Reflectory

namespace Text

/-- All candidates before the one that is found are taken. -/
theorem exists_firstFree_eq (isTaken : String → Bool) (base : String) (count : Nat) :
    ∃ n ≤ count, firstFree isTaken base count = numbered base n ∧
      ∀ m < n, isTaken (numbered base m) := by
  unfold firstFree
  rw [List.find?_map]
  cases found : (List.range count).find? ((fun s => !isTaken s) ∘ numbered base) with
  | some n =>
    obtain ⟨-, mem, earlier⟩ := List.find?_range_eq_some.mp found
    exact ⟨n, (List.mem_range.mp mem).le, rfl, fun m less => by simpa using earlier m less⟩
  | none =>
    have taken := List.find?_range_eq_none.mp found
    exact ⟨count, le_rfl, rfl, fun m less => by simpa using taken m less⟩

/-- The first candidate is the name, and the others are numbered from two on. -/
theorem numbered_eq (base : String) (n : Nat) :
    numbered base n = base ∨ ∃ number ≥ 2, numbered base n = base ++ "_" ++ toString number := by
  cases n with
  | zero => exact .inl rfl
  | succ n => exact .inr ⟨n + 2, Nat.le_add_left 2 n, rfl⟩

end Text

namespace Spelling

theorem fileStem_ne_empty (type : String) : fileStem type ≠ "" := by
  simp only [fileStem]
  split_ifs with nothing
  · decide
  · intro empty
    exact nothing (by simpa using congrArg String.toList empty)

end Spelling

namespace FileStem

open Text

variable {config : Configuration}

/-! ### Stems in turn -/

/-- Every stem is the first candidate for its type that those before it leave free. -/
def InTurn (config : Configuration) (stems : List FileStem) : Prop :=
  ∀ (before : List FileStem) (s : FileStem) (after : List FileStem), stems = before ++ s :: after →
    ∃ n ≤ before.length, s.stem = numbered (baseOf config s.type) n ∧
      ∀ m < n, isTaken before (numbered (baseOf config s.type) m)

/-- Choosing one more stem leaves the others as they are. -/
theorem InTurn.choose {stems : List FileStem} (inTurn : InTurn config stems) (type : String) :
    InTurn config (choose config stems type) := by
  intro before s after split
  rcases List.eq_nil_or_concat after with rfl | ⟨after, last, rfl⟩
  · obtain ⟨rfl, same⟩ := List.append_inj' split rfl
    obtain rfl := List.singleton_inj.mp same
    exact exists_firstFree_eq (isTaken stems) (baseOf config type) stems.length
  · rw [List.concat_eq_append, ← List.cons_append, ← List.append_assoc] at split
    exact inTurn before s after (List.append_inj' split rfl).1

theorem inTurn_foldl (types : List String) {stems : List FileStem} (inTurn : InTurn config stems) :
    InTurn config (types.foldl (FileStem.choose config) stems) := by
  induction types generalizing stems with
  | nil => exact inTurn
  | cons type types ih => exact ih (inTurn.choose type)

theorem inTurn_ofTypes (config : Configuration) (types : List String) :
    InTurn config (ofTypes config types) :=
  inTurn_foldl _ fun before s after split => by simp at split

/-! ### The stem of a type -/

variable {types : List String} {type : String}

/-- Stems are given out in the order of names. -/
theorem pairwise_ofTypes (config : Configuration) (distinct : types.Nodup) :
    (ofTypes config types).Pairwise fun s s' => s.type < s'.type := by
  rw [← List.pairwise_map (f := FileStem.type) (R := (· < ·)),
    (chosen_ofTypes config types).types_eq]
  have sorted := List.pairwise_mergeSort' (fun a b : String => a ≤ b) types
  have distinct : (types.mergeSort fun a b => a ≤ b).Nodup :=
    (List.mergeSort_perm types _).nodup_iff.mpr distinct
  exact (sorted.and distinct).imp fun both => lt_of_le_of_ne both.1 both.2

theorem mem_types_of_mem (config : Configuration) {s : FileStem} (mem : s ∈ ofTypes config types) :
    s.type ∈ types := by
  have listed : s.type ∈ (ofTypes config types).map FileStem.type := List.mem_map_of_mem mem
  rw [(chosen_ofTypes config types).types_eq] at listed
  exact List.mem_mergeSort.mp listed

/-- The stem that stands in the list is that of its type. -/
theorem of_type_eq (distinct : types.Nodup) {s : FileStem} (mem : s ∈ ofTypes config types) :
    of (ofTypes config types) s.type = s.stem := by
  obtain ⟨s', mem', same, stem⟩ := exists_of config (mem_types_of_mem config mem)
  have distinct : ((ofTypes config types).map FileStem.type).Nodup := by
    rw [(chosen_ofTypes config types).types_eq]
    exact (List.mergeSort_perm types _).nodup_iff.mpr distinct
  rw [stem, List.inj_on_of_nodup_map distinct mem' mem same]

/-- A type takes the first of its candidates that the types before it in the order of names
leave free. -/
theorem exists_of_eq_numbered (config : Configuration) (distinct : types.Nodup)
    (mem : type ∈ types) :
    ∃ n < types.length, of (ofTypes config types) type = numbered (baseOf config type) n ∧
      ∀ m < n, ∃ type' ∈ types, type' < type ∧
        lowercase (of (ofTypes config types) type').toList =
          lowercase (numbered (baseOf config type) m).toList := by
  obtain ⟨s, s_mem, rfl, stem⟩ := exists_of config mem
  obtain ⟨before, after, split⟩ := List.append_of_mem s_mem
  obtain ⟨n, le, is_numbered, taken⟩ := inTurn_ofTypes config types before s after split
  refine ⟨n, ?_, stem.trans is_numbered, fun m less => ?_⟩
  · have length : (ofTypes config types).length = types.length := by
      simpa using congrArg List.length (chosen_ofTypes config types).types_eq
    rw [← length, split, List.length_append, List.length_cons]
    omega
  · obtain ⟨s', mem', same⟩ : ∃ s' ∈ before, lowercase s'.stem.toList =
        lowercase (numbered (baseOf config s.type) m).toList := by
      simpa [isTaken] using taken m less
    have s'_mem : s' ∈ ofTypes config types := split ▸ List.mem_append_left _ mem'
    have earlier : s'.type < s.type := by
      have ordered := pairwise_ofTypes config distinct
      rw [split, List.pairwise_append] at ordered
      exact ordered.2.2 s' mem' s List.mem_cons_self
    refine ⟨s'.type, mem_types_of_mem config s'_mem, earlier, ?_⟩
    rw [of_type_eq distinct s'_mem, same]

/-- A stem that the configuration does not give is made of plain characters. -/
theorem isPlain_of_mem_of (distinct : types.Nodup) (mem : type ∈ types)
    (free : config.outputName? type = none) :
    of (ofTypes config types) type ≠ "" ∧
      ∀ c ∈ (of (ofTypes config types) type).toList, Spelling.IsPlain c := by
  obtain ⟨n, -, same, -⟩ := exists_of_eq_numbered config distinct mem
  have base : baseOf config type = Spelling.fileStem type := by
    rw [baseOf, free, Option.getD_none]
  rw [same, base]
  constructor
  · intro empty
    have characters := congrArg String.toList empty
    rw [toList_numbered, String.toList_empty, List.append_eq_nil_iff] at characters
    exact Spelling.fileStem_ne_empty type (String.toList_eq_nil_iff.mp characters.1)
  · intro c mem
    rw [toList_numbered, List.mem_append] at mem
    exact mem.elim Spelling.isPlain_of_mem_fileStem Spelling.isPlain_of_mem_numberSuffix

/-- **Stems tell types apart.** For types of a registry that the operations make, in any
number and order, and for every configuration, each type has a stem: the first of its
candidates that no type before it in the order of names has in any case of letters. So it
is the base name, or the base name with a number from two on; no two stems are equal in
lower case; and the types can be listed in another order. A stem that the configuration
does not give is not empty and has only ASCII letters, digits and low lines. -/
theorem stems_tell_types_apart {r : Registry} (built : r.Built) (config : Configuration)
    {ids : List TypeId} (distinct : ids.Nodup) (registered : ∀ id ∈ ids, id ∈ r.ids) :
    let stems := ofTypes config (ids.map r.nameOf)
    let stem := fun id => of stems (r.nameOf id)
    let base := fun id => baseOf config (r.nameOf id)
    (stems.map FileStem.type).Perm (ids.map r.nameOf) ∧
      (∀ id ∈ ids, ∃ n < ids.length, stem id = numbered (base id) n ∧
        ∀ m < n, ∃ id' ∈ ids, r.nameOf id' < r.nameOf id ∧
          lowercase (stem id').toList = lowercase (numbered (base id) m).toList) ∧
      (∀ id ∈ ids, stem id = base id ∨
        ∃ number ≥ 2, stem id = base id ++ "_" ++ toString number) ∧
      (∀ id ∈ ids, ∀ id' ∈ ids, id ≠ id' →
        lowercase (stem id).toList ≠ lowercase (stem id').toList) ∧
      (∀ ids' : List TypeId, ids'.Perm ids → ofTypes config (ids'.map r.nameOf) = stems) ∧
      ∀ id ∈ ids, config.outputName? (r.nameOf id) = none →
        stem id ≠ "" ∧ ∀ c ∈ (stem id).toList, c.isAlphanum ∨ c = '_' := by
  intro stems stem base
  have names_injective : ∀ id ∈ ids, ∀ id' ∈ ids, r.nameOf id = r.nameOf id' → id = id' := by
    intro id mem id' mem'
    exact built.eq_of_nameOf_eq (registered id mem) (registered id' mem')
  have names_distinct : (ids.map r.nameOf).Nodup := distinct.map_on names_injective
  have first_free : ∀ id ∈ ids, ∃ n < ids.length, stem id = numbered (base id) n ∧
      ∀ m < n, ∃ id' ∈ ids, r.nameOf id' < r.nameOf id ∧
        lowercase (stem id').toList = lowercase (numbered (base id) m).toList := by
    intro id mem
    simpa using exists_of_eq_numbered config names_distinct (List.mem_map_of_mem mem)
  refine ⟨?_, first_free, fun id mem => ?_, ?_, fun ids' perm => ?_, ?_⟩
  · rw [(chosen_ofTypes config _).types_eq]
    exact List.mergeSort_perm _ _
  · obtain ⟨n, -, same, -⟩ := first_free id mem
    rw [same]
    exact numbered_eq (base id) n
  · intro id mem id' mem' other same
    refine other (names_injective id mem id' mem' ?_)
    exact eq_of_lowercase_of_eq (List.mem_map_of_mem mem) (List.mem_map_of_mem mem') same
  · simp only [stems, ofTypes, mergeSort_congr (perm.map r.nameOf)]
  · intro id mem free
    exact isPlain_of_mem_of names_distinct (List.mem_map_of_mem mem) free

/-- Two types whose names differ in nothing that file names show, and a third one. -/
def namesakes : Registry where
  types := ["Leaf", "scene_a::Node", "scene::a::Node"].map (Descriptor.ofSpelled · (.object false))

/-- A configuration that gives the file of the third type their base name in capitals. -/
def shouted : Configuration where
  namingOverrides := [("Leaf", "SCENE_A_NODE")]

theorem built_namesakes : namesakes.Built := by
  have leaf : Registry.register {} (.ofSpelled "Leaf" (.object false)) =
      .ok (⟨0⟩, { types := namesakes.types.take 1 }) := rfl
  have second : Registry.register { types := namesakes.types.take 1 }
      (.ofSpelled "scene_a::Node" (.object false)) =
        .ok (⟨1⟩, { types := namesakes.types.take 2 }) := by
    decide +kernel
  have third : Registry.register { types := namesakes.types.take 2 }
      (.ofSpelled "scene::a::Node" (.object false)) = .ok (⟨2⟩, namesakes) := by
    decide +kernel
  exact .register (.register (.register .empty leaf) second) third

/-- In order of names, the override comes first and the others are numbered, wherever the
types stand in the list. -/
theorem stems_tell_types_apart_namesakes :
    let stems := ofTypes shouted ([⟨1⟩, ⟨0⟩, ⟨2⟩].map namesakes.nameOf)
    stems = ofTypes shouted ["Leaf", "scene::a::Node", "scene_a::Node"] ∧
      of stems "Leaf" = "SCENE_A_NODE" ∧ of stems "scene::a::Node" = "scene_a_Node_2" ∧
      of stems "scene_a::Node" = "scene_a_Node_3" := by
  intro stems
  have distinct : [(⟨1⟩ : TypeId), ⟨0⟩, ⟨2⟩].Nodup := by decide
  have facts := stems_tell_types_apart built_namesakes shouted distinct (by decide)
  have order : [(⟨0⟩ : TypeId), ⟨2⟩, ⟨1⟩].map namesakes.nameOf =
      ["Leaf", "scene::a::Node", "scene_a::Node"] := by decide +kernel
  have sorted : stems = ofTypes shouted ["Leaf", "scene::a::Node", "scene_a::Node"] := by
    rw [← order]
    exact (facts.2.2.2.2.1 [⟨0⟩, ⟨2⟩, ⟨1⟩] (by decide)).symm
  have already : ["Leaf", "scene::a::Node", "scene_a::Node"].mergeSort (fun a b => a ≤ b) =
      ["Leaf", "scene::a::Node", "scene_a::Node"] :=
    List.mergeSort_of_pairwise (by decide +kernel)
  rw [ofTypes, already] at sorted
  refine ⟨?_, ?_, ?_, ?_⟩
  · rw [sorted, ofTypes, already]
  all_goals rw [sorted]; decide +kernel

end FileStem

end Reflectory
