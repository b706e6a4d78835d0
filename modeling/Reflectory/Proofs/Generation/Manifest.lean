/-
Reading the lists of units back.

A line of the manifest is a type and a file with a tab between them. Names of types are in
canonical spelling, whose only blanks are spaces, and file names are made of plain
characters where the configuration does not give them; so neither has a tab or a line
break, and nothing is cut in a wrong place. The order of the lines is that of the registry,
from which types without a unit are left out: what stands before a type there still does.

* `readManifest_manifest`, `listedFiles_makefile`: what is written is read back.
* `base_sublist_units`: the unit of a base stands before those of the types derived from it.
* `manifest_read_back`: the lists of every registry that the operations make.
-/

import Reflectory.Proofs.Generation.FileNames
import Reflectory.Proofs.Spelling.Canonical
import Reflectory.Proofs.Text.Parts

namespace Reflectory

namespace UnitFile

open Text

/-! ### Reading -/

/-- The entries of a manifest: of each line, what stands between the tabs. -/
def readManifest (manifest : String) : List (List String) :=
  (lines manifest).map fun line => (splitAt (· = '\t') line.toList).map String.ofList

/-- The file names that a makefile lists. Each stands on a line of its own, behind a tab; a
backslash at the end of a line says that the list goes on. -/
def listedFiles (makefile : String) : List String :=
  let behind := ((lines makefile).dropWhile (· ≠ "CXXFILES =\\")).tail
  let listed := behind.takeWhile fun line => line.toList.getLast? = some '\\'
  listed.map fun line => String.ofList line.toList.tail.dropLast

/-- Neither a tab nor a line break stands in the text. -/
def OnOneLine (text : String) : Prop :=
  '\t' ∉ text.toList ∧ '\n' ∉ text.toList

variable {units : List UnitFile}

theorem readManifest_manifest (named : ∀ u ∈ units, OnOneLine u.type ∧ OnOneLine u.file) :
    readManifest (manifest units) = units.map fun u => [u.type, u.file] := by
  have unbroken : ∀ line ∈ units.map fun u => u.type ++ "\t" ++ u.file, '\n' ∉ line.toList := by
    intro line mem
    obtain ⟨u, u_mem, rfl⟩ := List.mem_map.mp mem
    obtain ⟨type, file⟩ := named u u_mem
    simp [type.2, file.2]
  rw [readManifest, manifest, lines_unlines unbroken, List.map_map]
  refine List.map_congr_left fun u mem => ?_
  obtain ⟨type, file⟩ := named u mem
  have untabbed : ∀ text ∈ [u.type, u.file], '\t' ∉ text.toList := by
    simp [type.1, file.1]
  have parts := splitAt_join_of_unmarked (List.cons_ne_nil _ _) untabbed
  change (splitAt _ (join (String.singleton '\t') [u.type, u.file]).toList).map _ = _
  rw [parts]
  simp

/-- The list of files is found behind the line that begins it, and ends where a line is not
continued. -/
theorem listedFiles_unlines {preamble files rest : List String}
    (begins : preamble.dropWhile (· ≠ "CXXFILES =\\") = ["CXXFILES =\\"])
    (ends : ∀ line ∈ rest.head?, line.toList.getLast? ≠ some '\\')
    (unbroken : ∀ line ∈ preamble ++ files.map (fun file => "\t" ++ file ++ "\\") ++ rest,
      '\n' ∉ line.toList) :
    listedFiles (unlines (preamble ++ files.map (fun file => "\t" ++ file ++ "\\") ++ rest)) =
      files := by
  set entries := files.map fun file => "\t" ++ file ++ "\\" with entries_eq
  have behind : ((preamble ++ entries ++ rest).dropWhile (· ≠ "CXXFILES =\\")).tail =
      entries ++ rest := by
    rw [List.append_assoc, List.dropWhile_append, begins]
    rfl
  have continued : ∀ line ∈ entries, decide (line.toList.getLast? = some '\\') := by
    intro line mem
    obtain ⟨file, -, rfl⟩ := List.mem_map.mp mem
    rw [String.toList_append, List.getLast?_append]
    exact decide_eq_true rfl
  have listed := takeWhile_append_of_head continued fun line mem => decide_eq_false (ends line mem)
  rw [listedFiles, lines_unlines unbroken, behind, listed.1, entries_eq, List.map_map]
  refine (List.map_congr_left fun file _ => ?_).trans (List.map_id files)
  simp

theorem listedFiles_makefile (unbroken : ∀ u ∈ units, '\n' ∉ u.file.toList) :
    listedFiles (makefile units) = (units.map UnitFile.file).mergeSort fun a b => a ≤ b := by
  refine listedFiles_unlines (by decide +kernel) (by simp) ?_
  simp only [List.forall_mem_append, List.forall_mem_map, List.mem_mergeSort]
  exact ⟨⟨by decide +kernel, fun u mem => by simpa using unbroken u mem⟩, by decide +kernel⟩

/-! ### The units of a registry -/

section

variable {r : Registry} {config : Configuration} {u v : UnitFile}

theorem mem_types_of_mem_emitted {d : Descriptor} (emitted : d ∈ r.emitted) : d ∈ r.types := by
  obtain ⟨id, -, there⟩ := List.mem_filterMap.mp (List.mem_filter.mp emitted).1
  exact Registry.mem_types_iff_get?.mpr ⟨id, there⟩

/-- The type of a unit stands in the order under its number. -/
theorem mem_order_of_emitted (built : r.Built) {id : TypeId} {d e : Descriptor}
    (emitted : d ∈ r.emitted) (there : r.get? id = some e) (named : d.name = e.name) :
    id ∈ r.order ∧ r.get? id = some d := by
  obtain ⟨id', mem, there'⟩ := List.mem_filterMap.mp (List.mem_filter.mp emitted).1
  obtain rfl := built.distinct id' id d e there' there named
  exact ⟨mem, there'⟩

/-- The unit of a base stands before that of a type derived from it. -/
theorem base_sublist_units (built : r.Built) {id base : TypeId} (derived : r.HasBase id base)
    (u_mem : u ∈ ofRegistry r config) (v_mem : v ∈ ofRegistry r config)
    (u_type : u.type = r.nameOf id) (v_type : v.type = r.nameOf base) :
    [v, u].Sublist (ofRegistry r config) := by
  obtain ⟨unit, units, type⟩ : ∃ unit : Descriptor → UnitFile,
      ofRegistry r config = r.emitted.map unit ∧ ∀ d, (unit d).type = d.name :=
    ⟨_, rfl, fun _ => rfl⟩
  rw [units] at u_mem v_mem ⊢
  obtain ⟨d, emitted, rfl⟩ := List.mem_map.mp u_mem
  obtain ⟨e, base_emitted, rfl⟩ := List.mem_map.mp v_mem
  rw [type] at u_type v_type
  have ⟨d', there', _⟩ := derived
  rw [Registry.nameOf, there'] at u_type
  obtain ⟨mem, there⟩ := mem_order_of_emitted built emitted there' u_type
  have before := built.ordered.basesFirst id mem base derived
  obtain ⟨e', base_there'⟩ :=
    Registry.mem_ids_iff_get?.mp (built.ordered.inUse base (before.subset List.mem_cons_self))
  rw [Registry.nameOf, base_there'] at v_type
  obtain ⟨-, base_there⟩ := mem_order_of_emitted built base_emitted base_there' v_type
  have settled : [e, d].Sublist r.settledTypes := by
    simpa [base_there, there, Registry.settledTypes] using before.filterMap r.get?
  have both : [e, d].filter Descriptor.isEmitted = [e, d] := by
    simp [(List.mem_filter.mp base_emitted).2, (List.mem_filter.mp emitted).2]
  have emitted_sublist : [e, d].Sublist r.emitted := both ▸ settled.filter Descriptor.isEmitted
  exact emitted_sublist.map unit

/-- The names of a unit are written on one line. -/
theorem onOneLine_of_mem (spelled : ∀ d ∈ r.types, ∃ name, d.name = Spelling.normalize name)
    (given : ∀ e ∈ config.namingOverrides, OnOneLine e.2) (mem : u ∈ ofRegistry r config) :
    OnOneLine u.type ∧ OnOneLine u.file := by
  obtain ⟨d, emitted, rfl⟩ := List.mem_map.mp mem
  obtain ⟨name, spelling⟩ := spelled d (mem_types_of_mem_emitted emitted)
  have type_mem : d.name ∈ r.emitted.map Descriptor.name := List.mem_map_of_mem emitted
  have no_tab := FileStem.notMem_of (by decide) (fun e mem => (given e mem).1) type_mem
  have no_break := FileStem.notMem_of (by decide) (fun e mem => (given e mem).2) type_mem
  refine ⟨⟨?_, ?_⟩, by simp [no_tab], by simp [no_break]⟩
  · rw [spelling]
    exact Spelling.notMem_normalize (by decide) (by decide +kernel) (by decide) name
  · rw [spelling]
    exact Spelling.notMem_normalize (by decide) (by decide +kernel) (by decide) name

/-- **The lists of units can be read back.** In every registry that the operations make of
types with names in canonical spelling, and under every configuration that gives names on
one line, the manifest has the types and files of all units, in their order, and nothing
else. No two units have the same type or the same file, and the unit of a base stands
before those of the types derived from it. The makefile lists the same files in order. -/
theorem manifest_read_back (built : r.Built)
    (spelled : ∀ d ∈ r.types, ∃ name, d.name = Spelling.normalize name)
    (given : ∀ e ∈ config.namingOverrides, OnOneLine e.2) :
    let units := ofRegistry r config
    readManifest (manifest units) = (units.map fun u => [u.type, u.file]) ∧
      (units.map UnitFile.type).Nodup ∧ (units.map UnitFile.file).Nodup ∧
      (∀ id base, r.HasBase id base → ∀ u ∈ units, ∀ v ∈ units, u.type = r.nameOf id →
        v.type = r.nameOf base → [v, u].Sublist units) ∧
      (listedFiles (makefile units)).Perm (units.map UnitFile.file) ∧
      (listedFiles (makefile units)).Pairwise (· < ·) := by
  intro units
  have named : ∀ u ∈ units, OnOneLine u.type ∧ OnOneLine u.file := fun u mem =>
    onOneLine_of_mem spelled given mem
  have types : units.map UnitFile.type = r.emitted.map Descriptor.name := by
    simp [units, ofRegistry]
  have files : (units.map UnitFile.file).Nodup := Generation.nodup_files built config
  have listed : listedFiles (makefile units) = _ :=
    listedFiles_makefile fun u mem => (named u mem).2.2
  have perm := List.mergeSort_perm (units.map UnitFile.file) fun a b => a ≤ b
  refine ⟨readManifest_manifest named, types ▸ Generation.nodup_emitted built, files, ?_, ?_, ?_⟩
  · intro id base derived u u_mem v v_mem
    exact base_sublist_units built derived u_mem v_mem
  · rw [listed]
    exact perm
  · rw [listed]
    have sorted := List.pairwise_mergeSort' (· ≤ ·) (units.map UnitFile.file)
    refine (sorted.and (perm.nodup_iff.mpr files)).imp ?_
    exact fun both => lt_of_le_of_ne both.1 both.2

/-- A type that is registered before its base. -/
def leafAndNode : Registry where
  types := [
    { name := "Leaf", kind := .object false, bases := [{ name := "Node" }] },
    { name := "Node", kind := .object false }]

/-- A configuration that gives a file a name with a space. -/
def spacedLeaf : Configuration where
  namingOverrides := [("Leaf", "a leaf")]

theorem built_leafAndNode : leafAndNode.Built := by
  have leaf : Registry.register {}
      { name := "Leaf", kind := .object false, bases := [{ name := "Node" }] } =
        .ok (⟨0⟩, { types := leafAndNode.types.take 1 }) := rfl
  have node : Registry.register { types := leafAndNode.types.take 1 }
      { name := "Node", kind := .object false } = .ok (⟨1⟩, leafAndNode) := by decide +kernel
  exact .register (.register .empty leaf) node

/-- In the manifest of `leafAndNode` the base comes first, and the space stays. -/
theorem manifest_read_back_leafAndNode :
    let units := ofRegistry (leafAndNode.consolidate {}).registry spacedLeaf
    readManifest (manifest units) = [["Node", "Node.cpp"], ["Leaf", "a leaf.cpp"]] := by
  intro units
  have spelled : ∀ d ∈ (leafAndNode.consolidate {}).registry.types,
      ∃ name, d.name = Spelling.normalize name := by
    intro d mem
    have mem : d.name ∈ (leafAndNode.consolidate {}).registry.types.map Descriptor.name :=
      List.mem_map_of_mem mem
    rw [Registry.names_consolidate] at mem
    obtain named | named : d.name = "Leaf" ∨ d.name = "Node" := by simpa [leafAndNode] using mem
    · exact ⟨"Leaf", named.trans (by decide +kernel)⟩
    · exact ⟨"Node", named.trans (by decide +kernel)⟩
  have given : ∀ e ∈ spacedLeaf.namingOverrides, OnOneLine e.2 := by simp [OnOneLine, spacedLeaf]
  obtain ⟨read, -⟩ := manifest_read_back built_leafAndNode.consolidate spelled given
  have emitted : (leafAndNode.consolidate {}).registry.emitted.map Descriptor.name =
      ["Node", "Leaf"] := by cbv
  have sorted : ["Node", "Leaf"].mergeSort (fun a b => a ≤ b) = ["Leaf", "Node"] := by cbv
  have entries : (units.map fun u => [u.type, u.file]) =
      ((leafAndNode.consolidate {}).registry.emitted.map Descriptor.name).map fun type =>
        [type, FileStem.of (FileStem.ofTypes spacedLeaf
          ((leafAndNode.consolidate {}).registry.emitted.map Descriptor.name)) type ++ ".cpp"] := by
    simp [units, ofRegistry]
  rw [read, entries, emitted, FileStem.ofTypes, sorted]
  decide +kernel

end

end UnitFile

end Reflectory
