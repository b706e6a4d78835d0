/-
The files below a directory.

A listing has one entry for each file, under its path from the directory. A path
without a slash is the name of a file that stands directly in it. What counts of a file
that cannot be read is that it is there: `FileTree.asSeen` is the tree with such files
empty. Where two trees have the same entries outside some places, their listings agree
outside these.

* `filesBelow_perm`: a listing counts as the files of the tree as it is seen.
* `contents?_of_node?`: a file of a directory is found in its listing.
* `SameOutside.filterMap_eq`: what is read off the entries outside some places.
-/

import Mathlib
import Reflectory.Generation.Changes
import Reflectory.Proofs.FileTree.Places

namespace Reflectory

/-! ### Paths in a listing -/

/-- A path without slashes has one name. -/
theorem Text.join_eq_iff {name : String} (no_slash : '/' ∉ name.toList) {names : List String}
    (nonempty : names ≠ []) : join "/" names = name ↔ names = [name] := by
  obtain ⟨first, rest, rfl⟩ := List.exists_cons_of_ne_nil nonempty
  cases rest with
  | nil => simp [join]
  | cons second rest =>
    constructor
    · rintro rfl
      exact absurd (by simp [join]) no_slash
    · intro single
      cases (List.cons.inj single).2

namespace FileTree

/-- The path from a directory and the contents, if an entry is a file below it. -/
def fileBelow? (p : Place) (e : Place × Node) : Option (String × Bytes) :=
  match Text.after? p e.1, e.2 with
  | some (name :: names), .file contents => some (Text.join "/" (name :: names), contents)
  | _, _ => none

/-- A name without slashes stands for the file of that name in the directory. -/
theorem fileBelow?_eq_some_iff {p : Place} {e : Place × Node} {name : String}
    (no_slash : '/' ∉ name.toList) {contents : Bytes} :
    fileBelow? p e = some (name, contents) ↔ e = (p ++ [name], .file contents) := by
  obtain ⟨q, n⟩ := e
  constructor
  · intro listed
    unfold fileBelow? at listed
    split at listed
    next first names held after node =>
      obtain ⟨named, rfl⟩ := Prod.mk.inj (Option.some.inj listed)
      rw [Text.join_eq_iff no_slash (List.cons_ne_nil _ _)] at named
      rw [named] at after
      exact Prod.ext (Text.after?_eq_some_iff.mp after) node
    next => cases listed
  · rintro ⟨rfl, rfl⟩
    have after : Text.after? p (p ++ [name]) = some [name] := Text.after?_eq_some_iff.mpr rfl
    simp [fileBelow?, after, Text.join]

/-- A file that stands in the directory is listed under its name. -/
theorem name_of_fileBelow? {p : Place} {e : Place × Node} {name : String}
    (place : e.1 = p ++ [name]) {f : String × Bytes} (listed : fileBelow? p e = some f) :
    f.1 = name := by
  have after : Text.after? p e.1 = some [name] := Text.after?_eq_some_iff.mpr place
  unfold fileBelow? at listed
  rw [after] at listed
  split at listed
  next same _ =>
    obtain ⟨rfl, rfl⟩ := List.cons.inj (Option.some.inj same)
    obtain rfl := Option.some.inj listed
    rfl
  next => cases listed

/-! ### What can be seen of a tree -/

/-- What a node at a place counts as: a file that cannot be read counts as empty. -/
def seen (t : FileTree) (p : Place) : Node → Node
  | .file contents => .file ((t.readAt p contents).toOption.getD #[])
  | .dir => .dir

/-- The tree as it is seen. -/
def asSeen (t : FileTree) : FileTree :=
  { t with nodes := t.nodes.map fun e => (e.1, t.seen e.1 e.2) }

theorem readAt_getD (t : FileTree) (p : Place) (contents : Bytes) :
    (t.readAt p contents).toOption.getD #[] = if p ∈ t.unreadable then #[] else contents := by
  unfold readAt
  split_ifs <;> rfl

theorem node?_asSeen (t : FileTree) (p : Place) :
    t.asSeen.node? p = (t.node? p).map (t.seen p) := by
  unfold node? asSeen
  split_ifs
  · rfl
  · rw [List.find?_map, Option.map_map, Option.map_map]
    refine Option.map_congr fun e found => ?_
    obtain rfl : e.1 = p := by simpa using List.find?_some found
    rfl

theorem Unambiguous.asSeen {t : FileTree} (unambiguous : t.Unambiguous) :
    t.asSeen.Unambiguous := by
  unfold Unambiguous FileTree.asSeen
  rw [List.map_map]
  exact unambiguous

/-- A directory's listing counts as the files of the tree as it is seen, in some order. -/
theorem filesBelow_perm {t : FileTree} {dir : String} {p : Place} (leads : t.LeadsTo (names dir) p)
    (nonempty : dir ≠ "") :
    ∃ files, t.filesBelow dir = .ok files ∧
      (files.map ChangeReport.asRead).Perm (t.asSeen.nodes.filterMap (fileBelow? p)) := by
  have there : t.node? p = some .dir := of_decide_eq_true leads.2
  rw [filesBelow, locate_dir leads nonempty]
  dsimp only
  rw [there]
  refine ⟨_, rfl, ?_⟩
  refine (((List.mergeSort_perm _ _).filterMap _).map _).trans (.of_eq ?_)
  rw [List.filterMap_filterMap, List.map_filterMap, asSeen, List.filterMap_map]
  refine List.filterMap_congr fun ⟨q, n⟩ _ => ?_
  unfold fileBelow? seen
  cases below : Text.after? p q with
  | none => simp [below]
  | some names => cases names <;> cases n <;> simp [below, ChangeReport.asRead]

theorem filesBelow_eq_ok {t : FileTree} {dir : String}
    {files : List (String × Except FileError Bytes)} (listed : t.filesBelow dir = .ok files) :
    dir ≠ "" := by
  rintro rfl
  cases listed

/-! ### Files of a directory -/

theorem mem_nodes_of_node? {t : FileTree} {p : Place} {n : Node} (p_ne : p ≠ [])
    (there : t.node? p = some n) : (p, n) ∈ t.nodes := by
  rw [node?, if_neg (by simpa using p_ne), Option.map_eq_some_iff] at there
  obtain ⟨⟨q, n⟩, found, rfl⟩ := there
  obtain rfl : q = p := by simpa using List.find?_some found
  exact List.mem_of_find?_eq_some found

theorem Unambiguous.node_unique {t : FileTree} (unambiguous : t.Unambiguous) {p : Place}
    {n n' : Node} (mem : (p, n) ∈ t.nodes) (mem' : (p, n') ∈ t.nodes) : n = n' :=
  congrArg Prod.snd (List.inj_on_of_nodup_map unambiguous mem mem' rfl)

/-- A file that stands in the directory is found under its name among those of a listing
that are kept. -/
theorem contents?_of_node? {t : FileTree} (unambiguous : t.Unambiguous) {p : Place} {name : String}
    (no_slash : '/' ∉ name.toList) {contents : Bytes}
    (there : t.node? (p ++ [name]) = some (.file contents)) {files : List (String × Bytes)}
    (listed : files.Perm (t.nodes.filterMap (fileBelow? p))) {keep : String × Bytes → Bool}
    (kept : keep (name, contents)) :
    ChangeReport.contents? (files.filter keep) name = some contents := by
  have entry : (p ++ [name], .file contents) ∈ t.nodes := mem_nodes_of_node? (by simp) there
  have mem_iff : ∀ contents', (name, contents') ∈ files ↔
      (p ++ [name], .file contents') ∈ t.nodes := by
    intro contents'
    rw [listed.mem_iff, List.mem_filterMap]
    simp only [fileBelow?_eq_some_iff no_slash, exists_eq_right]
  have mem : (name, contents) ∈ files.filter keep :=
    List.mem_filter.mpr ⟨(mem_iff contents).mpr entry, kept⟩
  unfold ChangeReport.contents?
  cases found : (files.filter keep).find? fun f => f.1 == name with
  | none => simpa using List.find?_eq_none.mp found _ mem
  | some f =>
    obtain ⟨name', contents'⟩ := f
    obtain rfl : name' = name := by simpa using List.find?_some found
    have entry' := (mem_iff contents').mp
      (List.mem_of_mem_filter (List.mem_of_find?_eq_some found))
    obtain rfl := Node.file.inj (unambiguous.node_unique entry' entry)
    rfl

/-! ### Entries elsewhere -/

/-- The two trees have the same entries outside these places. -/
def SameOutside (places : List Place) (t u : FileTree) : Prop :=
  (u.nodes.filter fun e => !places.contains e.1) = t.nodes.filter fun e => !places.contains e.1

theorem SameOutside.put {places : List Place} {t u : FileTree} (same : SameOutside places t u)
    {p : Place} (mem : p ∈ places) (n : Node) : SameOutside places t (u.put p n) := by
  refine Eq.trans ?_ same
  rw [FileTree.put, List.filter_cons_of_neg (by simpa using mem), List.filter_filter]
  refine List.filter_congr fun e _ => ?_
  by_cases at_p : e.1 = p
  · simp [at_p, mem]
  · simp [at_p]

/-- Where the same cannot be read, trees with the same entries look the same. -/
theorem SameOutside.asSeen {places : List Place} {t u : FileTree} (same : SameOutside places t u)
    (unreadable : u.unreadable = t.unreadable) : SameOutside places t.asSeen u.asSeen := by
  have seen_eq : u.seen = t.seen := by
    funext p n
    cases n <;> simp only [seen, readAt, unreadable]
  unfold SameOutside FileTree.asSeen at *
  rw [List.filter_map, List.filter_map, seen_eq]
  exact congrArg (List.map _) same

/-- What is read off the entries outside the places is the same. -/
theorem SameOutside.filterMap_eq {places : List Place} {t u : FileTree}
    (same : SameOutside places t u) {α : Type} {read : Place × Node → Option α}
    (outside : ∀ e, e.1 ∈ places → read e = none) :
    u.nodes.filterMap read = t.nodes.filterMap read := by
  have of_outside : ∀ nodes : List (Place × Node),
      (nodes.filter fun e => !places.contains e.1).filterMap read = nodes.filterMap read := by
    intro nodes
    rw [List.filterMap_filter]
    refine List.filterMap_congr fun e _ => ?_
    by_cases mem : e.1 ∈ places
    · simp [mem, outside e mem]
    · simp [mem]
  rw [← of_outside u.nodes, same, of_outside]

end FileTree

end Reflectory
