/-
Files by place.

Of what stands in a tree, a listing shows the files, each under the path of the names
that lead to it. Where files stand under names that files can have, different names give
different paths, so a listing says of every place what `fileAt?` says.

* `contents?_listed`, `contents?_seen`: a listing and the files of the tree agree.
* `MadeAlong.fileAt?_eq`: making directories changes no file.
-/

import Reflectory.Proofs.FileTree.Listing
import Reflectory.Proofs.FileTree.Making

namespace Reflectory

namespace FileTree

/-! ### Paths of several names -/

theorem singleton_slash : String.singleton '/' = "/" := rfl

theorem names_join {names : List String} (nonempty : names ≠ [])
    (is_name : ∀ name ∈ names, IsFileName name) :
    FileTree.names (Text.join "/" names) = names := by
  have kept : (names.map String.toList).filter (fun cs => !cs.isEmpty) =
      names.map String.toList := by
    refine List.filter_eq_self.mpr fun cs mem => ?_
    obtain ⟨name, name_mem, rfl⟩ := List.mem_map.mp mem
    simpa using (is_name name name_mem).nonempty
  rw [FileTree.names, ← singleton_slash,
    Text.splitAt_join_of_unmarked nonempty fun name mem => (is_name name mem).no_slash, kept,
    List.map_map]
  simp

theorem head?_join_ne {names : List String} (is_name : ∀ name ∈ names, IsFileName name) :
    (Text.join "/" names).toList.head? ≠ some '/' := by
  cases names with
  | nil => simp [Text.join]
  | cons first rest =>
    have first_is_name := is_name first List.mem_cons_self
    have begins : ∃ after, (Text.join "/" (first :: rest)).toList = first.toList ++ after := by
      cases rest with
      | nil => exact ⟨[], by simp [Text.join]⟩
      | cons => exact ⟨_, by simp [Text.join]; rfl⟩
    obtain ⟨after, begins⟩ := begins
    rw [begins, List.head?_append_of_ne_nil _ first_is_name.toList_ne_nil]
    exact first_is_name.head?_ne

/-! ### Files by place -/

/-- The contents of the file at a place, if one stands there. -/
def fileAt? (t : FileTree) (p : Place) : Option Bytes :=
  match t.node? p with
  | some (.file contents) => some contents
  | _ => none

theorem fileAt?_eq_some_iff {t : FileTree} {p : Place} {contents : Bytes} :
    t.fileAt? p = some contents ↔ t.node? p = some (.file contents) := by
  unfold fileAt?
  split
  next c there => simp [there]
  next other =>
    constructor
    · nofun
    · intro there
      exact absurd there (other contents)

theorem fileAt?_congr {t u : FileTree} {p q : Place} (same : u.node? q = t.node? p) :
    u.fileAt? q = t.fileAt? p := by
  unfold fileAt?
  rw [same]

/-- Files stand under names that files can have. -/
def WellNamed (t : FileTree) : Prop :=
  ∀ p contents, t.fileAt? p = some contents → ∀ name ∈ p, IsFileName name

/-- As a tree is seen, the same files are there. -/
theorem fileAt?_asSeen (t : FileTree) (p : Place) :
    t.asSeen.fileAt? p = (t.fileAt? p).map fun contents =>
      if p ∈ t.unreadable then #[] else contents := by
  unfold fileAt?
  rw [node?_asSeen]
  cases t.node? p with
  | none => rfl
  | some n =>
    cases n with
    | dir => rfl
    | file contents => simp only [Option.map_some, seen, readAt_getD]

theorem WellNamed.asSeen {t : FileTree} (well_named : t.WellNamed) : t.asSeen.WellNamed := by
  intro p contents there
  rw [fileAt?_asSeen] at there
  obtain ⟨current, there, -⟩ := Option.map_eq_some_iff.mp there
  exact well_named p current there

/-- Making directories makes no file. -/
theorem MadeAlong.fileAt?_eq {t u : FileTree} {names : List String} (made : MadeAlong names t u)
    (p : Place) : u.fileAt? p = t.fileAt? p := by
  obtain same | ⟨free, way, -, leads⟩ := made.only p
  · exact fileAt?_congr same
  · have dir : u.node? p = some .dir := of_decide_eq_true leads.2
    simp [fileAt?, free, dir]

theorem node?_of_mem {t : FileTree} (unambiguous : t.Unambiguous) {p : Place} (p_ne : p ≠ [])
    {n : Node} (mem : (p, n) ∈ t.nodes) : t.node? p = some n := by
  cases there : t.node? p with
  | none =>
    rw [node?, if_neg (by simpa using p_ne), Option.map_eq_none_iff, List.find?_eq_none] at there
    exact absurd (beq_self_eq_true p) (there _ mem)
  | some n' => rw [unambiguous.node_unique mem (mem_nodes_of_node? p_ne there)]

/-- A file is listed under the path of the names that lead to it. -/
theorem fileBelow?_eq_some_iff_names {p : Place} {e : Place × Node} {f : String × Bytes} :
    fileBelow? p e = some f ↔
      ∃ names, names ≠ [] ∧ e = (p ++ names, .file f.2) ∧ f.1 = Text.join "/" names := by
  obtain ⟨q, n⟩ := e
  constructor
  · intro listed
    unfold fileBelow? at listed
    split at listed
    next first rest contents after node =>
      obtain rfl := Option.some.inj listed
      exact ⟨first :: rest, List.cons_ne_nil _ _, Prod.ext (Text.after?_eq_some_iff.mp after) node,
        rfl⟩
    next => cases listed
  · rintro ⟨names, nonempty, entry, path⟩
    obtain ⟨rfl, rfl⟩ := Prod.mk.inj entry
    obtain ⟨first, rest, rfl⟩ := List.exists_cons_of_ne_nil nonempty
    have after : Text.after? p (p ++ first :: rest) = some (first :: rest) :=
      Text.after?_eq_some_iff.mpr rfl
    simp only [fileBelow?, after, ← path]

/-! ### Listings -/

/-- What is listed stands below the directory. -/
theorem exists_names_of_listed {t : FileTree} (unambiguous : t.Unambiguous)
    (well_named : t.WellNamed) {p : Place} {f : String × Bytes}
    (mem : f ∈ t.nodes.filterMap (fileBelow? p)) :
    ∃ names, names ≠ [] ∧ (∀ name ∈ names, IsFileName name) ∧ f.1 = Text.join "/" names ∧
      t.fileAt? (p ++ names) = some f.2 := by
  obtain ⟨e, e_mem, below⟩ := List.mem_filterMap.mp mem
  obtain ⟨names, nonempty, rfl, path⟩ := fileBelow?_eq_some_iff_names.mp below
  have there : t.fileAt? (p ++ names) = some f.2 :=
    fileAt?_eq_some_iff.mpr (node?_of_mem unambiguous (by simp [nonempty]) e_mem)
  exact ⟨names, nonempty, fun name name_mem =>
    well_named _ _ there name (List.mem_append_right _ name_mem), path, there⟩

/-- What is kept of a directory's listing has the contents of the files below it. -/
theorem contents?_listed {t : FileTree} (unambiguous : t.Unambiguous) (well_named : t.WellNamed)
    {p : Place} {listed : List (String × Bytes)}
    (perm : listed.Perm (t.nodes.filterMap (fileBelow? p))) {names : List String}
    (nonempty : names ≠ []) (is_name : ∀ name ∈ names, IsFileName name)
    {keep : String × Bytes → Bool} (kept : ∀ contents, keep (Text.join "/" names, contents)) :
    ChangeReport.contents? (listed.filter keep) (Text.join "/" names) = t.fileAt? (p ++ names) := by
  have entry : ∀ contents, (Text.join "/" names, contents) ∈ listed.filter keep ↔
      t.fileAt? (p ++ names) = some contents := by
    intro contents
    rw [List.mem_filter, and_iff_left (kept contents), perm.mem_iff]
    constructor
    · intro mem
      obtain ⟨names', nonempty', is_name', path, there⟩ :=
        exists_names_of_listed unambiguous well_named mem
      rw [← singleton_slash] at path
      obtain rfl := (Text.join_inj nonempty nonempty' (fun name mem => (is_name name mem).no_slash)
        fun name mem => (is_name' name mem).no_slash).mp path
      exact there
    · intro there
      have place_ne : p ++ names ≠ [] := by simp [nonempty]
      refine List.mem_filterMap.mpr
        ⟨_, mem_nodes_of_node? place_ne (fileAt?_eq_some_iff.mp there), ?_⟩
      exact fileBelow?_eq_some_iff_names.mpr ⟨names, nonempty, rfl, rfl⟩
  unfold ChangeReport.contents?
  cases found : (listed.filter keep).find? fun f => f.1 == Text.join "/" names with
  | none =>
    rw [Option.map_none, eq_comm, Option.eq_none_iff_forall_ne_some]
    intro contents there
    simpa using List.find?_eq_none.mp found _ ((entry contents).mpr there)
  | some f =>
    obtain ⟨path, contents⟩ := f
    obtain rfl : path = Text.join "/" names := by simpa using List.find?_some found
    exact ((entry contents).mp (List.mem_of_find?_eq_some found)).symm

/-- What is kept of a directory's listing has the contents of the files below it, where they
can be read. -/
theorem contents?_seen {t : FileTree} (unambiguous : t.Unambiguous) (well_named : t.WellNamed)
    {p : Place} {listed : List (String × Bytes)}
    (perm : listed.Perm (t.asSeen.nodes.filterMap (fileBelow? p))) {names : List String}
    (nonempty : names ≠ []) (is_name : ∀ name ∈ names, IsFileName name)
    {keep : String × Bytes → Bool} (kept : ∀ contents, keep (Text.join "/" names, contents)) :
    ChangeReport.contents? (listed.filter keep) (Text.join "/" names) =
      (t.fileAt? (p ++ names)).map fun contents =>
        if p ++ names ∈ t.unreadable then #[] else contents := by
  rw [contents?_listed unambiguous.asSeen well_named.asSeen perm nonempty is_name kept,
    fileAt?_asSeen]

end FileTree

end Reflectory
