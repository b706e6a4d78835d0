/-
How two sets of files differ.

Files are compared by path. Each path is at most one of added, modified and removed, and
it is one of them exactly if the contents there differ, where having no file differs from
having one. So the three lists say what has to be done to turn the old files into the new
ones: `ChangeReport.carriedOut` does that and no more.

* `contents?_carriedOut`: what stands at a path when the changes are carried out.
* `changes_exact`: the three lists, for files of which no two have one path.
-/

import Mathlib.Data.List.Sort
import Mathlib.Data.String.Basic
import Reflectory.Proofs.Generation.ChangeListing

namespace Reflectory

namespace ChangeReport

variable {before after files : List (String × Bytes)} {path : String}

/-! ### Files by path -/

/-- Where no two files have one path, a path has the contents of the file that has it. -/
theorem contents?_eq_some_iff (once : (files.map Prod.fst).Nodup) {contents : Bytes} :
    contents? files path = some contents ↔ (path, contents) ∈ files := by
  rw [contents?, Option.map_eq_some_iff]
  constructor
  · rintro ⟨f, found, rfl⟩
    obtain rfl : f.1 = path := by simpa using List.find?_some found
    exact List.mem_of_find?_eq_some found
  · intro mem
    cases found : files.find? fun f => f.1 == path with
    | none => simpa using List.find?_eq_none.mp found _ mem
    | some f =>
      have same : f.1 = path := by simpa using List.find?_some found
      have f_eq := List.inj_on_of_nodup_map once (List.mem_of_find?_eq_some found) mem same
      exact ⟨f, rfl, congrArg Prod.snd f_eq⟩

/-- Files of which no two have one path are the same up to order exactly if they are the same
by path. -/
theorem perm_iff {files' : List (String × Bytes)} (once : (files.map Prod.fst).Nodup)
    (once' : (files'.map Prod.fst).Nodup) :
    files.Perm files' ↔ ∀ path, contents? files path = contents? files' path := by
  constructor
  · intro perm path
    apply Option.ext
    intro contents
    rw [contents?_eq_some_iff once, contents?_eq_some_iff once', perm.mem_iff]
  · intro same
    refine (List.perm_ext_iff_of_nodup once.of_map once'.of_map).mpr ?_
    rintro ⟨path, contents⟩
    rw [← contents?_eq_some_iff once, same, contents?_eq_some_iff once']

theorem mem_paths_iff : path ∈ files.map Prod.fst ↔ contents? files path ≠ none := by
  rw [Ne, contents?_eq_none_iff, not_not]

theorem contents?_cons (f : String × Bytes) (files : List (String × Bytes)) :
    contents? (f :: files) path = if path = f.1 then some f.2 else contents? files path := by
  rw [contents?, List.find?_cons]
  by_cases here : path = f.1
  · simp [here]
  · rw [beq_false_of_ne (Ne.symm here), if_neg here, contents?]

/-- Files chosen by their paths. -/
theorem contents?_filter (keep : String → Bool) (files : List (String × Bytes)) :
    contents? (files.filter fun f => keep f.1) path =
      if keep path then contents? files path else none := by
  induction files with
  | nil => simp [contents?]
  | cons f files ih =>
    rw [contents?_cons]
    by_cases here : path = f.1
    · subst here
      cases kept : keep f.1 with
      | true => simp [kept, contents?_cons]
      | false => simp [kept, ih]
    · rw [if_neg here, ← ih]
      cases kept : keep f.1 with
      | true => simp [kept, contents?_cons, here]
      | false => simp [kept]

/-! ### The three lists -/

/-- Paths of which none occurs twice are in strict order when they are sorted. -/
theorem pairwise_lt_mergeSort {paths : List String} (once : paths.Nodup) :
    (paths.mergeSort fun a b => a ≤ b).Pairwise (· < ·) := by
  have sorted : (paths.mergeSort fun a b => a ≤ b).Pairwise (· ≤ ·) :=
    List.pairwise_mergeSort' (· ≤ ·) paths
  have distinct : (paths.mergeSort fun a b => a ≤ b).Nodup :=
    (List.mergeSort_perm paths _).nodup_iff.mpr once
  exact (sorted.and distinct).imp fun ⟨le, ne⟩ => lt_of_le_of_ne le ne

theorem pairwise_lt_between (before_once : (before.map Prod.fst).Nodup)
    (after_once : (after.map Prod.fst).Nodup) {paths : List String}
    (mem : paths ∈ [(between before after).added, (between before after).modified,
      (between before after).removed]) : paths.Pairwise (· < ·) := by
  simp only [List.mem_cons, List.not_mem_nil, or_false] at mem
  rcases mem with rfl | rfl | rfl
  · exact pairwise_lt_mergeSort (after_once.sublist (List.filter_sublist.map Prod.fst))
  · exact pairwise_lt_mergeSort (after_once.sublist (List.filter_sublist.map Prod.fst))
  · exact pairwise_lt_mergeSort (before_once.filter _)

/-- A modified path had other contents. -/
theorem mem_modified_iff (after_once : (after.map Prod.fst).Nodup) :
    path ∈ (between before after).modified ↔
      ∃ old new, contents? before path = some old ∧ contents? after path = some new ∧
        old ≠ new := by
  rw [mem_modified]
  constructor
  · rintro ⟨f, mem, rfl, old, there, differs⟩
    exact ⟨old, f.2, there, (contents?_eq_some_iff after_once).mpr mem, differs⟩
  · rintro ⟨old, new, there, produced, differs⟩
    exact ⟨(path, new), (contents?_eq_some_iff after_once).mp produced, rfl, old, there, differs⟩

/-- The paths at which the contents differ are those that are listed. -/
theorem listed_iff (after_once : (after.map Prod.fst).Nodup) :
    path ∈ (between before after).added ∨ path ∈ (between before after).modified ∨
        path ∈ (between before after).removed ↔
      contents? before path ≠ contents? after path := by
  rw [mem_added, mem_modified_iff after_once, mem_removed, mem_paths_iff, not_not]
  cases contents? before path <;> cases contents? after path <;> simp

/-! ### Carrying changes out -/

/-- The files with these contents at a path. -/
def put (files : List (String × Bytes)) (f : String × Bytes) : List (String × Bytes) :=
  f :: files.filter fun g => g.1 != f.1

/-- The old files without those that are removed, and with the new contents of those that
are added or modified. -/
def carriedOut (c : ChangeReport) (before after : List (String × Bytes)) :
    List (String × Bytes) :=
  let kept := before.filter fun f => !c.removed.contains f.1
  (after.filter fun f => (c.added ++ c.modified).contains f.1).foldl put kept

theorem contents?_put (files : List (String × Bytes)) (f : String × Bytes) :
    contents? (put files f) path = if path = f.1 then some f.2 else contents? files path := by
  rw [put, contents?_cons, contents?_filter (· != f.1)]
  by_cases here : path = f.1
  · rw [if_pos here, if_pos here]
  · rw [if_neg here, if_neg here, if_pos (bne_iff_ne.mpr here)]

/-- Where no path occurs twice, the order in which contents are put does not matter. -/
theorem contents?_foldl_put {changed : List (String × Bytes)}
    (once : (changed.map Prod.fst).Nodup) (files : List (String × Bytes)) :
    contents? (changed.foldl put files) path =
      (contents? changed path <|> contents? files path) := by
  induction changed generalizing files with
  | nil => simp [contents?]
  | cons f changed ih =>
    obtain ⟨new, once⟩ := List.nodup_cons.mp once
    rw [List.foldl_cons, ih once, contents?_put, contents?_cons]
    by_cases here : path = f.1
    · subst here
      rw [contents?_eq_none_iff.mpr new]
      simp
    · rw [if_neg here, if_neg here]

theorem nodup_put (once : (files.map Prod.fst).Nodup) (f : String × Bytes) :
    ((put files f).map Prod.fst).Nodup := by
  rw [put, List.map_cons, List.nodup_cons]
  refine ⟨?_, once.sublist (List.filter_sublist.map Prod.fst)⟩
  simp

theorem nodup_foldl_put (once : (files.map Prod.fst).Nodup) (changed : List (String × Bytes)) :
    ((changed.foldl put files).map Prod.fst).Nodup := by
  induction changed generalizing files with
  | nil => exact once
  | cons f changed ih => exact ih (nodup_put once f)

/-- When the changes are carried out, the new files are there. -/
theorem contents?_carriedOut (after_once : (after.map Prod.fst).Nodup) (path : String) :
    contents? ((between before after).carriedOut before after) path = contents? after path := by
  have changed_once : ((after.filter fun f => ((between before after).added ++
      (between before after).modified).contains f.1).map Prod.fst).Nodup :=
    after_once.sublist (List.filter_sublist.map Prod.fst)
  rw [carriedOut, contents?_foldl_put changed_once,
    contents?_filter (((between before after).added ++ (between before after).modified).contains ·),
    contents?_filter (!(between before after).removed.contains ·)]
  simp only [List.contains_eq_mem, List.mem_append, decide_eq_true_eq, Bool.not_eq_true',
    decide_eq_false_iff_not]
  have listed : _ ↔ contents? before path ≠ contents? after path := listed_iff after_once
  by_cases changed : path ∈ (between before after).added ∨ path ∈ (between before after).modified
  · rw [if_pos changed]
    have produced : contents? after path ≠ none := by
      rw [← mem_paths_iff]
      rcases changed with added | modified
      · exact (mem_added.mp added).1
      · obtain ⟨f, mem, rfl, -⟩ := mem_modified.mp modified
        exact List.mem_map_of_mem mem
    obtain ⟨new, there⟩ := Option.ne_none_iff_exists'.mp produced
    simp [there]
  · rw [if_neg changed]
    by_cases removed : path ∈ (between before after).removed
    · have gone := contents?_eq_none_iff.mpr (mem_removed.mp removed).2
      simp [removed, gone]
    · have same : contents? before path = contents? after path := by
        by_contra differs
        rcases listed.mpr differs with added | modified | gone
        · exact changed (.inl added)
        · exact changed (.inr modified)
        · exact removed gone
      simp [removed, same]

theorem isEmpty_iff (c : ChangeReport) :
    c.isEmpty ↔ ∀ path, ¬ (path ∈ c.added ∨ path ∈ c.modified ∨ path ∈ c.removed) := by
  simp only [isEmpty, Bool.and_eq_true, List.isEmpty_iff, List.eq_nil_iff_forall_not_mem, not_or,
    forall_and, and_assoc]

end ChangeReport

/-- **The changes are exact.** Of files of which no two have one path, the three lists are in
strict order and have no path in common. Added are the paths of new files where no file was,
modified those at which another file was, and removed those of old files where no new one is.
Carried out on the old files, the changes give the new ones; and there are none exactly if the
files are the same. -/
theorem changes_exact {before after : List (String × Bytes)}
    (before_once : (before.map Prod.fst).Nodup) (after_once : (after.map Prod.fst).Nodup) :
    let changes := ChangeReport.between before after
    (∀ paths ∈ [changes.added, changes.modified, changes.removed], paths.Pairwise (· < ·)) ∧
      [changes.added, changes.modified, changes.removed].Pairwise List.Disjoint ∧
      (∀ path,
        (path ∈ changes.added ↔ path ∈ after.map Prod.fst ∧ path ∉ before.map Prod.fst) ∧
        (path ∈ changes.modified ↔
          ∃ old new, (path, old) ∈ before ∧ (path, new) ∈ after ∧ old ≠ new) ∧
        (path ∈ changes.removed ↔ path ∈ before.map Prod.fst ∧ path ∉ after.map Prod.fst)) ∧
      (changes.carriedOut before after).Perm after ∧
      (changes.isEmpty ↔ before.Perm after) := by
  intro changes
  have members (path : String) :
      (path ∈ changes.added ↔ path ∈ after.map Prod.fst ∧ path ∉ before.map Prod.fst) ∧
        (path ∈ changes.modified ↔
          ∃ old new, (path, old) ∈ before ∧ (path, new) ∈ after ∧ old ≠ new) ∧
        (path ∈ changes.removed ↔ path ∈ before.map Prod.fst ∧ path ∉ after.map Prod.fst) := by
    refine ⟨?_, ?_, ?_⟩
    · rw [ChangeReport.mem_added, ChangeReport.contents?_eq_none_iff]
    · simp only [changes, ChangeReport.mem_modified_iff after_once,
        ChangeReport.contents?_eq_some_iff before_once,
        ChangeReport.contents?_eq_some_iff after_once]
    · rw [ChangeReport.mem_removed, ← ChangeReport.mem_paths_iff]
  refine ⟨fun paths => ChangeReport.pairwise_lt_between before_once after_once, ?_, members, ?_, ?_⟩
  · -- A path is told from those of the other lists by whether it is old and whether it is new.
    simp only [List.pairwise_cons, List.mem_cons, List.not_mem_nil, or_false, forall_eq_or_imp,
      forall_eq, false_imp_iff, implies_true, List.Pairwise.nil, and_true]
    refine ⟨⟨?_, ?_⟩, ?_⟩
    · intro path added modified
      obtain ⟨old, new, there, -, -⟩ := (members path).2.1.mp modified
      exact ((members path).1.mp added).2 (List.mem_map_of_mem there)
    · intro path added removed
      exact ((members path).2.2.mp removed).2 ((members path).1.mp added).1
    · intro path modified removed
      obtain ⟨old, new, -, produced, -⟩ := (members path).2.1.mp modified
      exact ((members path).2.2.mp removed).2 (List.mem_map_of_mem produced)
  · have carried_once : ((changes.carriedOut before after).map Prod.fst).Nodup :=
      ChangeReport.nodup_foldl_put (before_once.sublist (List.filter_sublist.map Prod.fst)) _
    exact (ChangeReport.perm_iff carried_once after_once).mpr
      (ChangeReport.contents?_carriedOut after_once)
  · rw [ChangeReport.isEmpty_iff, ChangeReport.perm_iff before_once after_once]
    refine forall_congr' fun path => ?_
    rw [ChangeReport.listed_iff after_once, not_not]

/-- Of three files, one stays as it was, one gets other contents and one is no longer made; a
fourth one is new. -/
theorem changes_exact_units :
    let before :=
      [("Box.cpp", textBytes "a"), ("Cone.cpp", textBytes "b"), ("Disk.cpp", textBytes "c")]
    let after :=
      [("Edge.cpp", textBytes "e"), ("Disk.cpp", textBytes "d"), ("Box.cpp", textBytes "a")]
    let changes := ChangeReport.between before after
    (before.map Prod.fst).Nodup ∧ (after.map Prod.fst).Nodup ∧
      "Edge.cpp" ∈ changes.added ∧ "Disk.cpp" ∈ changes.modified ∧ "Cone.cpp" ∈ changes.removed ∧
      "Box.cpp" ∉ changes.modified ∧ (changes.carriedOut before after).Perm after := by
  intro before after changes
  have before_once : (before.map Prod.fst).Nodup := by decide
  have after_once : (after.map Prod.fst).Nodup := by decide
  obtain ⟨-, -, members, carried, -⟩ := changes_exact before_once after_once
  refine ⟨before_once, after_once, (members _).1.mpr (by decide), ?_,
    (members _).2.2.mpr (by decide), ?_, carried⟩
  · exact (members _).2.1.mpr ⟨textBytes "c", textBytes "d", by simp [before], by simp [after],
      by decide⟩
  · rw [(members _).2.1]
    simp [before, after]

end Reflectory
