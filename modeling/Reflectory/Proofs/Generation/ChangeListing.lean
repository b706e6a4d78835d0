/-
What a list of changes tells.

The list compares the files that a run finds with those that it means to write, and does
not look at what becomes of the writing. So a file that could not be written is listed
like one that was: as added if no file was there, and else as modified. And a file that
cannot be read is listed as modified if it is to have a text, whatever it held. Of every
other file the list tells what happened to it, and what it lists as removed was there and
is not produced, which no failure changes.

* `changes_tell`: what is listed of a path, by the file there before and after the run.
* `lists_what_is_not_written`: a file is listed as added that is not there afterwards.
-/

import Reflectory.Proofs.FileTree.Files
import Reflectory.Proofs.Generation.BestEffort

namespace Reflectory

/-! ### What is listed -/

namespace ChangeReport

variable {before after : List (String × Bytes)} {path : String}

theorem contents?_eq_none_iff : contents? before path = none ↔ path ∉ before.map Prod.fst := by
  rw [contents?, Option.map_eq_none_iff, List.find?_eq_none, List.mem_map]
  simp only [beq_iff_eq]
  constructor
  · rintro other ⟨f, mem, same⟩
    exact other f mem same
  · intro none f mem same
    exact none ⟨f, mem, same⟩

/-- Added is what is produced and was not there. -/
theorem mem_added :
    path ∈ (between before after).added ↔
      path ∈ after.map Prod.fst ∧ contents? before path = none := by
  simp only [between, List.mem_mergeSort, List.mem_map, List.mem_filter, Option.isNone_iff_eq_none]
  constructor
  · rintro ⟨f, ⟨mem, fresh⟩, rfl⟩
    exact ⟨⟨f, mem, rfl⟩, fresh⟩
  · rintro ⟨⟨f, mem, rfl⟩, fresh⟩
    exact ⟨f, ⟨mem, fresh⟩, rfl⟩

/-- Modified is what was there and is produced with other contents. -/
theorem mem_modified :
    path ∈ (between before after).modified ↔
      ∃ f ∈ after, f.1 = path ∧ ∃ old, contents? before path = some old ∧ old ≠ f.2 := by
  simp only [between, List.mem_mergeSort, List.mem_map, List.mem_filter, Option.any_eq_true,
    bne_iff_ne]
  constructor
  · rintro ⟨f, ⟨mem, old⟩, rfl⟩
    exact ⟨f, mem, rfl, old⟩
  · rintro ⟨f, mem, rfl, old⟩
    exact ⟨f, ⟨mem, old⟩, rfl⟩

/-- Removed is what was there and is not produced. -/
theorem mem_removed :
    path ∈ (between before after).removed ↔
      contents? before path ≠ none ∧ path ∉ after.map Prod.fst := by
  simp only [between, List.mem_mergeSort, List.mem_filter, Option.isNone_iff_eq_none,
    contents?_eq_none_iff, Ne, not_not]

/-- What a list says of a path at which these files stood before and after a run with these
products. A product that failed is listed as if it had been written, and one that could not
be read as if it had been empty. -/
structure Tells (changes : ChangeReport) (products : List (String × Bytes)) (path : String)
    (old new : Option Bytes) (failed unread : Prop) : Prop where
  added : path ∈ changes.added ↔ old = none ∧ (new ≠ none ∨ failed)
  modified : ¬ unread →
    (path ∈ changes.modified ↔ old ≠ none ∧ (new ≠ none ∧ new ≠ old ∨ failed))
  /-- What could not be read is listed if it is to have a text. -/
  modified_unread : unread →
    (path ∈ changes.modified ↔ old ≠ none ∧ ∃ f ∈ products, f.1 = path ∧ f.2 ≠ #[])
  removed : path ∈ changes.removed ↔ old ≠ none ∧ path ∉ products.map Prod.fst
  /-- What failed is as it was. -/
  kept : failed → path ∈ products.map Prod.fst ∧ new = old

section Tells

variable {old new : Option Bytes} {failed unread : Prop} [Decidable unread]
  (seen : contents? before path = old.map fun contents => if unread then #[] else contents)
include seen

theorem mem_removed_of_seen :
    path ∈ (between before after).removed ↔ old ≠ none ∧ path ∉ after.map Prod.fst := by
  rw [mem_removed, seen, Ne, Option.map_eq_none_iff]

/-- Of what cannot be read, it is compared whether there is to be a text. -/
theorem mem_modified_of_unread (hidden : unread) :
    path ∈ (between before after).modified ↔
      old ≠ none ∧ ∃ f ∈ after, f.1 = path ∧ f.2 ≠ #[] := by
  rw [mem_modified, seen]
  simp only [if_pos hidden, Option.map_eq_some_iff]
  constructor
  · rintro ⟨f, mem, named, empty, ⟨contents, there, rfl⟩, text⟩
    exact ⟨there ▸ Option.some_ne_none contents, f, mem, named, text.symm⟩
  · rintro ⟨present, f, mem, named, text⟩
    obtain ⟨contents, there⟩ := Option.ne_none_iff_exists'.mp present
    exact ⟨f, mem, named, #[], ⟨contents, there, rfl⟩, text.symm⟩

/-- Of a path that is not produced nothing is said, unless a file was there. -/
theorem tells_of_not_produced (other : path ∉ after.map Prod.fst) (only_products : ¬ failed) :
    (between before after).Tells after path old old failed unread where
  added := by
    rw [mem_added]
    constructor
    · rintro ⟨produced, -⟩
      exact absurd produced other
    · rintro ⟨none, there | fails⟩
      · exact absurd none there
      · exact absurd fails only_products
  modified _ := by
    rw [mem_modified]
    constructor
    · rintro ⟨f, mem, rfl, -⟩
      exact absurd (List.mem_map_of_mem mem) other
    · rintro ⟨-, ⟨-, changed⟩ | fails⟩
      · exact absurd rfl changed
      · exact absurd fails only_products
  modified_unread := mem_modified_of_unread seen
  removed := mem_removed_of_seen seen
  kept fails := absurd fails only_products

/-- Of a product the list tells what happens if it is written. -/
theorem tells_of_produced {f : String × Bytes} (mem : f ∈ after) (named : f.1 = path)
    (nodup : (after.map Prod.fst).Nodup) (written : ¬ failed → new = some f.2)
    (fails : failed → new = old ∧ (¬ unread → old ≠ some f.2)) :
    (between before after).Tells after path old new failed unread where
  added := by
    rw [mem_added, and_iff_right (named ▸ List.mem_map_of_mem mem), seen,
      Option.map_eq_none_iff]
    refine ⟨fun none => ⟨none, ?_⟩, And.left⟩
    by_cases failure : failed
    · exact .inr failure
    · exact .inl (by simp [written failure])
  modified readable := by
    have seen : contents? before path = old := by
      rw [seen]
      simp only [if_neg readable, Option.map_id']
    rw [mem_modified, seen]
    constructor
    · rintro ⟨g, g_mem, same, contents, there, differs⟩
      obtain rfl : g = f := List.inj_on_of_nodup_map nodup g_mem mem (same.trans named.symm)
      rw [there]
      refine ⟨Option.some_ne_none contents, ?_⟩
      by_cases failure : failed
      · exact .inr failure
      · exact .inl (by simpa [written failure] using Ne.symm differs)
    · rintro ⟨present, change⟩
      obtain ⟨contents, there⟩ := Option.ne_none_iff_exists'.mp present
      refine ⟨f, mem, named, contents, there, ?_⟩
      rintro rfl
      by_cases failure : failed
      · exact (fails failure).2 readable there
      · obtain ⟨-, changed⟩ | failure' := change
        · exact changed ((written failure).trans there.symm)
        · exact failure failure'
  modified_unread := mem_modified_of_unread seen
  removed := mem_removed_of_seen seen
  kept failure := ⟨named ▸ List.mem_map_of_mem mem, (fails failure).1⟩

end Tells

end ChangeReport

/-! ### What became of a path -/

namespace Generation

open FileTree

variable {t : FileTree} {p : Place} {dir : String} {files : List (String × Bytes)}
  {options : GenerationOptions} {way : List String}

theorem failure?_eq_some_iff {o : Outcome} {failure : WriteFailure} :
    o.failure? = some failure ↔ o.path = failure.path ∧ o.written = .error failure.cause := by
  obtain ⟨path, written⟩ := o
  obtain ⟨path', cause⟩ := failure
  cases written <;> simp [Outcome.failure?]

/-- A file in the directory has no path that leads further down. -/
theorem eq_of_joinPath_eq {name : String} (is_name : IsFileName name) (nonempty : way ≠ [])
    (names_on_way : ∀ name ∈ way, IsFileName name)
    (same : joinPath dir name = joinPath dir (Text.join "/" way)) : way = [name] := by
  have parts := congrArg names same
  rw [is_name.names_joinPath, names_joinPath dir (head?_join_ne names_on_way),
    names_join nonempty names_on_way] at parts
  exact (List.append_cancel_left parts).symm

/-- A run has failed at a path if it was to write the file there and could not. -/
theorem failed_iff (is_name : ∀ f ∈ files, IsFileName f.1) (nonempty : way ≠ [])
    (names_on_way : ∀ name ∈ way, IsFileName name) (other : Text.join "/" way ≠ changesName) :
    (∃ failure ∈ (outcomes t dir p files ++ listed (filled t p files) dir p options).filterMap
        Outcome.failure?, failure.path = joinPath dir (Text.join "/" way)) ↔
      ∃ f ∈ files, f.1 = Text.join "/" way ∧
        ∃ cause, verdict t (p ++ [f.1]) f.2 = .error cause := by
  constructor
  · rintro ⟨failure, mem, path⟩
    obtain ⟨o, o_mem, fails⟩ := List.mem_filterMap.mp mem
    obtain ⟨at_path, error⟩ := failure?_eq_some_iff.mp fails
    rw [path] at at_path
    obtain product | list := List.mem_append.mp o_mem
    · obtain ⟨f, f_mem, rfl⟩ := List.mem_map.mp product
      obtain rfl := eq_of_joinPath_eq (is_name f f_mem) nonempty names_on_way at_path
      exact ⟨f, f_mem, rfl, _, error⟩
    · unfold listed at list
      split_ifs at list
      · obtain rfl := List.mem_singleton.mp list
        obtain rfl := eq_of_joinPath_eq isFileName_changesName nonempty names_on_way at_path
        exact absurd rfl other
      · exact absurd list List.not_mem_nil
  · rintro ⟨f, f_mem, path, cause, error⟩
    refine ⟨⟨joinPath dir f.1, cause⟩, List.mem_filterMap.mpr
      ⟨⟨joinPath dir f.1, verdict t (p ++ [f.1]) f.2⟩, ?_, ?_⟩, congrArg (joinPath dir) path⟩
    · exact List.mem_append_left _ (List.mem_map_of_mem f_mem)
    · exact failure?_eq_some_iff.mpr ⟨rfl, error⟩

/-- What is listed of a path, by what is there before and after the writing. -/
theorem tells (unambiguous : t.Unambiguous) (well_named : t.WellNamed)
    (nodup : (files.map Prod.fst).Nodup)
    (is_name : ∀ f ∈ files, IsFileName f.1 ∧ f.1 ≠ changesName) {below : List (String × Bytes)}
    (perm : below.Perm (t.asSeen.nodes.filterMap (fileBelow? p))) (nonempty : way ≠ [])
    (names_on_way : ∀ name ∈ way, IsFileName name) (other : Text.join "/" way ≠ changesName)
    (changes : ChangeReport) :
    (ChangeReport.between (below.filter fun f => f.1 != changesName) files).Tells
      files (Text.join "/" way) (t.fileAt? (p ++ way))
      ((withListing (filled t p files) p options changes).fileAt? (p ++ way))
      (∃ failure ∈ (outcomes t dir p files ++ listed (filled t p files) dir p options).filterMap
        Outcome.failure?, failure.path = joinPath dir (Text.join "/" way))
      (p ++ way ∈ t.unreadable) := by
  have seen : ChangeReport.contents? (below.filter fun f => f.1 != changesName)
      (Text.join "/" way) = (t.fileAt? (p ++ way)).map fun contents =>
        if p ++ way ∈ t.unreadable then #[] else contents :=
    contents?_seen unambiguous well_named perm nonempty names_on_way
      fun _ => bne_iff_ne.mpr other
  rw [failed_iff (fun f mem => (is_name f mem).1) nonempty names_on_way other]
  by_cases produced : Text.join "/" way ∈ files.map Prod.fst
  · obtain ⟨f, mem, path⟩ := List.mem_map.mp produced
    obtain rfl := (Text.join_eq_iff (is_name f mem).1.no_slash nonempty).mp path.symm
    have there : (withListing (filled t p files) p options changes).node? (p ++ [f.1]) = _ :=
      node?_done_of_mem nodup (fun f mem => (is_name f mem).2) changes mem
    have failed_iff : (∃ g ∈ files, g.1 = Text.join "/" [f.1] ∧
        ∃ cause, verdict t (p ++ [g.1]) g.2 = .error cause) ↔
          ∃ cause, verdict t (p ++ [f.1]) f.2 = .error cause := by
      constructor
      · rintro ⟨g, g_mem, same, error⟩
        obtain rfl : g = f := List.inj_on_of_nodup_map nodup g_mem mem same
        exact error
      · exact fun error => ⟨f, mem, rfl, error⟩
    rw [failed_iff]
    refine ChangeReport.tells_of_produced seen mem path nodup (fun allowed => ?_)
      fun ⟨cause, error⟩ => ?_
    · cases decided : verdict t (p ++ [f.1]) f.2 with
      | ok _ =>
        rw [decided] at there
        exact fileAt?_eq_some_iff.mpr there
      | error cause => exact absurd ⟨cause, decided⟩ allowed
    · rw [error] at there
      refine ⟨fileAt?_congr there, fun readable same => ?_⟩
      rw [verdict_of_read ⟨fileAt?_eq_some_iff.mp same, readable⟩] at error
      cases error
  · have untouched : (withListing (filled t p files) p options changes).node? (p ++ way) =
        t.node? (p ++ way) := by
      refine (node?_withListing_of_ne (fun same => other ?_) changes).trans
        (node?_filled_of_ne fun f mem same => produced ?_)
      · rw [List.append_cancel_left same]
        rfl
      · rw [List.append_cancel_left same]
        exact List.mem_map_of_mem mem
    rw [fileAt?_congr untouched]
    refine ChangeReport.tells_of_not_produced seen produced ?_
    rintro ⟨f, mem, path, -⟩
    exact produced (path ▸ List.mem_map_of_mem mem)

/-! ### A run -/

section

variable {r : Registry} (built : r.Built) (consolidation : Configuration) {config : Configuration}
  (no_slash : ∀ e ∈ config.namingOverrides, '/' ∉ e.2.toList) {outputDir : String}
include built no_slash

/-- A run that lists changes compares its products with the files below its directory. -/
theorem run_listing (made : (t.makeDirs (joinPath outputDir config.outputSubpath)).1 = .ok ())
    (named : joinPath outputDir config.outputSubpath ≠ "") (listing : options.listChanges) :
    let registry := (r.consolidate consolidation).registry
    let dir := joinPath outputDir config.outputSubpath
    let files := products (UnitFile.ofRegistry registry config) options
    let start := (t.makeDirs dir).2
    let ran := (run registry config options outputDir : OnTree Generation) t
    ∃ (place : Place) (below : List (String × Bytes)) (report : GenerationReport),
      start.LeadsTo (names dir) place ∧
        below.Perm (start.asSeen.nodes.filterMap (fileBelow? place)) ∧
        let changes := .between (below.filter fun f => f.1 != changesName) files
        ran.1.result = .ok report ∧ report.changes? = some changes ∧
          report.failures = (outcomes start dir place files ++
            listed (filled start place files) dir place options).filterMap Outcome.failure? ∧
          ran.2 = withListing (filled start place files) place options changes := by
  intro registry dir files start ran
  have is_name : ∀ f ∈ files, IsFileName f.1 := fun f mem =>
    (isFileName_of_mem_products no_slash options mem).1
  have nodup : (files.map Prod.fst).Nodup := nodup_products built consolidation no_slash options
  obtain ⟨place, leads⟩ := leadsToDir_iff.mp ((t.makes_makeDirs dir).2 made)
  obtain ⟨below, lists, perm⟩ := filesBelow_perm leads named
  have look : found start dir options =
      .ok ((below.map ChangeReport.asRead).filter fun f => f.1 != changesName) := by
    rw [found, if_pos listing, lists, List.filter_map]
    rfl
  obtain ⟨reported, left⟩ := (run_spec (t := t) is_name nodup).mpr
    ⟨made, _, look, place, leads, rfl, rfl⟩
  exact ⟨place, _, _, leads, perm, reported, if_pos listing, rfl, left⟩

/-- **What a list of changes tells.** A run that has its directory and is to list changes
lists paths of files other than the list itself. Of such a path it tells what happened to
it, with two exceptions. A product whose writing failed, and which is as it was, is listed
as added if no file was there and as modified if one was. And a file that cannot be read
is listed as modified if it is a product that has a text, and else not. -/
theorem changes_tell (unambiguous : t.Unambiguous) (well_named : t.WellNamed)
    (made : (t.makeDirs (joinPath outputDir config.outputSubpath)).1 = .ok ())
    (named : joinPath outputDir config.outputSubpath ≠ "") (listing : options.listChanges) :
    let registry := (r.consolidate consolidation).registry
    let dir := joinPath outputDir config.outputSubpath
    let files := products (UnitFile.ofRegistry registry config) options
    let ran := (run registry config options outputDir : OnTree Generation) t
    ∃ place report changes, (t.makeDirs dir).2.LeadsTo (names dir) place ∧
      ran.1.result = .ok report ∧ report.changes? = some changes ∧
      (∀ way ≠ [], (∀ name ∈ way, IsFileName name) → Text.join "/" way ≠ changesName →
        changes.Tells files (Text.join "/" way) (t.fileAt? (place ++ way))
          (ran.2.fileAt? (place ++ way))
          (∃ failure ∈ report.failures, failure.path = joinPath dir (Text.join "/" way))
          (place ++ way ∈ t.unreadable)) ∧
      ∀ path, path ∈ changes.added ∨ path ∈ changes.modified ∨ path ∈ changes.removed →
        path ≠ changesName ∧ ∃ way ≠ [], (∀ name ∈ way, IsFileName name) ∧
          path = Text.join "/" way := by
  intro registry dir files ran
  have is_name : ∀ f ∈ files, IsFileName f.1 ∧ f.1 ≠ changesName := fun f mem =>
    isFileName_of_mem_products no_slash options mem
  have nodup : (files.map Prod.fst).Nodup := nodup_products built consolidation no_slash options
  obtain ⟨place, below, report, leads, perm, reported, changed, failures, left⟩ :=
    run_listing (t := t) built consolidation no_slash made named listing
  have along : MadeAlong (names dir) t (t.makeDirs dir).2 := t.madeAlong_makeDirs dir
  have grows : Grows t (t.makeDirs dir).2 := (t.makes_makeDirs dir).1
  have unambiguous : (t.makeDirs dir).2.Unambiguous := grows.unambiguous unambiguous
  have well_named : (t.makeDirs dir).2.WellNamed := fun p contents there =>
    well_named p contents ((along.fileAt?_eq p).symm.trans there)
  refine ⟨place, report, _, leads, reported, changed, fun way nonempty names_on_way other => ?_,
    fun path changed => ?_⟩
  · rw [failures, left, ← along.fileAt?_eq, ← grows.unreadable_eq]
    exact tells unambiguous well_named nodup is_name perm nonempty names_on_way other _
  · have of_product : path ∈ files.map Prod.fst → path ≠ changesName ∧ ∃ way ≠ [],
        (∀ name ∈ way, IsFileName name) ∧ path = Text.join "/" way := by
      intro product
      obtain ⟨f, mem, rfl⟩ := List.mem_map.mp product
      refine ⟨(is_name f mem).2, [f.1], List.cons_ne_nil _ _, fun name name_mem => ?_, rfl⟩
      exact List.mem_singleton.mp name_mem ▸ (is_name f mem).1
    obtain added | modified | removed := changed
    · exact of_product (ChangeReport.mem_added.mp added).1
    · obtain ⟨f, mem, rfl, -⟩ := ChangeReport.mem_modified.mp modified
      exact of_product (List.mem_map_of_mem mem)
    · obtain ⟨there, -⟩ := ChangeReport.mem_removed.mp removed
      rw [Ne, ChangeReport.contents?_eq_none_iff, not_not] at there
      obtain ⟨f, mem, rfl⟩ := List.mem_map.mp there
      obtain ⟨mem, other⟩ := List.mem_filter.mp mem
      obtain ⟨way, nonempty, names_on_way, path, -⟩ :=
        exists_names_of_listed unambiguous.asSeen well_named.asSeen (perm.mem_iff.mp mem)
      exact ⟨bne_iff_ne.mp other, way, nonempty, names_on_way, path⟩

end

theorem unambiguous_obstructed : obstructed.Unambiguous := by
  unfold Unambiguous
  decide +kernel

theorem wellNamed_obstructed : obstructed.WellNamed := by
  intro p contents there name mem
  by_cases p_ne : p = []
  · subst p_ne
    cases mem
  · have entry := mem_nodes_of_node? p_ne (fileAt?_eq_some_iff.mp there)
    obtain ⟨rfl, -⟩ : p = ["out", "old.txt"] ∧ contents = #[] := by simpa [obstructed] using entry
    obtain rfl | rfl : name = "out" ∨ name = "old.txt" := by simpa using mem
    · constructor <;> simp
    · constructor <;> simp

/-- What was left over in `obstructed` is listed as removed, and the manifest, which cannot
be written, is listed as neither removed nor modified. -/
theorem changes_tell_obstructed :
    let ran := (run (twins.consolidate {}).registry { outputSubpath? := some "" }
      { makefile := true, listChanges := true } "out" : OnTree Generation) obstructed
    ∃ report changes, ran.1.result = .ok report ∧ report.changes? = some changes ∧
      "old.txt" ∈ changes.removed ∧
      manifestName ∉ changes.modified ∧ manifestName ∉ changes.removed := by
  intro ran
  have no_slash : ∀ e ∈ ({ outputSubpath? := some "" } : Configuration).namingOverrides,
      '/' ∉ e.2.toList := nofun
  have made : (obstructed.makeDirs
      (joinPath "out" (Configuration.outputSubpath { outputSubpath? := some "" }))).1 = .ok () := by
    rw [dir_out, makeDirs_obstructed]
  have listing : GenerationOptions.listChanges { makefile := true, listChanges := true } := rfl
  obtain ⟨place, report, changes, leads, reported, changed, tells, -⟩ :=
    changes_tell built_twins {} no_slash unambiguous_obstructed wellNamed_obstructed made
      (by rw [dir_out]; decide) listing
  rw [dir_out, makeDirs_obstructed] at leads
  obtain rfl : place = ["out"] := Except.ok.inj (leads.1.symm.trans leadsTo_obstructed.1)
  have old : IsFileName "old.txt" := by constructor <;> simp
  have tells_old := tells ["old.txt"] (by simp) (by simpa using old) (by decide)
  have tells_manifest :=
    tells [manifestName] (by simp) (by simpa using isFileName_manifestName) (by decide)
  have free : obstructed.fileAt? ["out", manifestName] = none := by decide +kernel
  refine ⟨report, changes, reported, changed, tells_old.removed.mpr ⟨by decide +kernel, ?_⟩, ?_, ?_⟩
  · refine notMem_names_products no_slash _ (fun unit => ?_) (by decide)
    exact absurd unit.getLast?_eq (by decide)
  · intro modified
    exact ((tells_manifest.modified List.not_mem_nil).mp modified).1 free
  · intro removed
    exact (tells_manifest.removed.mp removed).1 free

/-- **What is not written is listed** like what is. In `obstructed` a directory stands in the
way of the makefile, so there is no such file before or after the run; it is listed as
added. -/
theorem lists_what_is_not_written :
    let ran := (run (twins.consolidate {}).registry { outputSubpath? := some "" }
      { makefile := true, listChanges := true } "out" : OnTree Generation) obstructed
    ∃ report changes, ran.1.result = .ok report ∧ report.changes? = some changes ∧
      makefileName ∈ changes.added ∧
      obstructed.fileAt? ["out", makefileName] = none ∧
      ran.2.fileAt? ["out", makefileName] = none := by
  intro ran
  have no_slash : ∀ e ∈ ({ outputSubpath? := some "" } : Configuration).namingOverrides,
      '/' ∉ e.2.toList := nofun
  have made : (obstructed.makeDirs
      (joinPath "out" (Configuration.outputSubpath { outputSubpath? := some "" }))).1 = .ok () := by
    rw [dir_out, makeDirs_obstructed]
  have listing : GenerationOptions.listChanges { makefile := true, listChanges := true } := rfl
  obtain ⟨place, below, report, leads, perm, reported, changed, -, left⟩ :=
    run_listing built_twins {} no_slash made (by rw [dir_out]; decide) listing
  rw [dir_out, makeDirs_obstructed] at leads perm left
  obtain rfl : place = ["out"] := Except.ok.inj (leads.1.symm.trans leadsTo_obstructed.1)
  have free : obstructed.fileAt? ["out", makefileName] = none := by decide +kernel
  have other : Text.join "/" [makefileName] ≠ changesName := by decide
  have seen : ChangeReport.contents? (below.filter fun f => f.1 != changesName)
      (Text.join "/" [makefileName]) =
        (obstructed.fileAt? (["out"] ++ [makefileName])).map fun contents =>
          if ["out"] ++ [makefileName] ∈ obstructed.unreadable then #[] else contents :=
    contents?_seen unambiguous_obstructed wellNamed_obstructed perm (by simp)
      (by simpa using isFileName_makefileName) fun _ => bne_iff_ne.mpr other
  have absent := seen.trans (Option.map_eq_none_iff.mpr free)
  have list : makefileName ∈ listNames { makefile := true, listChanges := true } := by decide
  obtain ⟨f, mem, path⟩ := exists_product _ list
  refine ⟨report, _, reported, changed, ?_, free, ?_⟩
  · exact ChangeReport.mem_added.mpr ⟨path ▸ List.mem_map_of_mem mem, absent⟩
  · have fails : verdict obstructed (["out"] ++ [f.1]) f.2 = .error .isDirectory := by
      have in_the_way : obstructed.node? ["out", makefileName] = some .dir := by decide +kernel
      simp [path, verdict, permission, FileTree.isDir, in_the_way]
    have stays : ran.2.node? (["out"] ++ [f.1]) = obstructed.node? (["out"] ++ [f.1]) := by
      rw [left]
      refine (node?_done_of_mem
        (nodup_products built_twins {} no_slash { makefile := true, listChanges := true })
        (fun f mem => (isFileName_of_mem_products no_slash _ mem).2) _ mem).trans ?_
      rw [fails]
    rw [path] at stays
    exact (fileAt?_congr stays).trans free

end Generation

end Reflectory
