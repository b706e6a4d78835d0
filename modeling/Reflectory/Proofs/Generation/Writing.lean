/-
What a run does to a tree of files.

The products of a run lie side by side in one directory and have different names,
so what becomes of each can be read off the tree before the first is written:
`verdict`. The tree afterwards is `filled` with those that could be written, and
the list of changes comes last.

* `mapM_writeIfChanged`: the products are written as their verdicts say.
* `run_spec`: what a run reports and the tree that it leaves.
-/

import Reflectory.Proofs.Generation.FileNames

namespace Reflectory.Generation

open FileTree

/-! ### Steps on a tree -/

section Steps

variable {α β : Type} (t : FileTree)

@[simp] theorem bind_apply (x : OnTree α) (f : α → OnTree β) :
    (x >>= f) t = f (x t).1 (x t).2 := rfl

@[simp] theorem pure_apply (a : α) : (pure a : OnTree α) t = (a, t) := rfl

@[simp] theorem read_apply (path : String) :
    (FileAccess.read path : OnTree (Except FileError Bytes)) t = (t.read path, t) := rfl

@[simp] theorem makeDirs_apply (path : String) :
    (FileAccess.makeDirs path : OnTree (Except FileError Unit)) t = t.makeDirs path := rfl

@[simp] theorem filesBelow_apply (path : String) :
    (FileAccess.filesBelow path :
      OnTree (Except FileError (List (String × Except FileError Bytes)))) t =
        (t.filesBelow path, t) := rfl

theorem write_apply (path : String) (contents : Bytes) :
    (FileAccess.write path contents : OnTree (Except FileError Unit)) t =
      match t.write path contents with
      | .ok t => (.ok (), t)
      | .error cause => (.error cause, t) := rfl

end Steps

/-! ### One file -/

/-- Whether a file can be written at a place, whatever it holds. -/
def permission (t : FileTree) (p : Place) : Except FileError Bool :=
  if t.isDir p then .error .isDirectory
  else if t.refused.contains p then .error .refused
  else .ok true

/-- What becomes of a file that is to hold these contents: nothing if they can be read in
its place. -/
def verdict (t : FileTree) (p : Place) (contents : Bytes) : Except FileError Bool :=
  if t.node? p = some (.file contents) ∧ ¬ t.unreadable.contains p then .ok false
  else permission t p

theorem verdict_of_read {t : FileTree} {p : Place} {contents : Bytes}
    (there : t.node? p = some (.file contents) ∧ p ∉ t.unreadable) :
    verdict t p contents = .ok false := by
  rw [verdict, if_pos]
  simpa using there

theorem verdict_of_not_read {t : FileTree} {p : Place} {contents : Bytes}
    (other : ¬ (t.node? p = some (.file contents) ∧ p ∉ t.unreadable)) :
    verdict t p contents = permission t p := by
  rw [verdict, if_neg]
  simpa using other

/-- The tree with a file that is written as decided. -/
def carryOut (t : FileTree) (p : Place) (contents : Bytes) : Except FileError Bool → FileTree
  | .ok true => t.put p (.file contents)
  | _ => t

theorem overwrite_apply {t : FileTree} {path : String} {p : Place} (leads : t.locate path = .ok p)
    (contents : Bytes) :
    (overwrite path contents : OnTree Outcome) t =
      (⟨path, permission t p⟩, carryOut t p contents (permission t p)) := by
  unfold overwrite
  rw [bind_apply, write_apply, FileTree.write, leads, permission]
  simp only [List.contains_iff_mem]
  split_ifs <;> rfl

theorem writeIfChanged_apply {t : FileTree} {path : String} {p : Place}
    (leads : t.locate path = .ok p) (contents : Bytes) :
    (writeIfChanged path contents : OnTree Outcome) t =
      (⟨path, verdict t p contents⟩, carryOut t p contents (verdict t p contents)) := by
  unfold writeIfChanged
  rw [bind_apply, read_apply, FileTree.read, leads]
  dsimp only
  by_cases read : t.node? p = some (.file contents) ∧ p ∉ t.unreadable
  · rw [verdict_of_read read]
    simp [read.1, readAt, read.2, carryOut]
  · rw [verdict_of_not_read read]
    cases there : t.node? p with
    | none => exact overwrite_apply leads contents
    | some n =>
      cases n with
      | dir => exact overwrite_apply leads contents
      | file current =>
        by_cases hidden : p ∈ t.unreadable
        · simp only [readAt, if_pos hidden]
          exact overwrite_apply leads contents
        · have other : current ≠ contents := by
            rintro rfl
            exact read ⟨there, hidden⟩
          simp only [readAt, if_neg hidden, if_neg other]
          exact overwrite_apply leads contents

/-- The tree with a file that is to hold these contents, if it can be written. -/
def withFile (t : FileTree) (p : Place) (contents : Bytes) : FileTree :=
  carryOut t p contents (verdict t p contents)

theorem grows_permission (t : FileTree) (p : Place) (contents : Bytes) :
    Grows t (carryOut t p contents (permission t p)) := by
  unfold permission
  split_ifs with dir refused
  · exact .refl
  · exact .refl
  · exact .put .refl (Bool.eq_false_iff.mpr dir)

theorem grows_withFile (t : FileTree) (p : Place) (contents : Bytes) :
    Grows t (withFile t p contents) := by
  unfold withFile verdict
  split_ifs
  · exact .refl
  · exact grows_permission t p contents

theorem node?_carryOut_of_ne {t : FileTree} {p q : Place} (p_ne : p ≠ []) (other : q ≠ p)
    (contents : Bytes) (decided : Except FileError Bool) :
    (carryOut t p contents decided).node? q = t.node? q := by
  unfold carryOut
  split
  · rw [node?_put _ _ _ _ p_ne, if_neg other]
  · rfl

/-- The file stands in its place, unless it could not be written. -/
theorem node?_withFile {t : FileTree} {p : Place} (p_ne : p ≠ []) (contents : Bytes) :
    (withFile t p contents).node? p =
      match verdict t p contents with
      | .ok _ => some (.file contents)
      | .error _ => t.node? p := by
  unfold withFile verdict permission
  split_ifs with there
  · exact there.1
  · rfl
  · rfl
  · rw [carryOut, node?_put _ _ _ _ p_ne, if_pos rfl]

/-- Whether a file can be written depends only on what stands in its place. -/
theorem permission_congr {t u : FileTree} {p : Place} (same : u.node? p = t.node? p)
    (refused : u.refused = t.refused) : permission u p = permission t p := by
  rw [permission, permission, FileTree.isDir, FileTree.isDir, same, refused]

/-- What becomes of a file depends only on what stands in its place. -/
theorem verdict_congr {t u : FileTree} (grows : Grows t u) {p : Place}
    (same : u.node? p = t.node? p) (contents : Bytes) :
    verdict u p contents = verdict t p contents := by
  rw [verdict, verdict, permission_congr same grows.refused_eq, same, grows.unreadable_eq]

/-! ### All files of a run -/

/-- The tree with all files that can be written. -/
def filled (t : FileTree) (p : Place) : List (String × Bytes) → FileTree
  | [] => t
  | f :: files => filled (withFile t (p ++ [f.1]) f.2) p files

theorem grows_filled (t : FileTree) (p : Place) (files : List (String × Bytes)) :
    Grows t (filled t p files) := by
  induction files generalizing t with
  | nil => exact .refl
  | cons f files ih => exact (grows_withFile t (p ++ [f.1]) f.2).trans (ih _)

theorem place_ne_nil (p : Place) (name : String) : p ++ [name] ≠ [] := by simp

theorem place_inj {p : Place} {name name' : String} :
    p ++ [name] = p ++ [name'] ↔ name = name' := by
  simp

theorem node?_withFile_of_ne {t : FileTree} {p q : Place} {f : String × Bytes}
    (other : q ≠ p ++ [f.1]) : (withFile t (p ++ [f.1]) f.2).node? q = t.node? q :=
  node?_carryOut_of_ne (place_ne_nil p f.1) other _ _

/-- Places of no file of the run stay as they are. -/
theorem node?_filled_of_ne {t : FileTree} {p q : Place} {files : List (String × Bytes)}
    (other : ∀ f ∈ files, q ≠ p ++ [f.1]) : (filled t p files).node? q = t.node? q := by
  induction files generalizing t with
  | nil => rfl
  | cons f files ih =>
    obtain ⟨first, other⟩ := List.forall_mem_cons.mp other
    exact (ih other).trans (node?_withFile_of_ne first)

/-- The products do not change whether the list of changes can be written. -/
theorem permission_filled {t : FileTree} {p : Place} {files : List (String × Bytes)}
    (apart : ∀ f ∈ files, f.1 ≠ changesName) :
    permission (filled t p files) (p ++ [changesName]) = permission t (p ++ [changesName]) :=
  permission_congr
    (node?_filled_of_ne fun f mem same => apart f mem (place_inj.mp same).symm)
    (grows_filled t p files).refused_eq

/-- Behind one file, another finds what it would have found before it. -/
theorem verdict_withFile {t : FileTree} {p : Place} {f g : String × Bytes} (other : f.1 ≠ g.1) :
    verdict (withFile t (p ++ [f.1]) f.2) (p ++ [g.1]) g.2 = verdict t (p ++ [g.1]) g.2 :=
  verdict_congr (grows_withFile t (p ++ [f.1]) f.2)
    (node?_withFile_of_ne fun same => other (place_inj.mp same).symm) _

/-- A file of the run stands in its place, unless it could not be written. -/
theorem node?_filled_of_mem {t : FileTree} {p : Place} {files : List (String × Bytes)}
    (nodup : (files.map Prod.fst).Nodup) {f : String × Bytes} (mem : f ∈ files) :
    (filled t p files).node? (p ++ [f.1]) =
      match verdict t (p ++ [f.1]) f.2 with
      | .ok _ => some (.file f.2)
      | .error _ => t.node? (p ++ [f.1]) := by
  induction files generalizing t with
  | nil => cases mem
  | cons g files ih =>
    obtain ⟨fresh, nodup⟩ := List.nodup_cons.mp nodup
    obtain rfl | mem := List.mem_cons.mp mem
    · have later : ∀ g ∈ files, p ++ [f.1] ≠ p ++ [g.1] := fun g g_mem same =>
        fresh (place_inj.mp same ▸ List.mem_map_of_mem g_mem)
      exact (node?_filled_of_ne later).trans (node?_withFile (place_ne_nil p f.1) f.2)
    · have other : g.1 ≠ f.1 := fun same => fresh (same ▸ List.mem_map_of_mem mem)
      refine (ih nodup mem).trans ?_
      rw [verdict_withFile other, node?_withFile_of_ne fun same => other (place_inj.mp same).symm]

/-- **The products are written as they are decided** on the tree before the first. -/
theorem mapM_writeIfChanged {t : FileTree} {dir : String} {p : Place}
    (leads : t.LeadsTo (names dir) p) {files : List (String × Bytes)}
    (is_name : ∀ f ∈ files, IsFileName f.1) (nodup : (files.map Prod.fst).Nodup) :
    (files.mapM fun f => writeIfChanged (joinPath dir f.1) f.2 : OnTree (List Outcome)) t =
      (files.map fun f => ⟨joinPath dir f.1, verdict t (p ++ [f.1]) f.2⟩, filled t p files) := by
  induction files generalizing t with
  | nil => rfl
  | cons f files ih =>
    obtain ⟨fresh, nodup⟩ := List.nodup_cons.mp nodup
    obtain ⟨first, is_name⟩ := List.forall_mem_cons.mp is_name
    have rest := ih ((grows_withFile t (p ++ [f.1]) f.2).leadsTo leads) is_name nodup
    have same : (files.map fun g => (⟨joinPath dir g.1,
        verdict (withFile t (p ++ [f.1]) f.2) (p ++ [g.1]) g.2⟩ : Outcome)) =
          files.map fun g => ⟨joinPath dir g.1, verdict t (p ++ [g.1]) g.2⟩ := by
      refine List.map_congr_left fun g mem => ?_
      have other : f.1 ≠ g.1 := fun same => fresh (same ▸ List.mem_map_of_mem mem)
      rw [verdict_withFile other]
    rw [List.mapM_cons, bind_apply, writeIfChanged_apply (locate_joinPath leads first), bind_apply,
      ← withFile, rest, pure_apply, same, List.map_cons, filled]

/-! ### A whole run -/

/-- What becomes of the products. -/
def outcomes (t : FileTree) (dir : String) (p : Place) (files : List (String × Bytes)) :
    List Outcome :=
  files.map fun f => ⟨joinPath dir f.1, verdict t (p ++ [f.1]) f.2⟩

/-- What becomes of the list of changes. -/
def listed (t : FileTree) (dir : String) (p : Place) (options : GenerationOptions) :
    List Outcome :=
  if options.listChanges then [⟨joinPath dir changesName, permission t (p ++ [changesName])⟩]
  else []

/-- The tree with the list of changes, if there is to be one and it can be written. -/
def withListing (t : FileTree) (p : Place) (options : GenerationOptions) (changes : ChangeReport) :
    FileTree :=
  if options.listChanges then
    carryOut t (p ++ [changesName]) (textBytes changes.listing) (permission t (p ++ [changesName]))
  else t

/-- What a run reports that finds `before` in its directory. -/
def reportOf (r : Registry) (config : Configuration) (options : GenerationOptions) (dir : String)
    (p : Place) (before : List (String × Bytes)) (t : FileTree) : GenerationReport :=
  let units := UnitFile.ofRegistry r config
  let files := products units options
  { dir
    units
    failures := (outcomes t dir p files ++ listed (filled t p files) dir p options).filterMap
      Outcome.failure?
    changes? := if options.listChanges then some (.between before files) else none
    statistics := .ofRegistry r }

variable {r : Registry} {config : Configuration} {options : GenerationOptions}
  {dir outputDir : String} {p : Place} {t u : FileTree} {report : GenerationReport}

/-- A run writes its products and then the list of changes, and reports it. -/
theorem writeAll_apply (leads : t.LeadsTo (names dir) p)
    (is_name : ∀ f ∈ products (UnitFile.ofRegistry r config) options, IsFileName f.1)
    (nodup : ((products (UnitFile.ofRegistry r config) options).map Prod.fst).Nodup)
    (before : List (String × Bytes)) :
    ((writeAll r config options dir before : OnTree Generation) t).1.result =
        .ok (reportOf r config options dir p before t) ∧
      ((writeAll r config options dir before : OnTree Generation) t).2 =
        withListing (filled t p (products (UnitFile.ofRegistry r config) options)) p options
          (.between before (products (UnitFile.ofRegistry r config) options)) := by
  have written := mapM_writeIfChanged leads is_name nodup
  have leads' := (grows_filled t p (products (UnitFile.ofRegistry r config) options)).leadsTo leads
  have overwritten := overwrite_apply (locate_joinPath leads' isFileName_changesName)
  unfold writeAll reportOf listed withListing outcomes
  cases options.listChanges with
  | false =>
    simp only [bind_apply, written, Bool.false_eq_true, if_false, pure_apply, and_self]
  | true =>
    simp only [bind_apply, written, overwritten, if_true, pure_apply, and_self]

/-- What a run finds in its directory, if it is to list changes. -/
def found (t : FileTree) (dir : String) (options : GenerationOptions) :
    Except FileError (List (String × Bytes)) :=
  if options.listChanges then
    (t.filesBelow dir).map fun files =>
      (files.filter fun f => f.1 != changesName).map ChangeReport.asRead
  else .ok []

theorem snapshot_apply (options : GenerationOptions) (dir : String) (t : FileTree) :
    (snapshot options dir : OnTree (Except FileError (List (String × Bytes)))) t =
      (found t dir options, t) := by
  unfold snapshot found
  split_ifs
  · rw [bind_apply, filesBelow_apply, pure_apply]
  · rw [pure_apply]

/-- A run that reports something has made its directory, has looked at it and has
written to it. -/
theorem run_eq_ok_iff :
    let dir := joinPath outputDir config.outputSubpath
    let run := (run r config options outputDir : OnTree Generation) t
    run.1.result = .ok report ∧ run.2 = u ↔
      (t.makeDirs dir).1 = .ok () ∧ ∃ before, found (t.makeDirs dir).2 dir options = .ok before ∧
        let written := (writeAll r config options dir before : OnTree Generation) (t.makeDirs dir).2
        written.1.result = .ok report ∧ written.2 = u := by
  intro dir generation
  simp only [generation, Generation.run, bind_apply, makeDirs_apply]
  cases (t.makeDirs dir).1 with
  | error cause => simp
  | ok =>
    simp only [bind_apply, snapshot_apply]
    cases found (t.makeDirs dir).2 dir options with
    | error cause => simp
    | ok before => simp [dir]

/-- **What a run does.** Where it makes its directory and can look at it, it reports
what becomes of its files, and leaves the tree with those that could be written. -/
theorem run_spec (is_name : ∀ f ∈ products (UnitFile.ofRegistry r config) options, IsFileName f.1)
    (nodup : ((products (UnitFile.ofRegistry r config) options).map Prod.fst).Nodup) :
    let dir := joinPath outputDir config.outputSubpath
    let files := products (UnitFile.ofRegistry r config) options
    let run := (run r config options outputDir : OnTree Generation) t
    run.1.result = .ok report ∧ run.2 = u ↔
      (t.makeDirs dir).1 = .ok () ∧ ∃ before, found (t.makeDirs dir).2 dir options = .ok before ∧
        ∃ p, (t.makeDirs dir).2.LeadsTo (names dir) p ∧
          report = reportOf r config options dir p before (t.makeDirs dir).2 ∧
          u = withListing (filled (t.makeDirs dir).2 p files) p options
            (.between before files) := by
  intro dir files generation
  refine run_eq_ok_iff.trans ?_
  refine and_congr_right fun made => exists_congr fun before => and_congr_right fun _ => ?_
  obtain ⟨p, leads⟩ := leadsToDir_iff.mp ((t.makes_makeDirs dir).2 made)
  obtain ⟨reported, left⟩ := writeAll_apply leads is_name nodup before
  constructor
  · rintro ⟨result, rfl⟩
    exact ⟨p, leads, Except.ok.inj (result.symm.trans reported), left⟩
  · rintro ⟨q, leads', rfl, rfl⟩
    obtain rfl : p = q := Except.ok.inj (leads.1.symm.trans leads'.1)
    exact ⟨reported, left⟩

end Reflectory.Generation
