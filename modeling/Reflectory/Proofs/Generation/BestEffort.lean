/-
A run does what it can.

A file that cannot be written stops nothing. Every other product is written, the
failures are the products that could not be written and could not be read as being there
already, and nothing else in the tree changes. That holds for every combination of
refusals, because the products have different names and none of them is named like the
list of changes.

* `run_is_best_effort`: a run that has its directory reports, and what it reports is
  what it has done.
* `more_is_touched_or_fails`: a path that goes up leaves a directory below the run's own,
  and a product that holds its text fails where it cannot be read or written.
-/

import Reflectory.Proofs.FileTree.Making
import Reflectory.Proofs.Generation.Rerun

namespace Reflectory

/-! ### Refusals -/

namespace FileTree

variable {t : FileTree} {p : Place} {path : String}

/-- Why no file can be written at a path, whatever it holds; none if one can. -/
def refusal? (t : FileTree) (path : String) : Option FileError :=
  match t.write path #[] with
  | .ok _ => none
  | .error cause => some cause

theorem read_eq_ok_iff (leads : t.locate path = .ok p) {contents : Bytes} :
    t.read path = .ok contents ↔ t.node? p = some (.file contents) ∧ p ∉ t.unreadable := by
  rw [FileTree.read, leads]
  dsimp only
  cases t.node? p with
  | none => simp
  | some n =>
    cases n with
    | dir => simp
    | file current =>
      unfold readAt
      split_ifs with hidden
      · simp [hidden]
      · simp [hidden]

end FileTree

namespace Generation

open FileTree

variable {t : FileTree} {p : Place} {dir : String} {files : List (String × Bytes)}
  {options : GenerationOptions}

theorem refusal?_eq (leads : t.LeadsTo (names dir) p) {name : String} (is_name : IsFileName name) :
    t.refusal? (joinPath dir name) =
      match permission t (p ++ [name]) with
      | .ok _ => none
      | .error cause => some cause := by
  rw [refusal?, FileTree.write, locate_joinPath leads is_name, permission]
  simp only [List.contains_iff_mem]
  split_ifs <;> rfl

/-! ### What to expect -/

/-- The failure to expect of a product: it is refused, and cannot be read as being there
already. -/
def expected? (t : FileTree) (dir : String) (f : String × Bytes) : Option WriteFailure :=
  match t.read (joinPath dir f.1) with
  | .ok current => if current = f.2 then none else refused
  | .error _ => refused
where
  refused := (t.refusal? (joinPath dir f.1)).map (WriteFailure.mk (joinPath dir f.1))

/-- The failure to expect of the list of changes, which is written in any case. -/
def expectedOfListing? (t : FileTree) (dir : String) (options : GenerationOptions) :
    Option WriteFailure :=
  if options.listChanges then
    (t.refusal? (joinPath dir changesName)).map (WriteFailure.mk (joinPath dir changesName))
  else none

theorem failure?_verdict (leads : t.LeadsTo (names dir) p) {f : String × Bytes}
    (is_name : IsFileName f.1) :
    Outcome.failure? ⟨joinPath dir f.1, verdict t (p ++ [f.1]) f.2⟩ = expected? t dir f := by
  have located := locate_joinPath leads is_name
  unfold expected? expected?.refused
  rw [refusal?_eq leads is_name]
  by_cases there : t.node? (p ++ [f.1]) = some (.file f.2) ∧ p ++ [f.1] ∉ t.unreadable
  · rw [(read_eq_ok_iff located).mpr there, verdict_of_read there]
    simp [Outcome.failure?]
  · rw [verdict_of_not_read there]
    have other : ∀ current, t.read (joinPath dir f.1) = .ok current → current ≠ f.2 := by
      rintro current read rfl
      exact there ((read_eq_ok_iff located).mp read)
    cases read : t.read (joinPath dir f.1) with
    | error cause => cases permission t (p ++ [f.1]) <;> rfl
    | ok current =>
      simp only [if_neg (other current read)]
      cases permission t (p ++ [f.1]) <;> rfl

/-- The list of changes fails if it is refused before the products are written. -/
theorem failure?_listed (leads : t.LeadsTo (names dir) p)
    (apart : ∀ f ∈ files, f.1 ≠ changesName) :
    (listed (filled t p files) dir p options).filterMap Outcome.failure? =
      (expectedOfListing? t dir options).toList := by
  unfold listed expectedOfListing?
  split_ifs
  · rw [refusal?_eq leads isFileName_changesName, permission_filled apart]
    cases permission t (p ++ [changesName]) <;> rfl
  · rfl

/-- The failures that a run reports are those to expect. -/
theorem failures_eq (leads : t.LeadsTo (names dir) p)
    (is_name : ∀ f ∈ files, IsFileName f.1 ∧ f.1 ≠ changesName) :
    (outcomes t dir p files ++ listed (filled t p files) dir p options).filterMap
        Outcome.failure? =
      files.filterMap (expected? t dir) ++ (expectedOfListing? t dir options).toList := by
  have products : (outcomes t dir p files).filterMap Outcome.failure? =
      files.filterMap (expected? t dir) := by
    unfold outcomes
    rw [List.filterMap_map]
    exact List.filterMap_congr fun f mem => failure?_verdict leads (is_name f mem).1
  rw [List.filterMap_append, products, failure?_listed leads fun f mem => (is_name f mem).2]

/-! ### Once each -/

theorem joinPath_inj {dir name name' : String} (is_name : IsFileName name)
    (is_name' : IsFileName name') (same : joinPath dir name = joinPath dir name') :
    name = name' := by
  have parts := congrArg names same
  rw [is_name.names_joinPath, is_name'.names_joinPath] at parts
  exact List.singleton_inj.mp (List.append_cancel_left parts)

theorem path_of_expected? {f : String × Bytes} {failure : WriteFailure}
    (expects : expected? t dir f = some failure) : failure.path = joinPath dir f.1 := by
  have refused : expected?.refused t dir f = some failure := by
    unfold expected? at expects
    split at expects
    next => split_ifs at expects; exact expects
    next => exact expects
  obtain ⟨cause, -, rfl⟩ := Option.map_eq_some_iff.mp refused
  rfl

theorem path_of_expectedOfListing? {failure : WriteFailure}
    (expects : expectedOfListing? t dir options = some failure) :
    failure.path = joinPath dir changesName := by
  unfold expectedOfListing? at expects
  split_ifs at expects
  obtain ⟨cause, -, rfl⟩ := Option.map_eq_some_iff.mp expects
  rfl

theorem paths_sublist (files : List (String × Bytes)) :
    ((files.filterMap (expected? t dir)).map WriteFailure.path).Sublist
      (files.map fun f => joinPath dir f.1) := by
  induction files with
  | nil => exact .slnil
  | cons f files ih =>
    rw [List.filterMap_cons]
    cases expects : expected? t dir f with
    | none => exact ih.cons _
    | some failure =>
      rw [List.map_cons, path_of_expected? expects]
      exact ih.cons_cons _

/-- No path fails twice. -/
theorem nodup_failures (nodup : (files.map Prod.fst).Nodup)
    (is_name : ∀ f ∈ files, IsFileName f.1 ∧ f.1 ≠ changesName) :
    ((files.filterMap (expected? t dir) ++ (expectedOfListing? t dir options).toList).map
      WriteFailure.path).Nodup := by
  have products : (files.map fun f => joinPath dir f.1).Nodup := by
    have joined :
        (files.map fun f => joinPath dir f.1) = (files.map Prod.fst).map (joinPath dir) := by
      rw [List.map_map]
      rfl
    rw [joined]
    refine nodup.map_on fun name mem name' mem' same => ?_
    obtain ⟨f, f_mem, rfl⟩ := List.mem_map.mp mem
    obtain ⟨g, g_mem, rfl⟩ := List.mem_map.mp mem'
    exact joinPath_inj (is_name f f_mem).1 (is_name g g_mem).1 same
  rw [List.map_append]
  refine (products.sublist (paths_sublist files)).append ?_ fun path product list => ?_
  · cases expectedOfListing? t dir options with
    | none => exact List.nodup_nil
    | some failure => exact List.nodup_singleton _
  · obtain ⟨failure, mem, rfl⟩ := List.mem_map.mp list
    have named := path_of_expectedOfListing? (Option.mem_toList.mp mem)
    obtain ⟨f, f_mem, same⟩ := List.mem_map.mp ((paths_sublist files).subset product)
    exact (is_name f f_mem).2
      (joinPath_inj (is_name f f_mem).1 isFileName_changesName (same.trans named))

/-! ### A run -/

/-- What a run has done that found `start` with its directory at a place, and has left
`done`. -/
structure BestEffort (start done : FileTree) (dir : String) (place : Place)
    (files : List (String × Bytes)) (options : GenerationOptions) (report : GenerationReport) :
    Prop where
  /-- What is not refused holds its text. -/
  written : ∀ f ∈ files, start.refusal? (joinPath dir f.1) = none →
    done.node? (place ++ [f.1]) = some (.file f.2)
  /-- What is refused is as it was. -/
  kept : ∀ f ∈ files, start.refusal? (joinPath dir f.1) ≠ none →
    done.node? (place ++ [f.1]) = start.node? (place ++ [f.1])
  /-- What is refused and cannot be read as holding its text has failed, in order. -/
  failures : report.failures =
    files.filterMap (expected? start dir) ++ (expectedOfListing? start dir options).toList
  once : (report.failures.map WriteFailure.path).Nodup
  /-- Everything else is as it was. -/
  elsewhere : ∀ q, (∀ f ∈ files, q ≠ place ++ [f.1]) →
    (options.listChanges → q ≠ place ++ [changesName]) → done.node? q = start.node? q

/-- In the place of a product stands what becomes of it. -/
theorem node?_done_of_mem (nodup : (files.map Prod.fst).Nodup)
    (apart : ∀ f ∈ files, f.1 ≠ changesName) (changes : ChangeReport) {f : String × Bytes}
    (mem : f ∈ files) :
    (withListing (filled t p files) p options changes).node? (p ++ [f.1]) =
      match verdict t (p ++ [f.1]) f.2 with
      | .ok _ => some (.file f.2)
      | .error _ => t.node? (p ++ [f.1]) :=
  (node?_withListing_of_ne (fun same => apart f mem (place_inj.mp same)) changes).trans
    (node?_filled_of_mem nodup mem)

/-- What is written is what the failures leave out. -/
theorem bestEffort (leads : t.LeadsTo (names dir) p) (nodup : (files.map Prod.fst).Nodup)
    (is_name : ∀ f ∈ files, IsFileName f.1 ∧ f.1 ≠ changesName) (changes : ChangeReport)
    {report : GenerationReport}
    (failures : report.failures =
      (outcomes t dir p files ++ listed (filled t p files) dir p options).filterMap
        Outcome.failure?) :
    BestEffort t (withListing (filled t p files) p options changes) dir p files options report := by
  set done := withListing (filled t p files) p options changes
  have there : ∀ f ∈ files, done.node? (p ++ [f.1]) =
      match verdict t (p ++ [f.1]) f.2 with
      | .ok _ => some (.file f.2)
      | .error _ => t.node? (p ++ [f.1]) := fun f mem =>
    node?_done_of_mem nodup (fun f mem => (is_name f mem).2) changes mem
  have expected := failures.trans (failures_eq leads is_name)
  refine ⟨fun f mem allowed => ?_, fun f mem refused => ?_, expected, ?_, fun q other list => ?_⟩
  · rw [refusal?_eq leads (is_name f mem).1] at allowed
    rw [there f mem, verdict]
    split_ifs
    · rfl
    · cases may : permission t (p ++ [f.1]) with
      | ok => rfl
      | error cause =>
        rw [may] at allowed
        cases allowed
  · rw [refusal?_eq leads (is_name f mem).1] at refused
    rw [there f mem, verdict]
    split_ifs with same
    · exact same.1.symm
    · cases may : permission t (p ++ [f.1]) with
      | ok =>
        rw [may] at refused
        exact absurd rfl refused
      | error cause => rfl
  · rw [expected]
    exact nodup_failures nodup is_name
  · refine Eq.trans ?_ (node?_filled_of_ne other)
    unfold done withListing
    split_ifs with listing
    · exact node?_carryOut_of_ne (place_ne_nil p changesName) (list listing) _ _
    · rfl

section

variable {r : Registry} (built : r.Built) (consolidation : Configuration) {config : Configuration}
  (no_slash : ∀ e ∈ config.namingOverrides, '/' ∉ e.2.toList) {outputDir : String}
include built no_slash

/-- A run that has its directory does what it can there. -/
theorem run_effort
    (made : (t.makeDirs (joinPath outputDir config.outputSubpath)).1 = .ok ())
    (scanned : options.listChanges →
      ∃ before, (t.makeDirs (joinPath outputDir config.outputSubpath)).2.filesBelow
        (joinPath outputDir config.outputSubpath) = .ok before) :
    let registry := (r.consolidate consolidation).registry
    let dir := joinPath outputDir config.outputSubpath
    let files := products (UnitFile.ofRegistry registry config) options
    let start := (t.makeDirs dir).2
    let ran := (run registry config options outputDir : OnTree Generation) t
    ∃ place report, start.LeadsTo (names dir) place ∧ ran.1.result = .ok report ∧
      Grows start ran.2 ∧ BestEffort start ran.2 dir place files options report := by
  intro registry dir files start ran
  have is_name : ∀ f ∈ files, IsFileName f.1 ∧ f.1 ≠ changesName := fun f mem =>
    isFileName_of_mem_products no_slash options mem
  have nodup : (files.map Prod.fst).Nodup := nodup_products built consolidation no_slash options
  obtain ⟨place, leads⟩ := leadsToDir_iff.mp ((t.makes_makeDirs dir).2 made)
  obtain ⟨before, look⟩ : ∃ before, found start dir options = .ok before := by
    unfold found
    split_ifs with listing
    · obtain ⟨before, below⟩ := scanned listing
      exact ⟨_, by rw [below]; rfl⟩
    · exact ⟨[], rfl⟩
  obtain ⟨reported, left⟩ := (run_spec (t := t) (fun f mem => (is_name f mem).1) nodup).mpr
    ⟨made, before, look, place, leads, rfl, rfl⟩
  have effort : BestEffort start
      (withListing (filled start place files) place options (.between before files)) dir place
      files options (reportOf registry config options dir place before start) :=
    bestEffort leads nodup is_name (.between before files) rfl
  rw [← left] at effort
  exact ⟨place, _, leads, reported,
    left ▸ (grows_filled start place files).trans (grows_withListing _ place options _), effort⟩

/-- **A run is best effort.** Where its directory is there or can be made, and can be
looked at if changes are to be listed, a run ends with a report. Every product that is
not refused holds its text then. The failures are the products that were refused and
could not be read as holding their text, in the order of production, and behind them the
list of changes if it was refused; no path is among them twice. Everything else that stood
in the tree is unchanged. What is new are directories on the way to the run's own, and
below that there are none, if it was there or its path does not go up. -/
theorem run_is_best_effort
    (made : (t.makeDirs (joinPath outputDir config.outputSubpath)).1 = .ok ())
    (scanned : options.listChanges →
      ∃ before, (t.makeDirs (joinPath outputDir config.outputSubpath)).2.filesBelow
        (joinPath outputDir config.outputSubpath) = .ok before) :
    let registry := (r.consolidate consolidation).registry
    let dir := joinPath outputDir config.outputSubpath
    let files := products (UnitFile.ofRegistry registry config) options
    let start := (t.makeDirs dir).2
    let ran := (run registry config options outputDir : OnTree Generation) t
    ∃ place report, start.LeadsTo (names dir) place ∧ ran.1.result = .ok report ∧
      BestEffort start ran.2 dir place files options report ∧
      ∀ q, (∀ f ∈ files, q ≠ place ++ [f.1]) →
        (options.listChanges → q ≠ place ++ [changesName]) →
        (∀ n, t.node? q = some n → ran.2.node? q = some n) ∧
        (ran.2.node? q = t.node? q ∨ ∃ way, way <+: names dir ∧ ran.2.LeadsTo way q) ∧
        (t.LeadsTo (names dir) place ∨ ".." ∉ names dir → place <+: q → q ≠ place →
          ran.2.node? q = t.node? q) := by
  intro registry dir files start ran
  obtain ⟨place, report, leads, reported, grows, effort⟩ :=
    run_effort built consolidation no_slash made scanned
  have along : MadeAlong (names dir) t start := t.madeAlong_makeDirs dir
  refine ⟨place, report, leads, reported, effort, fun q other list => ?_⟩
  have same : ran.2.node? q = start.node? q := effort.elsewhere q other list
  refine ⟨fun n there => same.trans (along.keeps there), ?_, fun there below not_dir => ?_⟩
  · rw [same]
    exact (along.only q).imp_right fun ⟨_, way, begins, leads⟩ => ⟨way, begins, grows.leadsTo leads⟩
  · refine same.trans ?_
    obtain there | down := there
    · have nothing_made : start = t := congrArg Prod.snd (makeDirs_of_leadsTo there)
      rw [nothing_made]
    · exact along.below_eq down leads below not_dir

end

/-- The lists are among the products. -/
theorem exists_product (units : List UnitFile) {name : String} (list : name ∈ listNames options) :
    ∃ f ∈ products units options, f.1 = name := by
  refine List.mem_map.mp ?_
  rw [names_products]
  exact List.mem_append_right _ list

theorem expected?_eq_some {f : String × Bytes} {unread cause : FileError}
    (read : t.read (joinPath dir f.1) = .error unread)
    (refused : t.refusal? (joinPath dir f.1) = some cause) :
    expected? t dir f = some ⟨joinPath dir f.1, cause⟩ := by
  unfold expected? expected?.refused
  rw [read, refused]
  rfl

/-- A directory in which a directory is named like the makefile, and in which the
manifest cannot be written. -/
def obstructed : FileTree where
  nodes := [(["out"], .dir), (["out", "GNUmakefile"], .dir), (["out", "old.txt"], .file #[])]
  refused := [["out", "wrappers.manifest"]]

theorem leadsTo_obstructed : obstructed.LeadsTo (names "out/") ["out"] :=
  leadsTo_out (by decide +kernel)

theorem makeDirs_obstructed : obstructed.makeDirs "out/" = (.ok (), obstructed) :=
  makeDirs_of_leadsTo leadsTo_obstructed

/-- The run into `obstructed` fails for the manifest and the makefile, and leaves alone
what else was there. -/
theorem run_is_best_effort_obstructed :
    let ran := (run (twins.consolidate {}).registry { outputSubpath? := some "" }
      { makefile := true, listChanges := true } "out" : OnTree Generation) obstructed
    ∃ report, ran.1.result = .ok report ∧
      ⟨joinPath "out/" manifestName, .refused⟩ ∈ report.failures ∧
      ⟨joinPath "out/" makefileName, .isDirectory⟩ ∈ report.failures ∧
      ran.2.node? ["out", "old.txt"] = some (.file #[]) := by
  intro ran
  obtain ⟨before, below, -⟩ := filesBelow_perm leadsTo_obstructed (by decide)
  have no_slash : ∀ e ∈ ({ outputSubpath? := some "" } : Configuration).namingOverrides,
      '/' ∉ e.2.toList := nofun
  have made : (obstructed.makeDirs
      (joinPath "out" (Configuration.outputSubpath { outputSubpath? := some "" }))).1 = .ok () := by
    rw [dir_out, makeDirs_obstructed]
  have scanned : GenerationOptions.listChanges { makefile := true, listChanges := true } →
      ∃ before, (obstructed.makeDirs
        (joinPath "out" (Configuration.outputSubpath { outputSubpath? := some "" }))).2.filesBelow
          (joinPath "out" (Configuration.outputSubpath { outputSubpath? := some "" })) =
        .ok before := by
    rw [dir_out, makeDirs_obstructed]
    exact fun _ => ⟨before, below⟩
  obtain ⟨place, report, leads, reported, effort, others⟩ :=
    run_is_best_effort built_twins {} no_slash made scanned
  rw [dir_out, makeDirs_obstructed] at leads effort
  obtain rfl : place = ["out"] := Except.ok.inj (leads.1.symm.trans leadsTo_obstructed.1)
  have fails : ∀ name ∈ listNames { makefile := true, listChanges := true }, ∀ unread cause,
      obstructed.read (joinPath "out/" name) = .error unread →
      obstructed.refusal? (joinPath "out/" name) = some cause →
        ⟨joinPath "out/" name, cause⟩ ∈ report.failures := by
    intro name list unread cause read refused
    obtain ⟨f, mem, rfl⟩ := exists_product _ list
    rw [effort.failures]
    exact List.mem_append_left _ (List.mem_filterMap.mpr ⟨f, mem, expected?_eq_some read refused⟩)
  refine ⟨report, reported, ?_, ?_, ?_⟩
  · exact fails manifestName (by decide) .notFound .refused (by decide +kernel) (by decide +kernel)
  · exact fails makefileName (by decide) .isDirectory .isDirectory (by decide +kernel)
      (by decide +kernel)
  · refine (others ["out", "old.txt"] (fun f mem same => ?_) (by decide)).1 _ (by decide +kernel)
    have named : f.1 = "old.txt" := by simpa using same.symm
    have produced := List.mem_map_of_mem (f := Prod.fst) mem
    rw [named] at produced
    refine notMem_names_products no_slash _ (fun unit => ?_) (by decide) produced
    exact absurd unit.getLast?_eq (by decide)

/-- A directory in which the makefile of the units of `twins` holds its text, and can
neither be read nor written. -/
def locked : FileTree where
  nodes := [(["out"], .dir), (["out", "GNUmakefile"], .file (textBytes (UnitFile.makefile
    (UnitFile.ofRegistry (twins.consolidate {}).registry { outputSubpath? := some "" }))))]
  refused := [["out", "GNUmakefile"]]
  unreadable := [["out", "GNUmakefile"]]

/-- **More can change, and more can fail.** A run whose path goes up makes a directory
below its own that was not there. And in `locked` the makefile holds its text already, but
the run cannot see that, and fails to write it. -/
theorem more_is_touched_or_fails :
    let registry := (twins.consolidate {}).registry
    let config : Configuration := { outputSubpath? := some "" }
    let files := products (UnitFile.ofRegistry registry config) { makefile := true }
    let generate (dir : String) : OnTree Generation :=
      run registry config { makefile := true } dir
    (∃ report, (generate "x/y/.." {}).1.result = .ok report ∧
      (generate "x/y/.." {}).2.LeadsTo (names "x/y/..") ["x"] ∧
      (∀ f ∈ files, ["x", "y"] ≠ ["x"] ++ [f.1]) ∧
      ({} : FileTree).node? ["x", "y"] = none ∧
      (generate "x/y/.." {}).2.node? ["x", "y"] = some .dir) ∧
    ∃ report, ∃ f ∈ files, (generate "out" locked).1.result = .ok report ∧
      locked.node? ["out", f.1] = some (.file f.2) ∧
      ⟨joinPath "out/" f.1, .refused⟩ ∈ report.failures := by
  intro registry config files generate
  have no_slash : ∀ e ∈ config.namingOverrides, '/' ∉ e.2.toList := nofun
  constructor
  · have up : joinPath "x/y/.." config.outputSubpath = "x/y/../" := by decide +kernel
    have makes : ({} : FileTree).makeDirs "x/y/../" =
        (.ok (), { nodes := [(["x", "y"], .dir), (["x"], .dir)] }) := by decide +kernel
    have made : (({} : FileTree).makeDirs (joinPath "x/y/.." config.outputSubpath)).1 = .ok () := by
      rw [up, makes]
    have unlisted : ¬ GenerationOptions.listChanges { makefile := true } := nofun
    obtain ⟨place, report, leads, reported, grows, effort⟩ :=
      run_effort built_twins {} no_slash made fun listing => absurd listing unlisted
    rw [up, makes] at leads grows effort
    obtain rfl : place = ["x"] :=
      Except.ok.inj (leads.1.symm.trans (by decide +kernel))
    have other : ∀ f ∈ files, ["x", "y"] ≠ ["x"] ++ [f.1] := by
      intro f mem same
      have named : f.1 = "y" := by simpa using same.symm
      refine notMem_names_products no_slash _ (fun unit => ?_) (by decide)
        (named ▸ List.mem_map_of_mem (f := Prod.fst) mem)
      exact absurd unit.getLast?_eq (by decide)
    refine ⟨report, reported, grows.leadsTo leads, other, rfl, ?_⟩
    exact (effort.elsewhere _ other fun listing => absurd listing unlisted).trans
      (by decide +kernel)
  · have leads : locked.LeadsTo (names "out/") ["out"] := leadsTo_out rfl
    have made : (locked.makeDirs (joinPath "out" config.outputSubpath)).1 = .ok () := by
      rw [dir_out, makeDirs_of_leadsTo leads]
    have unlisted : ¬ GenerationOptions.listChanges { makefile := true } := nofun
    obtain ⟨place, report, -, reported, -, effort⟩ :=
      run_effort built_twins {} no_slash made fun listing => absurd listing unlisted
    rw [dir_out, makeDirs_of_leadsTo leads] at effort
    have mem : (makefileName, textBytes (UnitFile.makefile (UnitFile.ofRegistry registry config))) ∈
        files := makefile_mem_products _ rfl
    have unread : locked.read (joinPath "out/" makefileName) = .error .refused := by
      decide +kernel
    have refused : locked.refusal? (joinPath "out/" makefileName) = some .refused := by
      decide +kernel
    refine ⟨report, _, mem, reported, rfl, ?_⟩
    rw [effort.failures]
    refine List.mem_append_left _ (List.mem_filterMap.mpr ⟨_, mem, ?_⟩)
    exact expected?_eq_some unread refused

end Generation

end Reflectory
