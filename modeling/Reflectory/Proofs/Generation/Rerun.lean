/-
Running again.

After a run without failures every product stands in its place with its text. A
second run finds them so and writes none of them; and the files that it does not
produce are those that the first run did not produce either. Only a product that cannot
be read is written again, with the text that it has: it counts as empty, and is listed
as modified each time.

* `rerun_changes_nothing`: the second run has no failures either, leaves everything
  but the list of changes as it is, and lists only what is left over and what cannot be
  read.
* `lists_unread_product`: a product that is listed by a second run, though it had its
  text.
-/

import Reflectory.Proofs.FileTree.Listing
import Reflectory.Proofs.Generation.Writing

namespace Reflectory

/-! ### Changes between listings -/

namespace ChangeReport

/-- Where all files were there before, nothing is added, and modified is what looked
otherwise. -/
theorem between_of_there {before after : List (String × Bytes)} {look : String × Bytes → Bytes}
    (there : ∀ f ∈ after, contents? before f.1 = some (look f)) :
    (between before after).added = [] ∧
      (between before after).modified =
        ((after.filter fun f => look f != f.2).map Prod.fst).mergeSort fun a b => a ≤ b := by
  have none_new : (after.filter fun f => (contents? before f.1).isNone) = [] := by
    rw [List.filter_eq_nil_iff]
    intro f mem
    simp [there f mem]
  have other : (after.filter fun f => (contents? before f.1).any (· != f.2)) =
      after.filter fun f => look f != f.2 := by
    refine List.filter_congr fun f mem => ?_
    simp [there f mem]
  simp only [between, none_new, other, List.map_nil, List.mergeSort_nil, and_self]

/-- The path of a file that is left over. -/
def leftOver? (after : List (String × Bytes)) (f : String × Bytes) : Option String :=
  if (contents? after f.1).isNone then some f.1 else none

/-- What is removed is what is left over, in order. -/
theorem removed_eq (before after : List (String × Bytes)) :
    (between before after).removed =
      (before.filterMap (leftOver? after)).mergeSort fun a b => a ≤ b := by
  have left_over : ((before.map Prod.fst).filter fun path => (contents? after path).isNone) =
      before.filterMap (leftOver? after) := by
    induction before with
    | nil => rfl
    | cons f before ih =>
      cases found : contents? after f.1 <;> simp [leftOver?, found, ih]
  simp only [between, left_over]

end ChangeReport

namespace Generation

open FileTree

variable {t u : FileTree} {p : Place} {dir : String} {files : List (String × Bytes)}
  {options : GenerationOptions}

/-! ### Runs without failures -/

theorem filterMap_failure?_eq_nil {outcomes : List Outcome} :
    outcomes.filterMap Outcome.failure? = [] ↔
      ∀ o ∈ outcomes, ∃ written, o.written = .ok written := by
  rw [List.filterMap_eq_nil_iff]
  refine forall_congr' fun o => forall_congr' fun _ => ?_
  unfold Outcome.failure?
  cases o.written <;> simp

/-- Where products stand in their places, nothing else does afterwards. -/
theorem node?_filled_of_there (nodup : (files.map Prod.fst).Nodup)
    (there : ∀ f ∈ files, t.node? (p ++ [f.1]) = some (.file f.2)) (q : Place) :
    (filled t p files).node? q = t.node? q := by
  by_cases product : ∃ f ∈ files, q = p ++ [f.1]
  · obtain ⟨f, mem, rfl⟩ := product
    rw [node?_filled_of_mem nodup mem]
    split
    · exact (there f mem).symm
    · rfl
  · refine node?_filled_of_ne fun f mem same => product ⟨f, mem, same⟩

theorem permission_eq_ok_iff {written : Bool} :
    permission t p = .ok written ↔ t.isDir p = false ∧ p ∉ t.refused ∧ written = true := by
  unfold permission
  simp only [List.contains_iff_mem]
  split_ifs with dir refused
  · simp [dir]
  · simp [refused]
  · simp [dir, refused, eq_comm]

/-- What could be written where now a file stands can be written again. -/
theorem permission_again (grows : Grows t u) {written : Bool}
    (ok : permission t p = .ok written) {contents : Bytes}
    (there : u.node? p = some (.file contents)) : permission u p = .ok true := by
  obtain ⟨-, allowed, -⟩ := permission_eq_ok_iff.mp ok
  refine permission_eq_ok_iff.mpr ⟨?_, ?_, rfl⟩
  · simp [FileTree.isDir, there]
  · rwa [grows.refused_eq]

/-- A product that was there or could be written succeeds again. -/
theorem verdict_again (grows : Grows t u) {contents : Bytes} {written : Bool}
    (ok : verdict t p contents = .ok written) (there : u.node? p = some (.file contents)) :
    ∃ written, verdict u p contents = .ok written := by
  unfold verdict at ok ⊢
  split_ifs with same
  · exact ⟨false, rfl⟩
  · split_ifs at ok with read
    · exact absurd ⟨there, grows.unreadable_eq ▸ read.2⟩ same
    · exact ⟨true, permission_again grows ok there⟩

theorem grows_withListing (t : FileTree) (p : Place) (options : GenerationOptions)
    (changes : ChangeReport) : Grows t (withListing t p options changes) := by
  unfold withListing
  split_ifs
  · exact grows_permission _ _ _
  · exact .refl

theorem node?_withListing_of_ne {q : Place} (other : q ≠ p ++ [changesName])
    (changes : ChangeReport) : (withListing t p options changes).node? q = t.node? q := by
  unfold withListing
  split_ifs
  · exact node?_carryOut_of_ne (place_ne_nil p changesName) other _ _
  · rfl

/-- A list of changes that could be written can be written again. -/
theorem permission_withListing (listing : options.listChanges) {written : Bool}
    (ok : permission t (p ++ [changesName]) = .ok written) (changes : ChangeReport) :
    permission (withListing t p options changes) (p ++ [changesName]) = .ok true := by
  obtain ⟨-, -, rfl⟩ := permission_eq_ok_iff.mp ok
  have put : withListing t p options changes =
      t.put (p ++ [changesName]) (.file (textBytes changes.listing)) := by
    rw [withListing, if_pos listing, ok, carryOut]
  have there : (withListing t p options changes).node? (p ++ [changesName]) =
      some (.file (textBytes changes.listing)) := by
    simp [put, node?_put]
  exact permission_again (grows_withListing t p options changes) ok there

/-! ### What is left over -/

/-- The places that a run writes to. -/
def writtenPlaces (p : Place) (files : List (String × Bytes)) : List Place :=
  (p ++ [changesName]) :: files.map fun f => p ++ [f.1]

theorem sameOutside_carryOut {places : List Place} (same : SameOutside places t u) {q : Place}
    (mem : q ∈ places) (contents : Bytes) (decided : Except FileError Bool) :
    SameOutside places t (carryOut u q contents decided) := by
  unfold carryOut
  split
  · exact same.put mem _
  · exact same

theorem sameOutside_filled {places : List Place} (same : SameOutside places t u)
    (mem : ∀ f ∈ files, p ++ [f.1] ∈ places) : SameOutside places t (filled u p files) := by
  induction files generalizing u with
  | nil => exact same
  | cons f files ih =>
    obtain ⟨first, mem⟩ := List.forall_mem_cons.mp mem
    exact ih (sameOutside_carryOut same first _ _) mem

/-- A run changes no entries but those of its files. -/
theorem sameOutside_written (t : FileTree) (p : Place) (files : List (String × Bytes))
    (options : GenerationOptions) (changes : ChangeReport) :
    SameOutside (writtenPlaces p files) t (withListing (filled t p files) p options changes) := by
  have products : SameOutside (writtenPlaces p files) t (filled t p files) :=
    sameOutside_filled rfl fun f mem => List.mem_cons_of_mem _ (List.mem_map_of_mem mem)
  unfold withListing
  split_ifs
  · exact sameOutside_carryOut products List.mem_cons_self _ _
  · exact products

/-- The path of an entry that is left over, if it is one. -/
def remainder? (p : Place) (files : List (String × Bytes)) (e : Place × Node) : Option String :=
  ((fileBelow? p e).filter fun f => f.1 != changesName).bind (ChangeReport.leftOver? files)

/-- No file that a run writes is left over. -/
theorem remainder?_eq_none {e : Place × Node} (mem : e.1 ∈ writtenPlaces p files) :
    remainder? p files e = none := by
  unfold remainder?
  cases listed : fileBelow? p e with
  | none => rfl
  | some f =>
    obtain changes | product := List.mem_cons.mp mem
    · have named := name_of_fileBelow? changes listed
      simp [Option.filter, named]
    · obtain ⟨g, g_mem, place⟩ := List.mem_map.mp product
      have named : f.1 = g.1 := name_of_fileBelow? place.symm listed
      have there : ChangeReport.contents? files f.1 ≠ none := by
        simpa [ChangeReport.contents?, named] using ⟨g.2, g_mem⟩
      cases kept : f.1 != changesName <;>
        simp [Option.filter, kept, ChangeReport.leftOver?, there]

/-- What is left over of a listing is what is left over of the entries. -/
theorem removed_found {listed : List (String × Bytes)}
    (perm : listed.Perm (t.nodes.filterMap (fileBelow? p))) :
    (ChangeReport.between (listed.filter fun f => f.1 != changesName) files).removed =
      (t.nodes.filterMap (remainder? p files)).mergeSort fun a b => a ≤ b := by
  rw [ChangeReport.removed_eq]
  refine Text.mergeSort_congr ?_
  refine ((perm.filter _).filterMap _).trans (.of_eq ?_)
  rw [List.filter_filterMap, List.filterMap_filterMap]
  rfl

/-! ### What a run leaves -/

/-- The products stand in their directory, none of them fails, and the changes can be
listed there. -/
structure Settled (t : FileTree) (dir : String) (p : Place) (files : List (String × Bytes))
    (options : GenerationOptions) : Prop where
  leads : t.LeadsTo (names dir) p
  there : ∀ f ∈ files, t.node? (p ++ [f.1]) = some (.file f.2)
  may_write : ∀ f ∈ files, ∃ written, verdict t (p ++ [f.1]) f.2 = .ok written
  may_list : options.listChanges → permission t (p ++ [changesName]) = .ok true

/-- A run without failures leaves its products in their places. -/
theorem settled_of_no_failures (leads : t.LeadsTo (names dir) p)
    (nodup : (files.map Prod.fst).Nodup) (apart : ∀ f ∈ files, f.1 ≠ changesName)
    (succeeded : (outcomes t dir p files ++ listed (filled t p files) dir p options).filterMap
      Outcome.failure? = []) (changes : ChangeReport) :
    Settled (withListing (filled t p files) p options changes) dir p files options := by
  rw [filterMap_failure?_eq_nil] at succeeded
  have grows : Grows t (withListing (filled t p files) p options changes) :=
    (grows_filled t p files).trans (grows_withListing _ p options changes)
  have written : ∀ f ∈ files, ∃ written, verdict t (p ++ [f.1]) f.2 = .ok written := by
    intro f mem
    have product : (⟨joinPath dir f.1, verdict t (p ++ [f.1]) f.2⟩ : Outcome) ∈
        outcomes t dir p files ++ listed (filled t p files) dir p options :=
      List.mem_append_left _ (List.mem_map_of_mem mem)
    exact succeeded _ product
  have there : ∀ f ∈ files, (withListing (filled t p files) p options changes).node?
      (p ++ [f.1]) = some (.file f.2) := by
    intro f mem
    obtain ⟨written, ok⟩ := written f mem
    rw [node?_withListing_of_ne fun same => apart f mem (place_inj.mp same),
      node?_filled_of_mem nodup mem, ok]
  refine ⟨grows.leadsTo leads, there, fun f mem => ?_, fun listing => ?_⟩
  · obtain ⟨written, ok⟩ := written f mem
    exact verdict_again grows ok (there f mem)
  · have list : (⟨joinPath dir changesName,
        permission (filled t p files) (p ++ [changesName])⟩ : Outcome) ∈
          outcomes t dir p files ++ listed (filled t p files) dir p options := by
      rw [listed, if_pos listing]
      exact List.mem_append_right _ List.mem_cons_self
    obtain ⟨written, ok⟩ := succeeded _ list
    exact permission_withListing listing ok changes

/-- Where the products stand in their places, a run has no failures. -/
theorem Settled.no_failures (settled : Settled t dir p files options)
    (apart : ∀ f ∈ files, f.1 ≠ changesName) :
    (outcomes t dir p files ++ listed (filled t p files) dir p options).filterMap
      Outcome.failure? = [] := by
  rw [filterMap_failure?_eq_nil]
  intro o mem
  obtain product | list := List.mem_append.mp mem
  · obtain ⟨f, f_mem, rfl⟩ := List.mem_map.mp product
    exact settled.may_write f f_mem
  · unfold listed at list
    split_ifs at list with listing
    · obtain rfl := List.mem_singleton.mp list
      exact ⟨true, (permission_filled apart).trans (settled.may_list listing)⟩
    · cases list

/-- What a run finds that lists changes: the files below its directory but the list. -/
theorem found_eq_ok (leads : t.LeadsTo (names dir) p) (listing : options.listChanges)
    {before : List (String × Bytes)} (look : found t dir options = .ok before) :
    dir ≠ "" ∧ ∃ listed : List (String × Bytes),
      listed.Perm (t.asSeen.nodes.filterMap (fileBelow? p)) ∧
        before = listed.filter fun f => f.1 != changesName := by
  rw [found, if_pos listing] at look
  cases below : t.filesBelow dir with
  | error cause =>
    rw [below] at look
    cases look
  | ok listed =>
    have nonempty := filesBelow_eq_ok below
    obtain ⟨listed', below', perm⟩ := filesBelow_perm leads nonempty
    obtain rfl := Except.ok.inj (below.symm.trans below')
    rw [below] at look
    refine ⟨nonempty, _, perm, ?_⟩
    rw [List.filter_map]
    exact (Except.ok.inj look).symm

/-- A directory that can be looked at can be looked at again. -/
theorem exists_found (leads : t.LeadsTo (names dir) p) (leads' : u.LeadsTo (names dir) p)
    {before : List (String × Bytes)} (look : found t dir options = .ok before) :
    ∃ before', found u dir options = .ok before' := by
  by_cases listing : options.listChanges
  · obtain ⟨nonempty, -⟩ := found_eq_ok leads listing look
    obtain ⟨listed, below, -⟩ := filesBelow_perm leads' nonempty
    exact ⟨_, by rw [found, if_pos listing, below]; rfl⟩
  · exact ⟨[], if_neg listing⟩

/-- The names of the products that have a text and cannot be read, in order. -/
def hidden (t : FileTree) (p : Place) (files : List (String × Bytes)) : List String :=
  ((files.filter fun f => t.unreadable.contains (p ++ [f.1]) && f.2 != #[]).map
    Prod.fst).mergeSort fun a b => a ≤ b

theorem mem_hidden {name : String} :
    name ∈ hidden t p files ↔ p ++ [name] ∈ t.unreadable ∧ ∃ f ∈ files, f.1 = name ∧ f.2 ≠ #[] := by
  simp only [hidden, List.mem_mergeSort, List.mem_map, List.mem_filter, Bool.and_eq_true,
    List.contains_iff_mem, bne_iff_ne]
  constructor
  · rintro ⟨f, ⟨mem, unreadable, text⟩, rfl⟩
    exact ⟨unreadable, f, mem, rfl, text⟩
  · rintro ⟨unreadable, f, mem, rfl, text⟩
    exact ⟨f, ⟨mem, unreadable, text⟩, rfl⟩

theorem hidden_eq_nil (readable : ∀ name, p ++ [name] ∉ t.unreadable)
    (files : List (String × Bytes)) : hidden t p files = [] := by
  rw [List.eq_nil_iff_forall_not_mem]
  intro name mem
  exact readable name (mem_hidden.mp mem).1

/-- What a product looks like that stands in its place. -/
theorem readAt_ne_iff {f : String × Bytes} :
    ((t.readAt (p ++ [f.1]) f.2).toOption.getD #[] != f.2) =
      (t.unreadable.contains (p ++ [f.1]) && f.2 != #[]) := by
  rw [readAt_getD]
  by_cases unreadable : p ++ [f.1] ∈ t.unreadable
  · simp [unreadable, bne, Bool.beq_comm]
  · simp [unreadable]

/-- A run that finds what another has left lists of the products those that cannot be read,
and else the same. -/
theorem Settled.changes (settled : Settled u dir p files options) (unambiguous : u.Unambiguous)
    (is_name : ∀ f ∈ files, IsFileName f.1 ∧ f.1 ≠ changesName) (leads : t.LeadsTo (names dir) p)
    (grows : Grows t u) (same : SameOutside (writtenPlaces p files) t u)
    (listing : options.listChanges) {before before' : List (String × Bytes)}
    (first : found t dir options = .ok before) (second : found u dir options = .ok before') :
    (ChangeReport.between before' files).added = [] ∧
      (ChangeReport.between before' files).modified = hidden u p files ∧
      (ChangeReport.between before' files).removed =
        (ChangeReport.between before files).removed := by
  obtain ⟨-, listed, perm, rfl⟩ := found_eq_ok leads listing first
  obtain ⟨-, listed', perm', rfl⟩ := found_eq_ok settled.leads listing second
  have there : ∀ f ∈ files,
      ChangeReport.contents? (listed'.filter fun f => f.1 != changesName) f.1 =
        some ((u.readAt (p ++ [f.1]) f.2).toOption.getD #[]) := by
    intro f mem
    have seen : u.asSeen.node? (p ++ [f.1]) =
        some (.file ((u.readAt (p ++ [f.1]) f.2).toOption.getD #[])) := by
      rw [node?_asSeen, settled.there f mem]
      rfl
    exact contents?_of_node? unambiguous.asSeen (is_name f mem).1.no_slash seen perm'
      (by simpa using (is_name f mem).2)
  obtain ⟨added, modified⟩ := ChangeReport.between_of_there there
  refine ⟨added, ?_, ?_⟩
  · simp only [modified, readAt_ne_iff, hidden]
  · rw [removed_found perm, removed_found perm',
      (same.asSeen grows.unreadable_eq).filterMap_eq fun _ mem => remainder?_eq_none mem]

/-- A run can write everything into a directory that holds no directories and refuses
nothing. -/
theorem no_failures_of_free (free : ∀ name, t.isDir (p ++ [name]) = false)
    (open_to_all : t.refused = []) (apart : ∀ f ∈ files, f.1 ≠ changesName) :
    (outcomes t dir p files ++ listed (filled t p files) dir p options).filterMap
      Outcome.failure? = [] := by
  have allowed : ∀ name, permission t (p ++ [name]) = .ok true := by
    intro name
    simp [permission, free, open_to_all]
  rw [filterMap_failure?_eq_nil]
  intro o mem
  obtain product | listing := List.mem_append.mp mem
  · obtain ⟨f, -, rfl⟩ := List.mem_map.mp product
    by_cases there : t.node? (p ++ [f.1]) = some (.file f.2) ∧ p ++ [f.1] ∉ t.unreadable
    · exact ⟨false, verdict_of_read there⟩
    · exact ⟨true, (verdict_of_not_read there).trans (allowed f.1)⟩
  · unfold listed at listing
    split_ifs at listing
    · obtain rfl := List.mem_singleton.mp listing
      exact ⟨true, (permission_filled apart).trans (allowed changesName)⟩
    · cases listing

/-! ### The second run -/

/-- Two types whose files would differ in nothing but the case of letters. -/
def twins : Registry where
  types := [{ name := "a::B", kind := .object false }, { name := "A::b", kind := .object false }]

theorem built_twins : twins.Built := by
  have first : Registry.register {} { name := "a::B", kind := .object false } =
    .ok (⟨0⟩, { types := [{ name := "a::B", kind := .object false }] }) := rfl
  have second : Registry.register { types := [{ name := "a::B", kind := .object false }] }
    { name := "A::b", kind := .object false } = .ok (⟨1⟩, twins) := by decide +kernel
  exact .register (.register .empty first) second

theorem dir_out :
    joinPath "out" (Configuration.outputSubpath { outputSubpath? := some "" }) = "out/" := by
  decide +kernel

/-- The directory of runs into `out` is there where `out` is a directory. -/
theorem leadsTo_out {t : FileTree} (there : t.isDir ["out"]) :
    t.LeadsTo (names "out/") ["out"] := by
  have out : names "out/" = ["out"] := by decide +kernel
  rw [out]
  exact ⟨by simp [locateFrom, node?], there⟩

/-- A directory with a file that no run produces. -/
def littered : FileTree where
  nodes := [(["out"], .dir), (["out", "old.cpp"], .file #[])]

section

variable {r : Registry} (built : r.Built) (consolidation : Configuration) {config : Configuration}
  (no_slash : ∀ e ∈ config.namingOverrides, '/' ∉ e.2.toList)
  {outputDir : String} {report : GenerationReport}
include built no_slash

/-- A run succeeds in a directory that is there, holds no directories and refuses
nothing. -/
theorem succeeds_in_free_directory
    (leads : t.LeadsTo (names (joinPath outputDir config.outputSubpath)) p)
    (named : joinPath outputDir config.outputSubpath ≠ "")
    (free : ∀ name, t.isDir (p ++ [name]) = false) (open_to_all : t.refused = []) :
    ∃ report, (run (r.consolidate consolidation).registry config options outputDir :
      OnTree Generation) t |>.1.result = .ok report ∧ report.failures = [] := by
  set registry := (r.consolidate consolidation).registry
  set dir := joinPath outputDir config.outputSubpath
  have is_name := fun f mem =>
    isFileName_of_mem_products (r := registry) no_slash options (f := f) mem
  have nodup := nodup_products built consolidation no_slash options
  have made : t.makeDirs dir = (.ok (), t) := makeDirs_of_leadsTo leads
  obtain ⟨before, look⟩ : ∃ before, found t dir options = .ok before := by
    obtain ⟨files, below, -⟩ := filesBelow_perm leads named
    unfold found
    split_ifs
    · exact ⟨_, by rw [below]; rfl⟩
    · exact ⟨[], rfl⟩
  obtain ⟨reported, -⟩ := (run_spec (t := t) (fun f mem => (is_name f mem).1) nodup).mpr
    ⟨by rw [made], before, by rw [made]; exact look, p, by rw [made]; exact leads, rfl, rfl⟩
  rw [made] at reported
  exact ⟨_, reported, no_failures_of_free free open_to_all fun f mem => (is_name f mem).2⟩

/-- What a run without failures has left, and what the same run does with it. -/
theorem rerun_spec :
    let registry := (r.consolidate consolidation).registry
    let dir := joinPath outputDir config.outputSubpath
    let files := products (UnitFile.ofRegistry registry config) options
    let start := (t.makeDirs dir).2
    let generate : OnTree Generation := run registry config options outputDir
    (generate t).1.result = .ok report → report.failures = [] →
      ∃ p before before', start.LeadsTo (names dir) p ∧ Grows start (generate t).2 ∧
        SameOutside (writtenPlaces p files) start (generate t).2 ∧
        Settled (generate t).2 dir p files options ∧
        found start dir options = .ok before ∧ found (generate t).2 dir options = .ok before' ∧
        report = reportOf registry config options dir p before start ∧
        (generate (generate t).2).1.result =
          .ok (reportOf registry config options dir p before' (generate t).2) ∧
        (generate (generate t).2).2 = withListing (filled (generate t).2 p files) p options
          (.between before' files) := by
  intro registry dir files start generate reported succeeded
  have is_name : ∀ f ∈ files, IsFileName f.1 ∧ f.1 ≠ changesName := fun f mem =>
    isFileName_of_mem_products no_slash options mem
  have nodup : (files.map Prod.fst).Nodup := nodup_products built consolidation no_slash options
  -- What the first run has done.
  obtain ⟨made, before, first, p, leads, rfl, left⟩ :=
    (run_spec (fun f mem => (is_name f mem).1) nodup).mp ⟨reported, rfl⟩
  have settled : Settled (generate t).2 dir p files options :=
    left ▸ settled_of_no_failures leads nodup (fun f mem => (is_name f mem).2) succeeded _
  have grows : Grows start (generate t).2 :=
    left ▸ (grows_filled _ p files).trans (grows_withListing _ p options _)
  have same : SameOutside (writtenPlaces p files) start (generate t).2 :=
    left ▸ sameOutside_written _ p files options _
  -- What the second run does.
  have made_again : (generate t).2.makeDirs dir = (.ok (), (generate t).2) :=
    makeDirs_of_leadsTo settled.leads
  obtain ⟨before', second⟩ := exists_found leads settled.leads first
  obtain ⟨reported_again, left_again⟩ :=
    (run_spec (t := (generate t).2) (fun f mem => (is_name f mem).1) nodup).mpr
      ⟨by rw [made_again], before', by rw [made_again]; exact second, p,
        by rw [made_again]; exact settled.leads, rfl, rfl⟩
  rw [made_again] at reported_again left_again
  exact ⟨p, before, before', leads, grows, same, settled, first, second, rfl, reported_again,
    left_again⟩

/-- **A second run changes nothing.** Where a run has no failures, the same run on what
it has left has none either. It leaves everything in its place but the list of changes,
and if changes are listed, it lists none but what the first run has found left over and
the products that cannot be read. -/
theorem rerun_changes_nothing (unambiguous : t.Unambiguous) :
    let units := UnitFile.ofRegistry (r.consolidate consolidation).registry config
    let files := products units options
    let generate : OnTree Generation :=
      run (r.consolidate consolidation).registry config options outputDir
    (generate t).1.result = .ok report → report.failures = [] →
      ∃ place again, (generate t).2.LeadsTo (names report.dir) place ∧
        (generate (generate t).2).1.result = .ok again ∧ again.failures = [] ∧
        (∀ q, q ≠ place ++ [changesName] →
          (generate (generate t).2).2.node? q = (generate t).2.node? q) ∧
        (options.listChanges → ∃ changes changes',
          report.changes? = some changes ∧ again.changes? = some changes' ∧
          changes'.added = [] ∧ changes'.modified = hidden t place files ∧
          changes'.removed = changes.removed) := by
  intro units files generate reported succeeded
  obtain ⟨p, before, before', leads, grows, same, settled, first, second, rfl, again, left⟩ :=
    rerun_spec built consolidation no_slash reported succeeded
  have is_name : ∀ f ∈ files, IsFileName f.1 ∧ f.1 ≠ changesName := fun f mem =>
    isFileName_of_mem_products no_slash options mem
  have nodup : (files.map Prod.fst).Nodup := nodup_products built consolidation no_slash options
  have grows' : Grows t (generate t).2 := (t.makes_makeDirs _).1.trans grows
  refine ⟨p, _, settled.leads, again, settled.no_failures fun f mem => (is_name f mem).2,
    fun q other => ?_, fun listing => ?_⟩
  · refine (congrArg (FileTree.node? · q) left).trans ?_
    exact (node?_withListing_of_ne other _).trans (node?_filled_of_there nodup settled.there q)
  · have unchanged := settled.changes (grows'.unambiguous unambiguous) is_name leads grows same
      listing first second
    have unread : hidden (generate t).2 p files = hidden t p files := by
      simp only [hidden, grows'.unreadable_eq]
    rw [unread] at unchanged
    exact ⟨_, _, if_pos listing, if_pos listing, unchanged⟩

end

/-- The units of `twins` are written beside what litters the directory; a second run
finds nothing to add or to modify. -/
theorem rerun_changes_nothing_littered :
    let generate : OnTree Generation :=
      run (twins.consolidate {}).registry { outputSubpath? := some "" }
        { makefile := true, listChanges := true } "out"
    ∃ report again changes, (generate littered).1.result = .ok report ∧ report.failures = [] ∧
      (generate (generate littered).2).1.result = .ok again ∧ again.failures = [] ∧
      again.changes? = some changes ∧ changes.added = [] ∧ changes.modified = [] := by
  intro generate
  have no_slash : ∀ e ∈ ({ outputSubpath? := some "" } : Configuration).namingOverrides,
      '/' ∉ e.2.toList := nofun
  have unambiguous : littered.Unambiguous := by
    unfold Unambiguous
    decide +kernel
  have leads : littered.LeadsTo
      (names (joinPath "out" (Configuration.outputSubpath { outputSubpath? := some "" })))
      ["out"] :=
    dir_out ▸ leadsTo_out (by decide +kernel)
  have free : ∀ name, littered.isDir (["out"] ++ [name]) = false := by
    intro name
    by_cases old : "old.cpp" = name <;> simp [littered, FileTree.isDir, node?, old]
  obtain ⟨report, reported, succeeded⟩ :
      ∃ report, (generate littered).1.result = .ok report ∧ report.failures = [] :=
    succeeds_in_free_directory built_twins {} no_slash leads (by decide +kernel) free rfl
  obtain ⟨place, again, -, reported_again, succeeded_again, -, lists⟩ :=
    rerun_changes_nothing built_twins {} no_slash unambiguous reported succeeded
  obtain ⟨-, changes, -, changed, added, modified, -⟩ := lists rfl
  exact ⟨report, again, changes, reported, succeeded, reported_again, succeeded_again, changed,
    added, modified.trans (hidden_eq_nil (fun _ => List.not_mem_nil) _)⟩

theorem textBytes_eq_empty_iff {text : String} : textBytes text = #[] ↔ text = "" := by
  constructor
  · intro empty
    rw [← String.utf8ByteSize_eq_zero_iff, ← String.size_toByteArray]
    exact congrArg Array.size empty
  · rintro rfl
    rfl

theorem unlines_cons_ne_empty (line : String) (lines : List String) :
    Text.unlines (line :: lines) ≠ "" := by
  intro empty
  have no_chars := congrArg String.toList empty
  simp [Text.unlines, String.toList_join] at no_chars

/-- The makefile is a product. -/
theorem makefile_mem_products (units : List UnitFile) (makefile : options.makefile) :
    (makefileName, textBytes (UnitFile.makefile units)) ∈ products units options := by
  refine List.mem_map.mpr ⟨(makefileName, UnitFile.makefile units), ?_, rfl⟩
  rw [if_pos makefile]
  exact List.mem_append_right _ (List.mem_singleton_self _)

/-- A directory with an empty makefile that can be written, but not read. -/
def veiled : FileTree where
  nodes := [(["out"], .dir), (["out", "GNUmakefile"], .file #[])]
  unreadable := [["out", "GNUmakefile"]]

/-- **What cannot be read is listed each time.** A run can write all its files into
`veiled`. A second run finds nothing that it would write otherwise, but it cannot read the
makefile, and lists it as modified. -/
theorem lists_unread_product :
    let generate : OnTree Generation :=
      run (twins.consolidate {}).registry { outputSubpath? := some "" }
        { makefile := true, listChanges := true } "out"
    ∃ report again changes, (generate veiled).1.result = .ok report ∧ report.failures = [] ∧
      (generate (generate veiled).2).1.result = .ok again ∧
      again.changes? = some changes ∧ makefileName ∈ changes.modified := by
  intro generate
  have no_slash : ∀ e ∈ ({ outputSubpath? := some "" } : Configuration).namingOverrides,
      '/' ∉ e.2.toList := nofun
  have unambiguous : veiled.Unambiguous := by
    unfold Unambiguous
    decide +kernel
  have leads : veiled.LeadsTo
      (names (joinPath "out" (Configuration.outputSubpath { outputSubpath? := some "" })))
      ["out"] :=
    dir_out ▸ leadsTo_out (by decide +kernel)
  have free : ∀ name, veiled.isDir (["out"] ++ [name]) = false := by
    intro name
    by_cases makefile : "GNUmakefile" = name <;> simp [veiled, FileTree.isDir, node?, makefile]
  obtain ⟨report, reported, succeeded⟩ :
      ∃ report, (generate veiled).1.result = .ok report ∧ report.failures = [] :=
    succeeds_in_free_directory built_twins {} no_slash leads (by decide +kernel) free rfl
  obtain ⟨place, before, before', leads', grows, same, settled, first, second, rfl, again, -⟩ :=
    rerun_spec built_twins {} no_slash reported succeeded
  have made := makeDirs_of_leadsTo leads
  rw [made] at leads' grows same first
  obtain rfl : place = ["out"] := Except.ok.inj (leads'.1.symm.trans leads.1)
  obtain ⟨-, modified, -⟩ := settled.changes (grows.unambiguous unambiguous)
    (fun f mem => isFileName_of_mem_products no_slash _ mem) leads' grows same rfl first second
  refine ⟨_, _, _, reported, succeeded, again, rfl, modified ▸ mem_hidden.mpr ⟨?_, ?_⟩⟩
  · rw [grows.unreadable_eq]
    exact List.mem_singleton_self _
  · exact ⟨_, makefile_mem_products _ rfl, rfl,
      textBytes_eq_empty_iff.not.mpr (unlines_cons_ne_empty _ _)⟩

end Generation

end Reflectory
