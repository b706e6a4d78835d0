/-
Links that are dropped, and what is said about them.

A link whose name means a registered type leads there after consolidation,
unless it closes a cycle: then it is dropped, and its base leads back to its type
along links that are kept. So nothing is dropped where the names of the bases run
in no circle. Every dropped link is reported by a warning of its own
(`warnings_eq_droppedLinks`).
-/

import Reflectory.Proofs.Registry.Bases

namespace Reflectory

open Relation

/-! ### Counting dropped links -/

/-- The number of links that are dropped. -/
def Descriptor.droppedLinks (d : Descriptor) : Nat :=
  d.bases.countP fun b => b.target = .invalid .cycle

/-- The number of links that are dropped in a registry. -/
def Registry.droppedLinks (r : Registry) : Nat :=
  (r.types.map Descriptor.droppedLinks).sum

/-- A warning that a link closes a cycle. -/
def Report.isCycleWarning (r : Report) : Bool :=
  r.level = .warning && "inheritance cycle".toList.isPrefixOf r.message.toList

/-- Warnings that begin with a type are not about dropped links. -/
theorem Report.isCycleWarning_of_head {r : Report} (h : r.message.toList.head? = some 't') :
    r.isCycleWarning = false := by
  by_contra warning
  rw [Bool.not_eq_false, isCycleWarning, Bool.and_eq_true, List.isPrefixOf_iff_prefix] at warning
  obtain ⟨rest, split⟩ := warning.2
  rw [← split] at h
  simp at h

namespace Event

theorem isCycleWarning_cycleDropped (type base : String) :
    (cycleDropped type base).report.isCycleWarning = true := by
  have opening : "inheritance cycle".toList <+: "inheritance cycle: `".toList := by simp
  have begins : "inheritance cycle".toList <+: ("inheritance cycle: `" ++ type ++
      "` derives from `" ++ base ++ "`; edge dropped").toList := by
    rw [String.toList_append, String.toList_append, String.toList_append, String.toList_append,
      List.append_assoc, List.append_assoc, List.append_assoc]
    exact opening.trans (List.prefix_append _ _)
  exact Bool.and_eq_true_iff.mpr ⟨rfl, List.isPrefixOf_iff_prefix.mpr begins⟩

theorem isCycleWarning_baseNotFound (type base : String) :
    (baseNotFound type base).report.isCycleWarning = false := by
  refine Report.isCycleWarning_of_head ?_
  change ("type `" ++ type ++ "`: base `" ++ base ++ "` not found").toList.head? = some 't'
  simp

theorem isCycleWarning_becameInvalid (type : String) (reason : InvalidReason) :
    (becameInvalid type reason).report.isCycleWarning = false := by
  refine Report.isCycleWarning_of_head ?_
  change ("type `" ++ type ++ "` is invalid: " ++ reason.message).toList.head? = some 't'
  simp

/-- What is said when a type is finished is not about dropped links. -/
theorem isCycleWarning_finishEvents {get? : TypeId → Option Descriptor} {d : Descriptor}
    {e : Event} (mem : e ∈ d.finishEvents get?) : e.report.isCycleWarning = false := by
  unfold Descriptor.finishEvents at mem
  rcases List.mem_append.mp mem with mem | mem
  · rcases List.mem_append.mp mem with mem | mem
    · obtain ⟨b, -, rfl⟩ := List.mem_map.mp mem
      exact isCycleWarning_baseNotFound d.name b.name
    · split_ifs at mem
      · rcases List.mem_singleton.mp mem with rfl
        rfl
      · cases mem
  · split at mem
    · split_ifs at mem
      · cases mem
      · rcases List.mem_singleton.mp mem with rfl
        exact isCycleWarning_becameInvalid d.name _
    · cases mem

end Event

/-- Where warnings are reported, all of those about dropped links are. -/
theorem countP_isCycleWarning_reported {threshold : Level} (heard : threshold.lets .warning)
    (events : List Event) :
    (reported threshold events).countP Report.isCycleWarning =
      events.countP fun e => e.report.isCycleWarning := by
  unfold reported Report.passing
  rw [List.countP_filter, List.countP_map]
  refine List.countP_congr fun e _ => ?_
  rw [Function.comp_apply, Bool.and_eq_true, and_iff_left_iff_imp]
  intro warning
  have level := (Bool.and_eq_true_iff.mp warning).1
  rw [of_decide_eq_true level]
  exact heard

section Counting

variable {α : Type}

/-- Changing one element changes a count by what the element counts before and
after. -/
theorem countP_modify {p : α → Bool} {f : α → α} {l : List α} {i : Nat} {a : α}
    (there : l[i]? = some a) (before : p a = false) (after : p (f a) = true) :
    (l.modify i f).countP p = l.countP p + 1 := by
  induction l generalizing i with
  | nil => cases there
  | cons b l ih =>
    cases i with
    | zero =>
      cases there
      simp [before, after]
    | succ i =>
      rw [List.modify_succ_cons, List.countP_cons, List.countP_cons, ih there]
      omega

theorem sum_map_modify {h : α → Nat} {f : α → α} {l : List α} {i : Nat} {a : α}
    (there : l[i]? = some a) (n : Nat) (change : h (f a) = h a + n) :
    ((l.modify i f).map h).sum = (l.map h).sum + n := by
  induction l generalizing i with
  | nil => cases there
  | cons b l ih =>
    cases i with
    | zero =>
      cases there
      simp [change]
      omega
    | succ i =>
      rw [List.modify_succ_cons, List.map_cons, List.map_cons, List.sum_cons, List.sum_cons,
        ih there]
      omega

end Counting

namespace Registry

variable {r : Registry} {config : Configuration} {t : Trail}

theorem droppedLinks_modify {x : TypeId} {d : Descriptor} {f : Descriptor → Descriptor}
    (there : r.get? x = some d) (n : Nat) (change : (f d).droppedLinks = d.droppedLinks + n) :
    (r.modify x f).droppedLinks = r.droppedLinks + n :=
  sum_map_modify there n change

theorem droppedLinks_linked (r : Registry) (config : Configuration) :
    (r.linked config).droppedLinks = 0 := by
  unfold droppedLinks
  rw [List.sum_eq_zero]
  intro n mem
  obtain ⟨d, types, rfl⟩ := List.mem_map.mp mem
  obtain ⟨d, -, rfl⟩ := List.mem_map.mp types
  refine List.countP_eq_zero.mpr fun b bases => ?_
  obtain ⟨b, -, rfl⟩ := List.mem_map.mp bases
  have kept := target_ne_cycle r config d.name b
  rw [target] at kept
  simpa using kept

/-- A link that is not dropped yet stands as it was linked. -/
theorem link_of_leadsTo {x base : TypeId} {i : Nat}
    (link : LeadsTo (r.linked config).targets x i base) (kept : .drop x i ∉ t.steps) :
    ∃ d b, (r.linked config).get? x = some d ∧ (cut t x d).bases[i]? = some b ∧
      b.target = .resolved base := by
  unfold LeadsTo targets at link
  cases there : (r.linked config).get? x with
  | none => simp [there] at link
  | some d =>
    simp only [there, List.getElem?_map, Option.map_eq_some_iff] at link
    obtain ⟨b, at_i, target⟩ := link
    exact ⟨d, b, rfl, by simp [cut, at_i, kept], target⟩

/-- Along a valid trail, every dropped link has been warned of. -/
theorem warnings_along (valid : t.Valid (r.linked config).targets) :
    ((r.along config t).events.countP fun e => e.report.isCycleWarning) =
      (r.along config t).registry.droppedLinks := by
  induction valid with
  | start => exact (droppedLinks_linked r config).symm
  | @drop t x base i valid link unsettled _ fresh ih =>
    obtain ⟨d, b, there, at_i, target⟩ := link_of_leadsTo link fresh
    have now := get?_along valid x
    rw [there, Option.map_some, if_neg unsettled] at now
    rw [along_drop]
    simp only [Consolidation.drop, now, at_i, Option.map_some, Option.toList_some,
      List.countP_append, ih]
    rw [droppedLinks_modify now 1, List.countP_singleton,
      if_pos (Event.isCycleWarning_cycleDropped _ _)]
    exact countP_modify at_i (by simp [target]) (by simp)
  | @settle t x valid unsettled bases ih =>
    rw [along_settle]
    unfold Consolidation.settle
    cases now : (r.along config t).registry.get? x with
    | none => exact ih
    | some d =>
      have silent : ((d.finishEvents (r.along config t).registry.get?).countP
          fun e => e.report.isCycleWarning) = 0 :=
        List.countP_eq_zero.mpr fun e mem => by
          rw [Event.isCycleWarning_finishEvents mem]
          exact Bool.false_ne_true
      have kept : (d.finished config (r.along config t).registry.get?).droppedLinks =
          d.droppedLinks + 0 := rfl
      rw [List.countP_append, silent, droppedLinks_modify now 0 kept, ih]

/-- There are as many warnings of cycles as links that are dropped. -/
theorem warnings_eq_droppedLinks (r : Registry) (config : Configuration) {threshold : Level}
    (heard : threshold.lets .warning) :
    (reported threshold (r.consolidate config).events).countP Report.isCycleWarning =
      (r.consolidate config).registry.droppedLinks := by
  rw [countP_isCycleWarning_reported heard]
  have along := warnings_along (trail_valid r config)
  have ends : (r.consolidate config).events =
      [Event.consolidating] ++ (r.along config (r.trail config)).events ++
        [Event.consolidated (r.linked config).types.length
          ((r.consolidate config).registry.types.filter fun d => d.state = .invalid).length] := rfl
  have first : ([Event.consolidating].countP fun e => e.report.isCycleWarning) = 0 := rfl
  have last : ∀ types invalid,
      ([Event.consolidated types invalid].countP fun e => e.report.isCycleWarning) = 0 :=
    fun _ _ => rfl
  rw [ends, List.countP_append, List.countP_append, along, first, last, Nat.zero_add]
  rfl

/-! ### Names and links -/

theorem lookup_eq_findIdx? (r : Registry) (name : String) :
    r.lookup name = ((r.types.map Descriptor.name).findIdx? (· == name)).map TypeId.mk := by
  rw [lookup, List.findIdx?_map]
  rfl

/-- A name means the same type before and after consolidation. -/
theorem resolve_consolidate (r : Registry) (config : Configuration) :
    (r.consolidate config).registry.resolve = r.resolve := by
  have lookups : (r.consolidate config).registry.lookup = r.lookup := by
    funext name
    rw [lookup_eq_findIdx?, lookup_eq_findIdx?, names_consolidate]
  funext scope name
  rw [resolve, resolve, lookups]

/-- What consolidation may make of a link of a type, by the type that its name
means. -/
inductive LinkOutcome (r : Registry) (id : TypeId) : Option TypeId → BaseTarget → Prop where
  | leads {base : TypeId} : LinkOutcome r id (some base) (.resolved base)
  /-- The base leads back to the type along links that are kept. -/
  | closesCycle {base : TypeId} :
      ReflTransGen r.HasBase base id → LinkOutcome r id (some base) (.invalid .cycle)
  | external : LinkOutcome r id none .external
  | missing : LinkOutcome r id none (.invalid .missing)

theorem linkOutcome_finalTarget (config : Configuration) {id : TypeId} {d : Descriptor} {i : Nat}
    {b : BaseLink} (there : r.get? id = some d) (at_i : d.bases[i]? = some b) :
    LinkOutcome (r.consolidate config).registry id (r.resolve (some d.name) b.name)
      (r.finalTarget config id d.name i b) := by
  cases found : r.resolve (some d.name) b.name with
  | some base =>
    by_cases dropped : .drop id i ∈ (r.trail config).steps
    · have link : LeadsTo (r.linked config).targets id i base :=
        leadsTo_linked_iff.mpr ⟨d, b, there, at_i, found⟩
      have way := dropped_closes_cycle (leadsInto_linked r config) (nodup_ids _)
        (fun u => (mem_idsByName_linked r config u).mp) dropped link
      rw [finalTarget, if_pos dropped]
      refine .closesCycle (ReflTransGen.mono (fun _ _ keeps => ?_) base id way)
      exact hasBase_consolidate_iff.mpr keeps
    · rw [finalTarget_eq_resolved_iff.mpr ⟨dropped, found⟩]
      exact .leads
  | none =>
    have kept : .drop id i ∉ (r.trail config).steps := by
      intro dropped
      obtain ⟨base, link⟩ := (trail_valid r config).leadsTo_of_dropped dropped
      obtain ⟨d', b', there', at_i', found'⟩ := leadsTo_linked_iff.mp link
      cases there.symm.trans there'
      cases at_i.symm.trans at_i'
      cases found.symm.trans found'
    rw [finalTarget, if_neg kept]
    rcases target_cases r config d.name b with ⟨base, found', -⟩ | ⟨-, target | target⟩
    · cases found.symm.trans found'
    · rw [target]
      exact .external
    · rw [target]
      exact .missing

/-- Where the names of the bases run in no circle, no link is dropped. -/
theorem droppedLinks_eq_zero (config : Configuration)
    (acyclic : ∀ id, ¬ TransGen r.NamesBase id id) :
    (r.consolidate config).registry.droppedLinks = 0 := by
  unfold droppedLinks
  rw [List.sum_eq_zero]
  intro n mem
  obtain ⟨D, types, rfl⟩ := List.mem_map.mp mem
  obtain ⟨id, there⟩ := mem_types_iff_get?.mp types
  obtain ⟨d, registered, rfl⟩ := registered_of_consolidated there
  refine List.countP_eq_zero.mpr fun b bases => ?_
  obtain ⟨i, l, at_i, rfl⟩ := mem_relinked bases
  rw [decide_eq_true_eq]
  intro (dropped : r.finalTarget config id d.name i l = .invalid .cycle)
  have outcome := linkOutcome_finalTarget config registered at_i
  rw [dropped] at outcome
  generalize found : r.resolve (some d.name) l.name = found? at outcome
  cases outcome with
  | @closesCycle base way =>
    have names := ReflTransGen.mono (fun _ _ h => namesBase_of_hasBase h) base id way
    have first : r.NamesBase id base := ⟨d, registered, l, List.mem_of_getElem? at_i, found⟩
    exact acyclic id (TransGen.head' first names)

/-- **Only links that close a cycle are dropped, each with a warning.** A name
means the same type before and after consolidation, and every link of a type
leads where its name does; it is dropped only if its base leads back to the type
along links that are kept, so never where the names of the bases run in no
circle. A threshold that lets warnings through reports one for each link that is
dropped. -/
theorem links_dropped_only_on_cycles (r : Registry) (config : Configuration) {threshold : Level}
    (heard : threshold.lets .warning) :
    let consolidated := (r.consolidate config).registry
    consolidated.resolve = r.resolve ∧
    (∀ id d, r.get? id = some d →
      ∃ d', consolidated.get? id = some d' ∧ d'.name = d.name ∧
        d'.bases.length = d.bases.length ∧
        ∀ (i : Nat) (b : BaseLink), d.bases[i]? = some b →
          ∃ target, d'.bases[i]? = some { b with target } ∧
            LinkOutcome consolidated id (r.resolve (some d.name) b.name) target) ∧
    ((∀ id, ¬ TransGen r.NamesBase id id) → consolidated.droppedLinks = 0) ∧
    (reported threshold (r.consolidate config).events).countP Report.isCycleWarning =
      consolidated.droppedLinks := by
  intro consolidated
  refine ⟨resolve_consolidate r config, ?_, droppedLinks_eq_zero config,
    warnings_eq_droppedLinks r config heard⟩
  intro id d there
  refine ⟨_, consolidated_of_registered there, Descriptor.finished_name, ?_, ?_⟩
  · rw [Descriptor.finished_bases, relinked, List.length_mapIdx]
  · intro i b at_i
    refine ⟨r.finalTarget config id d.name i b, ?_, linkOutcome_finalTarget config there at_i⟩
    rw [Descriptor.finished_bases, getElem?_bases_relinked, at_i, Option.map_some]

/-- A type that has one base in two ways. -/
def diamond : Registry where
  types := [
    { name := "A", kind := .object false },
    { name := "B", kind := .object false, bases := [{ name := "A" }] },
    { name := "C", kind := .object false, bases := [{ name := "A" }] },
    { name := "D", kind := .object false, bases := [{ name := "B" }, { name := "C" }] }]

theorem diamond_acyclic (id : TypeId) : ¬ TransGen diamond.NamesBase id id := by
  refine acyclic_of_lt TypeId.index ?_ id
  rintro ⟨u⟩ ⟨v⟩ ⟨d, there, b, mem, found⟩
  have of_b : diamond.resolve (some "B") "A" = some ⟨0⟩ := by cbv
  have of_c : diamond.resolve (some "C") "A" = some ⟨0⟩ := by cbv
  have of_d : diamond.resolve (some "D") "B" = some ⟨1⟩ := by cbv
  have of_d' : diamond.resolve (some "D") "C" = some ⟨2⟩ := by cbv
  rcases u with _ | _ | _ | _ | u
  · cases there
    cases mem
  · cases there
    rcases List.mem_singleton.mp mem with rfl
    cases of_b.symm.trans found
    exact Nat.zero_lt_one
  · cases there
    rcases List.mem_singleton.mp mem with rfl
    cases of_c.symm.trans found
    exact Nat.zero_lt_two
  · cases there
    rcases List.mem_pair.mp mem with rfl | rfl
    · cases of_d.symm.trans found
      decide
    · cases of_d'.symm.trans found
      decide
  · cases there

/-- In `rings`, three links are dropped with a warning each; in `diamond`, where
names run in no circle, none is. -/
theorem links_dropped_only_on_cycles_rings :
    Level.warning.lets .warning ∧
      (reported .warning (rings.consolidate {}).events).countP Report.isCycleWarning = 3 ∧
      (∀ id, ¬ TransGen diamond.NamesBase id id) ∧
      (diamond.consolidate {}).registry.droppedLinks = 0 := by
  have heard : Level.warning.lets .warning := rfl
  have dropped : (rings.consolidate {}).registry.droppedLinks = 3 := by cbv
  obtain ⟨-, -, -, warnings⟩ := links_dropped_only_on_cycles rings {} heard
  obtain ⟨-, -, none, -⟩ := links_dropped_only_on_cycles diamond {} heard
  exact ⟨heard, warnings.trans dropped, diamond_acyclic, none diamond_acyclic⟩

end Registry

end Reflectory
