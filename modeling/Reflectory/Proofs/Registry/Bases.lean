/-
The bases of consolidated types, and the order they are settled in.

`HasBase` is the graph of the links that lead to a registered type. On a
consolidated registry it has no cycles, and the order of the registry puts every
type behind its bases (`base_before`); so what holds of a type whenever it holds
of its bases holds of every type (`base_induction`). All later results about
whole graphs are inductions of this kind.
-/

import Mathlib
import Reflectory.Proofs.Registry.Completion

namespace Reflectory

open Relation

namespace Registry

/-! ### Graphs of bases -/

/-- The type has a link that leads to the base, whatever its access. -/
def HasBase (r : Registry) (type base : TypeId) : Prop :=
  ∃ d, r.get? type = some d ∧ ∃ b ∈ d.bases, b.target = .resolved base

/-- The type has a public link that leads to the base. -/
def HasPublicBase (r : Registry) (type base : TypeId) : Prop :=
  ∃ d, r.get? type = some d ∧
    ∃ b ∈ d.bases, b.access = .isPublic ∧ b.target = .resolved base

/-- The type has a link whose name, looked up from the type, means the base. -/
def NamesBase (r : Registry) (type base : TypeId) : Prop :=
  ∃ d, r.get? type = some d ∧ ∃ b ∈ d.bases, r.resolve (some d.name) b.name = some base

theorem hasBase_iff_mem_targets {r : Registry} {type base : TypeId} :
    r.HasBase type base ↔ .resolved base ∈ r.targets type := by
  unfold HasBase targets
  cases r.get? type with
  | none => simp
  | some d => simp

theorem HasPublicBase.hasBase {r : Registry} {type base : TypeId}
    (h : r.HasPublicBase type base) : r.HasBase type base := by
  obtain ⟨d, there, b, mem, -, target⟩ := h
  exact ⟨d, there, b, mem, target⟩

/-! ### Consolidated links -/

variable {r : Registry} {config : Configuration}

theorem finalTarget_eq_resolved_iff {id base : TypeId} {type : String} {i : Nat} {b : BaseLink} :
    r.finalTarget config id type i b = .resolved base ↔
      .drop id i ∉ (r.trail config).steps ∧ r.resolve (some type) b.name = some base := by
  unfold finalTarget
  split_ifs with dropped
  · simp [dropped]
  · simp [dropped, target_eq_resolved_iff]

theorem finalTarget_ne_unresolved (r : Registry) (config : Configuration) (id : TypeId)
    (type : String) (i : Nat) (b : BaseLink) :
    r.finalTarget config id type i b ≠ .unresolved := by
  unfold finalTarget
  split_ifs
  · simp
  · exact target_ne_unresolved r config type b

theorem mem_relinked {id : TypeId} {d : Descriptor} {b : BaseLink}
    (mem : b ∈ (r.relinked config id d).bases) :
    ∃ (i : Nat) (l : BaseLink), d.bases[i]? = some l ∧
      b = { l with target := r.finalTarget config id d.name i l } := by
  obtain ⟨i, at_i⟩ := List.mem_iff_getElem?.mp mem
  rw [getElem?_bases_relinked, Option.map_eq_some_iff] at at_i
  obtain ⟨l, at_i, rfl⟩ := at_i
  exact ⟨i, l, at_i, rfl⟩

/-- The links that lead to a base after consolidation are those that the walk
keeps. -/
theorem hasBase_consolidate_iff {id base : TypeId} :
    (r.consolidate config).registry.HasBase id base ↔
      (r.trail config).Keeps (r.linked config).targets id base := by
  constructor
  · rintro ⟨D, there, b, mem, target⟩
    obtain ⟨d, registered, rfl⟩ := registered_of_consolidated there
    obtain ⟨i, l, at_i, rfl⟩ := mem_relinked mem
    obtain ⟨kept, found⟩ := finalTarget_eq_resolved_iff.mp target
    exact ⟨i, leadsTo_linked_iff.mpr ⟨d, l, registered, at_i, found⟩, kept⟩
  · rintro ⟨i, link, kept⟩
    obtain ⟨d, l, registered, at_i, found⟩ := leadsTo_linked_iff.mp link
    refine ⟨_, consolidated_of_registered registered,
      { l with target := r.finalTarget config id d.name i l }, ?_, ?_⟩
    · refine List.mem_iff_getElem?.mpr ⟨i, ?_⟩
      rw [Descriptor.finished_bases, getElem?_bases_relinked, at_i, Option.map_some]
    · exact finalTarget_eq_resolved_iff.mpr ⟨kept, found⟩

/-- A link that leads to a base after consolidation leads where its name does. -/
theorem namesBase_of_hasBase {id base : TypeId}
    (h : (r.consolidate config).registry.HasBase id base) : r.NamesBase id base := by
  obtain ⟨i, link, -⟩ := hasBase_consolidate_iff.mp h
  obtain ⟨d, l, registered, at_i, found⟩ := leadsTo_linked_iff.mp link
  exact ⟨d, registered, l, List.mem_of_getElem? at_i, found⟩

theorem mem_ids_of_hasBase {id base : TypeId}
    (h : (r.consolidate config).registry.HasBase id base) : base ∈ r.ids := by
  obtain ⟨d, -, b, -, found⟩ := namesBase_of_hasBase h
  exact mem_ids_of_resolve found

/-! ### Bases first -/

theorem order_nodup (r : Registry) (config : Configuration) :
    (r.consolidate config).registry.order.Nodup :=
  (trail_valid r config).nodup

/-- The order contains every registered type exactly once. -/
theorem order_perm_ids (r : Registry) (config : Configuration) :
    (r.consolidate config).registry.order.Perm r.ids :=
  (List.perm_ext_iff_of_nodup (order_nodup r config) (nodup_ids r)).mpr
    fun _ => mem_settled_trail

/-- In a list without repetitions, what comes before has the lower place. -/
theorem idxOf_lt_of_sublist {α : Type} [DecidableEq α] {a b : α} {l : List α} (nodup : l.Nodup)
    (before : [a, b].Sublist l) : l.idxOf a < l.idxOf b := by
  induction l with
  | nil => cases before
  | cons c l ih =>
    obtain ⟨fresh, nodup⟩ := List.nodup_cons.mp nodup
    cases before with
    | cons _ before =>
      have a_mem : a ∈ l := before.subset List.mem_cons_self
      have b_mem : b ∈ l := before.subset (List.mem_cons_of_mem _ List.mem_cons_self)
      have a_ne : c ≠ a := fun h => fresh (h ▸ a_mem)
      have b_ne : c ≠ b := fun h => fresh (h ▸ b_mem)
      rw [List.idxOf_cons_ne _ a_ne, List.idxOf_cons_ne _ b_ne]
      exact Nat.succ_lt_succ (ih nodup before)
    | cons_cons _ before =>
      have b_mem : b ∈ l := before.subset List.mem_cons_self
      have b_ne : a ≠ b := fun h => fresh (h ▸ b_mem)
      rw [List.idxOf_cons_self, List.idxOf_cons_ne _ b_ne]
      exact Nat.succ_pos _

/-- Every type stands behind its bases. -/
theorem base_sublist {id base : TypeId} (h : (r.consolidate config).registry.HasBase id base) :
    [base, id].Sublist (r.consolidate config).registry.order := by
  obtain ⟨i, link, kept⟩ := hasBase_consolidate_iff.mp h
  obtain ⟨d, l, registered, -⟩ := leadsTo_linked_iff.mp link
  have settled : id ∈ (r.trail config).settled :=
    mem_settled_trail.mpr (mem_ids_iff_get?.mpr ⟨d, registered⟩)
  exact ((trail_valid r config).dropped_or_before settled link).resolve_left kept

theorem base_before {id base : TypeId} (h : (r.consolidate config).registry.HasBase id base) :
    (r.consolidate config).registry.order.idxOf base <
      (r.consolidate config).registry.order.idxOf id :=
  idxOf_lt_of_sublist (order_nodup r config) (base_sublist h)

/-- What holds of a type whenever it holds of its bases holds of every type. -/
theorem base_induction (r : Registry) (config : Configuration) {P : TypeId → Prop}
    (step : ∀ id, (∀ base, (r.consolidate config).registry.HasBase id base → P base) → P id)
    (id : TypeId) : P id := by
  induction h : (r.consolidate config).registry.order.idxOf id using Nat.strongRecOn
    generalizing id with
  | _ place ih => exact step id fun base h' => ih _ (h ▸ base_before h') base rfl

/-- Where every step goes down, no way comes back. -/
theorem acyclic_of_lt {R : TypeId → TypeId → Prop} (rank : TypeId → Nat)
    (lower : ∀ u v, R u v → rank v < rank u) (id : TypeId) : ¬ TransGen R id id := by
  have way_lower : ∀ {u v}, TransGen R u v → rank v < rank u := by
    intro u v way
    induction way with
    | single h => exact lower _ _ h
    | tail _ h ih => exact Nat.lt_trans (lower _ _ h) ih
  exact fun way => Nat.lt_irrefl _ (way_lower way)

/-- No way along links that lead to a base comes back. -/
theorem bases_acyclic (r : Registry) (config : Configuration) (id : TypeId) :
    ¬ TransGen (r.consolidate config).registry.HasBase id id :=
  acyclic_of_lt (r.consolidate config).registry.order.idxOf (fun _ _ => base_before) id

/-! ### States -/

theorem target_ne_unresolved_of_consolidated {id : TypeId} {D : Descriptor}
    (there : (r.consolidate config).registry.get? id = some D) {b : BaseLink}
    (mem : b ∈ D.bases) : b.target ≠ .unresolved := by
  obtain ⟨d, -, rfl⟩ := registered_of_consolidated there
  obtain ⟨i, l, -, rfl⟩ := mem_relinked mem
  exact finalTarget_ne_unresolved r config id d.name i l

theorem state_of_consolidated {id : TypeId} {D : Descriptor}
    (there : (r.consolidate config).registry.get? id = some D) :
    D.state = .consolidated ∨ D.state = .invalid := by
  obtain ⟨d, -, rfl⟩ := registered_of_consolidated there
  rw [Descriptor.finished_state]
  split_ifs
  · exact .inr rfl
  · exact .inl rfl

/-- **Consolidation ends, and puts bases first.** On every registry, whatever
its bases are named: the loop over the bases ends, and its order contains every
registered type exactly once; no link is left unresolved; a link that leads to a
base leads to another registered type, which stands before, so that no way along
such links comes back; and every type is consolidated or invalid. -/
theorem consolidate_puts_bases_first (r : Registry) (config : Configuration) :
    let consolidated := (r.consolidate config).registry
    (∃ t : Trail, consolidated.order = t.settled ∧
      (Descent.start (r.linked config).idsByName).EndsWith (r.linked config).targets t) ∧
    consolidated.order.Perm r.ids ∧
    (∀ id d, consolidated.get? id = some d → ∀ b ∈ d.bases, b.target ≠ .unresolved) ∧
    (∀ id base, consolidated.HasBase id base →
      base ∈ r.ids ∧ base ≠ id ∧
        consolidated.order.idxOf base < consolidated.order.idxOf id) ∧
    (∀ id, ¬ TransGen consolidated.HasBase id id) ∧
    ∀ id d, consolidated.get? id = some d → d.state = .consolidated ∨ d.state = .invalid := by
  intro consolidated
  refine ⟨⟨r.trail config, rfl, ?_⟩, order_perm_ids r config, ?_, ?_, bases_acyclic r config, ?_⟩
  · exact walk_ends (leadsInto_linked r config) (nodup_ids _)
      fun u => (mem_idsByName_linked r config u).mp
  · exact fun id d there b mem => target_ne_unresolved_of_consolidated there mem
  · intro id base h
    have before := base_before h
    refine ⟨mem_ids_of_hasBase h, ?_, before⟩
    rintro rfl
    exact Nat.lt_irrefl _ before
  · exact fun id d there => state_of_consolidated there

/-- Four types whose bases run in overlapping circles, and in one step from a
type to itself. -/
def rings : Registry where
  types := [
    { name := "A", kind := .object false, bases := [{ name := "B" }, { name := "C" }] },
    { name := "B", kind := .object false, bases := [{ name := "C" }, { name := "A" }] },
    { name := "C", kind := .object false, bases := [{ name := "A" }, { name := "C" }] },
    { name := "D", kind := .object false, bases := [{ name := "A" }, { name := "B" }] }]

/-- In `rings`, the base `B` of `D` is kept and stands before `D`. -/
theorem consolidate_puts_bases_first_rings :
    (rings.consolidate {}).registry.HasBase ⟨3⟩ ⟨1⟩ ∧
      (rings.consolidate {}).registry.order.idxOf ⟨1⟩ <
        (rings.consolidate {}).registry.order.idxOf ⟨3⟩ := by
  have targets : (rings.consolidate {}).registry.targets ⟨3⟩ =
      [.resolved ⟨0⟩, .resolved ⟨1⟩] := by cbv
  have base : (rings.consolidate {}).registry.HasBase ⟨3⟩ ⟨1⟩ := by
    rw [hasBase_iff_mem_targets, targets]
    exact List.mem_cons_of_mem _ List.mem_cons_self
  obtain ⟨-, -, -, before, -⟩ := consolidate_puts_bases_first rings {}
  exact ⟨base, (before ⟨3⟩ ⟨1⟩ base).2.2⟩

end Registry

end Reflectory
