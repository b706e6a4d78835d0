/-
Consolidating again.

Consolidation reads what an earlier one has written: states, kinds, members and
targets. None of it makes a difference. Names are kept, so the walk is the same
and leaves every link where it was; and a finished type, finished once more from
the same bases, stays as it is (`finished_finished`). Along the order of the
types this carries over to the whole registry (`consolidate_idempotent`).
-/

import Reflectory.Proofs.Registry.Cycles

namespace Reflectory

/-! ### Members -/

section Shadowing

variable {α κ : Type} [DecidableEq κ] {isOwn : α → Bool} {key : α → κ}

/-- Own members are never dropped. -/
theorem filter_isOwn_keep (own inherited : List κ) (members : List α) :
    (dropShadowed.keep isOwn key own inherited members).filter isOwn =
      members.filter isOwn := by
  fun_induction dropShadowed.keep isOwn key own inherited members with
  | case1 => rfl
  | case2 inherited m ms isOwn ih => rw [List.filter_cons_of_pos isOwn, ih,
      List.filter_cons_of_pos isOwn]
  | case3 inherited m ms notOwn shadowed ih => rw [ih, List.filter_cons_of_neg notOwn]
  | case4 inherited m ms notOwn unshadowed ih => rw [List.filter_cons_of_neg notOwn, ih,
      List.filter_cons_of_neg notOwn]

/-- Going through the members that are kept drops none of them. -/
theorem keep_keep (own inherited : List κ) (members : List α) :
    dropShadowed.keep isOwn key own inherited
        (dropShadowed.keep isOwn key own inherited members) =
      dropShadowed.keep isOwn key own inherited members := by
  fun_induction dropShadowed.keep isOwn key own inherited members with
  | case1 => rfl
  | case2 inherited m ms isOwn ih => rw [dropShadowed.keep, if_pos isOwn, ih]
  | case3 inherited m ms notOwn shadowed ih => exact ih
  | case4 inherited m ms notOwn unshadowed ih =>
    rw [dropShadowed.keep, if_neg notOwn, if_neg unshadowed, ih]

/-- A second removal of shadowed members changes nothing. -/
theorem dropShadowed_dropShadowed (members : List α) :
    dropShadowed isOwn key (dropShadowed isOwn key members) =
      dropShadowed isOwn key members := by
  unfold dropShadowed
  rw [filter_isOwn_keep, keep_keep]

end Shadowing

/-! ### Finished types -/

theorem Kind.completed_completed (k : Kind) (leavesOver : Bool) :
    (k.completed leavesOver).completed leavesOver = k.completed leavesOver := by
  cases k with
  | object isAbstract => simp [completed]
  | plain => cases leavesOver <;> rfl
  | typedef | custom | enumeration | container => rfl

theorem Kind.isCustom_completed (k : Kind) (leavesOver : Bool) :
    (k.completed leavesOver).isCustom = k.isCustom := by
  cases k with
  | plain => cases leavesOver <;> rfl
  | object | typedef | custom | enumeration | container => rfl

namespace Descriptor

variable {config : Configuration} {get? : TypeId → Option Descriptor} {d : Descriptor}

theorem withoutShadowed_withoutShadowed (d : Descriptor) :
    d.withoutShadowed.withoutShadowed = d.withoutShadowed := by
  simp only [withoutShadowed, dropShadowed_dropShadowed]

/-- Whether a finished type is to be reflected is decided as before: what made it
invalid is still there. -/
theorem isEligible_finished (d : Descriptor) :
    (d.finished config get?).isEligible config (d.invalidReason? get?).isSome =
      d.isEligible config (d.invalidReason? get?).isSome := by
  have valid : (!(d.invalidReason? get?).isSome && (d.finished config get?).state != .invalid) =
      (!(d.invalidReason? get?).isSome && d.state != .invalid) := by
    rw [finished_state]
    cases (d.invalidReason? get?).isSome with
    | true => rfl
    | false =>
      by_cases invalid : d.state = .invalid
      · simp [invalid]
      · simp [invalid, bne_iff_ne.mpr invalid]
  unfold isEligible
  rw [finished_name, finished_kind, Kind.isCustom_completed, valid]
  rfl

/-- **A finished type stays as it is** when it is finished again from the same
bases. -/
theorem finished_finished (d : Descriptor) :
    (d.finished config get?).finished config get? = d.finished config get? := by
  -- Bases and declared methods are kept, so the bases say the same again.
  have reason : (d.finished config get?).invalidReason? get? = d.invalidReason? get? := rfl
  have left : (d.finished config get?).leftOver get? = d.leftOver get? := rfl
  have members : (d.finished config get?).withoutShadowed = d.finished config get? := by
    have twice := withoutShadowed_withoutShadowed d
    simp only [withoutShadowed, Descriptor.mk.injEq] at twice
    simp only [finished, withoutShadowed, twice]
  have kind : (d.finished config get?).kind.completed (!(d.leftOver get?).isEmpty) =
      (d.finished config get?).kind := Kind.completed_completed d.kind _
  have eligible : (d.finished config get?).isEligible config (d.invalidReason? get?).isSome =
      d.isEligible config (d.invalidReason? get?).isSome := isEligible_finished d
  have state : (if (d.finished config get?).state = .invalid || (d.invalidReason? get?).isSome
      then State.invalid else .consolidated) = (d.finished config get?).state := by
    rw [finished_state]
    split_ifs <;> simp_all
  conv_lhs => rw [finished]
  rw [reason, left, members, kind, eligible, state]
  rfl

end Descriptor

namespace Registry

variable {r : Registry} {config : Configuration}

/-! ### Names -/

theorem nameOf_eq (r : Registry) (id : TypeId) :
    r.nameOf id = ((r.types.map Descriptor.name)[id.index]?).getD "" := by
  rw [nameOf, get?, List.getElem?_map]

/-- Numbers and their order by name depend on the names alone. -/
theorem ids_congr {r r' : Registry}
    (names : r.types.map Descriptor.name = r'.types.map Descriptor.name) : r.ids = r'.ids := by
  have length := congrArg List.length names
  rw [List.length_map, List.length_map] at length
  rw [ids, ids, length]

theorem idsByName_congr {r r' : Registry}
    (names : r.types.map Descriptor.name = r'.types.map Descriptor.name) :
    r.idsByName = r'.idsByName := by
  have nameOf : r.nameOf = r'.nameOf := by
    funext id
    rw [nameOf_eq, nameOf_eq, names]
  rw [idsByName, idsByName, ids_congr names, nameOf]

theorem names_linked (r : Registry) (config : Configuration) :
    (r.linked config).types.map Descriptor.name = r.types.map Descriptor.name := by
  rw [linked, List.map_map]
  rfl

/-! ### The second walk -/

theorem target_consolidate (r : Registry) (config : Configuration) (type : String)
    (b : BaseLink) (target : BaseTarget) :
    (r.consolidate config).registry.target config type { b with target } =
      r.target config type b := by
  unfold Registry.target
  rw [resolve_consolidate]
  dsimp only
  cases r.resolve (some type) b.name <;> rfl

/-- The second walk goes along the same links. -/
theorem targets_linked_consolidate (r : Registry) (config : Configuration) :
    ((r.consolidate config).registry.linked config).targets = (r.linked config).targets := by
  funext id
  unfold targets
  rw [get?_linked, get?_linked, get?_consolidate]
  cases r.get? id with
  | none => rfl
  | some d =>
    simp only [Option.map_some, Descriptor.finished_bases, Descriptor.finished_name,
      relinked_name, List.map_map]
    refine List.ext_getElem? fun i => ?_
    rw [List.getElem?_map, List.getElem?_map, getElem?_bases_relinked, Option.map_map]
    simp only [Function.comp_def, target_consolidate]

theorem trail_consolidate (r : Registry) (config : Configuration) :
    (r.consolidate config).registry.trail config = r.trail config := by
  have names : ((r.consolidate config).registry.linked config).types.map Descriptor.name =
      (r.linked config).types.map Descriptor.name := by
    rw [names_linked, names_linked, names_consolidate]
  rw [trail, trail, targets_linked_consolidate, ids_congr names, idsByName_congr names]

theorem finalTarget_consolidate (r : Registry) (config : Configuration) (id : TypeId)
    (type : String) (i : Nat) (b : BaseLink) (target : BaseTarget) :
    (r.consolidate config).registry.finalTarget config id type i { b with target } =
      r.finalTarget config id type i b := by
  unfold finalTarget
  rw [trail_consolidate, target_consolidate]

/-- Links that stand where consolidation leaves them are left there. -/
theorem relinked_eq_self {id : TypeId} {d : Descriptor}
    (final : ∀ (i : Nat) (b : BaseLink), d.bases[i]? = some b →
      r.finalTarget config id d.name i b = b.target) : r.relinked config id d = d := by
  have bases : (r.relinked config id d).bases = d.bases := by
    refine List.ext_getElem? fun i => ?_
    rw [getElem?_bases_relinked]
    cases at_i : d.bases[i]? with
    | none => rfl
    | some b => rw [Option.map_some, final i b at_i]
  exact congrArg (fun bases => { d with bases }) bases

/-- The second walk leaves every link where the first has left it. -/
theorem relinked_consolidated {id : TypeId} {D : Descriptor}
    (there : (r.consolidate config).registry.get? id = some D) :
    (r.consolidate config).registry.relinked config id D = D := by
  obtain ⟨d, -, rfl⟩ := registered_of_consolidated there
  refine relinked_eq_self fun i b at_i => ?_
  rw [Descriptor.finished_bases, getElem?_bases_relinked, Option.map_eq_some_iff] at at_i
  obtain ⟨l, -, rfl⟩ := at_i
  rw [Descriptor.finished_name, relinked_name, finalTarget_consolidate]

/-! ### The second consolidation -/

/-- Every descriptor is left as the first consolidation has left it. The
induction is along the order of the types: the bases of a type are the same as
before when it is finished again. -/
theorem get?_consolidate_consolidate (r : Registry) (config : Configuration) (id : TypeId) :
    ((r.consolidate config).registry.consolidate config).registry.get? id =
      (r.consolidate config).registry.get? id := by
  induction id using base_induction r config with
  | step id ih =>
    rw [get?_consolidate (r.consolidate config).registry]
    cases there : (r.consolidate config).registry.get? id with
    | none => rfl
    | some D =>
      have same : D.SameBases
          ((r.consolidate config).registry.consolidate config).registry.get?
          (r.consolidate config).registry.get? :=
        fun b mem base target => ih base ⟨D, there, b, mem, target⟩
      rw [Option.map_some, relinked_consolidated there, Descriptor.finished_congr same]
      obtain ⟨d, -, rfl⟩ := registered_of_consolidated there
      rw [Descriptor.finished_finished]

/-- **Consolidating again changes nothing.** Whatever a registry holds, a second
consolidation under the same configuration leaves every descriptor, with its
kind, bases, members, state, eligibility and pure virtual methods left over, and
the order of the types exactly as the first has left them. -/
theorem consolidate_idempotent (r : Registry) (config : Configuration) :
    ((r.consolidate config).registry.consolidate config).registry =
      (r.consolidate config).registry := by
  have types : ((r.consolidate config).registry.consolidate config).registry.types =
      (r.consolidate config).registry.types :=
    List.ext_getElem? fun i => get?_consolidate_consolidate r config ⟨i⟩
  have order : ((r.consolidate config).registry.consolidate config).registry.order =
      (r.consolidate config).registry.order :=
    congrArg Trail.settled (trail_consolidate r config)
  exact congrArg₂ Registry.mk types order

end Registry

end Reflectory
