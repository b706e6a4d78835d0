/-
Members that are declared again.

Of the members with one key, such as the signature of a method, consolidation keeps the
own ones, or else the first that is inherited. So a key that some member has is never
lost (`exists_find?_dropShadowed`), and what is found under it takes precedence over all
members that have it (`precedes_of_find?_dropShadowed`). Where several members of one key
are left, all of them are own ones (`dropShadowed_pairwise`).
-/

import Reflectory.Registry.Consolidation

namespace Reflectory

section

variable {α κ : Type} [DecidableEq κ] {isOwn : α → Bool} {key : α → κ} {members : List α} {k : κ}

/-- One member takes precedence over another in a list: an own one over an inherited one,
and of two of the same sort the one that stands first. -/
def Precedes (isOwn : α → Bool) (members : List α) (m m' : α) : Prop :=
  (isOwn m ∧ isOwn m' = false) ∨ (isOwn m = isOwn m' ∧ [m, m'].Sublist members)

/-- An inherited member is found where its key is neither an own one nor gone by. -/
theorem find?_keep (own inherited : List κ) (members : List α) :
    (dropShadowed.keep isOwn key own inherited members).find? (fun m => key m == k) =
      members.find? fun m => key m == k && (isOwn m || decide (k ∉ own ∧ k ∉ inherited)) := by
  fun_induction dropShadowed.keep isOwn key own inherited members with
  | case1 => rfl
  | case2 inherited m ms isOwn ih =>
    simp only [List.find?_cons, ih, isOwn, Bool.true_or, Bool.and_true]
  | case3 inherited m ms notOwn shadowed ih =>
    rw [ih, List.find?_cons_of_neg]
    intro chosen
    obtain ⟨same, free⟩ := (Bool.and_eq_true _ _).mp chosen
    obtain rfl := eq_of_beq same
    have free : key m ∉ own ∧ key m ∉ inherited := by simpa [notOwn] using free
    exact shadowed.elim free.1 free.2
  | case4 inherited m ms notOwn unshadowed ih =>
    by_cases same : key m = k
    · subst same
      have free : key m ∉ own ∧ key m ∉ inherited := not_or.mp unshadowed
      rw [List.find?_cons_of_pos, List.find?_cons_of_pos]
      · simp [free]
      · exact beq_self_eq_true _
    · have others : k ∉ key m :: inherited ↔ k ∉ inherited := by simp [Ne.symm same]
      simp only [List.find?_cons, ih, others, beq_eq_false_iff_ne.mpr same, Bool.false_and]

/-- Under a key stands the first own member that has it, or else the first of all. -/
theorem find?_dropShadowed (isOwn : α → Bool) (key : α → κ) (members : List α) (k : κ) :
    (dropShadowed isOwn key members).find? (fun m => key m == k) =
      members.find? fun m =>
        key m == k && (isOwn m || decide (k ∉ (members.filter isOwn).map key)) := by
  rw [dropShadowed, find?_keep]
  simp only [List.not_mem_nil, not_false_eq_true, and_true]

theorem keep_sublist (own inherited : List κ) (members : List α) :
    (dropShadowed.keep isOwn key own inherited members).Sublist members := by
  fun_induction dropShadowed.keep isOwn key own inherited members with
  | case1 => exact .slnil
  | case2 inherited m ms isOwn ih => exact ih.cons_cons m
  | case3 inherited m ms notOwn shadowed ih => exact ih.cons m
  | case4 inherited m ms notOwn unshadowed ih => exact ih.cons_cons m

/-- No member is new, and the order stays. -/
theorem dropShadowed_sublist (isOwn : α → Bool) (key : α → κ) (members : List α) :
    (dropShadowed isOwn key members).Sublist members :=
  keep_sublist _ _ members

/-- The key of a member is not lost. -/
theorem exists_find?_dropShadowed (isOwn : α → Bool) (key : α → κ) {m : α} (mem : m ∈ members) :
    ∃ found ∈ dropShadowed isOwn key members,
      (dropShadowed isOwn key members).find? (fun m' => key m' == key m) = some found := by
  have present : ((dropShadowed isOwn key members).find? fun m' => key m' == key m).isSome := by
    rw [find?_dropShadowed, List.find?_isSome]
    by_cases own : key m ∈ (members.filter isOwn).map key
    · obtain ⟨m', mem', same⟩ := List.mem_map.mp own
      obtain ⟨mem', isOwn⟩ := List.mem_filter.mp mem'
      exact ⟨m', mem', by simp [same, isOwn]⟩
    · exact ⟨m, mem, by simp only [own, beq_self_eq_true, not_false_eq_true, decide_true,
        Bool.or_true, Bool.and_self]⟩
  obtain ⟨found, there⟩ := Option.isSome_iff_exists.mp present
  exact ⟨found, List.mem_of_find?_eq_some there, there⟩

/-- What is found under a key takes precedence over all members that have it. -/
theorem precedes_of_find?_dropShadowed {found : α}
    (there : (dropShadowed isOwn key members).find? (fun m => key m == k) = some found) :
    found ∈ members ∧ key found = k ∧
      ∀ m ∈ members, key m = k → m ≠ found → Precedes isOwn members found m := by
  rw [find?_dropShadowed, List.find?_eq_some_iff_append] at there
  obtain ⟨chosen, before, behind, split, passed⟩ := there
  obtain ⟨same, first⟩ := (Bool.and_eq_true _ _).mp chosen
  have mem : found ∈ members := split ▸ List.mem_append_right _ List.mem_cons_self
  refine ⟨mem, eq_of_beq same, fun m mem' same' other => ?_⟩
  -- An own member with the key rules out that an inherited one is found.
  have own_first : isOwn m → isOwn found := by
    intro own
    have known : k ∈ (members.filter isOwn).map key :=
      List.mem_map.mpr ⟨m, List.mem_filter.mpr ⟨mem', own⟩, same'⟩
    simpa [known] using first
  by_cases sorts : isOwn found = isOwn m
  · refine .inr ⟨sorts, ?_⟩
    have after : m ∈ behind := by
      rw [split, List.mem_append, List.mem_cons] at mem'
      obtain mem' | rfl | mem' := mem'
      · have skipped := passed m mem'
        rw [← sorts, first, same', beq_self_eq_true] at skipped
        cases skipped
      · exact absurd rfl other
      · exact mem'
    rw [split]
    exact ((List.singleton_sublist.mpr after).cons_cons found).trans
      (List.sublist_append_right before _)
  · refine .inl ?_
    cases own : isOwn m with
    | true => exact absurd ((own_first own).trans own.symm) sorts
    | false =>
      rw [own] at sorts
      exact ⟨Bool.ne_false_iff.mp sorts, rfl⟩

/-- An inherited member stays only where its key is neither an own one nor gone by. -/
theorem notMem_of_mem_keep {own inherited : List κ} {members : List α} {m : α}
    (mem : m ∈ dropShadowed.keep isOwn key own inherited members) (notOwn : isOwn m = false) :
    key m ∉ own ∧ key m ∉ inherited := by
  fun_induction dropShadowed.keep isOwn key own inherited members with
  | case1 => cases mem
  | case2 inherited m' ms isOwn' ih =>
    obtain rfl | mem := List.mem_cons.mp mem
    · exact absurd isOwn' (Bool.eq_false_iff.mp notOwn)
    · exact ih mem
  | case3 inherited m' ms _ shadowed ih => exact ih mem
  | case4 inherited m' ms _ unshadowed ih =>
    obtain rfl | mem := List.mem_cons.mp mem
    · exact not_or.mp unshadowed
    · exact (ih mem).imp_right fun fresh taken => fresh (List.mem_cons_of_mem _ taken)

theorem keep_pairwise {own : List κ} (inherited : List κ) {members : List α}
    (known : ∀ m ∈ members, isOwn m → key m ∈ own) :
    (dropShadowed.keep isOwn key own inherited members).Pairwise fun a b =>
      key a = key b → isOwn a ∧ isOwn b := by
  fun_induction dropShadowed.keep isOwn key own inherited members with
  | case1 => exact .nil
  | case2 inherited m ms isOwn' ih =>
    rw [List.forall_mem_cons] at known
    refine .cons (fun b mem same => ⟨isOwn', ?_⟩) (ih known.2)
    cases own' : isOwn b with
    | true => rfl
    | false => exact absurd (same ▸ known.1 isOwn') (notMem_of_mem_keep mem own').1
  | case3 inherited m ms _ shadowed ih =>
    rw [List.forall_mem_cons] at known
    exact ih known.2
  | case4 inherited m ms _ unshadowed ih =>
    rw [List.forall_mem_cons] at known
    obtain ⟨foreign, -⟩ := not_or.mp unshadowed
    refine .cons (fun b mem same => ?_) (ih known.2)
    -- An own member would have its key among the own ones, an inherited one would be dropped.
    cases own' : isOwn b with
    | true =>
      have there := (keep_sublist _ _ _).subset mem
      exact absurd (same ▸ known.2 b there own') foreign
    | false => exact absurd (same ▸ List.mem_cons_self) (notMem_of_mem_keep mem own').2

/-- Members of one key are all own ones. -/
theorem dropShadowed_pairwise (isOwn : α → Bool) (key : α → κ) (members : List α) :
    (dropShadowed isOwn key members).Pairwise fun a b => key a = key b → isOwn a ∧ isOwn b := by
  refine keep_pairwise [] fun m mem own => ?_
  exact List.mem_map_of_mem (List.mem_filter.mpr ⟨mem, own⟩)

end

end Reflectory
