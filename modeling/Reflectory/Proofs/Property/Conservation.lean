/-
No method is lost, and none serves twice.

A method is used up by the property that it comes to serve, and each pass takes
free methods only, so no two properties share one (`Findings.nodup_served`).
Within one property, a method could serve twice only if its name could be read
in two ways. Where the lists of prefixes have nothing in common, the roles of one
property are told apart by the name or by the number of parameters
(`Separate.role_eq`). The result then accounts for every method exactly once
(`methods_accounted_for`).
-/

import Mathlib.Data.List.Nodup
import Mathlib.Data.List.Pairwise
import Mathlib.Data.List.Perm.Basic
import Reflectory.Proofs.Property.Passes

namespace Reflectory

open Spelling

/-! ### Roles told apart -/

/-- The lists of prefixes have no prefix in common. Counters take part in this
no more than they share a base name. -/
def PropertyPolicy.Separate (policy : PropertyPolicy) : Prop :=
  [policy.getterPrefixes, policy.setterPrefixes, policy.adderPrefixes, policy.inserterPrefixes,
    policy.removerPrefixes].Pairwise List.Disjoint

/-- The names of methods with these roles begin differently. -/
def PropertyPolicy.Apart (policy : PropertyPolicy) (role role' : Role) : Prop :=
  (policy.prefixes role).Disjoint (policy.prefixes role')

theorem Role.eq_counter_of_takes_zero {shape : PropertyShape} {role : Role}
    (counted : Role.counter ∈ shape.roles.toList) (mem : role ∈ shape.roles.toList)
    (none : role.takes 0) : role = .counter := by
  revert counted mem none
  cases shape <;> cases role <;> decide

namespace PropertyPolicy.Separate

variable {policy : PropertyPolicy} {shape : PropertyShape} {role role' : Role}

/-- The roles of one property that share a base name have prefixes of their own. -/
theorem apart_of_ne (separate : policy.Separate) (mem : role ∈ shape.roles.toList)
    (mem' : role' ∈ shape.roles.toList) (named : role ≠ .counter) (named' : role' ≠ .counter)
    (distinct : role ≠ role') : policy.Apart role role' := by
  have symm : Std.Symm policy.Apart := ⟨fun _ _ apart => List.disjoint_comm.mp apart⟩
  have first_two := separate.sublist (List.take_sublist 2 _)
  have apart : (shape.roles.toList.filter (· ≠ .counter)).Pairwise policy.Apart := by
    cases shape with
    | field => exact .nil
    | simple | indexed => exact (List.pairwise_map (f := policy.prefixes)).mp first_two
    | array => exact (List.pairwise_map (f := policy.prefixes)).mp separate
  exact apart.forall (List.mem_filter.mpr ⟨mem, decide_eq_true named⟩)
    (List.mem_filter.mpr ⟨mem', decide_eq_true named'⟩) distinct

/-- A method plays only one of the roles of a property. -/
theorem role_eq (separate : policy.Separate) {m : Method} {base base' : String}
    (plays : m.Plays policy role base) (plays' : m.Plays policy role' base')
    (mem : role ∈ shape.roles.toList) (mem' : role' ∈ shape.roles.toList)
    (same : role ≠ .counter → role' ≠ .counter → base = base') : role = role' := by
  -- A counter takes nothing, every other role of its property takes something.
  by_cases counter : role = .counter
  · subst counter
    have none : m.params.length = 0 := of_decide_eq_true plays.arity
    exact (Role.eq_counter_of_takes_zero mem mem' (none ▸ plays'.arity)).symm
  by_cases counter' : role' = .counter
  · subst counter'
    have none : m.params.length = 0 := of_decide_eq_true plays'.arity
    exact Role.eq_counter_of_takes_zero mem' mem (none ▸ plays.arity)
  -- The prefix is what is left of the name before the base.
  by_contra distinct
  obtain rfl := same counter counter'
  obtain ⟨pre, pre_mem, name⟩ := plays.named
  obtain ⟨pre', pre_mem', name'⟩ := plays'.named
  have same_pre : pre = pre' := by
    apply String.toList_inj.mp
    have append := congrArg String.toList (name.symm.trans name')
    rw [String.toList_append, String.toList_append] at append
    exact List.append_cancel_right append
  subst same_pre
  exact separate.apart_of_ne mem mem' counter counter' distinct pre_mem pre_mem'

end PropertyPolicy.Separate

/-! ### Methods used up -/

section

variable {policy : PropertyPolicy} {methods : List Method} {s s' : Findings}

theorem PropertyShape.nodup_roles (shape : PropertyShape) : shape.roles.toList.Nodup := by
  cases shape <;> decide

theorem Findings.Offers.role_eq {accessors : List Accessor} {base : String} {a : Accessor}
    {role : Role} (offers : s.Offers accessors base a role) : a.role = role := by
  obtain ⟨_, free, -⟩ := offers
  exact (Findings.mem_free_iff.mp free).2.2.1

theorem Findings.Offers.base_eq {accessors : List Accessor} {base : String} {a : Accessor}
    {role : Role} (offers : s.Offers accessors base a role) (named : role ≠ .counter) :
    a.base = base := by
  obtain ⟨_, free, same⟩ := offers
  exact (Findings.mem_free_iff.mp free).2.1.trans (same named)

namespace Fusion.Made

variable {f : Fusion}

theorem pairwise_role_ne {accessors : List Accessor} (made : f.Made policy accessors s) :
    f.members.toList.Pairwise fun a b => a.role ≠ b.role := by
  obtain ⟨base, within⟩ := made.within_roles
  obtain ⟨roles, offered, sub⟩ := List.sublistForall₂_iff.mp within.sublistForall₂
  have same : f.members.toList.map Accessor.role = roles :=
    List.forall₂_eq_eq_eq ▸ List.forall₂_map_left_iff.mpr (offered.imp fun _ _ => (·.role_eq))
  exact List.pairwise_map.mp (same ▸ f.property.shape.nodup_roles.sublist sub)

/-- A method serves a property in one role. -/
theorem nodup_indices (separate : policy.Separate)
    (made : f.Made policy (Accessor.ofMethods policy methods) s) : f.indices.Nodup := by
  obtain ⟨base, within⟩ := made.within_roles
  refine List.pairwise_map.mpr (made.pairwise_role_ne.imp_of_mem ?_)
  intro a b mem mem' differ same
  have fits := Accessor.fits_of_mem_ofMethods (made.mem_accessors mem).1
  have fits' := Accessor.fits_of_mem_ofMethods (made.mem_accessors mem').1
  have one : a.method = b.method :=
    Option.some.inj (fits.there.symm.trans ((congrArg (methods[·]?) same).trans fits'.there))
  obtain ⟨role, there, offers⟩ := Accessors.exists_of_sublistForall₂ within.sublistForall₂ mem
  obtain ⟨role', there', offers'⟩ :=
    Accessors.exists_of_sublistForall₂ within.sublistForall₂ mem'
  obtain rfl := offers.role_eq
  obtain rfl := offers'.role_eq
  exact differ <| separate.role_eq fits.plays (one ▸ fits'.plays) there there'
    fun named named' => (offers.base_eq named).trans (offers'.base_eq named').symm

end Fusion.Made

namespace Findings

/-- The places of the methods that serve a property. -/
def served (s : Findings) : List Nat :=
  s.found.flatMap Fusion.indices

theorem uses_iff {i : Nat} : s.uses i ↔ i ∈ s.served := by
  simp [uses, served]

theorem Next.nodup_served (separate : policy.Separate)
    (next : Next policy (Accessor.ofMethods policy methods) s s') (nodup : s.served.Nodup) :
    s'.served.Nodup := by
  cases next with
  | reject _ => exact nodup
  | @fuse f made _ =>
    have new : s.served.Disjoint f.indices := fun i used mem =>
      Bool.eq_false_iff.mp (made.unused_of_mem_indices mem) (uses_iff.mpr used)
    rw [served, List.flatMap_append, List.flatMap_singleton]
    exact nodup.append (made.nodup_indices separate) new

theorem nodup_served (separate : policy.Separate)
    (run : Reaches policy (Accessor.ofMethods policy methods) s s') (nodup : s.served.Nodup) :
    s'.served.Nodup := by
  induction run with
  | refl => exact nodup
  | tail _ next ih => exact next.nodup_served separate ih

end Findings

end

/-! ### The account -/

/-- The accessors of the property are the methods in these places of the list. -/
def Property.ServedBy (methods : List Method) (p : Property) (places : Accessors Nat) : Prop :=
  p.accessors.map some = places.map fun i => methods[i]?.map Method.signature

/-- The result, with the places of the methods that serve each property, accounts
for every method of the list once. -/
structure PropertyInference.AccountsFor (methods : List Method) (result : PropertyInference)
    (places : List (Accessors Nat)) : Prop where
  served : List.Forall₂ (Property.ServedBy methods) result.properties places
  once : (places.flatMap Accessors.toList).Nodup
  rest : result.leftover =
    (methods.zipIdx.filter fun (_, i) => i ∉ places.flatMap Accessors.toList).map Prod.fst

/-- Different numbers below a bound, and the other numbers below it. -/
theorem length_filter_notMem {used : List Nat} {n : Nat} (once : used.Nodup)
    (below : ∀ i ∈ used, i < n) :
    used.length + ((List.range n).filter (· ∉ used)).length = n := by
  have perm : ((List.range n).filter (· ∈ used)).Perm used := by
    refine (List.perm_ext_iff_of_nodup (List.nodup_range.filter _) once).mpr fun i => ?_
    simpa using below i
  have split := List.length_eq_length_filter_add (l := List.range n) (decide <| · ∈ used)
  simp only [List.length_range, perm.length_eq, ← decide_not] at split
  exact split.symm

theorem Property.ServedBy.toList_eq {methods : List Method} {p : Property}
    {places : Accessors Nat} (served : p.ServedBy methods places) :
    p.accessors.toList.map some = places.toList.map fun i => methods[i]?.map Method.signature := by
  rw [← Accessors.toList_map, served, Accessors.toList_map]

/-- There are as many places as accessors, all of them inside the list. -/
theorem Property.ServedBy.places {methods : List Method} {ps : List Property}
    {places : List (Accessors Nat)} (served : List.Forall₂ (Property.ServedBy methods) ps places) :
    (ps.flatMap fun p => p.accessors.toList).length = (places.flatMap Accessors.toList).length ∧
      ∀ i ∈ places.flatMap Accessors.toList, i < methods.length := by
  induction served with
  | nil => simp
  | @cons p as _ _ first _ ih =>
    have lists := first.toList_eq
    have lengths : p.accessors.toList.length = as.toList.length := by
      simpa using congrArg List.length lists
    refine ⟨by simp [lengths, ih.1], fun i mem => ?_⟩
    rcases List.mem_append.mp mem with mem | mem
    · have signed := List.mem_map_of_mem (f := fun i => methods[i]?.map Method.signature) mem
      obtain ⟨_, -, there⟩ := List.mem_map.mp (lists ▸ signed)
      obtain ⟨m, there, -⟩ := Option.map_eq_some_iff.mp there.symm
      exact (List.getElem?_eq_some_iff.mp there).1
    · exact ih.2 i mem

theorem PropertyInference.AccountsFor.total {methods : List Method} {result : PropertyInference}
    {places : List (Accessors Nat)} (account : result.AccountsFor methods places) :
    (result.properties.flatMap fun p => p.accessors.toList).length + result.leftover.length =
      methods.length := by
  obtain ⟨number, below⟩ := Property.ServedBy.places account.served
  have others : result.leftover.length =
      ((List.range methods.length).filter (· ∉ places.flatMap Accessors.toList)).length := by
    rw [account.rest, List.length_map, List.range_eq_range', ← List.zipIdx_map_snd,
      List.filter_map, List.length_map]
    rfl
  rw [number, others]
  exact length_filter_notMem account.once below

theorem Fusion.Made.servedBy {policy : PropertyPolicy} {methods : List Method} {s : Findings}
    {f : Fusion} (made : f.Made policy (Accessor.ofMethods policy methods) s) :
    f.property.ServedBy methods (f.members.map Accessor.index) := by
  rw [Property.ServedBy, made.accessors_eq, Accessors.map_map, Accessors.map_map]
  refine Accessors.map_congr fun a mem => ?_
  have fits := Accessor.fits_of_mem_ofMethods (made.mem_accessors mem).1
  exact (congrArg (Option.map Method.signature) fits.there).symm

theorem PropertyInference.accountsFor_ofMethods {policy : PropertyPolicy}
    (separate : policy.Separate) (methods : List Method) :
    ∃ places, (ofMethods policy methods).AccountsFor methods places := by
  let s := Findings.ofAccessors policy (Accessor.ofMethods policy methods)
  let sorted := s.found.mergeSort fun a b => a.anchor ≤ b.anchor
  have flat : (sorted.map fun f => f.members.map Accessor.index).flatMap Accessors.toList =
      sorted.flatMap Fusion.indices := by
    simp only [List.flatMap_map, Accessors.toList_map]
    rfl
  -- Sorting puts the properties into another order and changes nothing else.
  have perm : (sorted.flatMap Fusion.indices).Perm s.served :=
    (List.mergeSort_perm _ _).flatMap_right _
  refine ⟨sorted.map fun f => f.members.map Accessor.index, ?_, ?_, ?_⟩
  · refine List.forall₂_map_left_iff.mpr (List.forall₂_map_right_iff.mpr ?_)
    refine List.forall₂_same.mpr fun f mem => ?_
    obtain ⟨t, made⟩ := Findings.made_of_mem_ofAccessors (List.mem_mergeSort.mp mem)
    exact made.servedBy
  · rw [flat, perm.nodup_iff]
    exact Findings.nodup_served separate (Findings.reaches_ofAccessors policy _) List.nodup_nil
  · rw [flat]
    refine congrArg (List.map Prod.fst) (List.filter_congr fun (_, i) _ => ?_)
    simp [perm.mem_iff, ← Findings.uses_iff, s]

/-- **No method is lost, and none serves twice.** Where the lists of prefixes have
nothing in common, every accessor of every property is a method of the list, each
in one place only, and what is left are the other methods in their order. So there
are as many methods as accessors and leftovers together. -/
theorem methods_accounted_for {policy : PropertyPolicy} (separate : policy.Separate)
    (methods : List Method) :
    let result := PropertyInference.ofMethods policy methods
    (∃ places, result.AccountsFor methods places) ∧
      (result.properties.flatMap fun p => p.accessors.toList).length + result.leftover.length =
        methods.length := by
  obtain ⟨places, account⟩ := PropertyInference.accountsFor_ofMethods separate methods
  exact ⟨⟨places, account⟩, account.total⟩

/-- The methods of a basket. The number of its items could be a property of its own. -/
def basketMethods : List Method :=
  [.ofSpelled "getNumItems" "int" [],
    .ofSpelled "getItem" "Item *" [⟨"int", "i", none⟩],
    .ofSpelled "clear" "void" [],
    .ofSpelled "addItem" "void" [⟨"Item *", "item", none⟩]]

/-- The items of a basket are one property with three accessors. -/
theorem methods_accounted_for_basket :
    PropertyPolicy.Separate {} ∧
      let result := PropertyInference.ofMethods {} basketMethods
      (∃ places, result.AccountsFor basketMethods places) ∧
        result.leftover = [.ofSpelled "clear" "void" []] ∧
        (result.properties.flatMap fun p => p.accessors.toList).length = 3 := by
  have separate : PropertyPolicy.Separate {} := by simp [PropertyPolicy.Separate]
  have left : (PropertyInference.ofMethods {} basketMethods).leftover =
      [.ofSpelled "clear" "void" []] := by decide +kernel
  obtain ⟨account, total⟩ := methods_accounted_for separate basketMethods
  refine ⟨separate, account, left, ?_⟩
  rw [left] at total
  exact Nat.succ.inj total

end Reflectory
