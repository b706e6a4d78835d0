/-
Which members consolidation keeps.

The pass over the members of a type remembers the keys of the inherited members that it has
kept. A key that it does not find there is either free or an own one, in which case no
inherited member with it is kept at all; so what decides over a member is only whether any
own member, or any inherited one before it, has its key. Said that way, nothing depends on
the course of the pass.

* `dropShadowed_eq_staying`: the pass keeps the members that stay among the others.
* `shadowed_members_dropped`: the members of consolidated types.
-/

import Reflectory.Proofs.Lists.Staying
import Reflectory.Proofs.Registry.Repetition
import Reflectory.Proofs.Registry.Shadowing

namespace Reflectory

section

variable {α κ : Type} [DecidableEq κ] {isOwn : α → Bool} {key : α → κ}

/-- Whether a member stays, given the members before it: it is an own one, or else its key
is that of no own member and of no inherited one before it. -/
def staysAmong (isOwn : α → Bool) (key : α → κ) (members before : List α) (m : α) : Bool :=
  isOwn m ||
    decide ((∀ own ∈ members, isOwn own → key own ≠ key m) ∧
      ∀ earlier ∈ before, isOwn earlier = false → key earlier ≠ key m)

/-- The pass keeps an inherited member if its key is neither remembered nor that of an
inherited member gone by. -/
theorem keep_eq_staying (own inherited : List κ) (members : List α) :
    dropShadowed.keep isOwn key own inherited members =
      staying (fun before m => isOwn m || decide ((key m ∉ own ∧ key m ∉ inherited) ∧
        ∀ earlier ∈ before, isOwn earlier = false → key earlier ≠ key m)) members := by
  fun_induction dropShadowed.keep isOwn key own inherited members with
  | case1 => rfl
  | case2 inherited m ms isOwn ih =>
    rw [staying_cons, ih, if_pos (by simp [isOwn]), List.singleton_append]
    refine congrArg (m :: ·) (staying_congr (fun before m' => ?_) ms)
    simp [isOwn]
  | case3 inherited m ms notOwn shadowed ih =>
    rw [staying_cons, ih, if_neg (by simpa [notOwn] using or_iff_not_imp_left.mp shadowed),
      List.nil_append]
    refine staying_congr (fun before m' => ?_) ms
    -- The key of `m` is known already, so a member that is free has another one.
    have other : key m' ∉ own ∧ key m' ∉ inherited → key m ≠ key m' := by
      rintro ⟨foreign, fresh⟩ same
      rw [same] at shadowed
      exact shadowed.elim foreign fresh
    refine congrArg (isOwn m' || ·) (decide_eq_decide.mpr (and_congr_right fun free => ?_))
    simp [other free]
  | case4 inherited m ms notOwn unshadowed ih =>
    rw [staying_cons, ih, if_pos (by simpa [notOwn] using not_or.mp unshadowed),
      List.singleton_append]
    refine congrArg (m :: ·) (staying_congr (fun before m' => ?_) ms)
    refine congrArg (isOwn m' || ·) (decide_eq_decide.mpr ?_)
    simp only [List.mem_cons, not_or, forall_eq_or_imp, notOwn, forall_const]
    tauto

/-- **The pass keeps the members that stay among the others.** -/
theorem dropShadowed_eq_staying (isOwn : α → Bool) (key : α → κ) (members : List α) :
    dropShadowed isOwn key members = staying (staysAmong isOwn key members) members := by
  rw [dropShadowed, keep_eq_staying]
  refine staying_congr (fun before m => ?_) members
  unfold staysAmong
  refine congrArg (isOwn m || ·) (decide_eq_decide.mpr (and_congr_left fun _ => ?_))
  simp

/-- What the removal of shadowed members leaves of a list: every own member, and of the
inherited ones those whose key no own member has and no inherited one before them, all in
their order. So an inherited member shares its key with no other one, and a second removal
finds nothing to remove. -/
structure Kept (isOwn : α → Bool) (key : α → κ) (members kept : List α) : Prop where
  stayed : kept = staying (staysAmong isOwn key members) members
  own : kept.filter isOwn = members.filter isOwn
  inOrder : kept.Sublist members
  apart : kept.Pairwise fun m m' => key m = key m' → isOwn m ∧ isOwn m'
  again : dropShadowed isOwn key kept = kept

theorem kept_dropShadowed (isOwn : α → Bool) (key : α → κ) (members : List α) :
    Kept isOwn key members (dropShadowed isOwn key members) where
  stayed := dropShadowed_eq_staying isOwn key members
  own := filter_isOwn_keep _ _ members
  inOrder := dropShadowed_sublist isOwn key members
  apart := dropShadowed_pairwise isOwn key members
  again := dropShadowed_dropShadowed members

end

namespace Registry

/-- **Members that are declared again.** Of every type of a registry, consolidation keeps
the methods that stay among the others by their signatures, and the properties that do by
their names. What it leaves has no shadowed members any more. -/
theorem shadowed_members_dropped (r : Registry) (config : Configuration) {id : TypeId}
    {d : Descriptor} (there : r.get? id = some d) :
    ∃ D, (r.consolidate config).registry.get? id = some D ∧
      Kept (fun m => m.declaredIn?.isNone) Method.signature d.methods D.methods ∧
      Kept (fun p => p.declaredIn?.isNone) Property.name d.properties D.properties ∧
      D.withoutShadowed = D := by
  have consolidated : (r.consolidate config).registry.get? id = _ :=
    consolidated_of_registered there
  have methods := kept_dropShadowed (fun m => m.declaredIn?.isNone) Method.signature d.methods
  have properties := kept_dropShadowed (fun p => p.declaredIn?.isNone) Property.name d.properties
  refine ⟨_, consolidated, methods, properties, ?_⟩
  unfold Descriptor.withoutShadowed
  congr 1
  · exact methods.again
  · exact properties.again

/-- A type that declares a setter again, behind the inherited one and for a reference to
the same value; it has inherited another method twice. -/
def namedNode : Registry where
  types := [{
    name := "Node"
    kind := .object false
    methods := [
      { Method.ofSpelled "setName" "void" [⟨"Name", "name", none⟩] with
        declaredIn? := some "Object" },
      { Method.ofSpelled "ref" "void" [] with declaredIn? := some "Referenced" },
      .ofSpelled "setName" "void" [⟨"const Name &", "name", none⟩],
      { Method.ofSpelled "ref" "void" [] with declaredIn? := some "Object" }]
    properties := [
      { Property.ofSpelled "name" .simple "Name" with declaredIn? := some "Object" },
      .ofSpelled "name" .simple "Name"] }]

/-- Consolidation keeps one setter of `namedNode`, the first of its inherited methods, and
its own property. -/
theorem shadowed_members_dropped_namedNode :
    ∃ D, (namedNode.consolidate {}).registry.get? ⟨0⟩ = some D ∧
      (D.methods.map fun m => (m.name, m.declaredIn?)) =
        [("ref", some "Referenced"), ("setName", none)] ∧
      (D.properties.map fun p => (p.name, p.declaredIn?)) = [("name", none)] := by
  obtain ⟨D, there, methods, properties, -⟩ :=
    @shadowed_members_dropped namedNode {} ⟨0⟩ _ rfl
  refine ⟨D, there, ?_, ?_⟩
  · rw [methods.stayed]
    decide +kernel
  · rw [properties.stayed]
    decide +kernel

end Registry

end Reflectory
