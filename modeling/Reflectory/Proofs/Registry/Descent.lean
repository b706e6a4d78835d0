/-
The walk over the bases as a loop with a stack.

`walk` recurses into the bases of a type. `Descent` is the same walk as a state
that moves one step at a time: the roots that are still to be entered, a stack
of the types that the walk is inside of, each with the place of the link that
comes next, and the trail so far. A type on the stack is in progress, a settled
type is done, and all others are unvisited.

* `Move.unique`: there is never more than one way to go on.
* `walk_ends`: from the roots, the loop ends, with the trail of `walk`.

So what every move keeps holds of the walk, and the loop ends on every graph,
however its links run in circles.
-/

import Reflectory.Registry.Walk
import Mathlib.Data.List.Nodup
import Mathlib.Logic.Relation

namespace Reflectory

open Relation

/-! ### Links -/

/-- The link at this place of a type leads to a base. -/
def LeadsTo (targets : TypeId → List BaseTarget) (type : TypeId) (place : Nat)
    (base : TypeId) : Prop :=
  (targets type)[place]? = some (.resolved base)

/-- Every link of any type leads to one of the given types, if it leads to a
type at all. -/
def LeadsInto (targets : TypeId → List BaseTarget) (types : List TypeId) : Prop :=
  ∀ type place base, LeadsTo targets type place base → base ∈ types

theorem LeadsTo.unique {targets : TypeId → List BaseTarget} {type base base' : TypeId}
    {place : Nat} (h : LeadsTo targets type place base) (h' : LeadsTo targets type place base') :
    base = base' := by
  unfold LeadsTo at h h'
  rw [h] at h'
  injection h' with h'
  injection h'

/-! ### The loop -/

/-- A type that the walk is inside of, with the place of its next link. -/
structure Frame where
  type : TypeId
  next : Nat
  deriving DecidableEq, Repr

/-- A walk under way. -/
structure Descent where
  roots : List TypeId
  stack : List Frame
  trail : Trail
  deriving DecidableEq, Repr

namespace Descent

/-- Before the first root is entered. -/
def start (roots : List TypeId) : Descent :=
  ⟨roots, [], {}⟩

/-- The types that the walk is inside of, the innermost first. -/
def inside (s : Descent) : List TypeId :=
  s.stack.map Frame.type

end Descent

/-- One turn of the loop. -/
inductive Move (targets : TypeId → List BaseTarget) : Descent → Descent → Prop where
  /-- A root that is settled is passed over. -/
  | skipRoot {root : TypeId} {roots : List TypeId} {t : Trail} :
      root ∈ t.settled → Move targets ⟨root :: roots, [], t⟩ ⟨roots, [], t⟩
  /-- Any other root is entered. -/
  | enterRoot {root : TypeId} {roots : List TypeId} {t : Trail} :
      root ∉ t.settled → Move targets ⟨root :: roots, [], t⟩ ⟨roots, [⟨root, 0⟩], t⟩
  /-- A type without further links is settled. -/
  | settle {roots : List TypeId} {x : TypeId} {n : Nat} {below : List Frame} {t : Trail} :
      (targets x)[n]? = none →
      Move targets ⟨roots, ⟨x, n⟩ :: below, t⟩ ⟨roots, below, t.settle x⟩
  /-- A link to no type, or to a settled one, is passed over. -/
  | pass {roots : List TypeId} {x : TypeId} {n : Nat} {below : List Frame} {t : Trail}
      {target : BaseTarget} :
      (targets x)[n]? = some target → (∀ base, target = .resolved base → base ∈ t.settled) →
      Move targets ⟨roots, ⟨x, n⟩ :: below, t⟩ ⟨roots, ⟨x, n + 1⟩ :: below, t⟩
  /-- A link back into the stack is dropped. -/
  | drop {roots : List TypeId} {x base : TypeId} {n : Nat} {below : List Frame} {t : Trail} :
      LeadsTo targets x n base → base ∉ t.settled → base ∈ x :: below.map Frame.type →
      Move targets ⟨roots, ⟨x, n⟩ :: below, t⟩ ⟨roots, ⟨x, n + 1⟩ :: below, t.drop x n⟩
  /-- Any other base is entered. -/
  | enter {roots : List TypeId} {x base : TypeId} {n : Nat} {below : List Frame} {t : Trail} :
      LeadsTo targets x n base → base ∉ t.settled → base ∉ x :: below.map Frame.type →
      Move targets ⟨roots, ⟨x, n⟩ :: below, t⟩ ⟨roots, ⟨base, 0⟩ :: ⟨x, n + 1⟩ :: below, t⟩

/-- Any number of turns. -/
abbrev Runs (targets : TypeId → List BaseTarget) : Descent → Descent → Prop :=
  ReflTransGen (Move targets)

section Loop

variable {targets : TypeId → List BaseTarget}

/-- There is never more than one way to go on. -/
theorem Move.unique {s s₁ s₂ : Descent} (h₁ : Move targets s s₁) (h₂ : Move targets s s₂) :
    s₁ = s₂ := by
  cases h₁ with
  | skipRoot settled =>
    cases h₂ with
    | skipRoot => rfl
    | enterRoot unsettled => exact absurd settled unsettled
  | enterRoot unsettled =>
    cases h₂ with
    | skipRoot settled => exact absurd settled unsettled
    | enterRoot => rfl
  | settle last =>
    cases h₂ with
    | settle => rfl
    | pass link _ => simp [last] at link
    | drop link _ _ => simp [LeadsTo, last] at link
    | enter link _ _ => simp [LeadsTo, last] at link
  | pass link settled =>
    cases h₂ with
    | settle last => simp [last] at link
    | pass => rfl
    | drop link' unsettled _ =>
      exact absurd (settled _ (Option.some.inj (link.symm.trans link'))) unsettled
    | enter link' unsettled _ =>
      exact absurd (settled _ (Option.some.inj (link.symm.trans link'))) unsettled
  | drop link unsettled within =>
    cases h₂ with
    | settle last => simp [LeadsTo, last] at link
    | pass link' settled =>
      exact absurd (settled _ (Option.some.inj (link'.symm.trans link))) unsettled
    | drop => rfl
    | enter link' _ without =>
      exact absurd (link.unique link' ▸ within) without
  | enter link unsettled without =>
    cases h₂ with
    | settle last => simp [LeadsTo, last] at link
    | pass link' settled =>
      exact absurd (settled _ (Option.some.inj (link'.symm.trans link))) unsettled
    | drop link' _ within =>
      exact absurd (link'.unique link ▸ within) without
    | enter link' =>
      rw [link.unique link']

/-- The loop ends where neither a root nor a frame is left. -/
theorem not_move_of_done {t : Trail} {s : Descent} : ¬ Move targets ⟨[], [], t⟩ s := by
  intro move
  cases move

/-- The loop ends from here however it goes on, and it ends with this trail. -/
structure Descent.EndsWith (targets : TypeId → List BaseTarget) (s : Descent) (t : Trail) :
    Prop where
  terminates : Acc (fun later sooner => Move targets sooner later) s
  runs : Runs targets s ⟨[], [], t⟩

/-- There is only one way to go on, so one run that ends is enough. -/
theorem Runs.endsWith {s : Descent} {t : Trail} (runs : Runs targets s ⟨[], [], t⟩) :
    s.EndsWith targets t := by
  refine ⟨?_, runs⟩
  induction runs using ReflTransGen.head_induction_on with
  | refl => exact .intro _ fun _ move => absurd move not_move_of_done
  | head move _ ih => exact .intro _ fun _ move' => move'.unique move ▸ ih

end Loop

/-! ### The recursion is the loop -/

/-- What the walk does about one link of a type that it is inside of. -/
def visit (targets : TypeId → List BaseTarget) (away : List TypeId) (type : TypeId) (t : Trail)
    (link : BaseTarget × Nat) : Trail :=
  match link.1 with
  | .resolved base =>
    if base ∈ t.settled then t
    else if base ∈ away then enter targets away t base
    else t.drop type link.2
  | _ => t

section Recursion

variable {targets : TypeId → List BaseTarget} {types : List TypeId}

/-- Entering a type goes through its links from outside of that type. -/
theorem enter_eq {away : List TypeId} {x : TypeId} (t : Trail) (h : x ∈ away) :
    enter targets away t x =
      ((targets x).zipIdx.foldl (visit targets (away.erase x) x) t).settle x := by
  rw [enter, dif_pos h]
  rfl

/-- The types that the walk is not inside of. -/
def IsAway (types away : List TypeId) (stack : List Frame) : Prop :=
  away.Nodup ∧ ∀ u, u ∈ away ↔ u ∈ types ∧ u ∉ stack.map Frame.type

theorem IsAway.push {away : List TypeId} {stack : List Frame} (h : IsAway types away stack)
    (x : TypeId) (n : Nat) : IsAway types (away.erase x) (⟨x, n⟩ :: stack) := by
  refine ⟨h.1.erase x, fun u => ?_⟩
  rw [h.1.mem_erase_iff, h.2, List.map_cons, List.mem_cons, not_or]
  tauto

/-- Going through the last links of a type, if the loop enters a type as the
recursion does. -/
theorem visit_runs {roots : List TypeId} {x : TypeId} {below : List Frame} {away : List TypeId}
    (into : LeadsInto targets types)
    (isAway : ∀ n, IsAway types away (⟨x, n⟩ :: below))
    (enters : ∀ n base t, base ∈ away →
      Runs targets ⟨roots, ⟨base, 0⟩ :: ⟨x, n⟩ :: below, t⟩
        ⟨roots, ⟨x, n⟩ :: below, enter targets away t base⟩)
    (links : List BaseTarget) (n : Nat) (t : Trail) (rest : (targets x).drop n = links) :
    Runs targets ⟨roots, ⟨x, n⟩ :: below, t⟩
      ⟨roots, ⟨x, n + links.length⟩ :: below,
        (links.zipIdx n).foldl (visit targets away x) t⟩ := by
  induction links generalizing n t with
  | nil => exact .refl
  | cons target links ih =>
    have link : (targets x)[n]? = some target := by
      rw [← List.head?_drop, rest, List.head?_cons]
    have rest' : (targets x).drop (n + 1) = links := by
      rw [← List.tail_drop, rest, List.tail_cons]
    have turn : Runs targets ⟨roots, ⟨x, n⟩ :: below, t⟩
        ⟨roots, ⟨x, n + 1⟩ :: below, visit targets away x t (target, n)⟩ := by
      cases target with
      | resolved base =>
        simp only [visit]
        split_ifs with settled outside
        · exact .single (.pass link fun _ h => by cases h; exact settled)
        · have without := ((isAway n).2 base).mp outside |>.2
          exact .head (.enter link settled without) (enters (n + 1) base t outside)
        · have within : base ∈ x :: below.map Frame.type := by
            by_contra without
            exact outside (((isAway n).2 base).mpr ⟨into x n base link, without⟩)
          exact .single (.drop link settled within)
      | unresolved => exact .single (.pass link fun _ h => by cases h)
      | external => exact .single (.pass link fun _ h => by cases h)
      | invalid defect => exact .single (.pass link fun _ h => by cases h)
    have := turn.trans (ih (n + 1) _ rest')
    rwa [Nat.add_right_comm, Nat.add_assoc] at this

/-- From the moment a type is entered, the loop comes to where the recursion
leaves it. -/
theorem enter_runs (into : LeadsInto targets types) {roots : List TypeId} :
    ∀ {away : List TypeId} {x : TypeId} {below : List Frame} (t : Trail),
      IsAway types away below → x ∈ away →
      Runs targets ⟨roots, ⟨x, 0⟩ :: below, t⟩ ⟨roots, below, enter targets away t x⟩ := by
  intro away
  induction h : away.length using Nat.strongRecOn generalizing away with
  | _ size ih =>
    intro x below t isAway outside
    have smaller : (away.erase x).length < size := by
      have := List.length_pos_of_mem outside
      rw [List.length_erase_of_mem outside]
      omega
    have inner : ∀ n base t, base ∈ away.erase x →
        Runs targets ⟨roots, ⟨base, 0⟩ :: ⟨x, n⟩ :: below, t⟩
          ⟨roots, ⟨x, n⟩ :: below, enter targets (away.erase x) t base⟩ :=
      fun n _ t mem => ih _ smaller rfl t (isAway.push x n) mem
    have through := visit_runs into (fun n => isAway.push x n) inner (targets x) 0 t rfl
    rw [enter_eq t outside]
    exact through.tail (.settle (by simp))

/-- The walk from roots is what the loop does, after any trail. -/
theorem roots_run (into : LeadsInto targets types) (nodup : types.Nodup) {roots : List TypeId}
    (known : ∀ u ∈ roots, u ∈ types) (t : Trail) :
    Runs targets ⟨roots, [], t⟩
      ⟨[], [], roots.foldl
        (fun t root => if root ∈ t.settled then t else enter targets types t root) t⟩ := by
  induction roots generalizing t with
  | nil => exact .refl
  | cons root roots ih =>
    have rest := fun t => ih (fun u h => known u (List.mem_cons_of_mem _ h)) t
    rw [List.foldl_cons]
    split_ifs with settled
    · exact .head (.skipRoot settled) (rest t)
    · have isAway : IsAway types types [] := ⟨nodup, fun u => by simp⟩
      have entered : Runs targets ⟨roots, [⟨root, 0⟩], t⟩ ⟨roots, [], enter targets types t root⟩ :=
        enter_runs into t isAway (known root List.mem_cons_self)
      exact (ReflTransGen.head (.enterRoot settled) entered).trans (rest _)

/-- From the roots the loop comes to a state without roots and frames, with the
trail of the walk. -/
theorem walk_runs (into : LeadsInto targets types) (nodup : types.Nodup) {roots : List TypeId}
    (known : ∀ u ∈ roots, u ∈ types) :
    Runs targets (.start roots) ⟨[], [], walk targets types roots⟩ :=
  roots_run into nodup known {}

/-- **The walk is the loop, and the loop ends.** -/
theorem walk_ends (into : LeadsInto targets types) (nodup : types.Nodup) {roots : List TypeId}
    (known : ∀ u ∈ roots, u ∈ types) :
    (Descent.start roots).EndsWith targets (walk targets types roots) :=
  (walk_runs into nodup known).endsWith

end Recursion

end Reflectory
