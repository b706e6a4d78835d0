/-
Depth-first walks over the bases of types.

A walk settles every type after its bases. Types are entered from the given
roots in order, and the bases of a type in the order of its links. A link back
to a type that has been entered and is not yet settled would close a cycle, and
is dropped. What happens is recorded step by step: `Step.drop` and `Step.settle`.
-/

import Reflectory.Descriptor.Basic

namespace Reflectory

/-- What happens on a walk. -/
inductive Step where
  /-- A link, given by the place among its type's bases, is dropped. -/
  | drop (type : TypeId) (base : Nat)
  /-- A type is settled: all its bases are. -/
  | settle (type : TypeId)
  deriving DecidableEq, Repr

/-- A walk so far: its steps, and the settled types in order. -/
structure Trail where
  steps : List Step := []
  settled : List TypeId := []
  deriving DecidableEq, Repr

namespace Trail

/-- Records that a link is dropped. -/
def drop (t : Trail) (type : TypeId) (base : Nat) : Trail :=
  { t with steps := t.steps ++ [.drop type base] }

/-- Records that a type is settled. -/
def settle (t : Trail) (type : TypeId) : Trail :=
  { steps := t.steps ++ [.settle type], settled := t.settled ++ [type] }

end Trail

/-- Enters a type that is not yet settled: walks through its bases and settles
it. `away` are the types that the walk is not inside of. -/
def enter (targets : TypeId → List BaseTarget) (away : List TypeId) (t : Trail)
    (type : TypeId) : Trail :=
  if _h : type ∈ away then
    let away' := away.erase type
    let through (t : Trail) (link : BaseTarget × Nat) : Trail :=
      match link.1 with
      | .resolved base =>
        if base ∈ t.settled then t
        else if base ∈ away' then enter targets away' t base
        else t.drop type link.2
      | _ => t
    ((targets type).zipIdx.foldl through t).settle type
  else t
termination_by away.length
decreasing_by
  have := List.length_pos_of_mem _h
  simp only [List.length_erase_of_mem _h]
  omega

/-- The walk over all types, entered from the roots in order. -/
def walk (targets : TypeId → List BaseTarget) (types roots : List TypeId) : Trail :=
  roots.foldl (fun t root => if root ∈ t.settled then t else enter targets types t root) {}

end Reflectory
