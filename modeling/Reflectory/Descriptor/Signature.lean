/-
Signatures: what makes one method override another.

Two methods with the same name, the same parameter types up to top-level
qualifiers, and the same constness override each other. Sets of signatures are
lists without repetitions; `SignatureSet.sorted` puts one into the order by
name, then parameters, then constness.
-/

import Reflectory.Spelling.Basic

namespace Reflectory

/-- The name, parameter types and constness of a method. -/
structure Signature where
  name : String
  params : List String
  isConst : Bool
  deriving DecidableEq, Repr

namespace Signature

/-- A signature with its parameter types in canonical spelling. -/
def ofSpelled (name : String) (params : List String) (isConst : Bool) : Signature :=
  ⟨name, params.map Spelling.normalize, isConst⟩

/-- The text of a signature: `setName(std::string)`, `getName() const`. -/
def display (s : Signature) : String :=
  s.name ++ "(" ++ Text.join ", " s.params ++ ")" ++ if s.isConst then " const" else ""

/-- Lexicographic order of lists of texts. -/
def paramsLe : List String → List String → Bool
  | [], _ => true
  | _ :: _, [] => false
  | a :: as, b :: bs => a < b || (a == b && paramsLe as bs)

/-- The order by name, then parameters, then constness. -/
def le (a b : Signature) : Bool :=
  a.name < b.name ||
    (a.name == b.name &&
      if a.params = b.params then !a.isConst || b.isConst else paramsLe a.params b.params)

end Signature

/-- A set of signatures: a list without repetitions. -/
abbrev SignatureSet := List Signature

namespace SignatureSet

/-- The set with one more signature. -/
def insert (set : SignatureSet) (s : Signature) : SignatureSet :=
  if s ∈ set then set else set ++ [s]

/-- The set with further signatures. -/
def union (set : SignatureSet) (more : List Signature) : SignatureSet :=
  more.foldl insert set

/-- The signatures in order. -/
def sorted (set : SignatureSet) : List Signature :=
  set.mergeSort Signature.le

theorem mem_insert {set : SignatureSet} {s t : Signature} :
    t ∈ set.insert s ↔ t ∈ set ∨ t = s := by
  unfold insert
  split
  · rename_i h
    constructor
    · exact Or.inl
    · rintro (ht | rfl)
      · exact ht
      · exact h
  · simp

theorem mem_union {set : SignatureSet} {more : List Signature} {t : Signature} :
    t ∈ set.union more ↔ t ∈ set ∨ t ∈ more := by
  unfold union
  induction more generalizing set with
  | nil => simp
  | cons s more ih => rw [List.foldl_cons, ih, mem_insert, List.mem_cons, or_assoc]

end SignatureSet

end Reflectory
