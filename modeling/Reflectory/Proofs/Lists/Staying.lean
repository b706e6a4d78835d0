/-
Elements that stay, decided by what stands before them.

A pass over a list that remembers what it has seen keeps each element or leaves it out.
`staying` says the same without a memory: every element is looked at together with all that
stands before it in the list.

* `staying_cons`: one element, and then the others with it before them.
-/

import Mathlib.Data.List.Infix

namespace Reflectory

variable {α : Type} {xs : List α}

/-- Each place of a list is an element with what stands before it. -/
theorem mem_inits_zip_iff {place : List α × α} :
    place ∈ xs.inits.zip xs ↔ ∃ after, xs = place.1 ++ place.2 :: after := by
  obtain ⟨before, x⟩ := place
  induction xs generalizing before with
  | nil => simp
  | cons y ys ih =>
    rw [List.inits_cons, List.zip_cons_cons, List.zip_map_left, List.mem_cons, List.mem_map]
    cases before with
    | nil => simp [eq_comm]
    | cons z before => simp [ih, eq_comm, and_comm]

/-- What holds at every place of a list. -/
theorem forall_splits_iff {p : List α → α → Prop} :
    (∀ before x after, xs = before ++ x :: after → p before x) ↔
      ∀ place ∈ xs.inits.zip xs, p place.1 place.2 := by
  simp only [mem_inits_zip_iff, Prod.forall, forall_exists_index]

/-- The elements that stay, in order. -/
def staying (stays : List α → α → Bool) (xs : List α) : List α :=
  ((xs.inits.zip xs).filter fun place => stays place.1 place.2).map Prod.snd

variable (stays : List α → α → Bool)

@[simp] theorem staying_nil : staying stays [] = [] :=
  rfl

theorem staying_congr {stays stays' : List α → α → Bool}
    (same : ∀ before, ∀ x, stays before x = stays' before x) (xs : List α) :
    staying stays xs = staying stays' xs :=
  congrArg (staying · xs) (funext₂ same)

/-- The first element is looked at by itself, the others with it before them. -/
theorem staying_cons (x : α) (xs : List α) :
    staying stays (x :: xs) =
      (if stays [] x then [x] else []) ++ staying (fun before => stays (x :: before)) xs := by
  unfold staying
  rw [List.inits_cons, List.zip_cons_cons, List.zip_map_left, List.filter_cons, List.filter_map]
  split_ifs <;> simp [Function.comp_def]

end Reflectory
