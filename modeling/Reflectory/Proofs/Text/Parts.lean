/-
The parts of a text between marks.

A text is cut at every mark, and nothing is lost: the parts determine the text. Texts that
are joined with a mark between them have the parts of the texts, one after another, so
texts without marks are found again.

* `splitAt_join`: the parts of joined texts.
* `splitAt_injective`, `join_inj`: the parts determine the text, and the joined text
  determines the texts.
* `lines_unlines`: the lines of a text that is written line by line.
-/

import Mathlib
import Reflectory.Text.Trim

namespace Reflectory.Text

/-! ### Cutting -/

theorem splitAt_ne_nil (p : Char → Bool) (cs : List Char) : splitAt p cs ≠ [] := by
  fun_cases splitAt p cs <;> simp

/-- At a mark, the parts before it end and others begin. -/
theorem splitAt_append_cons {p : Char → Bool} {c : Char} (mark : p c) (before after : List Char) :
    splitAt p (before ++ c :: after) = splitAt p before ++ splitAt p after := by
  induction before with
  | nil => simp [splitAt, mark]
  | cons d before ih =>
    rw [List.cons_append, splitAt, splitAt, ih]
    split_ifs
    · rfl
    · cases parts : splitAt p before with
      | nil => exact absurd parts (splitAt_ne_nil p before)
      | cons => rfl

/-- Without a mark there is one part. -/
theorem splitAt_of_unmarked {p : Char → Bool} {cs : List Char} (unmarked : ∀ c ∈ cs, p c = false) :
    splitAt p cs = [cs] := by
  induction cs with
  | nil => rfl
  | cons c cs ih =>
    obtain ⟨not_mark, unmarked⟩ := List.forall_mem_cons.mp unmarked
    rw [splitAt, if_neg (Bool.eq_false_iff.mp not_mark), ih unmarked]

/-- The parts with the mark between them are the text again. -/
theorem intercalate_splitAt (c : Char) (cs : List Char) :
    [c].intercalate (splitAt (· = c) cs) = cs := by
  induction cs with
  | nil => rfl
  | cons d cs ih =>
    rw [splitAt]
    cases parts : splitAt (· = c) cs with
    | nil => exact absurd parts (splitAt_ne_nil _ cs)
    | cons part parts' =>
      rw [parts] at ih
      split_ifs with mark
      · obtain rfl : d = c := by simpa using mark
        rw [← ih]
        simp [List.intercalate, List.intersperse]
      · rw [← ih]
        cases parts' <;> simp [List.intercalate, List.intersperse]

/-- The parts determine the text. -/
theorem splitAt_injective (c : Char) : Function.Injective (splitAt (· = c)) := by
  intro cs cs' same
  rw [← intercalate_splitAt c cs, same, intercalate_splitAt]

/-! ### Joining -/

/-- The parts of joined texts are those of the texts. -/
theorem splitAt_join {c : Char} {texts : List String} (nonempty : texts ≠ []) :
    splitAt (· = c) (join (String.singleton c) texts).toList =
      texts.flatMap fun text => splitAt (· = c) text.toList := by
  induction texts with
  | nil => exact absurd rfl nonempty
  | cons text texts ih =>
    cases texts with
    | nil => simp [join]
    | cons second rest =>
      have mark : (join (String.singleton c) (text :: second :: rest)).toList =
          text.toList ++ c :: (join (String.singleton c) (second :: rest)).toList := by
        simp [join]
      rw [mark, splitAt_append_cons (by simp), ih (List.cons_ne_nil _ _)]
      rfl

/-- Texts without marks are found again between the marks. -/
theorem splitAt_join_of_unmarked {c : Char} {texts : List String} (nonempty : texts ≠ [])
    (unmarked : ∀ text ∈ texts, c ∉ text.toList) :
    splitAt (· = c) (join (String.singleton c) texts).toList = texts.map String.toList := by
  rw [splitAt_join nonempty, List.map_eq_flatMap]
  refine List.flatMap_congr fun text mem => splitAt_of_unmarked fun d d_mem => ?_
  refine decide_eq_false ?_
  rintro rfl
  exact unmarked text mem d_mem

/-- Different texts without marks are different when they are joined. -/
theorem join_inj {c : Char} {texts texts' : List String} (nonempty : texts ≠ [])
    (nonempty' : texts' ≠ []) (unmarked : ∀ text ∈ texts, c ∉ text.toList)
    (unmarked' : ∀ text ∈ texts', c ∉ text.toList) :
    join (String.singleton c) texts = join (String.singleton c) texts' ↔ texts = texts' := by
  refine ⟨fun same => ?_, congrArg _⟩
  have parts := splitAt_join_of_unmarked nonempty unmarked
  rw [same, splitAt_join_of_unmarked nonempty' unmarked'] at parts
  exact (List.map_injective_iff.mpr (fun _ _ same => String.toList_injective same) parts).symm

/-! ### Lines -/

/-- The lines of a text. What stands behind the last line break is a line if anything does. -/
def lines (text : String) : List String :=
  let parts := splitAt (· = '\n') text.toList
  (if parts.getLast? = some [] then parts.dropLast else parts).map String.ofList

theorem splitAt_unlines {texts : List String} (unbroken : ∀ text ∈ texts, '\n' ∉ text.toList) :
    splitAt (· = '\n') (unlines texts).toList = texts.map String.toList ++ [[]] := by
  induction texts with
  | nil => rfl
  | cons text texts ih =>
    obtain ⟨here, unbroken⟩ := List.forall_mem_cons.mp unbroken
    have first : (unlines (text :: texts)).toList =
        text.toList ++ '\n' :: (unlines texts).toList := by
      simp [unlines, String.toList_join]
    rw [first, splitAt_append_cons (by simp), ih unbroken, splitAt_of_unmarked, List.map_cons]
    · rfl
    · exact fun c mem => decide_eq_false fun mark => here (mark ▸ mem)

/-- A text that is written line by line has these lines. -/
theorem lines_unlines {texts : List String} (unbroken : ∀ text ∈ texts, '\n' ∉ text.toList) :
    lines (unlines texts) = texts := by
  simp [lines, splitAt_unlines unbroken]

end Reflectory.Text
