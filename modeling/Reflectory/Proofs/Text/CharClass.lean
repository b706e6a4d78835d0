/-
Which characters are in no two classes.

The classes are given by cases: ASCII characters are tested one by one, and all others are
looked up in runs of code points. So facts about them are proved by the same cases. What
holds of all ASCII characters is checked for each of their code points (`forall_ascii`), and
beyond them two classes have no character in common if none of their runs meet
(`CodePoints.has_eq_false_of_apart`).
-/

import Mathlib.Tactic.SplitIfs
import Reflectory.Text.CharClass

namespace Reflectory.Text

/-- What holds of all ASCII characters can be checked for each of their code points. -/
theorem forall_ascii {P : Char → Prop} (all : ∀ n < 128, P (Char.ofNat n)) (c : Char)
    (ascii : c.toNat < 128) : P c := by
  have here := all c.toNat ascii
  rwa [Char.ofNat_toNat] at here

/-- Whether the runs of two sets lie apart. -/
def CodePoints.apart (rs ss : CodePoints) : Bool :=
  ss.all fun s => rs.all fun r => r.last.blt s.first || s.last.blt r.first

/-- No character belongs to two sets whose runs lie apart. -/
theorem CodePoints.has_eq_false_of_apart {rs ss : CodePoints} {c : Char} (apart : rs.apart ss)
    (mem : rs.has c) : ss.has c = false := by
  obtain ⟨r, r_mem, inside⟩ := List.any_eq_true.mp mem
  refine List.any_eq_false.mpr fun s s_mem also => ?_
  have beside := List.all_eq_true.mp (List.all_eq_true.mp apart s s_mem) r r_mem
  simp only [Run.has, Bool.and_eq_true, Bool.or_eq_true, decide_eq_true_eq, Nat.blt_eq]
    at inside also beside
  omega

/-- No blank is a letter or a number. -/
theorem isAlphanumeric_of_isBlank {c : Char} (blank : isBlank c) : isAlphanumeric c = false := by
  unfold isBlank at blank
  unfold isAlphanumeric isAlphabetic isNumeric
  split_ifs at blank ⊢ with ascii
  · have blanks : ∀ c : Char, c.toNat < 128 → (c = ' ' || (9 ≤ c.toNat && c.toNat ≤ 13)) →
        (c.isAlpha || c.isDigit) = false :=
      forall_ascii (by decide +kernel)
    exact blanks c ascii blank
  · have no_letter : wideAlphabetic.has c = false :=
      CodePoints.has_eq_false_of_apart (by decide +kernel) blank
    have no_number : wideNumeric.has c = false :=
      CodePoints.has_eq_false_of_apart (by decide +kernel) blank
    rw [no_letter, no_number]
    rfl

end Reflectory.Text
