/-
Integers of constant expressions.

`IsInteger` says which texts are integers and what they stand for: digits of base
10, 8 or 16, the most significant one first, then any suffix letters. Base 16 is
marked by `0x`, base 8 by a further leading zero.

* `literal?_eq_some_iff`: a literal is an integer below 2 ^ 64.
-/

import Mathlib.Data.List.Forall2
import Mathlib.Data.List.TakeWhile
import Mathlib.Data.Nat.Digits.Lemmas
import Mathlib.Tactic.Ring
import Reflectory.Constant.Lexeme
import Reflectory.Proofs.Text.CharClass

namespace Reflectory.Constant

open Text

/-! ### Integers -/

/-- The character is a digit of this value, large or small where it is a letter. -/
def IsDigit (base : Nat) (c : Char) (d : Nat) : Prop :=
  d < base ∧ (c = d.digitChar ∨ c = d.digitChar.toUpper)

/-- At least one digit, the most significant one first. -/
def IsNumeral (base : Nat) (cs : List Char) (n : Nat) : Prop :=
  cs ≠ [] ∧ ∃ ds, List.Forall₂ (IsDigit base) cs ds ∧ n = Nat.ofDigits base ds.reverse

/-- A number without suffix letters. -/
inductive IsUnsigned : List Char → Nat → Prop where
  | decimal {cs : List Char} {n : Nat} :
      (cs.head? = some '0' → cs = ['0']) → IsNumeral 10 cs n → IsUnsigned cs n
  | octal {cs : List Char} {n : Nat} : IsNumeral 8 cs n → IsUnsigned ('0' :: cs) n
  | hexadecimal {x : Char} {cs : List Char} {n : Nat} :
      x = 'x' ∨ x = 'X' → IsNumeral 16 cs n → IsUnsigned ('0' :: x :: cs) n

/-- A number with any suffix letters. -/
def IsInteger (cs : List Char) (n : Nat) : Prop :=
  ∃ body suffix, cs = body ++ suffix ∧ (∀ c ∈ suffix, c ∈ ['u', 'U', 'l', 'L']) ∧
    IsUnsigned body n

/-- The digits of a base are those below it of base 16. -/
theorem digit?_eq_some_iff_sixteen {base : Nat} (small : base ≤ 16) {c : Char} {d : Nat} :
    digit? base c = some d ↔ digit? 16 c = some d ∧ d < base := by
  unfold digit?
  split_ifs <;> simp <;> omega

theorem digit?_sixteen_eq_some_iff {c : Char} {d : Nat} :
    digit? 16 c = some d ↔ IsDigit 16 c d := by
  constructor
  · intro h
    have ascii : c.toNat < 128 := by
      by_contra wide
      have beyond : ∀ last : Char, last.toNat < 128 → ¬ c ≤ last := fun last ascii le =>
        wide (Nat.lt_of_le_of_lt (UInt32.le_iff_toNat_le.mp le) ascii)
      simp [digit?, beyond] at h
    have all : ∀ c : Char, c.toNat < 128 → ∀ d ∈ digit? 16 c,
        d < 16 ∧ (c = d.digitChar ∨ c = d.digitChar.toUpper) :=
      Text.forall_ascii (by decide +kernel)
    exact all c ascii d h
  · rintro ⟨below, same⟩
    have all : ∀ d < 16,
        digit? 16 d.digitChar = some d ∧ digit? 16 d.digitChar.toUpper = some d := by
      decide +kernel
    rcases same with rfl | rfl
    · exact (all d below).1
    · exact (all d below).2

theorem digit?_eq_some_iff {base : Nat} (small : base ≤ 16) {c : Char} {d : Nat} :
    digit? base c = some d ↔ IsDigit base c d := by
  rw [digit?_eq_some_iff_sixteen small, digit?_sixteen_eq_some_iff, IsDigit, IsDigit]
  constructor
  · rintro ⟨⟨-, same⟩, below⟩
    exact ⟨below, same⟩
  · rintro ⟨below, same⟩
    exact ⟨⟨Nat.lt_of_lt_of_le below small, same⟩, below⟩

theorem digitsFrom?_eq_some_iff {base : Nat} (small : base ≤ 16) {high : Nat} {cs : List Char}
    {n : Nat} :
    digitsFrom? base high cs = some n ↔
      ∃ ds, List.Forall₂ (IsDigit base) cs ds ∧
        n = high * base ^ ds.length + Nat.ofDigits base ds.reverse := by
  induction cs generalizing high with
  | nil => simp [digitsFrom?, eq_comm]
  | cons c cs ih =>
    simp only [digitsFrom?, Option.bind_eq_some_iff, digit?_eq_some_iff small, ih]
    constructor
    · rintro ⟨d, digit, ds, digits, rfl⟩
      refine ⟨d :: ds, .cons digit digits, ?_⟩
      rw [Nat.ofDigits_reverse_cons, List.length_cons, Nat.pow_succ]
      ring
    · rintro ⟨_, digits, rfl⟩
      cases digits with
      | @cons _ d _ ds digit digits =>
        refine ⟨d, digit, ds, digits, ?_⟩
        rw [Nat.ofDigits_reverse_cons, List.length_cons, Nat.pow_succ]
        ring

theorem digits?_eq_some_iff {base : Nat} (small : base ≤ 16) {cs : List Char} {n : Nat} :
    digits? base cs = some n ↔ IsNumeral base cs n := by
  unfold digits? IsNumeral
  cases cs with
  | nil => simp
  | cons c cs => simp [digitsFrom?_eq_some_iff small]

/-- Every character of a numeral is a digit. -/
theorem IsNumeral.digit?_of_mem {base : Nat} (small : base ≤ 16) {cs : List Char} {n : Nat}
    (numeral : IsNumeral base cs n) {c : Char} (mem : c ∈ cs) : (digit? base c).isSome := by
  obtain ⟨-, ds, digits, -⟩ := numeral
  induction digits with
  | nil => cases mem
  | cons digit _ ih =>
    rcases List.mem_cons.mp mem with rfl | mem
    · exact Option.isSome_of_eq_some ((digit?_eq_some_iff small).mpr digit)
    · exact ih mem

theorem readDigits_eq_some_iff {cs : List Char} {n : Nat} :
    readDigits cs = some n ↔ IsUnsigned cs n := by
  constructor
  · intro h
    unfold readDigits at h
    split at h
    · exact .hexadecimal (.inl rfl) ((digits?_eq_some_iff (by decide)).mp h)
    · exact .hexadecimal (.inr rfl) ((digits?_eq_some_iff (by decide)).mp h)
    · exact .octal ((digits?_eq_some_iff (by decide)).mp h)
    next single =>
      refine .decimal (fun zero => ?_) ((digits?_eq_some_iff (by decide)).mp h)
      match cs, zero with
      | [c], zero => exact congrArg ([·]) (Option.some.inj zero)
      | _ :: c :: cs, zero =>
        exact (single c cs (congrArg (· :: c :: cs) (Option.some.inj zero))).elim
  · intro h
    cases h with
    | hexadecimal mark numeral =>
      rcases mark with rfl | rfl
      · exact (digits?_eq_some_iff (by decide)).mpr numeral
      · exact (digits?_eq_some_iff (by decide)).mpr numeral
    | @octal cs n numeral =>
      obtain ⟨c, cs, rfl⟩ := List.exists_cons_of_ne_nil numeral.1
      have octal : (digit? 8 c).isSome :=
        numeral.digit?_of_mem (by decide) List.mem_cons_self
      have small : c ≠ 'x' := by rintro rfl; simp [digit?] at octal
      have large : c ≠ 'X' := by rintro rfl; simp [digit?] at octal
      simpa [readDigits, small, large] using (digits?_eq_some_iff (by decide)).mpr numeral
    | decimal single numeral =>
      obtain ⟨c, cs, rfl⟩ := List.exists_cons_of_ne_nil numeral.1
      have read := (digits?_eq_some_iff (by decide)).mpr numeral
      by_cases zero : c = '0'
      · subst zero
        cases single rfl
        exact read
      · simpa [readDigits, zero] using read

/-! ### Suffixes -/

theorem isSuffix_iff {c : Char} : isSuffix c ↔ c ∈ ['u', 'U', 'l', 'L'] := by
  simp [isSuffix, or_assoc]

/-- No digit is a suffix letter. -/
theorem isSuffix_of_digit? {base : Nat} (small : base ≤ 16) {c : Char}
    (digit : (digit? base c).isSome) : isSuffix c = false := by
  obtain ⟨d, digit⟩ := Option.isSome_iff_exists.mp digit
  have sixteen := ((digit?_eq_some_iff_sixteen small).mp digit).1
  by_contra suffix
  rw [Bool.not_eq_false, isSuffix_iff] at suffix
  simp only [List.mem_cons, List.not_mem_nil, or_false] at suffix
  rcases suffix with rfl | rfl | rfl | rfl <;> simp [digit?] at sixteen

/-- A number without suffix letters does not end in one. -/
theorem IsUnsigned.isSuffix_getLast {cs : List Char} {n : Nat} (h : IsUnsigned cs n) {c : Char}
    (last : c ∈ cs.getLast?) : isSuffix c = false := by
  have of_numeral : ∀ {base cs}, base ≤ 16 → IsNumeral base cs n → c ∈ cs.getLast? →
      isSuffix c = false := fun small numeral last =>
    isSuffix_of_digit? small (numeral.digit?_of_mem small (List.mem_of_getLast? last))
  cases h with
  | decimal _ numeral => exact of_numeral (by decide) numeral last
  | octal numeral =>
    rw [List.getLast?_cons_of_ne_nil numeral.1] at last
    exact of_numeral (by decide) numeral last
  | hexadecimal _ numeral =>
    rw [List.getLast?_cons_of_ne_nil (List.cons_ne_nil _ _),
      List.getLast?_cons_of_ne_nil numeral.1] at last
    exact of_numeral (by decide) numeral last

theorem literal?_eq_some_iff {cs : List Char} {n : Nat} :
    literal? cs = some n ↔ IsInteger cs n ∧ n < 2 ^ 64 := by
  unfold literal?
  rw [Option.filter_eq_some_iff, readDigits_eq_some_iff, decide_eq_true_eq]
  refine and_congr ?_ Iff.rfl
  constructor
  · intro body
    obtain ⟨suffix, letters, split⟩ := exists_eq_dropEndWhile_append isSuffix cs
    exact ⟨_, suffix, split, fun c mem => isSuffix_iff.mp (letters c mem), body⟩
  · rintro ⟨body, suffix, rfl, letters, number⟩
    rw [dropEndWhile_append (fun c mem => isSuffix_iff.mpr (letters c mem))
      fun c last => number.isSuffix_getLast last]
    exact number

end Reflectory.Constant
