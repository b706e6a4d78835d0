/-
What a type is or points to.

The spelling of what a type is or points to is cut off the characters of its value spelling,
from behind: blanks and stars go. Tokens are what is meant by this. A star is a token of its
own, and no other token ends with a star or a blank, so the spelling that is left is that of
the tokens without the stars behind them (`target`).

* `pointee_valueType`: the cut spelling is that of these tokens.
* `target_of_surrounded`: the tokens of a type's name come back from behind qualifiers,
  references and pointers.
-/

import Reflectory.Proofs.Spelling.ContainerNames
import Reflectory.Proofs.Text.CharClass

namespace Reflectory.Spelling

open Text

/-! ### Cutting -/

/-- Behind written tokens stand spaces and the characters of the further tokens. -/
theorem exists_renderChars_append (ts us : List Token) :
    ∃ cs, renderChars (ts ++ us) = renderChars ts ++ cs ∧
      ∀ c ∈ cs, c = ' ' ∨ ∃ t ∈ us, c ∈ t.text := by
  cases ts with
  | nil =>
    refine ⟨renderChars us, rfl, fun c mem => ?_⟩
    cases us with
    | nil => cases mem
    | cons u us =>
      obtain mem | mem := List.mem_append.mp mem
      · exact .inr ⟨u, List.mem_cons_self, mem⟩
      · exact (mem_renderAfter mem).imp_right fun ⟨t, there, mem⟩ =>
          ⟨t, List.mem_cons_of_mem _ there, mem⟩
  | cons t ts =>
    refine ⟨renderAfter (ts.getLastD t) us, ?_, fun c mem => mem_renderAfter mem⟩
    rw [List.cons_append, renderChars, renderAfter_append, renderChars, List.append_assoc]

/-- What is written ends with the last token. -/
theorem exists_renderChars_concat (ts : List Token) (t : Token) :
    ∃ cs, renderChars (ts ++ [t]) = cs ++ t.text := by
  cases ts with
  | nil => exact ⟨[], by simp [renderChars, renderAfter]⟩
  | cons u ts =>
    rw [List.cons_append, renderChars, renderAfter_append, renderAfter, renderAfter,
      List.append_nil]
    exact ⟨_, by simp only [← List.append_assoc]; rfl⟩

theorem isBlank_of_isNameChar {c : Char} (letter : isNameChar c) : isBlank c = false := by
  rw [Bool.eq_false_iff]
  intro blank
  obtain alphanumeric | low := Bool.or_eq_true_iff.mp letter
  · rw [isAlphanumeric_of_isBlank blank] at alphanumeric
    cases alphanumeric
  · rw [of_decide_eq_true low] at blank
    exact absurd blank (by decide)

/-- Words have neither blanks nor stars. -/
theorem IsWord.kept_of_mem {cs : List Char} (word : IsWord cs) {c : Char} (mem : c ∈ cs) :
    (c = '*' || isBlank c) = false := by
  induction word with
  | nil => cases mem
  | name letter _ ih =>
    obtain rfl | mem := List.mem_cons.mp mem
    · have no_star : c ≠ '*' := by
        rintro rfl
        exact absurd letter (by decide +kernel)
      simp [no_star, isBlank_of_isNameChar letter]
    · exact ih mem
  | scope _ ih =>
    rw [List.mem_cons, List.mem_cons] at mem
    obtain rfl | rfl | mem := mem
    · decide
    · decide
    · exact ih mem

/-- A token that is no star ends with something that is not cut off. -/
theorem Token.Legible.getLast?_text {t : Token} (legible : t.Legible) (no_star : t ≠ .mark '*') :
    t.text ≠ [] ∧ ∀ c ∈ t.text.getLast?, (c = '*' || isBlank c) = false := by
  cases t with
  | word cs =>
    obtain ⟨nonempty, word⟩ := legible
    exact ⟨nonempty, fun c last => word.kept_of_mem (List.mem_of_getLast? last)⟩
  | mark c =>
    refine ⟨List.cons_ne_nil c [], ?_⟩
    rintro _ ⟨rfl⟩
    have other : c ≠ '*' := fun star => no_star (congrArg Token.mark star)
    simp [other, legible.2]

/-- From behind, the stars are cut off and nothing else. -/
theorem pointee_render {ts stars : List Token} (legible : ∀ t ∈ ts, t.Legible)
    (no_star : ∀ t ∈ ts.getLast?, t ≠ .mark '*') (are_stars : ∀ t ∈ stars, t = .mark '*') :
    pointee (render (ts ++ stars)) = render ts := by
  obtain ⟨cs, split, rest⟩ := exists_renderChars_append ts stars
  rw [pointee, render, String.toList_ofList, split, render]
  congr 1
  refine dropEndWhile_append (fun c mem => ?_) fun c last => ?_
  · obtain rfl | ⟨t, there, mem⟩ := rest c mem
    · decide
    · rw [are_stars t there] at mem
      obtain rfl := List.mem_singleton.mp mem
      decide
  · induction ts using List.reverseRecOn with
    | nil => cases last
    | append_singleton ts t =>
      obtain ⟨nonempty, ends⟩ := (legible t (by simp)).getLast?_text (no_star t (by simp))
      obtain ⟨front, written⟩ := exists_renderChars_concat ts t
      rw [written, List.getLast?_append_of_ne_nil _ nonempty] at last
      exact ends c last

/-- **What a type is or points to** is spelled by its tokens without qualifiers, references and
the stars behind. -/
theorem pointee_valueType (type : String) :
    pointee (valueType type) = render (target (tokenize type)) := by
  have split : dropQualifiers 0 (tokenize type) = target (tokenize type) ++
      (bare (tokenize type)).rtakeWhile (· == .mark '*') :=
    (List.rdropWhile_append_rtakeWhile ..).symm
  rw [valueType, split]
  refine pointee_render (fun t mem => ?_) (fun t last => ?_) fun t mem => ?_
  · have sub := (List.rdropWhile_prefix (· == Token.mark '*') (bare (tokenize type))).sublist.trans
      (dropQualifiers_sublist 0 _)
    exact legible_tokenize type t (sub.subset mem)
  · rintro rfl
    obtain ⟨nonempty, star⟩ := List.mem_getLast?_eq_getLast last
    exact List.rdropWhile_last_not _ _ nonempty (beq_iff_eq.mpr star.symm)
  · simpa using List.mem_rtakeWhile_imp mem

/-! ### Names behind pointers -/

/-- A name of a type: it is canonical with colons in pairs only, its brackets are closed, and
there are no qualifiers and references outside of them and no stars at its end. -/
structure IsTypeName (name : String) : Prop where
  canonical : normalize name = name
  paired : PairedColons name
  closed : ¬ IsEnclosed (tokenize name)
  direct : target (tokenize name) = tokenize name

instance (name : String) : Decidable (IsTypeName name) :=
  decidable_of_iff (normalize name = name ∧ PairedColons name ∧ ¬ IsEnclosed (tokenize name) ∧
      target (tokenize name) = tokenize name)
    ⟨fun ⟨canonical, paired, closed, direct⟩ => ⟨canonical, paired, closed, direct⟩,
      fun ⟨canonical, paired, closed, direct⟩ => ⟨canonical, paired, closed, direct⟩⟩

/-- Tokens are looked at with the brackets open that those before them leave open. -/
theorem dropQualifiers_append (depth : Nat) (ts us : List Token) :
    dropQualifiers depth (ts ++ us) =
      dropQualifiers depth ts ++ dropQualifiers (ts.foldl depthAfter depth) us := by
  induction ts generalizing depth with
  | nil => rfl
  | cons t ts ih =>
    rw [List.cons_append, dropQualifiers, dropQualifiers, ih, List.foldl_cons]
    split <;> rfl

/-- Of qualifiers, references and stars, the stars are left. -/
theorem eq_star_of_mem_dropQualifiers {ts : List Token}
    (around : ∀ t ∈ ts, t = .mark '*' ∨ t ∈ qualifiers) :
    ∀ t ∈ dropQualifiers 0 ts, t = .mark '*' := by
  induction ts with
  | nil => simp [dropQualifiers]
  | cons t ts ih =>
    obtain ⟨first, others⟩ := List.forall_mem_cons.mp around
    obtain rfl | qualifier := first
    · rw [dropQualifiers_cons rfl, List.forall_mem_cons]
      exact ⟨rfl, ih others⟩
    · have qualifier := isQualifier_iff.mpr qualifier
      rw [dropQualifiers, depthAfter_of_isQualifier qualifier, qualifier]
      exact ih others

/-- Behind qualifiers, references and pointers, the name of a type is what they point to. -/
theorem target_of_surrounded {name : String} (is_name : IsTypeName name)
    {before behind : List Token} (qualified : ∀ t ∈ before, t ∈ qualifiers)
    (marked : ∀ t ∈ behind, t = .mark '*' ∨ t ∈ qualifiers) :
    target (before ++ tokenize name ++ behind) = tokenize name := by
  have no_depth : depthOf (tokenize name) = 0 := by
    simpa [isEnclosed_iff] using is_name.closed
  have shorter : (target (tokenize name)).length ≤ (bare (tokenize name)).length :=
    (List.rdropWhile_prefix _ _).length_le
  have kept : bare (tokenize name) = tokenize name := by
    rw [is_name.direct] at shorter
    exact (dropQualifiers_sublist 0 _).eq_of_length_le shorter
  have left : bare (before ++ tokenize name ++ behind) =
      tokenize name ++ dropQualifiers 0 behind := by
    rw [bare, List.append_assoc,
      dropQualifiers_append_of_qualifiers fun t mem => isQualifier_iff.mpr (qualified t mem),
      dropQualifiers_append, ← depthOf, no_depth, ← bare, kept]
  have direct := is_name.direct
  rw [target, kept, List.rdropWhile] at direct
  rw [target, left, List.rdropWhile, List.reverse_append, List.dropWhile_append_of_pos, direct]
  intro t mem
  exact beq_iff_eq.mpr (eq_star_of_mem_dropQualifiers marked t (List.mem_reverse.mp mem))

end Reflectory.Spelling
