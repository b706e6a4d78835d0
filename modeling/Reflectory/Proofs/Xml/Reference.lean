/-
References to characters, and texts that hold them.

A character is referred to by its name, which five characters have, or by its number in
base 10 or 16. `Refers` says for which characters a text stands that holds references;
`escape` refers by name to each of the five.

* `expand_of_refers`: references are read as the characters that they stand for.
-/

import Reflectory.Proofs.Constant.Integer
import Reflectory.Xml.Entity

namespace Reflectory.Xml

open Constant (IsDigit IsNumeral digit? digits? digitsFrom?)

/-! ### References -/

/-- The characters that have names. -/
def namedChars : List (List Char × Char) :=
  [("amp".toList, '&'), ("lt".toList, '<'), ("gt".toList, '>'), ("quot".toList, '"'),
    ("apos".toList, '\'')]

/-- What stands for a character between `&` and `;`: its name or its number. -/
inductive IsReference : List Char → Char → Prop where
  | named {name : List Char} {c : Char} (mem : (name, c) ∈ namedChars) : IsReference name c
  | decimal {digits : List Char} {c : Char} (numeral : IsNumeral 10 digits c.toNat)
      (nonzero : c.toNat ≠ 0) : IsReference ('#' :: digits) c
  | hexadecimal {digits : List Char} {c : Char} (numeral : IsNumeral 16 digits c.toNat)
      (nonzero : c.toNat ≠ 0) : IsReference ('#' :: 'x' :: digits) c

/-- The characters that a text with references stands for. -/
inductive Refers : List Char → List Char → Prop where
  | nil : Refers [] []
  | plain {c : Char} {raw cs : List Char} (other : c ≠ '&') (rest : Refers raw cs) :
      Refers (c :: raw) (c :: cs)
  | reference {name raw cs : List Char} {c : Char} (refers : IsReference name c)
      (rest : Refers raw cs) : Refers ('&' :: (name ++ ';' :: raw)) (c :: cs)

/-! ### Numbers -/

theorem digitValue?_eq (base : Nat) (c : Char) : digitValue? base c = digit? base c := by
  have decimal : c.isDigit = true ↔ '0' ≤ c ∧ c ≤ '9' := by
    rw [Char.isDigit, Bool.and_eq_true, decide_eq_true_eq, decide_eq_true_eq]
    rfl
  unfold digitValue? digit?
  simp only [decimal]
  split_ifs <;> simp_all [Option.filter]

theorem number?_eq (base : Nat) (digits : List Char) :
    number? base digits = digits? base digits := by
  have fold (n : Nat) : digits.foldlM (fun n c => (digitValue? base c).map (base * n + ·)) n =
      digitsFrom? base n digits := by
    induction digits generalizing n with
    | nil => rfl
    | cons c digits ih =>
      rw [List.foldlM_cons, digitsFrom?, digitValue?_eq]
      cases digit? base c with
      | none => rfl
      | some d =>
        rw [Nat.mul_comm n base]
        exact ih (base * n + d)
  rw [number?, digits?, fold]

/-- A number that is written refers to its character. -/
theorem number?_of_isNumeral {base : Nat} (small : base ≤ 16) {digits : List Char} {c : Char}
    (numeral : IsNumeral base digits c.toNat) (nonzero : c.toNat ≠ 0) :
    (number? base digits).bind numbered? = some c := by
  have valid : c.toNat.isValidChar := c.valid
  rw [number?_eq, (Constant.digits?_eq_some_iff small).mpr numeral, Option.bind_some, numbered?,
    dif_pos valid, if_neg nonzero]
  exact congrArg some (Char.ext rfl)

/-! ### Reading references -/

theorem reference?_of_isReference {name : List Char} {c : Char} (refers : IsReference name c) :
    reference? name = some c := by
  cases refers with
  | named mem =>
    have all : ∀ e ∈ namedChars, reference? e.1 = some e.2 := by decide
    exact all _ mem
  | decimal numeral nonzero =>
    unfold reference?
    split
    next digits same =>
      obtain ⟨-, rfl⟩ := List.cons.inj same
      have digit := numeral.digit?_of_mem (by decide) List.mem_cons_self
      exact absurd digit (by decide)
    next digits _ same =>
      obtain ⟨-, rfl⟩ := List.cons.inj same
      exact number?_of_isNumeral (by decide) numeral nonzero
    next other => exact absurd rfl (other _)
  | hexadecimal numeral nonzero => exact number?_of_isNumeral (by decide) numeral nonzero

/-- No reference holds the marks that begin and end one. -/
theorem IsReference.plain {name : List Char} {c : Char} (refers : IsReference name c) :
    ∀ d ∈ name, d ≠ '&' ∧ d ≠ ';' := by
  have of_digit {base : Nat} (small : base ≤ 16) {digits : List Char} {n : Nat}
      (numeral : IsNumeral base digits n) : ∀ d ∈ digits, d ≠ '&' ∧ d ≠ ';' := by
    intro d mem
    obtain ⟨value, found⟩ := Option.isSome_iff_exists.mp (numeral.digit?_of_mem small mem)
    have found := ((Constant.digit?_eq_some_iff_sixteen small).mp found).1
    constructor
    · rintro rfl
      cases found
    · rintro rfl
      cases found
  cases refers with
  | named mem =>
    have all : ∀ e ∈ namedChars, ∀ d ∈ e.1, d ≠ '&' ∧ d ≠ ';' := by simp [namedChars]
    exact all _ mem
  | decimal numeral _ =>
    exact List.forall_mem_cons.mpr ⟨by decide, of_digit (by decide) numeral⟩
  | hexadecimal numeral _ =>
    exact List.forall_mem_cons.mpr
      ⟨by decide, List.forall_mem_cons.mpr ⟨by decide, of_digit (by decide) numeral⟩⟩

theorem expandFrom_cons {c : Char} (plain : c ≠ '&') (cs : List Char) :
    expandFrom none (c :: cs) = (expandFrom none cs).map (c :: ·) := by
  rw [expandFrom]
  exact plain

/-- Inside a reference, its name is collected up to the mark that ends it. -/
theorem expandFrom_name {name : List Char} (plain : ∀ d ∈ name, d ≠ '&' ∧ d ≠ ';')
    (before cs : List Char) :
    expandFrom (some before) (name ++ ';' :: cs) =
      (reference? (before ++ name)).bind fun c => (expandFrom none cs).map (c :: ·) := by
  induction name generalizing before with
  | nil => rw [List.nil_append, List.append_nil, expandFrom]
  | cons d name ih =>
    obtain ⟨first, plain⟩ := List.forall_mem_cons.mp plain
    rw [List.cons_append, expandFrom, ih plain, List.append_assoc, List.singleton_append]
    · exact first.2
    · exact first.1

theorem expandFrom_of_refers {raw cs : List Char} (refers : Refers raw cs) :
    expandFrom none raw = some cs := by
  induction refers with
  | nil => rfl
  | plain other _ ih =>
    rw [expandFrom_cons other, ih]
    rfl
  | reference refers _ ih =>
    rw [expandFrom, expandFrom_name refers.plain, List.nil_append,
      reference?_of_isReference refers, Option.bind_some, ih]
    rfl

theorem eq_of_refers {raw cs : List Char} (refers : Refers raw cs) (plain : '&' ∉ raw) :
    raw = cs := by
  induction refers with
  | nil => rfl
  | plain _ _ ih => rw [ih fun mem => plain (List.mem_cons_of_mem _ mem)]
  | reference => exact absurd List.mem_cons_self plain

/-- **References are read as the characters that they stand for.** -/
theorem expand_of_refers {raw cs : List Char} (refers : Refers raw cs) : expand raw = some cs := by
  unfold expand
  split_ifs with mem
  · exact expandFrom_of_refers refers
  · exact congrArg some (eq_of_refers refers (by simpa using mem))

/-! ### Referring to every special character -/

/-- A character as it is written in texts and values. -/
def escapeChar : Char → List Char
  | '&' => "&amp;".toList
  | '<' => "&lt;".toList
  | '>' => "&gt;".toList
  | '"' => "&quot;".toList
  | '\'' => "&apos;".toList
  | c => [c]

/-- A text or value as it is written. -/
def escape (cs : List Char) : List Char :=
  cs.flatMap escapeChar

/-- Nothing that is written ends a text or a quoted value. -/
theorem not_mem_escape {c : Char} (mark : c ∈ ['<', '>', '"', '\'']) (cs : List Char) :
    c ∉ escape cs := by
  have apart (d : Char) : c ∉ escapeChar d := by
    simp only [List.mem_cons, List.not_mem_nil, or_false] at mark
    unfold escapeChar
    split
    case h_6 =>
      rintro same
      obtain rfl := List.mem_singleton.mp same
      rcases mark with rfl | rfl | rfl | rfl <;> contradiction
    all_goals rcases mark with rfl | rfl | rfl | rfl <;> decide
  simpa [escape] using fun d _ => apart d

theorem refers_escapeChar {c : Char} {raw cs : List Char} (rest : Refers raw cs) :
    Refers (escapeChar c ++ raw) (c :: cs) := by
  have of_name {name : List Char} {c : Char} (mem : (name, c) ∈ namedChars) :
      Refers ('&' :: (name ++ ';' :: raw)) (c :: cs) := .reference (.named mem) rest
  unfold escapeChar
  split
  · exact of_name (by decide : ("amp".toList, '&') ∈ namedChars)
  · exact of_name (by decide : ("lt".toList, '<') ∈ namedChars)
  · exact of_name (by decide : ("gt".toList, '>') ∈ namedChars)
  · exact of_name (by decide : ("quot".toList, '"') ∈ namedChars)
  · exact of_name (by decide : ("apos".toList, '\'') ∈ namedChars)
  next other _ _ _ _ => exact .plain other rest

/-- What is written stands for what was to be written. -/
theorem refers_escape (cs : List Char) : Refers (escape cs) cs := by
  induction cs with
  | nil => exact .nil
  | cons c cs ih =>
    rw [escape, List.flatMap_cons]
    exact refers_escapeChar ih

theorem escape_ne_nil {cs : List Char} (nonempty : cs ≠ []) : escape cs ≠ [] := by
  intro none_written
  have refers := refers_escape cs
  rw [none_written] at refers
  cases refers
  exact nonempty rfl

end Reflectory.Xml
