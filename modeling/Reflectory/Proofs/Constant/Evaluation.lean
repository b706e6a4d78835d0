/-
The value of a constant expression.

`HasValue` gives the value by rules over the integers: every result is wrapped to
64 bits, and the bitwise operators combine the bit patterns of their operands.

* `evaluate_spec`: an initialiser has the value of the expression that its
  lexemes are written for, and has none if there is no such value.
-/

import Reflectory.Proofs.Constant.Grammar
import Reflectory.Proofs.Constant.Lexemes

namespace Reflectory.Constant

open Spelling

/-! ### Values by rules -/

/-- The integer in 64-bit two's complement. -/
def wrap (n : Int) : Int :=
  n.bmod (2 ^ 64)

/-- The 64 bits of an integer, as a natural number. -/
def bits (n : Int) : Nat :=
  (n % 2 ^ 64).toNat

/-- The value of an operator on one operand. -/
inductive UnaryOperator.HasValue : UnaryOperator → Int → Int → Prop where
  | plus {x : Int} : HasValue plus x x
  | negate {x : Int} : HasValue negate x (wrap (-x))
  | complement {x : Int} : HasValue complement x (wrap (-x - 1))

/-- The value of an operator on two operands. A shift needs a count below 64; to the
right it keeps the sign. -/
inductive BinaryOperator.HasValue : BinaryOperator → Int → Int → Int → Prop where
  | multiply {x y : Int} : HasValue multiply x y (wrap (x * y))
  | add {x y : Int} : HasValue add x y (wrap (x + y))
  | subtract {x y : Int} : HasValue subtract x y (wrap (x - y))
  | shiftLeft {x y : Int} {n : Nat} : y = n → n < 64 → HasValue shiftLeft x y (wrap (x * 2 ^ n))
  | shiftRight {x y : Int} {n : Nat} : y = n → n < 64 → HasValue shiftRight x y (x / 2 ^ n)
  | bitAnd {x y : Int} : HasValue bitAnd x y (wrap (bits x &&& bits y : Nat))
  | bitXor {x y : Int} : HasValue bitXor x y (wrap (bits x ^^^ bits y : Nat))
  | bitOr {x y : Int} : HasValue bitOr x y (wrap (bits x ||| bits y : Nat))

/-- The value of an expression. A name is known as spelled, else by its last
segment. -/
inductive HasValue (known : String → Option Int64) : Expression → Int → Prop where
  | literal {n : Nat} : HasValue known (.literal n) (wrap n)
  | name {text : String} {x : Int64} : known text = some x → HasValue known (.name text) x.toInt
  | segment {text : String} {x : Int64} : known text = none →
      known (lastSegment text) = some x → HasValue known (.name text) x.toInt
  | unary {op : UnaryOperator} {e : Expression} {x z : Int} :
      HasValue known e x → op.HasValue x z → HasValue known (.unary op e) z
  | binary {op : BinaryOperator} {a b : Expression} {x y z : Int} :
      HasValue known a x → HasValue known b y → op.HasValue x y z →
      HasValue known (.binary op a b) z

/-! ### Machine words -/

theorem toNat_toBitVec_eq_bits (x : Int64) : x.toBitVec.toNat = bits x.toInt := by
  have residue : ((x.toBitVec.toNat : Int).bmod (2 ^ 64)) % (2 ^ 64 : Nat) =
      x.toBitVec.toNat % (2 ^ 64 : Nat) := Int.bmod_emod
  rw [bits, ← Int64.toInt_toBitVec, BitVec.toInt_eq_toNat_bmod]
  have below := x.toBitVec.isLt
  omega

theorem toInt_and (x y : Int64) : (x &&& y).toInt = wrap (bits x.toInt &&& bits y.toInt : Nat) := by
  rw [← Int64.toInt_toBitVec, Int64.toBitVec_and, BitVec.toInt_and, toNat_toBitVec_eq_bits,
    toNat_toBitVec_eq_bits, wrap]

theorem toInt_xor (x y : Int64) : (x ^^^ y).toInt = wrap (bits x.toInt ^^^ bits y.toInt : Nat) := by
  rw [← Int64.toInt_toBitVec, Int64.toBitVec_xor, BitVec.toInt_xor, toNat_toBitVec_eq_bits,
    toNat_toBitVec_eq_bits, wrap]

theorem toInt_or (x y : Int64) : (x ||| y).toInt = wrap (bits x.toInt ||| bits y.toInt : Nat) := by
  rw [← Int64.toInt_toBitVec, Int64.toBitVec_or, BitVec.toInt_or, toNat_toBitVec_eq_bits,
    toNat_toBitVec_eq_bits, wrap]

/-- A count of a shift that is below 64 is taken as it is. -/
theorem toNat_smod_of_toInt {count : Int64} {n : Nat} (eq : count.toInt = n) (below : n < 64) :
    (count.toBitVec.smod 64).toNat = n := by
  have all : ∀ n < 64, ((BitVec.ofNat 64 n).smod 64).toNat = n := by decide +kernel
  have pattern : count.toBitVec = BitVec.ofNat 64 n := by
    apply BitVec.eq_of_toNat_eq
    rw [toNat_toBitVec_eq_bits, eq, bits, BitVec.toNat_ofNat]
    omega
  rw [pattern, all n below]

theorem toInt_shiftLeft {count : Int64} {n : Nat} (eq : count.toInt = n) (below : n < 64)
    (x : Int64) : (x <<< count).toInt = wrap (x.toInt * 2 ^ n) := by
  rw [← Int64.toInt_toBitVec, Int64.toBitVec_shiftLeft, BitVec.shiftLeft_eq',
    toNat_smod_of_toInt eq below, BitVec.toInt_shiftLeft, Nat.shiftLeft_eq, Nat.cast_mul,
    ← Int64.toInt_toBitVec, BitVec.toInt_eq_toNat_bmod, wrap, Int.bmod_mul_bmod, Nat.cast_pow,
    Nat.cast_ofNat]

theorem toInt_shiftRight {count : Int64} {n : Nat} (eq : count.toInt = n) (below : n < 64)
    (x : Int64) : (x >>> count).toInt = x.toInt / 2 ^ n := by
  rw [← Int64.toInt_toBitVec, Int64.toBitVec_shiftRight, BitVec.sshiftRight',
    toNat_smod_of_toInt eq below, BitVec.toInt_sshiftRight, Int.shiftRight_eq_div_pow,
    Int64.toInt_toBitVec, Nat.cast_pow, Nat.cast_ofNat]

/-! ### What is computed -/

/-- The value of an operator on one operand is the one of the rules. -/
theorem UnaryOperator.hasValue_iff {op : UnaryOperator} {x : Int64} {z : Int} :
    op.HasValue x.toInt z ↔ (op.apply x).toInt = z := by
  constructor
  · intro value
    cases value with
    | plus => rfl
    | negate => exact Int64.toInt_neg x
    | complement => exact Int64.toInt_not x
  · rintro rfl
    cases op with
    | plus => exact .plus
    | negate => exact Int64.toInt_neg x ▸ .negate
    | complement => exact Int64.toInt_not x ▸ .complement

/-- A count is accepted if it is below 64. -/
theorem shift_eq_some_iff {f : Int64 → Int64 → Int64} {x count v : Int64} :
    shift f x count = some v ↔ ∃ n : Nat, count.toInt = n ∧ n < 64 ∧ f x count = v := by
  have range : (0 ≤ count ∧ count < 64) ↔ ∃ n : Nat, count.toInt = n ∧ n < 64 := by
    rw [Int64.le_iff_toInt_le, Int64.lt_iff_toInt_lt]
    change 0 ≤ count.toInt ∧ count.toInt < 64 ↔ _
    constructor
    · rintro ⟨nonneg, below⟩
      exact ⟨count.toInt.toNat, by omega, by omega⟩
    · rintro ⟨n, eq, below⟩
      omega
  simp only [shift, range, Option.ite_none_right_eq_some, Option.some.injEq, exists_and_right,
    ← and_assoc]

/-- The value of an operator on two operands is the one of the rules. -/
theorem BinaryOperator.hasValue_iff {op : BinaryOperator} {x y : Int64} {z : Int} :
    op.HasValue x.toInt y.toInt z ↔ ∃ v, op.apply x y = some v ∧ v.toInt = z := by
  constructor
  · intro value
    cases value with
    | multiply => exact ⟨_, rfl, Int64.toInt_mul x y⟩
    | add => exact ⟨_, rfl, Int64.toInt_add x y⟩
    | subtract => exact ⟨_, rfl, Int64.toInt_sub x y⟩
    | shiftLeft eq below =>
      exact ⟨_, shift_eq_some_iff.mpr ⟨_, eq, below, rfl⟩, toInt_shiftLeft eq below x⟩
    | shiftRight eq below =>
      exact ⟨_, shift_eq_some_iff.mpr ⟨_, eq, below, rfl⟩, toInt_shiftRight eq below x⟩
    | bitAnd => exact ⟨_, rfl, toInt_and x y⟩
    | bitXor => exact ⟨_, rfl, toInt_xor x y⟩
    | bitOr => exact ⟨_, rfl, toInt_or x y⟩
  · rintro ⟨v, computed, rfl⟩
    cases op with
    | multiply => cases computed; exact Int64.toInt_mul x y ▸ .multiply
    | add => cases computed; exact Int64.toInt_add x y ▸ .add
    | subtract => cases computed; exact Int64.toInt_sub x y ▸ .subtract
    | shiftLeft =>
      obtain ⟨n, eq, below, rfl⟩ := shift_eq_some_iff.mp computed
      exact toInt_shiftLeft eq below x ▸ .shiftLeft eq below
    | shiftRight =>
      obtain ⟨n, eq, below, rfl⟩ := shift_eq_some_iff.mp computed
      exact toInt_shiftRight eq below x ▸ .shiftRight eq below
    | bitAnd => cases computed; exact toInt_and x y ▸ .bitAnd
    | bitXor => cases computed; exact toInt_xor x y ▸ .bitXor
    | bitOr => cases computed; exact toInt_or x y ▸ .bitOr

variable {known : String → Option Int64}

/-- A name is found as spelled, else by its last segment. -/
theorem hasValue_name_iff {text : String} {z : Int} :
    HasValue known (.name text) z ↔ ∃ v, lookup known text = some v ∧ v.toInt = z := by
  constructor
  · intro value
    cases value with
    | @name _ x found => exact ⟨x, by rw [lookup, found]; rfl, rfl⟩
    | @segment _ x missing found => exact ⟨x, by rw [lookup, missing, found]; rfl, rfl⟩
  · rintro ⟨v, found, rfl⟩
    cases spelled : known text with
    | some x =>
      rw [lookup, spelled] at found
      cases found
      exact .name spelled
    | none =>
      rw [lookup, spelled] at found
      exact .segment spelled found

/-- The value of an expression is the one of the rules. -/
theorem hasValue_iff {e : Expression} {z : Int} :
    HasValue known e z ↔ ∃ v, e.eval known = some v ∧ v.toInt = z := by
  induction e generalizing z with
  | literal n =>
    have value : (Int64.ofNat n).toInt = wrap n := Int64.toInt_ofNat'
    constructor
    · rintro ⟨⟩
      exact ⟨_, rfl, value⟩
    · rintro ⟨_, ⟨rfl⟩, rfl⟩
      exact value ▸ .literal
  | name text => exact hasValue_name_iff
  | unary op e ih =>
    constructor
    · intro value
      cases value with
      | unary operand value =>
        obtain ⟨x, computed, rfl⟩ := ih.mp operand
        refine ⟨op.apply x, ?_, UnaryOperator.hasValue_iff.mp value⟩
        rw [Expression.eval, computed, Option.map_some]
    · rintro ⟨v, computed, rfl⟩
      rw [Expression.eval, Option.map_eq_some_iff] at computed
      obtain ⟨x, operand, rfl⟩ := computed
      exact .unary (ih.mpr ⟨x, operand, rfl⟩) (UnaryOperator.hasValue_iff.mpr rfl)
  | binary op a b iha ihb =>
    constructor
    · intro value
      cases value with
      | binary left right value =>
        obtain ⟨x, left_computed, rfl⟩ := iha.mp left
        obtain ⟨y, right_computed, rfl⟩ := ihb.mp right
        obtain ⟨v, computed, rfl⟩ := BinaryOperator.hasValue_iff.mp value
        refine ⟨v, ?_, rfl⟩
        rw [Expression.eval, left_computed, right_computed, Option.bind_some, Option.bind_some,
          computed]
    · rintro ⟨v, computed, rfl⟩
      rw [Expression.eval, Option.bind_eq_some_iff] at computed
      obtain ⟨x, left, computed⟩ := computed
      rw [Option.bind_eq_some_iff] at computed
      obtain ⟨y, right, computed⟩ := computed
      exact .binary (iha.mpr ⟨x, left, rfl⟩) (ihb.mpr ⟨y, right, rfl⟩)
        (BinaryOperator.hasValue_iff.mpr ⟨v, computed, rfl⟩)

/-! ### Initialisers -/

theorem evaluate_eq_some_iff {text : String} {v : Int64} :
    evaluate text known = some v ↔
      ∃ ts e, Spells text.toList ts ∧ Derives 0 ts e ∧ e.eval known = some v := by
  simp only [evaluate, Option.bind_eq_some_iff, lex_eq_some_iff, parse_eq_some_iff,
    exists_and_left]

example : evaluate "1 - 2 - 3 << 2" (fun _ => none) = some (-16) := by decide +kernel

end Reflectory.Constant
