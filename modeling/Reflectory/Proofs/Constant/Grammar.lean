/-
The grammar of constant expressions.

`Derives p ts e` says that the lexemes `ts` are written for the expression `e`,
and that no operator outside parentheses binds less tightly than `p`. Operators
of one precedence group to the left: what stands to the right of one binds more
tightly. An operand with its signs binds more tightly than all of them.

* `parse_eq_some_iff`: reading finds exactly the expression for which all lexemes
  are written.
-/

import Mathlib.Data.Option.Basic
import Mathlib.Tactic.SplitIfs
import Reflectory.Constant.Expression

namespace Reflectory.Constant

/-! ### Derivations -/

/-- Tighter than every operator. -/
def operandLevel : Nat := 6

theorem BinaryOperator.precedence_lt (op : BinaryOperator) : op.precedence < operandLevel := by
  cases op <;> decide

/-- The lexemes of an expression. -/
inductive Derives : Nat → List Lexeme → Expression → Prop where
  | literal {p n : Nat} : Derives p [.literal n] (.literal n)
  | name {p : Nat} {text : String} : Derives p [.name text] (.name text)
  | unary {p : Nat} {s : Symbol} {op : UnaryOperator} {ts : List Lexeme} {e : Expression} :
      s.unary? = some op → Derives operandLevel ts e → Derives p (.symbol s :: ts) (.unary op e)
  | parens {p : Nat} {ts : List Lexeme} {e : Expression} :
      Derives 0 ts e → Derives p (.opening :: ts ++ [.closing]) e
  /-- What stands to the left may be of the same precedence, what stands to the
  right may not. -/
  | binary {p : Nat} {s : Symbol} {op : BinaryOperator} {left right : List Lexeme}
      {a b : Expression} :
      s.binary? = some op → p ≤ op.precedence → Derives op.precedence left a →
      Derives (op.precedence + 1) right b → Derives p (left ++ .symbol s :: right) (.binary op a b)

/-- What binds tightly may stand where less is asked for. -/
theorem Derives.mono {p q : Nat} {ts : List Lexeme} {e : Expression} (le : p ≤ q)
    (derives : Derives q ts e) : Derives p ts e := by
  cases derives with
  | literal => exact .literal
  | name => exact .name
  | unary sign operand => exact .unary sign operand
  | parens inner => exact .parens inner
  | binary known tight left right => exact .binary known (Nat.le_trans le tight) left right

/-- No operator that binds at least this tightly comes next. -/
def Stops (p : Nat) (ts : List Lexeme) : Prop :=
  ∀ s, ts.head? = some (.symbol s) → ∃ op, s.binary? = some op ∧ op.precedence < p

theorem Stops.mono {p q : Nat} {ts : List Lexeme} (le : p ≤ q) (stops : Stops p ts) :
    Stops q ts := by
  intro s next
  obtain ⟨op, known, loose⟩ := stops s next
  exact ⟨op, known, Nat.lt_of_lt_of_le loose le⟩

theorem parseOperators_of_stops {p : Nat} {e : Expression} {rest : List Lexeme}
    (stops : Stops p rest) (fuel : Nat) : parseOperators fuel p e rest = some (e, rest) := by
  cases fuel with
  | zero => rw [parseOperators]; nofun
  | succ fuel =>
    match rest with
    | .symbol s :: rest =>
      obtain ⟨op, known, loose⟩ := stops s rfl
      rw [parseOperators, known, Option.bind_some, if_pos loose]
    | [] | .literal _ :: _ | .name _ :: _ | .opening :: _ | .closing :: _ =>
      rw [parseOperators]; nofun

/-- One more operator is read with its right operand. -/
theorem parseOperators_of_binary {p fuel : Nat} {s : Symbol} {op : BinaryOperator}
    {a : Expression} {rest : List Lexeme} (known : s.binary? = some op)
    (tight : p ≤ op.precedence) :
    parseOperators (fuel + 1) p a (.symbol s :: rest) =
      (parseBinary fuel (op.precedence + 1) rest).bind fun (b, rest) =>
        parseOperators fuel p (.binary op a b) rest := by
  rw [parseOperators, known, Option.bind_some, if_neg (Nat.not_lt.mpr tight)]

/-! ### What is written is read -/

/-- The lexemes are read as one operand, whatever follows. -/
def ReadsOperand (ts : List Lexeme) (e : Expression) : Prop :=
  ∀ rest fuel, 2 * (ts ++ rest).length ≤ fuel → parseOperand fuel (ts ++ rest) = some (e, rest)

/-- The lexemes are read as the left operand of what follows, unless a tighter
operator follows. -/
def ReadsLeft (p : Nat) (ts : List Lexeme) (e : Expression) : Prop :=
  ∀ q ≤ p, ∀ rest, Stops (p + 1) rest → ∀ fuel, 2 * (ts ++ rest).length + 1 ≤ fuel →
    ∃ fuel', 2 * rest.length ≤ fuel' ∧
      parseBinary fuel q (ts ++ rest) = parseOperators fuel' q e rest

theorem ReadsOperand.readsLeft {p : Nat} {ts : List Lexeme} {e : Expression}
    (reads : ReadsOperand ts e) : ReadsLeft p ts e := by
  intro q _ rest _ fuel enough
  obtain ⟨fuel, rfl⟩ : ∃ n, fuel = n + 1 := ⟨fuel - 1, by omega⟩
  have enough' : 2 * (ts ++ rest).length ≤ fuel := by omega
  refine ⟨fuel, ?_, ?_⟩
  · rw [List.length_append] at enough'
    omega
  · rw [parseBinary, reads rest fuel enough', Option.bind_some]

/-- Where nothing tighter follows, all of the lexemes are read. -/
theorem ReadsLeft.parseBinary_eq {p : Nat} {ts rest : List Lexeme} {e : Expression}
    (reads : ReadsLeft p ts e) (stops : Stops p rest) {fuel : Nat}
    (enough : 2 * (ts ++ rest).length + 1 ≤ fuel) :
    parseBinary fuel p (ts ++ rest) = some (e, rest) := by
  obtain ⟨fuel', -, read⟩ :=
    reads p (Nat.le_refl p) rest (stops.mono (Nat.le_succ p)) fuel enough
  rw [read, parseOperators_of_stops stops]

/-- What is written for an expression is read as that expression. -/
theorem Derives.reads {p : Nat} {ts : List Lexeme} {e : Expression} (derives : Derives p ts e) :
    ReadsLeft p ts e ∧ (operandLevel ≤ p → ReadsOperand ts e) := by
  have of_operand : ∀ {p ts e}, ReadsOperand ts e →
      ReadsLeft p ts e ∧ (operandLevel ≤ p → ReadsOperand ts e) :=
    fun reads => ⟨reads.readsLeft, fun _ => reads⟩
  -- A lexeme is taken from the fuel before anything behind it is read.
  have spend : ∀ {t : Lexeme} {ts : List Lexeme} {fuel : Nat}, 2 * (t :: ts).length ≤ fuel →
      ∃ fuel', fuel = fuel' + 1 ∧ 2 * ts.length + 1 ≤ fuel' := by
    intro t ts fuel enough
    rw [List.length_cons] at enough
    exact ⟨fuel - 1, by omega, by omega⟩
  induction derives with
  | literal =>
    refine of_operand fun rest fuel enough => ?_
    obtain ⟨fuel, rfl, -⟩ := spend enough
    rfl
  | name =>
    refine of_operand fun rest fuel enough => ?_
    obtain ⟨fuel, rfl, -⟩ := spend enough
    rfl
  | @unary p s op ts e sign _ ih =>
    refine of_operand fun rest fuel enough => ?_
    rw [List.cons_append] at enough ⊢
    obtain ⟨fuel, rfl, remains⟩ := spend enough
    have read : parseOperand fuel (ts ++ rest) = some (e, rest) :=
      ih.2 (Nat.le_refl _) rest fuel (Nat.le_of_succ_le remains)
    rw [parseOperand, sign, Option.bind_some, read, Option.map_some]
  | @parens p ts e _ ih =>
    refine of_operand fun rest fuel enough => ?_
    have split : Lexeme.opening :: ts ++ [Lexeme.closing] ++ rest =
        Lexeme.opening :: (ts ++ Lexeme.closing :: rest) := by
      simp
    rw [split] at enough ⊢
    obtain ⟨fuel, rfl, remains⟩ := spend enough
    have read : parseBinary fuel 0 (ts ++ .closing :: rest) = some (e, .closing :: rest) :=
      ih.1.parseBinary_eq (by rintro s ⟨⟩) remains
    rw [parseOperand, read]
  | @binary p s op left right a b known tight _ _ ihl ihr =>
    have loose := op.precedence_lt
    refine ⟨?_, fun level => by omega⟩
    intro q le rest stops fuel enough
    have split : left ++ .symbol s :: right ++ rest = left ++ .symbol s :: (right ++ rest) := by
      simp
    rw [split] at enough ⊢
    have next : Stops (op.precedence + 1) (.symbol s :: (right ++ rest)) := by
      rintro t ⟨rfl⟩
      exact ⟨op, known, Nat.lt_succ_self _⟩
    obtain ⟨fuel, left_enough, left_read⟩ :=
      ihl.1 q (Nat.le_trans le tight) _ next fuel enough
    obtain ⟨fuel, rfl, right_enough⟩ := spend left_enough
    have right_read : parseBinary fuel (op.precedence + 1) (right ++ rest) = some (b, rest) :=
      ihr.1.parseBinary_eq (stops.mono (Nat.succ_le_succ tight)) right_enough
    refine ⟨fuel, ?_, ?_⟩
    · rw [List.length_append] at right_enough
      omega
    · rw [left_read, parseOperators_of_binary known (Nat.le_trans le tight), right_read,
        Option.bind_some]

/-! ### What is read was written -/

/-- What is read as an operand may stand wherever an operand is asked for. -/
def OperandSound (fuel : Nat) : Prop :=
  ∀ ts e rest, 2 * ts.length ≤ fuel → parseOperand fuel ts = some (e, rest) →
    ∃ read, ts = read ++ rest ∧ ∀ p, Derives p read e

/-- What is read as operands and operators is derived, and ends where it has to. -/
def BinarySound (fuel : Nat) : Prop :=
  ∀ p ts e rest, 2 * ts.length + 1 ≤ fuel → parseBinary fuel p ts = some (e, rest) →
    ∃ read, ts = read ++ rest ∧ Derives p read e ∧ Stops p rest

/-- What is read behind the left operand `a` is derived together with it. The
operand has to be one for whatever operator comes next. -/
def OperatorsSound (fuel : Nat) : Prop :=
  ∀ p left a ts e rest, Derives p left a →
    (∀ s op, ts.head? = some (.symbol s) → s.binary? = some op → p ≤ op.precedence →
      Derives op.precedence left a) →
    2 * ts.length ≤ fuel → parseOperators fuel p a ts = some (e, rest) →
    ∃ read, ts = read ++ rest ∧ Derives p (left ++ read) e ∧ Stops p rest

theorem operandSound_succ {fuel : Nat} (operand : OperandSound fuel) (binary : BinarySound fuel) :
    OperandSound (fuel + 1) := by
  intro ts e rest enough read
  match ts with
  | [] | .closing :: _ => simp [parseOperand] at read
  | .literal n :: ts =>
    obtain ⟨rfl, rfl⟩ : Expression.literal n = e ∧ ts = rest := by simpa [parseOperand] using read
    exact ⟨[.literal n], rfl, fun _ => .literal⟩
  | .name text :: ts =>
    obtain ⟨rfl, rfl⟩ : Expression.name text = e ∧ ts = rest := by simpa [parseOperand] using read
    exact ⟨[.name text], rfl, fun _ => .name⟩
  | .symbol s :: ts =>
    rw [List.length_cons] at enough
    rw [parseOperand, Option.bind_eq_some_iff] at read
    obtain ⟨op, sign, read⟩ := read
    rw [Option.map_eq_some_iff] at read
    obtain ⟨⟨a, rest⟩, read, ⟨⟩⟩ := read
    obtain ⟨inner, rfl, derives⟩ := operand ts a rest (by omega) read
    exact ⟨.symbol s :: inner, rfl, fun _ => .unary sign (derives operandLevel)⟩
  | .opening :: ts =>
    rw [List.length_cons] at enough
    rw [parseOperand] at read
    split at read
    case h_1 a behind inside =>
      obtain ⟨rfl, rfl⟩ : a = e ∧ behind = rest := by simpa using read
      obtain ⟨inner, rfl, derives, -⟩ := binary 0 ts a _ (by omega) inside
      exact ⟨Lexeme.opening :: inner ++ [Lexeme.closing], by simp, fun _ => .parens derives⟩
    case h_2 => cases read

theorem binarySound_succ {fuel : Nat} (operand : OperandSound fuel)
    (operators : OperatorsSound fuel) : BinarySound (fuel + 1) := by
  intro p ts e rest enough read
  rw [parseBinary, Option.bind_eq_some_iff] at read
  obtain ⟨⟨a, behind⟩, operand_read, read⟩ := read
  obtain ⟨left, rfl, derives⟩ := operand ts a behind (by omega) operand_read
  rw [List.length_append] at enough
  obtain ⟨more, rfl, derives, stops⟩ :=
    operators p left a behind e rest (derives p) (fun _ op _ _ _ => derives op.precedence)
      (by omega) read
  exact ⟨left ++ more, (List.append_assoc ..).symm, derives, stops⟩

/-- Where the reading has to end, the left operand is all. -/
theorem derives_of_stops {p fuel : Nat} {left ts rest : List Lexeme} {a e : Expression}
    (derives : Derives p left a) (stops : Stops p ts)
    (read : parseOperators fuel p a ts = some (e, rest)) :
    ∃ read, ts = read ++ rest ∧ Derives p (left ++ read) e ∧ Stops p rest := by
  rw [parseOperators_of_stops stops] at read
  obtain ⟨rfl, rfl⟩ : a = e ∧ ts = rest := by simpa using read
  exact ⟨[], rfl, by rwa [List.append_nil], stops⟩

theorem operatorsSound_succ {fuel : Nat} (binary : BinarySound fuel)
    (operators : OperatorsSound fuel) : OperatorsSound (fuel + 1) := by
  intro p left a ts e rest derives operand enough read
  match ts with
  | [] | .literal _ :: _ | .name _ :: _ | .opening :: _ | .closing :: _ =>
    exact derives_of_stops derives (by rintro s ⟨⟩) read
  | .symbol s :: ts =>
    by_cases stops : Stops p (.symbol s :: ts)
    · exact derives_of_stops derives stops read
    rw [parseOperators, Option.bind_eq_some_iff] at read
    obtain ⟨op, known, read⟩ := read
    have tight : p ≤ op.precedence := by
      refine Nat.not_lt.mp fun loose => stops ?_
      rintro _ ⟨rfl⟩
      exact ⟨op, known, loose⟩
    rw [if_neg (Nat.not_lt.mpr tight), Option.bind_eq_some_iff] at read
    obtain ⟨⟨b, behind⟩, right_read, read⟩ := read
    rw [List.length_cons] at enough
    obtain ⟨right, rfl, right_derives, right_stops⟩ :=
      binary (op.precedence + 1) ts b behind (by omega) right_read
    have both : Derives op.precedence (left ++ .symbol s :: right) (.binary op a b) :=
      .binary known (Nat.le_refl _) (operand s op rfl known tight) right_derives
    -- What follows binds no tighter than `op`, so the two operands are one for it.
    have next : ∀ t op', behind.head? = some (.symbol t) → t.binary? = some op' →
        p ≤ op'.precedence →
          Derives op'.precedence (left ++ .symbol s :: right) (.binary op a b) := by
      intro t op' head known' _
      obtain ⟨_, known'', loose⟩ := right_stops t head
      cases known'.symm.trans known''
      exact both.mono (Nat.le_of_lt_succ loose)
    rw [List.length_append] at enough
    obtain ⟨more, rfl, derives, stops⟩ :=
      operators p _ _ behind e rest (both.mono tight) next (by omega) read
    exact ⟨.symbol s :: right ++ more, by simp, by simpa using derives, stops⟩

/-- What is read is derived, with every supply of steps. -/
theorem reads_sound (fuel : Nat) : OperandSound fuel ∧ BinarySound fuel ∧ OperatorsSound fuel := by
  induction fuel with
  | zero =>
    refine ⟨?_, ?_, ?_⟩
    · intro ts e rest _ read
      simp [parseOperand] at read
    · intro p ts e rest _ read
      simp [parseBinary] at read
    · intro p left a ts e rest derives _ enough read
      obtain rfl : ts = [] := List.length_eq_zero_iff.mp (by omega)
      exact derives_of_stops derives (by rintro s ⟨⟩) read
  | succ fuel ih =>
    obtain ⟨operand, binary, operators⟩ := ih
    exact ⟨operandSound_succ operand binary, binarySound_succ operand operators,
      operatorsSound_succ binary operators⟩

/-! ### The expression of a list of lexemes -/

/-- **The parser reads exactly what is derived.** -/
theorem parse_eq_some_iff {ts : List Lexeme} {e : Expression} :
    parse ts = some e ↔ Derives 0 ts e := by
  constructor
  · intro read
    unfold parse at read
    split at read
    case h_2 => cases read
    case h_1 a binary_read =>
      cases read
      obtain ⟨read, rfl, derives, -⟩ := (reads_sound _).2.1 0 ts e [] (by omega) binary_read
      rwa [List.append_nil]
  · intro derives
    have read : parseBinary (2 * ts.length + 2) 0 (ts ++ []) = some (e, []) :=
      derives.reads.1.parseBinary_eq (by rintro s ⟨⟩) (by rw [List.append_nil]; omega)
    rw [List.append_nil] at read
    rw [parse, read]

/-- Lexemes are derived for one expression at most. -/
theorem Derives.unique {ts : List Lexeme} {a b : Expression} (left : Derives 0 ts a)
    (right : Derives 0 ts b) : a = b :=
  Option.some.inj ((parse_eq_some_iff.mpr left).symm.trans (parse_eq_some_iff.mpr right))

end Reflectory.Constant
