/-
Constant expressions and their values.

`parse` reads an expression with the usual precedences: `*`, then `+ -`, then
`<< >>`, then `&`, then `^`, then `|`, all grouping to the left, and signs and
complement before all of them. `Expression.eval` computes in 64-bit
two's-complement arithmetic that wraps around; a name has to be known, and a
shift count has to lie below 64. `evaluate` is both together.
-/

import Reflectory.Constant.Lexeme
import Reflectory.Spelling.Scope

namespace Reflectory.Constant

open Spelling

/-! ### Expressions -/

/-- The operators on one operand. -/
inductive UnaryOperator where
  | plus | negate | complement
  deriving DecidableEq, Repr

/-- The operators on two operands. -/
inductive BinaryOperator where
  | multiply | add | subtract | shiftLeft | shiftRight | bitAnd | bitXor | bitOr
  deriving DecidableEq, Repr

/-- A constant expression. -/
inductive Expression where
  | literal (value : Nat)
  | name (text : String)
  | unary (op : UnaryOperator) (operand : Expression)
  | binary (op : BinaryOperator) (left right : Expression)
  deriving DecidableEq, Repr

/-- What a symbol before an operand means. -/
def Symbol.unary? : Symbol → Option UnaryOperator
  | plus => some .plus
  | minus => some .negate
  | complement => some .complement
  | _ => none

/-- What a symbol after an operand means. -/
def Symbol.binary? : Symbol → Option BinaryOperator
  | times => some .multiply
  | plus => some .add
  | minus => some .subtract
  | shiftLeft => some .shiftLeft
  | shiftRight => some .shiftRight
  | bitAnd => some .bitAnd
  | bitXor => some .bitXor
  | bitOr => some .bitOr
  | complement => none

/-- How tightly an operator binds. -/
def BinaryOperator.precedence : BinaryOperator → Nat
  | multiply => 5
  | add | subtract => 4
  | shiftLeft | shiftRight => 3
  | bitAnd => 2
  | bitXor => 1
  | bitOr => 0

/-! ### Reading -/

mutual

/-- Reads an operand with the symbols before it; the rest follows. -/
def parseOperand : Nat → List Lexeme → Option (Expression × List Lexeme)
  | 0, _ => none
  | _ + 1, .literal value :: rest => some (.literal value, rest)
  | _ + 1, .name text :: rest => some (.name text, rest)
  | fuel + 1, .symbol s :: rest =>
    s.unary?.bind fun op =>
      (parseOperand fuel rest).map fun (e, rest) => (.unary op e, rest)
  | fuel + 1, .opening :: rest =>
    match parseBinary fuel 0 rest with
    | some (e, .closing :: rest) => some (e, rest)
    | _ => none
  | _ + 1, _ => none

/-- Reads operands joined by operators of at least this precedence. -/
def parseBinary : Nat → Nat → List Lexeme → Option (Expression × List Lexeme)
  | 0, _, _ => none
  | fuel + 1, least, lexemes =>
    (parseOperand fuel lexemes).bind fun (e, rest) => parseOperators fuel least e rest

/-- Goes on after the left operand `e`, as long as operators of at least this
precedence follow. -/
def parseOperators :
    Nat → Nat → Expression → List Lexeme → Option (Expression × List Lexeme)
  | fuel + 1, least, e, .symbol s :: rest =>
    s.binary?.bind fun op =>
      if op.precedence < least then some (e, .symbol s :: rest)
      else
        (parseBinary fuel (op.precedence + 1) rest).bind fun (right, rest) =>
          parseOperators fuel least (.binary op e right) rest
  | _, _, e, rest => some (e, rest)

end

/-- Reads an expression that takes all lexemes. Every step but the entry into
an operand takes a lexeme, so twice their number of steps is enough. -/
def parse (lexemes : List Lexeme) : Option Expression :=
  match parseBinary (2 * lexemes.length + 2) 0 lexemes with
  | some (e, []) => some e
  | _ => none

/-! ### Values -/

/-- The value of an operator applied to one value. -/
def UnaryOperator.apply : UnaryOperator → Int64 → Int64
  | plus, v => v
  | negate, v => -v
  | complement, v => ~~~v

/-- A shift by a count that has to lie below the width. -/
def shift (f : Int64 → Int64 → Int64) (v count : Int64) : Option Int64 :=
  if 0 ≤ count ∧ count < 64 then some (f v count) else none

/-- The value of an operator applied to two values. -/
def BinaryOperator.apply : BinaryOperator → Int64 → Int64 → Option Int64
  | multiply, a, b => some (a * b)
  | add, a, b => some (a + b)
  | subtract, a, b => some (a - b)
  | shiftLeft, a, b => shift (· <<< ·) a b
  | shiftRight, a, b => shift (· >>> ·) a b
  | bitAnd, a, b => some (a &&& b)
  | bitXor, a, b => some (a ^^^ b)
  | bitOr, a, b => some (a ||| b)

/-- The value of a name: as spelled, else by its last segment. -/
def lookup (known : String → Option Int64) (name : String) : Option Int64 :=
  known name <|> known (lastSegment name)

/-- The value of an expression; a literal from 2 ^ 63 up stands for its bit
pattern. -/
def Expression.eval (known : String → Option Int64) : Expression → Option Int64
  | literal value => some (Int64.ofNat value)
  | name text => lookup known text
  | unary op e => (e.eval known).map op.apply
  | binary op a b =>
    (a.eval known).bind fun x => (b.eval known).bind fun y => op.apply x y

/-- The value of an initialiser, given the values of the names known so far. -/
def evaluate (text : String) (known : String → Option Int64) : Option Int64 :=
  (lex text).bind fun lexemes => (parse lexemes).bind fun e => e.eval known

end Reflectory.Constant
