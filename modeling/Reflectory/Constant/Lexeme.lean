/-
Lexemes of constant expressions.

An initialiser of an enumerator is made of integer literals, names, parentheses
and operators. A literal is a word that begins with a decimal digit: `0x` marks
base 16, a further leading zero base 8, and any run of `u U l L` at its end is
ignored. It has to be below 2 ^ 64. `lex` fails on a character that starts no
lexeme and on a word that begins like a literal and is none.
-/

import Reflectory.Text.Trim

namespace Reflectory.Constant

open Text

/-- The operator symbols; `plus` and `minus` stand before one operand or
between two. -/
inductive Symbol where
  | times | plus | minus | shiftLeft | shiftRight | bitAnd | bitXor | bitOr | complement
  deriving DecidableEq, Repr

/-- A lexeme of a constant expression. -/
inductive Lexeme where
  | literal (value : Nat)
  | name (text : String)
  | symbol (s : Symbol)
  | opening
  | closing
  deriving DecidableEq, Repr

/-! ### Literals -/

/-- The value of a digit, if it is one in this base. -/
def digit? (base : Nat) (c : Char) : Option Nat :=
  let value :=
    if '0' ≤ c ∧ c ≤ '9' then c.toNat - '0'.toNat
    else if 'a' ≤ c ∧ c ≤ 'f' then c.toNat - 'a'.toNat + 10
    else if 'A' ≤ c ∧ c ≤ 'F' then c.toNat - 'A'.toNat + 10
    else base
  if value < base then some value else none

/-- The number that starts with `high` and goes on with the digits, if every
character is one. -/
def digitsFrom? (base high : Nat) : List Char → Option Nat
  | [] => some high
  | c :: cs => (digit? base c).bind fun d => digitsFrom? base (high * base + d) cs

/-- The number written by the digits; at least one is needed. -/
def digits? (base : Nat) (cs : List Char) : Option Nat :=
  if cs.isEmpty then none else digitsFrom? base 0 cs

/-- Whether a character may stand in the suffix of a literal. -/
def isSuffix (c : Char) : Bool :=
  c = 'u' || c = 'U' || c = 'l' || c = 'L'

/-- The digits of a literal without its suffix, read in the base that their
beginning tells. -/
def readDigits : List Char → Option Nat
  | '0' :: 'x' :: cs | '0' :: 'X' :: cs => digits? 16 cs
  | '0' :: c :: cs => digits? 8 (c :: cs)
  | cs => digits? 10 cs

/-- The value of an integer literal. -/
def literal? (cs : List Char) : Option Nat :=
  (readDigits (dropEndWhile isSuffix cs)).filter (· < UInt64.size)

/-! ### Lexing -/

/-- Characters of literals and names. -/
def isWordChar (c : Char) : Bool :=
  isAlphanumeric c || c = '_' || c = ':'

/-- The lexeme of a word: a literal if it begins with a digit, else a name. -/
def ofWord? : List Char → Option Lexeme
  | [] => none
  | c :: cs =>
    if c.isDigit then (literal? (c :: cs)).map .literal
    else some (.name (String.ofList (c :: cs)))

/-- The lexeme of the pending characters, if there are any, before others. -/
def flush (pending : List Char) (rest : List Lexeme) : Option (List Lexeme) :=
  if pending.isEmpty then some rest else (ofWord? pending).map (· :: rest)

/-- The lexeme of a single character. -/
def single? : Char → Option Lexeme
  | '(' => some .opening
  | ')' => some .closing
  | '*' => some (.symbol .times)
  | '+' => some (.symbol .plus)
  | '-' => some (.symbol .minus)
  | '&' => some (.symbol .bitAnd)
  | '^' => some (.symbol .bitXor)
  | '|' => some (.symbol .bitOr)
  | '~' => some (.symbol .complement)
  | _ => none

/-- The lexemes of the characters, after the characters of a word that may go
on. -/
def lexFrom : List Char → List Char → Option (List Lexeme)
  | pending, [] => flush pending []
  | pending, '<' :: '<' :: cs =>
    (lexFrom [] cs).bind fun rest => flush pending (.symbol .shiftLeft :: rest)
  | pending, '>' :: '>' :: cs =>
    (lexFrom [] cs).bind fun rest => flush pending (.symbol .shiftRight :: rest)
  | pending, c :: cs =>
    if isWordChar c then lexFrom (pending ++ [c]) cs
    else if isBlank c then (lexFrom [] cs).bind (flush pending)
    else
      (single? c).bind fun lexeme =>
        (lexFrom [] cs).bind fun rest => flush pending (lexeme :: rest)

/-- The lexemes of a text. -/
def lex (text : String) : Option (List Lexeme) :=
  lexFrom [] text.toList

end Reflectory.Constant
