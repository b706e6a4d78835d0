/-
Canonical and value spellings of a type.

`normalize` is the spelling under which types are registered and compared.
`valueType` leaves out what does not change the value that is passed: top-level
qualifiers, references and keywords that only introduce a name. A getter and a
setter speak of the same value when their types have the same value spelling.
-/

import Reflectory.Text.Trim
import Reflectory.Spelling.Token

namespace Reflectory.Spelling

open Text

/-- The canonical spelling of a type. -/
def normalize (ty : String) : String :=
  render (tokenize ty)

/-- The depth of angle brackets after a token; a bracket that closes nothing is
ignored. -/
def depthAfter (depth : Nat) : Token → Nat
  | .mark '<' => depth + 1
  | .mark '>' => depth - 1
  | _ => depth

/-- The words and the mark that a value spelling leaves out at top level. -/
def isQualifier (t : Token) : Bool :=
  ["const", "volatile", "struct", "class", "enum", "typename"].any t.isWord || t == .mark '&'

/-- The tokens without those qualifiers that stand outside all angle brackets. -/
def dropQualifiers : Nat → List Token → List Token
  | _, [] => []
  | depth, t :: ts =>
    let rest := dropQualifiers (depthAfter depth t) ts
    if depthAfter depth t = 0 && isQualifier t then rest else t :: rest

/-- The spelling of a type without top-level qualifiers and references;
pointers are kept. -/
def valueType (ty : String) : String :=
  render (dropQualifiers 0 (tokenize ty))

/-- Whether a type is `void`. -/
def isVoid (ty : String) : Bool :=
  normalize ty == "void"

/-- Whether an argument of this type can carry a value out: a pointer or a
reference without `const` anywhere. -/
def isInOut (ty : String) : Bool :=
  let ts := tokenize ty
  ts.getLast?.any Token.isIndirection && !ts.any (Token.isWord · "const")

theorem dropQualifiers_sublist (depth : Nat) (ts : List Token) :
    (dropQualifiers depth ts).Sublist ts := by
  fun_induction dropQualifiers depth ts with
  | case1 => exact .refl _
  | case2 depth t ts rest h ih => exact ih.cons t
  | case3 depth t ts rest h ih => exact ih.cons_cons t

/-- A value spelling has no more ink than the type. -/
theorem ink_valueType_le (ty : String) : ink (valueType ty) ≤ ink ty := by
  have h := ink_render_le_of_sublist (dropQualifiers_sublist 0 (tokenize ty))
  rwa [inked_letters_tokenize] at h

end Reflectory.Spelling
