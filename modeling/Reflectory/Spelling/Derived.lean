/-
Names derived from type names: identifiers of wrappers, stems of file names,
and names of properties.
-/

import Reflectory.Text.Lowercase
import Reflectory.Text.Trim
import Reflectory.Spelling.Scope
import Reflectory.Spelling.Token

namespace Reflectory.Spelling

open Text

/-! ### Identifiers -/

/-- The word with each `::` written as a low line. -/
def flattenScopes : List Char → List Char
  | ':' :: ':' :: cs => '_' :: flattenScopes cs
  | c :: cs => c :: flattenScopes cs
  | [] => []

/-- The part that a token contributes to an identifier. -/
def mangleToken : Token → Option String
  | .word cs =>
    some <|
      if cs = "const".toList then "C5"
      else if cs = "volatile".toList then "V8"
      else String.ofList (flattenScopes (dropGlobal cs))
  | .mark '*' => some "P1"
  | .mark '&' => some "R1"
  | .mark '<' => some "T1"
  | .mark '[' => some "A1"
  | .mark '(' => some "F1"
  | .mark _ => none

/-- An encoding of a type that is safe inside an identifier. -/
def mangle (ty : String) : String :=
  join "_" ((tokenize ty).filterMap mangleToken)

/-! ### File names -/

/-- Runs of low lines shortened to one. -/
def squeeze : List Char → List Char
  | '_' :: '_' :: cs => squeeze ('_' :: cs)
  | c :: cs => c :: squeeze cs
  | [] => []

/-- The stem of the file for a qualified name: every run of characters other
than the 62 ASCII letters and digits becomes one low line, none at the ends;
never empty. -/
def fileStem (name : String) : String :=
  let plain := name.toList.map fun c => if c.isAlphanum then c else '_'
  let stem := trimWhile (· = '_') (squeeze plain)
  if stem.isEmpty then "_" else String.ofList stem

/-! ### Property names -/

/-- The name of the property whose accessors have this base name: the first
letter becomes small unless the second is a capital too, so `Width` gives
`width` and `URL` stays. -/
def propertyName (base : String) : String :=
  match base.toList with
  | [] => ""
  | [c] => String.ofList (lowercaseChar c)
  | c :: second :: cs =>
    if isUppercase second then base
    else String.ofList (lowercaseChar c ++ second :: cs)

end Reflectory.Spelling
