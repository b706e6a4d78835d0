/-
Sets of characters by the names of properties.

A name alone is that of a property which a character has or has not, of a
general category, or of a script, looked for in this order. With a value it is
the name of a kind of properties. In names and values case, blanks, low lines,
hyphens and a leading `is` do not count (`plainName`).
-/

import Reflectory.Pattern.Class.TextBreak
import Reflectory.Pattern.Class.Version

namespace Reflectory.Pattern

/-- A name reduced to what counts in it. -/
def plainName (name : String) : String :=
  let keep (cs : List Char) : List Char :=
    (cs.filter fun c => c.toNat < 128 && c != ' ' && c != '_' && c != '-').map Char.toLower
  match name.toList with
  | a :: b :: rest =>
    if (a = 'i' || a = 'I') && (b = 's' || b = 'S') then
      let kept := String.ofList (keep rest)
      if kept == "c" then "isc" else kept
    else String.ofList (keep (a :: b :: rest))
  | cs => String.ofList (keep cs)

/-- The set of a property given by its name alone. -/
def CharSet.ofProperty? (name : String) : Option CharSet :=
  let name := plainName name
  BinaryProperty.setOfName? name <|> Category.setOfName? name <|> Script.setOfName? name

/-- The set of a property given by the name of a kind of properties and a value
of it. -/
def CharSet.ofPropertyValue? (name value : String) : Option CharSet :=
  let value := plainName value
  match plainName name with
  | "gc" | "generalcategory" => Category.setOfName? value
  | "sc" | "script" => Script.setOfName? value
  | "scx" | "scriptextensions" => Script.usedSetOfName? value
  | "age" => Version.setOfName? value
  | "gcb" | "graphemeclusterbreak" => GraphemeBreak.setOfName? value
  | "wb" | "wordbreak" => WordBreak.setOfName? value
  | "sb" | "sentencebreak" => SentenceBreak.setOfName? value
  | _ => none

end Reflectory.Pattern
