/-
Declaration indexes: where the declarations of a library come from.

An index lists handles of compounds and gives the declaration of each. One held
in memory numbers its compounds; other indexes read them on demand, so giving a
declaration may fail.
-/

import Reflectory.Declaration.Basic
import Reflectory.FileTree.Error
import Reflectory.Xml.Error

namespace Reflectory

/-- Why an index or one of its compounds cannot be read. -/
inductive IndexError where
  | file (path : String) (cause : FileError)
  | markup (path : String) (cause : Xml.Error)
  /-- The root of the list of compounds has another name. -/
  | notAnIndex (path : String)
  /-- The file of a compound does not define it. -/
  | missingCompound (path refid : String)
  | unknownHandle (handle : String)
  deriving DecidableEq, Repr

/-- The text of a cause. -/
def IndexError.message : IndexError → String
  | file path cause => "could not read `" ++ path ++ "`: " ++ cause.message
  | markup path cause =>
    "malformed XML in `" ++ path ++ "`" ++ (cause.message?.map (": " ++ ·)).getD ""
  | notAnIndex path => "`" ++ path ++ "` is not a Doxygen XML index"
  | missingCompound path refid => "`" ++ path ++ "` does not define compound `" ++ refid ++ "`"
  | unknownHandle handle => "unknown compound handle `" ++ handle ++ "`"

/-- A list of compounds whose declarations can be asked for. -/
structure DeclarationIndex where
  handles : List String
  resolve : String → Except IndexError CompoundDeclaration

namespace DeclarationIndex

/-- The number that a text of decimal digits, with or without a leading `+`,
stands for, if it is below 2 ^ 64. -/
def number? (text : String) : Option Nat :=
  let digits := (Text.stripPrefix? "+" text).getD text
  if digits.isEmpty || !digits.toList.all Char.isDigit then none
  else
    let n := digits.toList.foldl (fun n c => 10 * n + (c.toNat - '0'.toNat)) 0
    if n < UInt64.size then some n else none

/-- The index of these compounds; the handle of a compound is its number. -/
def ofCompounds (compounds : List CompoundDeclaration) : DeclarationIndex where
  handles := (List.range compounds.length).map toString
  resolve handle :=
    match (number? handle).bind fun n => compounds[n]? with
    | some compound => .ok compound
    | none => .error (.unknownHandle handle)

end DeclarationIndex

end Reflectory
