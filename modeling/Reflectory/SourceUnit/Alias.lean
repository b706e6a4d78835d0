/-
Aliases of types inside a unit.

A type whose spelling has a comma cannot stand as the argument of a macro. Each
such type gets a name of its own in the unit, declared by a `typedef` before the
reflector, in the order of first use.
-/

import Reflectory.Spelling.Derived
import Reflectory.Text.Numbered

namespace Reflectory

/-- A type with the name that stands for it. -/
structure Alias where
  type : String
  name : String
  deriving DecidableEq, Repr

/-- The aliases of a unit in the order of first use. -/
abbrev AliasTable := List Alias

/-- Whether a type cannot stand as the argument of a macro. -/
def needsAlias (type : String) : Bool :=
  type.toList.contains ','

namespace AliasTable

/-- The name of a type, if it has one. -/
def nameOf? (t : AliasTable) (type : String) : Option String :=
  (t.find? fun a => a.type == type).map Alias.name

/-- Whether a name is taken. -/
def isTaken (t : AliasTable) (name : String) : Bool :=
  t.any fun a => a.name == name

/-- Names a type, where that is needed and not yet done. -/
def add (t : AliasTable) (type : String) : AliasTable :=
  if needsAlias type && (t.nameOf? type).isNone then
    t ++ [⟨type, Text.firstFree t.isTaken (Spelling.fileStem type) t.length⟩]
  else t

/-- The aliases for types that are used in this order. -/
def ofTypes (types : List String) : AliasTable :=
  types.foldl add []

/-- The spelling of a type as the argument of a macro. -/
def spell (t : AliasTable) (type : String) : String :=
  if needsAlias type then (t.nameOf? type).getD type else type

end AliasTable

end Reflectory
