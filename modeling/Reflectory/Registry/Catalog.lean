/-
The registry with the map that it keeps from names to numbers.

A registry finds a name among its descriptors. A catalog keeps a map from qualified names
to numbers beside them: a name is looked up in it, what is registered is entered into it,
and its values, which come in the order of the names, are the order in which types are
listed and in which consolidation enters them.
-/

import Std.Data.TreeMap
import Reflectory.Registry.Consolidation

namespace Reflectory

/-- The registered types, and the number under which each name is entered. -/
structure Catalog where
  registry : Registry := {}
  byName : Std.TreeMap String TypeId := ∅

namespace Catalog

/-- The number that is entered under a qualified name. -/
def lookup (c : Catalog) (name : String) : Option TypeId :=
  c.byName[name]?

/-- The descriptor with this qualified name. -/
def find? (c : Catalog) (name : String) : Option Descriptor :=
  (c.lookup name).bind c.registry.get?

/-- The numbers that are entered, in the order of the names. -/
def numbers (c : Catalog) : List TypeId :=
  c.byName.toList.map Prod.snd

/-- The entered descriptors with their numbers, in the order of the names. -/
def listing (c : Catalog) : List (TypeId × Descriptor) :=
  c.numbers.filterMap fun id => (c.registry.get? id).map fun d => (id, d)

/-- Registers a descriptor under its name, and enters it, unless the name is entered: then
its number is that of the type that has the name, which has to be of the same kind. -/
def register (c : Catalog) (d : Descriptor) : Except RegistryError (TypeId × Catalog) :=
  match c.lookup d.name with
  | none =>
    let id : TypeId := ⟨c.registry.types.length⟩
    .ok (id,
      { registry := { c.registry with types := c.registry.types ++ [d] }
        byName := c.byName.insert d.name id })
  | some id => (c.registry.registerAgain id d).map fun id => (id, c)

/-- The type that a name means inside a scope. -/
def resolve (c : Catalog) (scope : Option String) (name : String) : Option TypeId :=
  Registry.resolveBy c.lookup scope name

/-- The registry with every base pointing to where its name leads. -/
def linked (c : Catalog) (config : Configuration) : Registry :=
  { c.registry with types := c.registry.types.map fun d => d.linked config c.resolve }

/-- Consolidates the registered types; gives the events too. What is entered stays. -/
def consolidate (c : Catalog) (config : Configuration) : Catalog × List Event :=
  let done := (c.linked config).complete config c.numbers
  ({ c with registry := done.registry }, done.events)

end Catalog

end Reflectory
