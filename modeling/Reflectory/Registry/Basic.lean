/-
The registry of types.

Descriptors are numbered in the order of registration and found by qualified
name. Registering a name again keeps the first descriptor, and is refused if
the kinds differ. `resolve` finds the type that a name means inside a scope:
enclosing scopes are tried innermost first, for the name as it is and then for
the name without template arguments; a type does not find itself under a name
that is shorter than its own.
-/

import Reflectory.Descriptor.Basic

namespace Reflectory

open Spelling

/-- The registered types, and the order of the last consolidation, bases before
the types derived from them. -/
structure Registry where
  types : List Descriptor := []
  order : List TypeId := []
  deriving DecidableEq, Repr

/-- Why a descriptor is not registered. -/
inductive RegistryError where
  /-- The name is registered as a type of another kind. -/
  | duplicateType (name : String) (existing incoming : Kind)
  deriving DecidableEq, Repr

/-- The text of a cause. -/
def RegistryError.message : RegistryError → String
  | duplicateType name existing incoming =>
    "type `" ++ name ++ "` is already registered as " ++ existing.label ++
      ", cannot register it again as " ++ incoming.label

namespace Registry

/-- The descriptor with this number. -/
def get? (r : Registry) (id : TypeId) : Option Descriptor :=
  r.types[id.index]?

/-- The number of the type with this qualified name. -/
def lookup (r : Registry) (name : String) : Option TypeId :=
  (r.types.findIdx? fun d => d.name == name).map TypeId.mk

/-- The descriptor with this qualified name. -/
def find? (r : Registry) (name : String) : Option Descriptor :=
  (r.lookup name).bind r.get?

/-- Changes the descriptor with this number. -/
def modify (r : Registry) (id : TypeId) (f : Descriptor → Descriptor) : Registry :=
  { r with types := r.types.modify id.index f }

/-- Every number in use, in the order of registration. -/
def ids (r : Registry) : List TypeId :=
  (List.range r.types.length).map TypeId.mk

/-- The qualified name of a type; empty for a number that is not in use. -/
def nameOf (r : Registry) (id : TypeId) : String :=
  ((r.get? id).map Descriptor.name).getD ""

/-- Every number in use, ordered by qualified name. -/
def idsByName (r : Registry) : List TypeId :=
  r.ids.mergeSort fun a b => r.nameOf a ≤ r.nameOf b

/-- Every descriptor, ordered by qualified name. -/
def sorted (r : Registry) : List (TypeId × Descriptor) :=
  r.idsByName.filterMap fun id => (r.get? id).map fun d => (id, d)

/-- The number of a type under whose name a descriptor is registered again; it has to be of
the same kind. -/
def registerAgain (r : Registry) (id : TypeId) (d : Descriptor) : Except RegistryError TypeId :=
  match r.get? id with
  | none => .ok id
  | some existing =>
    if existing.kind.sameRegistration d.kind then .ok id
    else .error (.duplicateType d.name existing.kind d.kind)

/-- Registers a descriptor, unless its name is taken: then its number is that of
the type that has the name, which has to be of the same kind. -/
def register (r : Registry) (d : Descriptor) : Except RegistryError (TypeId × Registry) :=
  match r.lookup d.name with
  | none => .ok (⟨r.types.length⟩, { r with types := r.types ++ [d] })
  | some id => (r.registerAgain id d).map fun id => (id, r)

/-- The spellings under which a name is looked up: canonical, then without
template arguments. -/
def spellings (name : String) : List String :=
  let name := normalize name
  let stripped := stripTemplateArgs name
  if stripped == name then [name] else [name, stripped]

/-- The type that a name means inside a scope, where qualified names are looked up so. -/
def resolveBy (lookup : String → Option TypeId) (scope : Option String) (name : String) :
    Option TypeId :=
  (spellings name).findSome? fun spelling =>
    ((scopedCandidates scope spelling).filter fun candidate =>
      scope != some candidate || candidate == normalize name).findSome? lookup

/-- The type that a name means inside a scope. -/
def resolve (r : Registry) (scope : Option String) (name : String) : Option TypeId :=
  resolveBy r.lookup scope name

end Registry

end Reflectory
