/-
Inference of properties from accessors.

The methods that play roles are grouped by base name, in the order in which the
names first occur. Three passes over the names use them up: a keyed getter whose
key is a position makes an array property if there is a counter for the plural
of its name; any other keyed getter makes an indexed property; getters and
setters make simple ones. A getter and a setter come together only if they agree
on the type of the value, and the other accessors of an array only if they agree
on the type of the elements. A method serves one property at most, and no two
properties have the same name.
-/

import Reflectory.Property.Role

namespace Reflectory

open Spelling

/-! ### Accessors by role -/

/-- A method of the list that plays a role under a base name. -/
structure Accessor where
  /-- The place of the method in the list. -/
  index : Nat
  method : Method
  role : Role
  base : String
  deriving DecidableEq, Repr

/-- Every role that a method of the list plays. -/
def Accessor.ofMethods (policy : PropertyPolicy) (methods : List Method) : List Accessor :=
  (methods.zipIdx.filter fun (m, _) => m.isCandidate).flatMap fun (m, i) =>
    (m.roles policy).map fun (role, base) => ⟨i, m, role, base⟩

/-- The base names in the order of their first occurrence. -/
def Accessor.baseNames (accessors : List Accessor) : List String :=
  (accessors.map Accessor.base).foldl insertNew []

/-! ### Properties found so far -/

/-- A property with the accessors that it was made from. -/
structure Fusion where
  /-- The place of the method after which the property is sorted. -/
  anchor : Nat
  property : Property
  members : Accessors Accessor
  deriving DecidableEq, Repr

namespace Fusion

/-- The places of the methods that serve the property. -/
def indices (f : Fusion) : List Nat :=
  f.members.toList.map Accessor.index

/-- The class that declares all the methods, if it is one and the same. -/
def owner? (members : List Accessor) : Option String :=
  match members with
  | [] => none
  | first :: _ =>
    if members.all fun a => a.method.declaredIn? = first.method.declaredIn? then
      first.method.declaredIn?
    else none

/-- A property of a type as spelled, made from these accessors. -/
def of (anchor : Nat) (name : String) (shape : PropertyShape) (type : String)
    (indexType? : Option String) (members : Accessors Accessor) : Fusion where
  anchor
  members
  property :=
    { Property.ofSpelled name shape type with
      indexType?
      accessors := members.map fun a => a.method.signature
      declaredIn? := owner? members.toList }

end Fusion

/-- A getter and a setter that do not agree on the value. -/
structure Rejection where
  property : String
  getter : Signature
  returned : String
  setter : Signature
  taken : String
  deriving DecidableEq, Repr

/-- What is said of a rejected pair. -/
def Rejection.message (r : Rejection) : String :=
  "property `" ++ r.property ++ "`: getter `" ++ r.getter.display ++ "` returns `" ++ r.returned ++
    "` but setter `" ++ r.setter.display ++ "` takes `" ++ r.taken ++ "`"

/-- The properties and rejected pairs found so far. -/
structure Findings where
  found : List Fusion := []
  rejected : List Rejection := []
  deriving DecidableEq, Repr

namespace Findings

/-- Whether the method at this place serves a property. -/
def uses (s : Findings) (index : Nat) : Bool :=
  s.found.any fun f => f.indices.contains index

/-- Whether a property has this name. -/
def names (s : Findings) (name : String) : Bool :=
  s.found.any fun f => f.property.name = name

/-- The methods with a role under a base name that serve no property yet, in
the order of the list. -/
def free (s : Findings) (accessors : List Accessor) (base : String) (role : Role) :
    List Accessor :=
  accessors.filter fun a => a.base = base && a.role = role && !s.uses a.index

/-- Adds a property, unless its name is taken. -/
def add (s : Findings) (f : Fusion) : Findings :=
  if s.names f.property.name then s else { s with found := s.found ++ [f] }

/-! ### The three passes -/

/-- The array property of a base name. -/
def addArray (policy : PropertyPolicy) (accessors : List Accessor) (s : Findings)
    (base : String) : Findings :=
  let free := s.free accessors base
  match (free .keyedGetter).find? fun a => a.method.takesIndexAt policy 0 with
  | none => s
  | some getter =>
    let counter? := (Accessor.baseNames accessors).findSome? fun plural =>
      if isPluralOf plural base then (s.free accessors plural .counter).head? else none
    match counter? with
    | none => s
    | some counter =>
      let element := getter.method.returnValue
      s.add <| .of getter.index (propertyName counter.base) .array getter.method.returnType
        (some (getter.method.paramValue 0))
        { getter := some getter
          counter := some counter
          setter := (free .keyedSetter).find? fun a =>
            a.method.takesIndexAt policy 0 && a.method.paramValue 1 == element
          adder := (free .adder).find? fun a => a.method.paramValue 0 == element
          inserter := (free .inserter).find? fun a => a.method.paramValue 1 == element
          remover := (free .remover).head? }

/-- The indexed property of a base name. -/
def addIndexed (accessors : List Accessor) (s : Findings) (base : String) : Findings :=
  let free := s.free accessors base
  match (free .keyedGetter).head? with
  | none => s
  | some getter =>
    let key := getter.method.paramValue 0
    let element := getter.method.returnValue
    s.add <| .of getter.index (propertyName base) .indexed getter.method.returnType (some key)
      { getter := some getter
        setter := (free .keyedSetter).find? fun a =>
          a.method.paramValue 0 == key && a.method.paramValue 1 == element }

/-- The simple property of a base name. A const getter is taken before another;
without a getter the first setter is enough. -/
def addSimple (accessors : List Accessor) (s : Findings) (base : String) : Findings :=
  let getters := s.free accessors base .getter
  let setters := s.free accessors base .setter
  let name := propertyName base
  match (getters.find? fun a => a.method.isConst) <|> getters.head?, setters with
  | none, [] => s
  | none, setter :: _ =>
    let type := (setter.method.params[0]?.map Parameter.type).getD ""
    s.add <| .of setter.index name .simple type none { setter := some setter }
  | some getter, setters =>
    let value := getter.method.returnValue
    let fuse (setter? : Option Accessor) :=
      s.add <| .of getter.index name .simple getter.method.returnType none
        { getter := some getter, setter := setter? }
    match setters.find? fun a => a.method.paramValue 0 == value, setters with
    | some setter, _ => fuse (some setter)
    | none, [] => fuse none
    | none, setter :: _ =>
      if s.names name then s
      else
        let rejection : Rejection :=
          { property := name
            getter := getter.method.signature
            returned := value
            setter := setter.method.signature
            taken := setter.method.paramValue 0 }
        { s with rejected := s.rejected ++ [rejection] }

/-- The findings after all passes. -/
def ofAccessors (policy : PropertyPolicy) (accessors : List Accessor) : Findings :=
  let bases := Accessor.baseNames accessors
  let s := bases.foldl (addArray policy accessors) {}
  let s := bases.foldl (addIndexed accessors) s
  bases.foldl (addSimple accessors) s

end Findings

/-! ### Result -/

/-- The properties of a method list in the order of their anchors, the methods
that serve none, and the rejected pairs. -/
structure PropertyInference where
  properties : List Property
  leftover : List Method
  rejected : List Rejection
  deriving DecidableEq, Repr

/-- Infers the properties of a class from its methods. -/
def PropertyInference.ofMethods (policy : PropertyPolicy) (methods : List Method) :
    PropertyInference :=
  let s := Findings.ofAccessors policy (Accessor.ofMethods policy methods)
  { properties := (s.found.mergeSort fun a b => a.anchor ≤ b.anchor).map Fusion.property
    leftover := (methods.zipIdx.filter fun (_, i) => !s.uses i).map Prod.fst
    rejected := s.rejected }

end Reflectory
