/-
Statistics: how many types, methods and properties of each sort are reflected.

Only the types that get a unit are counted, and of these only the members that
get a wrapper. `Statistics.report` is the summary that a run ends with.
-/

import Reflectory.Registry.Basic

namespace Reflectory

/-- Whether a type gets a unit: it is to be reflected, and complete. -/
def Descriptor.isEmitted (d : Descriptor) : Bool :=
  d.eligible && d.state = .consolidated

/-- The share of a part in percent, rounded down; zero of nothing. -/
def percent (part total : Nat) : Nat :=
  if total = 0 then 0 else 100 * part / total

/-- The numbers of reflected types, methods and properties. -/
structure Statistics where
  types : Nat := 0
  typedefs : Nat := 0
  customTypes : Nat := 0
  objectTypes : Nat := 0
  abstractTypes : Nat := 0
  /-- Enumerations, containers and plain values. -/
  valueTypes : Nat := 0
  enumerations : Nat := 0
  containers : Nat := 0
  methods : Nat := 0
  constructors : Nat := 0
  staticMethods : Nat := 0
  protectedMethods : Nat := 0
  properties : Nat := 0
  /-- Data members are simple properties too. -/
  simpleProperties : Nat := 0
  arrayProperties : Nat := 0
  indexedProperties : Nat := 0
  /-- Data members. -/
  publicProperties : Nat := 0
  deriving DecidableEq, Repr

namespace Statistics

/-- The numbers for these types. -/
def ofTypes (types : List Descriptor) : Statistics :=
  let kinds := types.map Descriptor.kind
  let methods := types.flatMap Descriptor.wrappedMethods
  let properties := types.flatMap Descriptor.wrappedProperties
  { types := types.length
    typedefs := kinds.countP fun k => k matches .typedef _
    customTypes := kinds.countP Kind.isCustom
    objectTypes := kinds.countP fun k => k matches .object _
    abstractTypes := kinds.countP Kind.isAbstract
    valueTypes := kinds.countP fun k => k matches .plain | .enumeration _ _ | .container _ _ _
    enumerations := kinds.countP fun k => k matches .enumeration _ _
    containers := kinds.countP fun k => k matches .container _ _ _
    methods := methods.length
    constructors := methods.countP Method.isConstructor
    staticMethods := methods.countP fun m => !m.isConstructor && m.isStatic
    protectedMethods := methods.countP fun m =>
      !m.isConstructor && !m.isStatic && m.visibility = .isProtected
    properties := properties.length
    simpleProperties := properties.countP fun p => p.shape matches .field | .simple
    arrayProperties := properties.countP fun p => p.shape = .array
    indexedProperties := properties.countP fun p => p.shape = .indexed
    publicProperties := properties.countP fun p => p.shape = .field }

/-- The numbers for the types of a registry that get a unit. -/
def ofRegistry (r : Registry) : Statistics :=
  ofTypes (r.types.filter Descriptor.isEmitted)

/-! ### The summary -/

/-- A number with its share. -/
def share (count total : Nat) : String :=
  toString count ++ " (" ++ toString (percent count total) ++ "%)"

/-- One line of the summary: so many of the total are something. -/
def shareLine (indent : String) (count total : Nat) (what : String) : String :=
  indent ++ share count total ++ " " ++ what

/-- The lines on types. -/
def typeLines (s : Statistics) : List String :=
  if s.types = 0 then []
  else
    ["", "* a total of " ++ toString s.types ++ " reflectors were generated",
      shareLine "    " s.typedefs s.types "are typedefs",
      shareLine "    " s.customTypes s.types "are user-defined reflectors"] ++
    (if s.objectTypes = 0 then []
      else
        [shareLine "    " s.objectTypes s.types "are object types, " ++
          share s.abstractTypes s.objectTypes ++ " of which are abstract"]) ++
    (if s.valueTypes = 0 then []
      else
        [shareLine "    " s.valueTypes s.types "are value types, subdivided as follows:",
          shareLine "        " s.enumerations s.valueTypes "are enumerations",
          shareLine "        " s.containers s.valueTypes "are STL containers"])

/-- The lines on methods. -/
def methodLines (s : Statistics) : List String :=
  if s.methods = 0 then []
  else
    ["", "* a total of " ++ toString s.methods ++ " methods were wrapped",
      shareLine "    " s.constructors s.methods "are constructors",
      shareLine "    " s.staticMethods s.methods "are static",
      shareLine "    " s.protectedMethods s.methods "are protected"]

/-- The lines on properties. -/
def propertyLines (s : Statistics) : List String :=
  if s.properties = 0 then []
  else
    ["", "* a total of " ++ toString s.properties ++ " properties were defined",
      shareLine "    " s.simpleProperties s.properties "are simple properties",
      shareLine "    " s.arrayProperties s.properties "are array properties",
      shareLine "    " s.indexedProperties s.properties "are indexed properties",
      shareLine "    " s.publicProperties s.properties "are public properties"]

/-- The summary; it leaves out what there is nothing of. -/
def report (s : Statistics) : String :=
  Text.unlines (s.typeLines ++ s.methodLines ++ s.propertyLines)

end Statistics

end Reflectory
