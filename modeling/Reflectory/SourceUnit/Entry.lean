/-
Entries of a reflector: the lines between its first and its last.

An entry is kept as what it says; `Entry.text` writes it as a macro call, given
the spelling of types as arguments. `Entry.types` lists the types in the order
in which they are written, `Entry.mentions` those whose headers are needed.
-/

import Reflectory.Registry.Basic

namespace Reflectory

/-- A macro call as a statement. -/
def macroCall (name : String) (args : List String) : String :=
  name ++ "(" ++ Text.join ", " args ++ ");"

/-- A text between quotation marks. -/
def quoted (s : String) : String :=
  "\"" ++ s ++ "\""

/-- One line of a reflector. -/
inductive Entry where
  | declaringFile (header : String)
  | base (type : String) (isVirtual : Bool)
  /-- A constructor, or another method. -/
  | method (m : Method)
  /-- A property, with the identifiers of the wrappers of its accessors. -/
  | property (p : Property) (ids : Accessors String)
  | enumLabel (label : String)
  deriving DecidableEq, Repr

namespace Entry

/-! ### Parts of entries -/

/-- The word for whether an argument can carry a value out. -/
def direction (type : String) : String :=
  if Spelling.isInOut type then "INOUT" else "IN"

/-- The word for a virtuality. -/
def virtualityFlag : Virtuality → String
  | .nonVirtual => "Properties::NON_VIRTUAL"
  | .isVirtual => "Properties::VIRTUAL"
  | .pureVirtual => "Properties::PURE_VIRTUAL"

/-- The arguments for a parameter at a place: a parameter without a name is
named for its place, and defaults are written for all parameters or for none. -/
def paramArgs (spell : String → String) (withDefaults : Bool) (p : Parameter) (place : Nat) :
    List String :=
  [direction p.type, spell p.type, if p.name.isEmpty then "x" ++ toString place else p.name] ++
    if withDefaults then [p.default?.getD ""] else []

/-- The arguments for all parameters of a method. -/
def paramsArgs (spell : String → String) (m : Method) : List String :=
  m.params.zipIdx.flatMap fun (p, place) => paramArgs spell m.hasDefaults p place

/-- The arguments after the parameters: the wrapper's identifier and two empty
descriptions. -/
def closingArgs (m : Method) : List String :=
  [m.wrapperId, quoted "", quoted ""]

/-- The macro for a method, without the number of parameters. -/
def methodMacro (m : Method) : String :=
  let kind :=
    if m.isConstructor then "I_Constructor"
    else if m.isStatic then "I_StaticMethod"
    else if m.visibility = .isProtected then "I_ProtectedMethod"
    else "I_Method"
  if m.hasDefaults then kind ++ "WithDefaults" else kind

/-- The flags of a method: whether a constructor is explicit, the virtuality of
methods of the instance, and the constness of protected ones. -/
def methodFlags (m : Method) : List String :=
  if m.isConstructor then
    [if m.isExplicit then "Properties::EXPLICIT" else "Properties::NON_EXPLICIT"]
  else if m.isStatic then []
  else if m.visibility = .isProtected then
    [virtualityFlag m.virtuality,
      if m.isConst then "Properties::CONST" else "Properties::NON_CONST"]
  else [virtualityFlag m.virtuality]

/-- The call that wraps a method; constructors have neither a return type nor a
name. -/
def methodText (spell : String → String) (m : Method) : String :=
  let naming := m.returnType?.elim [] fun type => [spell type, m.name]
  macroCall (methodMacro m ++ toString m.params.length)
    (naming ++ paramsArgs spell m ++ methodFlags m ++ closingArgs m)

/-- The call that reflects a property; zero stands for an accessor that is
absent. -/
def propertyText (spell : String → String) (p : Property) (ids : Accessors String) : String :=
  let id (accessor? : Option String) := accessor?.getD "0"
  match p.shape with
  | .field => macroCall "I_PublicMemberProperty" [spell p.type, p.name]
  | .simple =>
    macroCall "I_SimpleProperty" [spell p.type, p.name, id ids.getter, id ids.setter]
  | .array =>
    macroCall "I_ArrayProperty"
      [spell p.type, p.name, id ids.getter, id ids.setter, id ids.counter, id ids.adder,
        id ids.inserter, id ids.remover]
  | .indexed =>
    macroCall "I_IndexedProperty"
      [spell p.type, p.name, spell (p.indexType?.getD ""), id ids.getter, id ids.setter]

/-! ### Entries -/

/-- The line of an entry. -/
def text (spell : String → String) : Entry → String
  | declaringFile header => macroCall "I_DeclaringFile" [quoted header]
  | base type isVirtual =>
    macroCall (if isVirtual then "I_VirtualBaseType" else "I_BaseType") [spell type]
  | method m => methodText spell m
  | property p ids => propertyText spell p ids
  | enumLabel label => macroCall "I_EnumLabel" [label]

/-- The types that an entry spells, in the order in which it spells them. -/
def types : Entry → List String
  | base type _ => [type]
  | method m => m.returnType?.toList ++ m.params.map Parameter.type
  | property p _ => p.type :: if p.shape = .indexed then [p.indexType?.getD ""] else []
  | declaringFile _ | enumLabel _ => []

/-- The types whose declaring headers an entry needs. -/
def mentions : Entry → List String
  | base type _ => [type]
  | method m => m.returnType?.toList ++ m.params.map Parameter.type
  | property p _ => [p.type]
  | declaringFile _ | enumLabel _ => []

end Entry

/-! ### Entries of a type -/

/-- The entry for a base: public ones that are registered, or known to the users
of the wrappers, have one. -/
def Entry.ofBase? (r : Registry) (b : BaseLink) : Option Entry :=
  if b.access = .isPublic then
    match b.target with
    | .resolved id => some (.base (r.nameOf id) b.isVirtual)
    | .external => some (.base b.name b.isVirtual)
    | .unresolved | .invalid _ => none
  else none

namespace Descriptor

/-- The entry for the header that declares the type. -/
def headerEntries (d : Descriptor) : List Entry :=
  d.header?.toList.map .declaringFile

/-- The entries for the bases; only object types have them. -/
def baseEntries (r : Registry) (d : Descriptor) : List Entry :=
  match d.kind with
  | .object _ => d.bases.filterMap (Entry.ofBase? r)
  | _ => []

/-- The wrapped constructors. -/
def constructors (d : Descriptor) : List Method :=
  d.wrappedMethods.filter Method.isConstructor

/-- The other wrapped methods with overloads side by side: the names in the order
of first declaration, the overloads of a name in theirs. -/
def groupedMethods (d : Descriptor) : List Method :=
  let methods := d.wrappedMethods.filter fun m => !m.isConstructor
  let names := (methods.map Method.name).foldl Spelling.insertNew []
  names.flatMap fun name => methods.filter fun m => m.name == name

/-- The entry for a property; an accessor without a method has no identifier but
zero. -/
def propertyEntry (d : Descriptor) (p : Property) : Entry :=
  .property p (p.accessors.map fun s => (d.method? s).elim "0" Method.wrapperId)

/-- The entries of a class. -/
def memberEntries (r : Registry) (d : Descriptor) : List Entry :=
  d.headerEntries ++ d.baseEntries r ++ (d.constructors ++ d.groupedMethods).map .method ++
    d.wrappedProperties.map d.propertyEntry

/-- The entries of an enumeration: the first label of each value. -/
def labelEntries (d : Descriptor) (enumerators : List Enumerator) (isScoped : Bool) :
    List Entry :=
  let scope? := if isScoped then some d.name else d.scope?
  d.headerEntries ++ (firstOfEach [] enumerators).map fun e =>
    .enumLabel (scope?.elim e.name fun scope => scope ++ "::" ++ e.name)
where
  /-- The labels whose values are not among `seen` and not those of earlier
  labels. -/
  firstOfEach (seen : List Int64) : List Enumerator → List Enumerator
    | [] => []
    | e :: es =>
      if e.value ∈ seen then firstOfEach seen es
      else e :: firstOfEach (e.value :: seen) es

end Descriptor

end Reflectory
