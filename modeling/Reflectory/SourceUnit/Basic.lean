/-
Source units: the text that registers one reflector.

A unit includes the headers that its reflector needs, names the types that
macros cannot take as they are spelled, and then states the reflector. All that
is decided here is which reflector a descriptor gets, and how the parts are laid
out; `Entry` says how members are reflected.
-/

import Reflectory.SourceUnit.Alias
import Reflectory.SourceUnit.Entry

namespace Reflectory

open Text

/-! ### Reflectors -/

/-- What a unit registers. -/
inductive Reflector where
  /-- As the user has written it. -/
  | written (body : String)
  | synonym (target name : String)
  | container (shape : ContainerShape) (element : String) (mapped? : Option String) (name : String)
  | enumeration (name : String) (entries : List Entry)
  /-- A class; `opening` is the macro that begins its reflector. -/
  | members (opening name : String) (entries : List Entry)
  deriving DecidableEq, Repr

namespace Reflector

/-- The reflector of a type. -/
def ofDescriptor (r : Registry) (d : Descriptor) : Reflector :=
  match d.kind with
  | .custom body => .written body
  | .typedef target => .synonym target d.name
  | .container shape element mapped? => .container shape element mapped? d.name
  | .enumeration enumerators isScoped =>
    .enumeration d.name (d.labelEntries enumerators isScoped)
  | .object isAbstract =>
    let opening :=
      if isAbstract then "BEGIN_ABSTRACT_OBJECT_REFLECTOR" else "BEGIN_OBJECT_REFLECTOR"
    .members opening d.name (d.memberEntries r)
  | .plain => .members "BEGIN_VALUE_REFLECTOR" d.name (d.memberEntries r)

/-- The types that stand as arguments of macros, in the order in which they are
written. -/
def types : Reflector → List String
  | written _ | enumeration _ _ => []
  | synonym target _ => [target]
  | container _ _ _ name => [name]
  | members _ name entries => name :: entries.flatMap Entry.types

/-- The lines of a reflector without line ends. -/
def lines (spell : String → String) : Reflector → List String
  | written body => [trimEnd body]
  | synonym target name => ["TYPE_NAME_ALIAS(" ++ spell target ++ ", " ++ name ++ ")"]
  | container shape _ _ name => [shape.reflectorMacro ++ "(" ++ spell name ++ ")"]
  | enumeration name entries => block "BEGIN_ENUM_REFLECTOR" name entries
  | members opening name entries => block opening (spell name) entries
where
  /-- The lines of a reflector with entries. -/
  block (opening name : String) (entries : List Entry) : List String :=
    [opening ++ "(" ++ name ++ ")"] ++ entries.map (fun e => "\t" ++ e.text spell) ++
      ["END_REFLECTOR"]

end Reflector

/-! ### Headers -/

/-- The headers of every unit. -/
def runtimeHeaders : List String :=
  ["osgIntrospection/ReflectionMacros", "osgIntrospection/TypedMethodInfo",
    "osgIntrospection/StaticMethodInfo", "osgIntrospection/Attributes"]

/-- The header of the macro that reflects a container. -/
def ContainerShape.reflectorHeader : ContainerShape → String
  | vector | deque => "osgIntrospection/StdVectorReflector"
  | list => "osgIntrospection/StdListReflector"
  | set | multiSet => "osgIntrospection/StdSetReflector"
  | map | multiMap => "osgIntrospection/StdMapReflector"
  | pair => "osgIntrospection/StdPairReflector"

/-- The declaring header of the registered type that a type is or points to. -/
def Registry.headerOf? (r : Registry) (type : String) : Option String :=
  ((r.resolve none (Spelling.pointee (Spelling.valueType type))).bind r.get?).bind
    Descriptor.header?

/-- The headers that a reflector needs, repetitions included. -/
def Reflector.headers (r : Registry) : Reflector → List String
  | written _ => []
  | synonym target _ =>
    (r.headerOf? target).toList ++
      ((Spelling.stdContainer? target).map fun c => c.shape.header).toList
  | container shape element mapped? _ =>
    [shape.reflectorHeader, shape.header] ++ (element :: mapped?.toList).filterMap r.headerOf?
  | enumeration _ _ => []
  | members _ _ entries => (entries.flatMap Entry.mentions).filterMap r.headerOf?

/-! ### Units -/

/-- The parts of a unit. -/
structure SourceUnit where
  headers : List String
  aliases : AliasTable
  reflector : Reflector
  deriving DecidableEq, Repr

namespace SourceUnit

/-- The unit of a type. -/
def ofDescriptor (r : Registry) (d : Descriptor) : SourceUnit :=
  let reflector := Reflector.ofDescriptor r d
  { headers := (d.header?.toList ++ reflector.headers r).foldl Spelling.insertNew runtimeHeaders
    aliases := .ofTypes reflector.types
    reflector }

/-- The first lines of a unit. -/
def banner : List String :=
  ["// ***************************************************************************",
    "//",
    "//   Generated automatically by genwrapper.",
    "//   Please DO NOT EDIT this file!",
    "//",
    "// ***************************************************************************",
    ""]

/-- The lines that free the names of argument directions. -/
def directionGuard : List String :=
  ["// Must undefine IN and OUT macros defined in Windows headers",
    "#ifdef IN",
    "#undef IN",
    "#endif",
    "#ifdef OUT",
    "#undef OUT",
    "#endif",
    ""]

/-- The lines that declare the aliases. -/
def aliasLines (aliases : AliasTable) : List String :=
  if aliases.isEmpty then []
  else aliases.map (fun a => "typedef " ++ a.type ++ " " ++ a.name ++ ";") ++ [""]

/-- The text of a unit. -/
def render (u : SourceUnit) : String :=
  unlines <|
    banner ++ u.headers.map (fun h => "#include <" ++ h ++ ">") ++ [""] ++ directionGuard ++
      aliasLines u.aliases ++ u.reflector.lines u.aliases.spell

end SourceUnit

end Reflectory
