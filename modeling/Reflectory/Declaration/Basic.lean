/-
Declarations as an index of a class library gives them: namespaces and classes
with their members, all names and types as spelled.

The functions that add to a member act on the kinds of members they make sense
for and leave the others alone.
-/

import Reflectory.Access

namespace Reflectory

/-- A base class as declared. -/
structure BaseDeclaration where
  name : String
  access : Access := .isPublic
  isVirtual : Bool := false
  deriving DecidableEq, Repr

/-- A parameter as declared. -/
structure ParameterDeclaration where
  type : String
  name? : Option String := none
  default? : Option String := none
  deriving DecidableEq, Repr

/-- A label of an enumeration with the text after its `=`, if it has one. -/
structure EnumeratorDeclaration where
  name : String
  init? : Option String := none
  deriving DecidableEq, Repr

/-- What a member is. -/
inductive MemberKind where
  | function (returnType : String) (params : List ParameterDeclaration)
      (isConst isExplicit : Bool) (virtuality : Virtuality)
  | variable (type : String)
  | enumeration (enumerators : List EnumeratorDeclaration) (isScoped : Bool)
  | typedef (target : String)
  deriving DecidableEq, Repr

/-- A member of a namespace or a class. -/
structure MemberDeclaration where
  name : String
  kind : MemberKind
  access : Access := .isPublic
  isStatic : Bool := false
  /-- The class that declares the member, where the index has copied it into a
  derived class. -/
  declaredIn? : Option String := none
  /-- The header that declares the member. -/
  header? : Option String := none
  deriving DecidableEq, Repr

namespace MemberDeclaration

/-- A function without parameters. -/
def function (name returnType : String) : MemberDeclaration :=
  { name, kind := .function returnType [] false false .nonVirtual }

/-- A data member. -/
def ofVariable (name type : String) : MemberDeclaration :=
  { name, kind := .variable type }

/-- An enumeration whose labels live in the scope around it. -/
def enumeration (name : String) (enumerators : List EnumeratorDeclaration) : MemberDeclaration :=
  { name, kind := .enumeration enumerators false }

/-- A type synonym. -/
def typedef (name target : String) : MemberDeclaration :=
  { name, kind := .typedef target }

/-- Adds a parameter to a function; an empty name stands for none. -/
def param (m : MemberDeclaration) (type name : String) : MemberDeclaration :=
  match m.kind with
  | .function returnType params isConst isExplicit virtuality =>
    let name? := if name.isEmpty then none else some name
    { m with
      kind := .function returnType (params ++ [{ type, name? }]) isConst isExplicit virtuality }
  | _ => m

/-- Gives the last parameter of a function a default value. -/
def defaultValue (m : MemberDeclaration) (value : String) : MemberDeclaration :=
  match m.kind with
  | .function returnType params isConst isExplicit virtuality =>
    match params.getLast? with
    | some last =>
      let params := params.dropLast ++ [{ last with default? := some value }]
      { m with kind := .function returnType params isConst isExplicit virtuality }
    | none => m
  | _ => m

/-- Makes a function const. -/
def constant (m : MemberDeclaration) : MemberDeclaration :=
  match m.kind with
  | .function returnType params _ isExplicit virtuality =>
    { m with kind := .function returnType params true isExplicit virtuality }
  | _ => m

/-- Gives a function its virtuality. -/
def withVirtuality (m : MemberDeclaration) (virtuality : Virtuality) : MemberDeclaration :=
  match m.kind with
  | .function returnType params isConst isExplicit _ =>
    { m with kind := .function returnType params isConst isExplicit virtuality }
  | _ => m

/-- Gives the member its access. -/
def withAccess (m : MemberDeclaration) (access : Access) : MemberDeclaration :=
  { m with access }

/-- Makes the member static. -/
def static (m : MemberDeclaration) : MemberDeclaration :=
  { m with isStatic := true }

/-- Names the class that declares the member. -/
def inheritedFrom (m : MemberDeclaration) (owner : String) : MemberDeclaration :=
  { m with declaredIn? := some owner }

end MemberDeclaration

/-- The kinds of compounds that describe types. -/
inductive CompoundKind where
  | isClass | isStruct | isUnion | isNamespace
  deriving DecidableEq, Repr

/-- The kind named by an export; files, pages and the like are none. -/
def CompoundKind.ofExport? : String → Option CompoundKind
  | "class" => some isClass
  | "struct" => some isStruct
  | "union" => some isUnion
  | "namespace" => some isNamespace
  | _ => none

/-- A namespace or a class with its members. -/
structure CompoundDeclaration where
  name : String
  kind : CompoundKind
  access : Access := .isPublic
  /-- Whether the index itself says that the class is abstract. -/
  isAbstract : Bool := false
  templateParams : List String := []
  header? : Option String := none
  bases : List BaseDeclaration := []
  members : List MemberDeclaration := []
  deriving DecidableEq, Repr

namespace CompoundDeclaration

/-- An empty class. -/
def ofClass (name : String) : CompoundDeclaration :=
  { name, kind := .isClass }

/-- An empty namespace. -/
def ofNamespace (name : String) : CompoundDeclaration :=
  { name, kind := .isNamespace }

/-- Adds a public base. -/
def base (c : CompoundDeclaration) (name : String) : CompoundDeclaration :=
  { c with bases := c.bases ++ [{ name }] }

/-- Adds a member. -/
def member (c : CompoundDeclaration) (m : MemberDeclaration) : CompoundDeclaration :=
  { c with members := c.members ++ [m] }

/-- Names the declaring header. -/
def header (c : CompoundDeclaration) (path : String) : CompoundDeclaration :=
  { c with header? := some path }

/-- Whether the compound is a class template. -/
def isTemplate (c : CompoundDeclaration) : Bool :=
  !c.templateParams.isEmpty

end CompoundDeclaration

end Reflectory
