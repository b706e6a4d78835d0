/-
Descriptors of registered types: what is known of a type, and therefore how it
is reflected.

A descriptor is made from a declaration with its base names as spelled;
consolidation fills in where the bases point to, which pure virtual methods are
left over, and whether the type can be reflected.
-/

import Reflectory.Access
import Reflectory.Descriptor.Signature
import Reflectory.Spelling.Container
import Reflectory.Spelling.Derived

namespace Reflectory

open Spelling

/-! ### Methods -/

/-- A parameter of a method; its type is in canonical spelling. -/
structure Parameter where
  type : String
  name : String
  default? : Option String
  deriving DecidableEq, Repr

/-- A parameter of a type as spelled. -/
def Parameter.ofSpelled (type name : String) (default? : Option String) : Parameter :=
  ⟨normalize type, name, default?⟩

/-- Access of a registered method; private ones are never registered. -/
inductive Visibility where
  | isPublic | isProtected
  deriving DecidableEq, Repr

/-- A registered method. Constructors are the methods without a return type. -/
structure Method where
  name : String
  params : List Parameter
  returnType? : Option String
  isStatic : Bool := false
  isConst : Bool := false
  isExplicit : Bool := false
  virtuality : Virtuality := .nonVirtual
  visibility : Visibility := .isPublic
  /-- The class that declares the method, if it is inherited. -/
  declaredIn? : Option String := none
  deriving DecidableEq, Repr

namespace Method

/-- A public, non-virtual, non-const method of the instance. -/
def ofSpelled (name returnType : String) (params : List Parameter) : Method :=
  { name, params, returnType? := some (normalize returnType) }

/-- A public constructor. -/
def constructor (name : String) (params : List Parameter) : Method :=
  { name, params, returnType? := none }

/-- Whether the method is a constructor. -/
def isConstructor (m : Method) : Bool :=
  m.returnType?.isNone

/-- The return type; empty for constructors. -/
def returnType (m : Method) : String :=
  m.returnType?.getD ""

/-- What other methods it overrides or hides. -/
def signature (m : Method) : Signature :=
  .ofSpelled m.name (m.params.map fun p => valueType p.type) m.isConst

/-- Whether any parameter has a default value. -/
def hasDefaults (m : Method) : Bool :=
  m.params.any fun p => p.default?.isSome

/-- The identifier of the generated wrapper: the encoded return type, the name
and the encoded parameter types, joined by two low lines. -/
def wrapperId (m : Method) : String :=
  "__" ++ mangle m.returnType ++ "__" ++ m.name ++
    String.join (m.params.map fun p => "__" ++ mangle p.type) ++
    if m.isConst && !m.isConstructor then "__const" else ""

end Method

/-! ### Properties -/

/-- How a property is read and written: in place, through a getter and a
setter, by position, or by key. -/
inductive PropertyShape where
  | field | simple | array | indexed
  deriving DecidableEq, Repr

/-- One value for each accessor of a property that is present. -/
structure Accessors (α : Type) where
  getter : Option α := none
  setter : Option α := none
  counter : Option α := none
  adder : Option α := none
  inserter : Option α := none
  remover : Option α := none
  deriving DecidableEq, Repr

namespace Accessors

variable {α β : Type}

/-- The accessors that are present. -/
def toList (as : Accessors α) : List α :=
  [as.getter, as.setter, as.counter, as.adder, as.inserter, as.remover].filterMap id

/-- The accessors with each value replaced. -/
def map (f : α → β) (as : Accessors α) : Accessors β where
  getter := as.getter.map f
  setter := as.setter.map f
  counter := as.counter.map f
  adder := as.adder.map f
  inserter := as.inserter.map f
  remover := as.remover.map f

theorem toList_map (f : α → β) (as : Accessors α) :
    (as.map f).toList = as.toList.map f := by
  obtain ⟨a, b, c, d, e, g⟩ := as
  cases a <;> cases b <;> cases c <;> cases d <;> cases e <;> cases g <;> rfl

end Accessors

/-- A property of a registered type. -/
structure Property where
  name : String
  shape : PropertyShape
  /-- The value type; the element type of array and indexed properties. -/
  type : String
  /-- The type of keys or positions. -/
  indexType? : Option String := none
  accessors : Accessors Signature := {}
  /-- The class that declares the property, if it is inherited. -/
  declaredIn? : Option String := none
  deriving DecidableEq, Repr

namespace Property

/-- A property without accessors, of a type as spelled. -/
def ofSpelled (name : String) (shape : PropertyShape) (type : String) : Property :=
  { name, shape, type := normalize type }

/-- The type of the elements, where the property has elements. -/
def elementType? (p : Property) : Option String :=
  match p.shape with
  | .field | .simple => none
  | .array | .indexed => some p.type

end Property

/-! ### Kinds of types -/

/-- A label of an enumeration with its value. -/
structure Enumerator where
  name : String
  value : Int64
  deriving DecidableEq, Repr

/-- What a registered type is. -/
inductive Kind where
  | typedef (target : String)
  /-- A type whose reflector the user has written. -/
  | custom (body : String)
  | object (isAbstract : Bool)
  /-- A class reflected as a value. -/
  | plain
  /-- An enumeration; the labels of a scoped one live in its own scope. -/
  | enumeration (enumerators : List Enumerator) (isScoped : Bool)
  /-- A standard container; maps and pairs have a second type. -/
  | container (shape : ContainerShape) (element : String) (mapped? : Option String)
  deriving DecidableEq, Repr

namespace Kind

/-- The name of the kind in messages. -/
def label : Kind → String
  | typedef _ => "typedef"
  | custom _ => "custom reflector"
  | object _ => "object type"
  | plain => "value type"
  | enumeration _ _ => "enumeration"
  | container _ _ _ => "STL container"

/-- Whether two kinds stand for the same registration. Object types compare
without the abstract flag, which consolidation may raise. -/
def sameRegistration : Kind → Kind → Bool
  | object _, object _ => true
  | a, b => a = b

/-- Whether types of this kind have reflected members. -/
def hasMembers : Kind → Bool
  | object _ | plain => true
  | _ => false

/-- Whether this is an abstract object type. -/
def isAbstract : Kind → Bool
  | object true => true
  | _ => false

/-- Whether the user has written the reflector. -/
def isCustom : Kind → Bool
  | custom _ => true
  | _ => false

/-- The kind of a standard container. -/
def ofContainer (c : ContainerType) : Kind :=
  container c.shape (c.args.head?.getD "") c.args[1]?

end Kind

/-! ### Bases -/

/-- The number of a type in its registry. -/
structure TypeId where
  index : Nat
  deriving DecidableEq, Repr

/-- Why a base cannot be followed: no type has the name, or the way would lead
back to the type itself. -/
inductive BaseDefect where
  | missing | cycle
  deriving DecidableEq, Repr

/-- Where a base points to. -/
inductive BaseTarget where
  | unresolved
  | resolved (id : TypeId)
  /-- Not registered, but known to the users of the wrappers. -/
  | external
  | invalid (defect : BaseDefect)
  deriving DecidableEq, Repr

/-- A direct base of a type, its name in canonical spelling. -/
structure BaseLink where
  name : String
  access : Access := .isPublic
  isVirtual : Bool := false
  target : BaseTarget := .unresolved
  deriving DecidableEq, Repr

/-- A base that is not yet resolved, its name as spelled. -/
def BaseLink.ofSpelled (name : String) (access : Access) (isVirtual : Bool) : BaseLink :=
  { name := normalize name, access, isVirtual }

/-! ### Descriptors -/

/-- How far a descriptor has come. -/
inductive State where
  | unresolved | building | consolidated | invalid
  deriving DecidableEq, Repr

/-- All that is known of one registered type. -/
structure Descriptor where
  name : String
  kind : Kind
  bases : List BaseLink := []
  methods : List Method := []
  properties : List Property := []
  state : State := .unresolved
  /-- Whether the type is to be reflected. -/
  eligible : Bool := false
  /-- The header that declares the type, as it is included. -/
  header? : Option String := none
  isTemplate : Bool := false
  /-- Access of a nested type inside its class. -/
  access : Access := .isPublic
  /-- Pure virtual methods that the type declares, whatever their access. -/
  pureVirtuals : SignatureSet := []
  /-- Other methods that the type declares, whatever their access. -/
  implemented : SignatureSet := []
  /-- Pure virtual methods of the type and its bases that nothing overrides. -/
  unimplemented : SignatureSet := []
  deriving DecidableEq, Repr

namespace Descriptor

/-- A descriptor of a name as spelled, with nothing else known. -/
def ofSpelled (name : String) (kind : Kind) : Descriptor :=
  { name := normalize name, kind }

/-- Records that the type declares a method with this signature. -/
def recordSignature (d : Descriptor) (s : Signature) (v : Virtuality) : Descriptor :=
  match v with
  | .pureVirtual => { d with pureVirtuals := d.pureVirtuals.insert s }
  | _ => { d with implemented := d.implemented.insert s }

/-- Records a method that can override others: one that the type declares
itself, and that is neither a constructor nor static. -/
def recordMethod (d : Descriptor) (m : Method) : Descriptor :=
  if m.declaredIn?.isNone && !m.isConstructor && !m.isStatic then
    d.recordSignature m.signature m.virtuality
  else d

/-- Adds a method and records it. -/
def addMethod (d : Descriptor) (m : Method) : Descriptor :=
  { d with methods := d.methods ++ [m] }.recordMethod m

/-- Whether objects of the type cannot be made. -/
def isAbstract (d : Descriptor) : Bool :=
  d.kind.isAbstract

/-- The methods that get a wrapper: constructors only of types that are not
abstract. -/
def wrappedMethods (d : Descriptor) : List Method :=
  d.methods.filter fun m => d.kind.hasMembers && !(d.isAbstract && m.isConstructor)

/-- The properties that are reflected. -/
def wrappedProperties (d : Descriptor) : List Property :=
  d.properties.filter fun _ => d.kind.hasMembers

/-- The first method with this signature. -/
def method? (d : Descriptor) (s : Signature) : Option Method :=
  d.methods.find? fun m => m.signature == s

/-- The scope that the type is declared in. -/
def scope? (d : Descriptor) : Option String :=
  Spelling.scope? d.name

end Descriptor

end Reflectory
