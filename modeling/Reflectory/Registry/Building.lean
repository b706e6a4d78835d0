/-
Building a registry from an index of declarations.

Every class becomes a descriptor with its methods, properties and bases as
declared; enumerations and type synonyms of namespaces and classes become
descriptors of their own. What a class or a synonym uses is registered as well,
as far as no declaration gives it: standard containers, and instantiations whose
reflector the user has written. Nothing is completed yet: base names stay
unresolved. A compound that cannot be read is left out.
-/

import Reflectory.Configuration
import Reflectory.Constant.Expression
import Reflectory.Diagnostic.Event
import Reflectory.Property.Inference
import Reflectory.Registry.Basic

namespace Reflectory

open Spelling

/-! ### Values of enumerations -/

/-- The value of a label without a value of its own after these labels. -/
def nextValue (before : List Enumerator) : Int64 :=
  before.getLast?.elim 0 fun e => e.value + 1

/-- The value that a name stands for after these labels; the last label of a
name counts. -/
def knownValue? (before : List Enumerator) (name : String) : Option Int64 :=
  (before.reverse.find? fun e => e.name == name).map Enumerator.value

/-- The value that the label says it has, if it can be evaluated. -/
def EnumeratorDeclaration.ownValue? (d : EnumeratorDeclaration) (before : List Enumerator) :
    Option Int64 :=
  d.init?.bind fun init => Constant.evaluate init (knownValue? before)

/-- The label with its value. -/
def EnumeratorDeclaration.evaluated (d : EnumeratorDeclaration) (before : List Enumerator) :
    Enumerator :=
  ⟨d.name, (d.ownValue? before).getD (nextValue before)⟩

/-- The labels with their values, after the labels before them. -/
def evaluateFrom (before : List Enumerator) : List EnumeratorDeclaration → List Enumerator
  | [] => before
  | d :: ds => evaluateFrom (before ++ [d.evaluated before]) ds

/-- The labels of an enumeration with their values. -/
def evaluateEnumerators (ds : List EnumeratorDeclaration) : List Enumerator :=
  evaluateFrom [] ds

/-- The initialisers that cannot be evaluated, after the labels before them. -/
def evaluationEvents (type : String) (before : List Enumerator) :
    List EnumeratorDeclaration → List Event
  | [] => []
  | d :: ds =>
    let rest := evaluationEvents type (before ++ [d.evaluated before]) ds
    match d.init?, d.ownValue? before with
    | some init, none => .notEvaluated type d.name init (nextValue before) :: rest
    | _, _ => rest

/-! ### Members of classes -/

/-- Whether a function is an operator: what follows the word cannot be part of
a name. -/
def isOperator (name : String) : Bool :=
  match Text.after? "operator".toList name.toList with
  | some [] => true
  | some (c :: _) => !(Text.isAlphanumeric c || c == '_')
  | none => false

/-- The name of the constructors of a class. -/
def constructorName (type : String) : String :=
  lastSegment (stripTemplateArgs type)

/-- Access of a method that gets registered; private ones do not. -/
def Access.visibility? : Access → Option Visibility
  | .isPublic => some .isPublic
  | .isProtected => some .isProtected
  | .isPrivate => none

namespace MemberDeclaration

/-- Whether the function is a constructor of a class whose constructors have the given
name: it has that name, and its return type is blank. -/
def isConstructor (m : MemberDeclaration) (constructors : String) : Bool :=
  match m.kind with
  | .function returnType .. => m.name == constructors && (Text.trim returnType).isEmpty
  | _ => false

/-- The function as a method of a class whose constructors have the given name;
destructors and functions with any number of arguments are no methods. -/
def method? (m : MemberDeclaration) (constructors : String) : Option Method :=
  match m.kind with
  | .function returnType params isConst isExplicit virtuality =>
    if m.name.toList.head? = some '~' || params.any (fun p => Text.trim p.type == "...") then none
    else
      let params := params.map fun p => .ofSpelled p.type (p.name?.getD "") p.default?
      let method : Method :=
        if m.isConstructor constructors then .constructor m.name params
        else .ofSpelled m.name returnType params
      some
        { method with
          isStatic := m.isStatic
          isConst
          isExplicit
          virtuality
          declaredIn? := m.declaredIn? }
  | _ => none

/-- The method that is registered with a type of this name and kind: none of a
type without reflected members, no operator, no private one. -/
def registeredMethod? (m : MemberDeclaration) (type : String) (kind : Kind) : Option Method :=
  match m.method? (constructorName type), m.access.visibility? with
  | some method, some visibility =>
    if kind.hasMembers && !isOperator m.name then some { method with visibility } else none
  | _, _ => none

/-- The property that a data member is: public ones of the instance are, unless
they are arrays. -/
def field? (m : MemberDeclaration) (kind : Kind) : Option Property :=
  match m.kind with
  | .variable ty =>
    if kind.hasMembers && m.access = .isPublic && !m.isStatic && !ty.toList.contains '[' then
      some { Property.ofSpelled m.name .field ty with declaredIn? := m.declaredIn? }
    else none
  | _ => none

/-- The types that a registered member uses, as spelled. -/
def usedTypes (m : MemberDeclaration) (type : String) (kind : Kind) : List String :=
  match m.kind with
  | .variable ty => if (m.field? kind).isSome then [ty] else []
  | _ =>
    match m.registeredMethod? type kind with
    | some method => method.returnType :: method.params.map Parameter.type
    | none => []

end MemberDeclaration

/-- The kind of a class of this name. -/
def CompoundDeclaration.typeKind (config : Configuration) (c : CompoundDeclaration)
    (name : String) : Kind :=
  match config.customReflector? name, stdContainer? name with
  | some body, _ => .custom body
  | none, some container => .ofContainer container
  | none, none => if config.isValueType name then .plain else .object c.isAbstract

namespace Descriptor

/-- Adds a function member of the class `type`. Of one that is not registered only the
signature is recorded, unless it is a constructor, static or inherited. -/
def declare (type : String) (d : Descriptor) (m : MemberDeclaration) : Descriptor :=
  match m.registeredMethod? type d.kind with
  | some method => d.addMethod method
  | none =>
    match m.method? (constructorName type) with
    | some method =>
      if !m.isConstructor (constructorName type) && !m.isStatic && m.declaredIn?.isNone then
        d.recordSignature method.signature method.virtuality
      else d
    | none => d

/-- The descriptor of a class before its properties are inferred. -/
def ofMembers (config : Configuration) (c : CompoundDeclaration) : Descriptor :=
  let name := normalize c.name
  let d : Descriptor :=
    { Descriptor.ofSpelled name (c.typeKind config name) with
      header? := c.header?
      isTemplate := c.isTemplate
      access := c.access
      bases := c.bases.map fun b => .ofSpelled b.name b.access b.isVirtual }
  c.members.foldl (declare name) d

/-- The properties of a descriptor's methods. -/
def inference (config : Configuration) (d : Descriptor) : PropertyInference :=
  if d.kind.hasMembers then .ofMethods config.propertyPolicy d.methods else ⟨[], [], []⟩

/-- The descriptor of a class: inferred properties come before data members. -/
def ofClass (config : Configuration) (c : CompoundDeclaration) : Descriptor :=
  let d := ofMembers config c
  let fields := c.members.filterMap fun m => m.field? d.kind
  { d with properties := (d.inference config).properties ++ fields }

end Descriptor

/-! ### Registering -/

/-- A registry being built with the events so far. -/
structure Building where
  registry : Registry := {}
  events : List Event := []
  deriving DecidableEq, Repr

namespace Building

/-- Adds events. -/
def note (b : Building) (events : List Event) : Building :=
  { b with events := b.events ++ events }

/-- Registers a descriptor; one that is refused is left out. -/
def register (b : Building) (d : Descriptor) : Building :=
  match b.registry.register { d with state := .building } with
  | .ok (_, registry) => { b with registry }.note [.registered d.name]
  | .error cause => b.note [.notRegistered cause]

/-- Registers a standard container. -/
def registerContainer (config : Configuration) (b : Building) (spelled : String) : Building :=
  match stdContainer? spelled with
  | none => b
  | some container =>
    let kind := (config.customReflector? spelled).elim (.ofContainer container) .custom
    b.register (.ofSpelled spelled kind)

/-- Registers an instantiation whose reflector the user has written, unless its
name is taken. -/
def registerWritten (config : Configuration) (b : Building) (spelled : String) : Building :=
  match b.registry.lookup spelled, config.customReflector? spelled with
  | none, some body => b.register (.ofSpelled spelled (.custom body))
  | _, _ => b

/-- Registers what a type uses that no declaration gives. -/
def registerUses (config : Configuration) (b : Building) (type : String) : Building :=
  let b := (collectContainers type []).foldl (registerContainer config) b
  (collectTemplateIds type []).foldl (registerWritten config) b

/-- Registers an enumeration or a type synonym of a namespace or a class;
inherited members and other kinds of members are passed over, and so are
synonyms of functions and of themselves. -/
def addNested (config : Configuration) (scope : String) (header? : Option String)
    (b : Building) (m : MemberDeclaration) : Building :=
  let qualified := if scope.isEmpty then m.name else scope ++ "::" ++ m.name
  let add (b : Building) (kind : Kind) : Building :=
    let d := Descriptor.ofSpelled qualified kind
    let kind := (config.customReflector? d.name).elim kind .custom
    b.register { d with kind, header?, access := m.access }
  match m.declaredIn?, m.kind with
  | none, .enumeration enumerators isScoped =>
    add (b.note (evaluationEvents qualified [] enumerators))
      (.enumeration (evaluateEnumerators enumerators) isScoped)
  | none, .typedef spelled =>
    let target := normalize spelled
    if target.toList.contains '(' || target == m.name || target == qualified then b
    else add (b.registerUses config target) (.typedef target)
  | _, _ => b

/-- Registers a class, its nested types before it and what it uses after it. -/
def addClass (config : Configuration) (b : Building) (c : CompoundDeclaration) : Building :=
  let name := normalize c.name
  let d := Descriptor.ofClass config c
  let b := c.members.foldl (addNested config name c.header?) b
  let rejected := (d.inference config).rejected
  let b := (b.note (rejected.map (.accessorsRejected name))).register d
  let used := c.members.flatMap fun m => m.usedTypes name d.kind
  used.foldl (registerUses config) b

/-- Registers what a compound declares. -/
def addCompound (config : Configuration) (b : Building) (c : CompoundDeclaration) : Building :=
  match c.kind with
  | .isNamespace =>
    c.members.foldl
      (fun b m => b.addNested config (normalize c.name) (m.header? <|> c.header?) m) b
  | .isClass | .isStruct | .isUnion => b.addClass config c

/-- Registers what the compound with this handle declares. -/
def addHandle (index : DeclarationIndex) (config : Configuration) (b : Building)
    (handle : String) : Building :=
  match index.resolve handle with
  | .ok c => b.addCompound config c
  | .error cause => b.note [.compoundSkipped handle cause]

end Building

/-- Builds a registry from an index; gives the events too. -/
def Registry.build (index : DeclarationIndex) (config : Configuration) : Building :=
  let b := index.handles.foldl (Building.addHandle index config) { events := [.building] }
  b.note [.built b.registry.types.length]

end Reflectory
