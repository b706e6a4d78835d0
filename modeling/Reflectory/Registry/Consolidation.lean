/-
Consolidation: every registered type is completed.

Base names are resolved, cycles are broken, and then every type is finished
after its bases: it collects the pure virtual methods that are left over, and
becomes abstract if there are any; inherited members that the type declares
again are dropped; the type becomes invalid if a public base is missing or
invalid; and it is decided whether it is to be reflected. Consolidation never
fails, and can be repeated.
-/

import Reflectory.Configuration
import Reflectory.Diagnostic.Event
import Reflectory.Registry.Walk

namespace Reflectory

/-! ### Bases -/

/-- Where a base points to, given the type that its name means. -/
def BaseLink.targetOf (base : BaseLink) (config : Configuration) : Option TypeId → BaseTarget
  | some id => .resolved id
  | none => if config.isExternalType base.name then .external else .invalid .missing

/-- The descriptor with every base pointing to where its name leads. -/
def Descriptor.linked (d : Descriptor) (config : Configuration)
    (resolve : Option String → String → Option TypeId) : Descriptor :=
  { d with
    bases := d.bases.map fun b =>
      { b with target := b.targetOf config (resolve (some d.name) b.name) } }

/-- Where a base of a type points to by its name. -/
def Registry.target (r : Registry) (config : Configuration) (type : String)
    (base : BaseLink) : BaseTarget :=
  base.targetOf config (r.resolve (some type) base.name)

/-- The registry with every base pointing to where its name leads. -/
def Registry.linked (r : Registry) (config : Configuration) : Registry :=
  { r with types := r.types.map fun d => d.linked config r.resolve }

/-- Where the bases of a type point to. -/
def Registry.targets (r : Registry) (id : TypeId) : List BaseTarget :=
  match r.get? id with
  | some d => d.bases.map BaseLink.target
  | none => []

/-! ### Members -/

/-- Keeps the own elements, and of the inherited ones the first with a key that
no own element has. -/
def dropShadowed {α κ : Type} [DecidableEq κ] (isOwn : α → Bool) (key : α → κ)
    (members : List α) : List α :=
  let own := (members.filter isOwn).map key
  keep own [] members
where
  /-- Goes through the members, with the keys of the inherited ones kept so
  far. -/
  keep (own inherited : List κ) : List α → List α
    | [] => []
    | m :: ms =>
      if isOwn m then m :: keep own inherited ms
      else if key m ∈ own ∨ key m ∈ inherited then keep own inherited ms
      else m :: keep own (key m :: inherited) ms

/-- The descriptor without the inherited methods and properties that are
declared again. -/
def Descriptor.withoutShadowed (d : Descriptor) : Descriptor :=
  { d with
    methods := dropShadowed (fun m => m.declaredIn?.isNone) Method.signature d.methods
    properties := dropShadowed (fun p => p.declaredIn?.isNone) Property.name d.properties }

/-! ### Finishing a type -/

/-- The reason for which a type is invalid, given its bases' descriptors: its
first public base that is missing or invalid. -/
def Descriptor.invalidReason? (get? : TypeId → Option Descriptor) (d : Descriptor) :
    Option InvalidReason :=
  d.bases.findSome? fun b =>
    if b.access = .isPublic then
      match b.target with
      | .invalid .missing => some (.baseNotFound b.name)
      | .resolved id =>
        if (get? id).any fun base => base.state = .invalid then some (.baseInvalid b.name)
        else none
      | _ => none
    else none

/-- The pure virtual methods that a type leaves over: its own, and those of its
bases that it does not implement. -/
def Descriptor.leftOver (get? : TypeId → Option Descriptor) (d : Descriptor) : SignatureSet :=
  d.pureVirtuals.union <| d.bases.flatMap fun b =>
    match b.target with
    | .resolved id =>
      (((get? id).map Descriptor.unimplemented).getD []).filter fun s => s ∉ d.implemented
    | _ => []

/-- The kind of a type that leaves pure virtual methods over, or does not. -/
def Kind.completed (k : Kind) (leavesOver : Bool) : Kind :=
  match k with
  | .object isAbstract => .object (isAbstract || leavesOver)
  | .plain => if leavesOver then .object true else .plain
  | k => k

/-- Whether a type is to be reflected: what the configuration says, or else
whether it is complete, visible and no template. -/
def Descriptor.isEligible (config : Configuration) (invalid : Bool) (d : Descriptor) : Bool :=
  (config.eligibilityOverride? d.name).getD
    (!invalid && d.state != .invalid && (!d.isTemplate || d.kind.isCustom) &&
      d.access != .isPrivate && !d.name.toList.contains '@')

/-- The completed descriptor of a type, given the descriptors of its bases. -/
def Descriptor.finished (config : Configuration) (get? : TypeId → Option Descriptor)
    (d : Descriptor) : Descriptor :=
  let invalid := (d.invalidReason? get?).isSome
  let unimplemented := d.leftOver get?
  { d.withoutShadowed with
    kind := d.kind.completed !unimplemented.isEmpty
    unimplemented
    eligible := d.isEligible config invalid
    state := if d.state = .invalid || invalid then .invalid else .consolidated }

/-- What is worth a diagnostic when a type is completed. -/
def Descriptor.finishEvents (get? : TypeId → Option Descriptor) (d : Descriptor) : List Event :=
  let missing := d.bases.filter fun b => b.target = .invalid .missing
  let abstract? := d.kind = .plain && !(d.leftOver get?).isEmpty
  (missing.map fun b => .baseNotFound d.name b.name) ++
    (if abstract? then [.becameAbstract d.name] else []) ++
    match d.invalidReason? get? with
    | some reason => if d.state = .invalid then [] else [.becameInvalid d.name reason]
    | none => []

/-! ### All types -/

/-- A registry under consolidation with the events so far. -/
structure Consolidation where
  registry : Registry
  events : List Event := []
  deriving DecidableEq, Repr

namespace Consolidation

/-- Marks a base as dropped because it would close a cycle. -/
def drop (c : Consolidation) (type : TypeId) (base : Nat) : Consolidation :=
  match c.registry.get? type with
  | none => c
  | some d =>
    let breakLink (b : BaseLink) : BaseLink := { b with target := .invalid .cycle }
    { registry := c.registry.modify type fun d =>
        { d with bases := d.bases.modify base breakLink }
      events := c.events ++ (d.bases[base]?.map fun b => .cycleDropped d.name b.name).toList }

/-- Finishes a type. -/
def settle (config : Configuration) (c : Consolidation) (type : TypeId) : Consolidation :=
  match c.registry.get? type with
  | none => c
  | some d =>
    { registry := c.registry.modify type fun d => d.finished config c.registry.get?
      events := c.events ++ d.finishEvents c.registry.get? }

/-- Takes one step of the walk over the bases. -/
def step (config : Configuration) (c : Consolidation) : Step → Consolidation
  | .drop type base => c.drop type base
  | .settle type => c.settle config type

end Consolidation

/-- Completes the types of a linked registry, entered from the roots in order. -/
def Registry.complete (linked : Registry) (config : Configuration) (roots : List TypeId) :
    Consolidation :=
  let trail := walk linked.targets linked.ids roots
  let done := trail.steps.foldl (Consolidation.step config) { registry := linked }
  let invalid := (done.registry.types.filter fun d => d.state = .invalid).length
  { registry := { done.registry with order := trail.settled }
    events := [.consolidating] ++ done.events ++ [.consolidated linked.types.length invalid] }

/-- Consolidates a registry; gives the events too. -/
def Registry.consolidate (r : Registry) (config : Configuration) : Consolidation :=
  (r.linked config).complete config (r.linked config).idsByName

end Reflectory
