/-
What building registers.

A compound offers types to the registry one after another: those that its members
declare, each with what it uses before it, then the class itself, and then what the
class uses. An offer is taken if its name is not taken yet, so building a registry is
registering what the compounds offer, in the order of the index (`build_registry`).
-/

import Reflectory.Proofs.Registry.Numbering
import Reflectory.Proofs.Spelling.Mentions
import Reflectory.Registry.Building

namespace Reflectory

open Spelling

/-! ### Registering one after another -/

namespace Registry

variable {r : Registry} {d : Descriptor} {ds : List Descriptor}

/-- Registers descriptors one after another; those that are refused are left out. -/
def registerEach (r : Registry) (ds : List Descriptor) : Registry :=
  r.after (ds.map .register)

theorem registerEach_append (ds ds' : List Descriptor) :
    r.registerEach (ds ++ ds') = (r.registerEach ds).registerEach ds' := by
  rw [registerEach, List.map_append, after_append]
  rfl

theorem registerEach_concat (ds : List Descriptor) (d : Descriptor) :
    r.registerEach (ds ++ [d]) = (r.registerEach ds).perform (.register d) :=
  registerEach_append ds [d]

theorem order_registerEach (r : Registry) (ds : List Descriptor) :
    (r.registerEach ds).order = r.order := by
  induction ds using List.reverseRecOn with
  | nil => rfl
  | append_singleton ds d ih =>
    rw [registerEach_concat, perform_register]
    split <;> exact ih

theorem registerEach_eq (ds : List Descriptor) :
    ({} : Registry).registerEach ds = { types := (({} : Registry).registerEach ds).types } :=
  congrArg (Registry.mk _) (order_registerEach {} ds)

/-- The names that are taken afterwards. -/
theorem mem_names_registerEach {name : String} :
    name ∈ (r.registerEach ds).types.map Descriptor.name ↔
      name ∈ r.types.map Descriptor.name ∨ name ∈ ds.map Descriptor.name := by
  induction ds using List.reverseRecOn with
  | nil => simp [registerEach, after]
  | append_singleton ds d ih =>
    rw [registerEach_concat, perform_register]
    split
    next taken =>
      rw [ih, List.map_append, List.mem_append, ← or_assoc, ← ih]
      refine ⟨.inl, ?_⟩
      rintro (mem | mem)
      · exact mem
      · rwa [List.mem_singleton.mp mem]
    next => rw [List.map_append, List.mem_append, ih, List.map_append, List.mem_append, or_assoc]

/-- What is taken was there, or is taken where nothing else is there. -/
theorem mem_registerEach (mem : d ∈ (r.registerEach ds).types) :
    d ∈ r.types ∨ d ∈ (({} : Registry).registerEach ds).types := by
  induction ds using List.reverseRecOn with
  | nil => exact .inl mem
  | append_singleton ds e ih =>
    have names : e.name ∈ (({} : Registry).registerEach ds).types.map Descriptor.name →
        e.name ∈ (r.registerEach ds).types.map Descriptor.name := by
      rw [mem_names_registerEach, mem_names_registerEach]
      rintro (mem | mem)
      · cases mem
      · exact .inr mem
    rw [registerEach_concat, perform_register] at mem ⊢
    split at mem
    next =>
      refine (ih mem).imp_right fun mem => ?_
      split
      · exact mem
      · exact List.mem_append_left _ mem
    next fresh =>
      rw [if_neg (mt names fresh), List.mem_append]
      obtain mem | mem := List.mem_append.mp mem
      · exact (ih mem).imp_right .inl
      · exact .inr (.inr mem)

/-- What is there afterwards was there, or has been registered. -/
theorem mem_of_mem_registerEach (mem : d ∈ (r.registerEach ds).types) :
    d ∈ r.types ∨ d ∈ ds := by
  induction ds using List.reverseRecOn with
  | nil => exact .inl mem
  | append_singleton ds e ih =>
    rw [registerEach_concat, perform_register] at mem
    split at mem
    next => exact (ih mem).imp_right (List.mem_append_left _)
    next =>
      obtain mem | mem := List.mem_append.mp mem
      · exact (ih mem).imp_right (List.mem_append_left _)
      · exact .inr (List.mem_append_right _ mem)

theorem nodup_names_registerEach (ds : List Descriptor) :
    ((({} : Registry).registerEach ds).types.map Descriptor.name).Nodup :=
  (Built.empty.after _).nodup_names

/-! ### Registering in groups -/

section Groups

variable {α : Type} {offers : α → List Descriptor} {xs xs' : List α}

/-- Different groups have the same descriptors under the names that they share. -/
def Agree (offers : α → List Descriptor) (xs : List α) : Prop :=
  ∀ x ∈ xs, ∀ x' ∈ xs, x ≠ x' → ∀ d ∈ offers x, ∀ d' ∈ offers x', d.name = d'.name → d = d'

/-- What is taken of groups is taken of one of them alone. -/
theorem exists_of_mem_registerEach_flatMap
    (mem : d ∈ (r.registerEach (xs.flatMap offers)).types) :
    d ∈ r.types ∨ ∃ x ∈ xs, d ∈ (({} : Registry).registerEach (offers x)).types := by
  induction xs generalizing r with
  | nil => exact .inl mem
  | cons x xs ih =>
    rw [List.flatMap_cons, registerEach_append] at mem
    obtain mem | ⟨x', mem_xs, mem⟩ := ih mem
    · exact (mem_registerEach mem).imp_right fun mem => ⟨x, List.mem_cons_self, mem⟩
    · exact .inr ⟨x', List.mem_cons_of_mem _ mem_xs, mem⟩

/-- Of groups that agree, all is taken that is taken of one alone. -/
theorem mem_registerEach_flatMap_iff (agree : Agree offers xs) :
    d ∈ (({} : Registry).registerEach (xs.flatMap offers)).types ↔
      ∃ x ∈ xs, d ∈ (({} : Registry).registerEach (offers x)).types := by
  constructor
  · intro mem
    exact (exists_of_mem_registerEach_flatMap mem).resolve_left List.not_mem_nil
  · rintro ⟨x, mem_xs, mem⟩
    have of_group {y : α} {e : Descriptor}
        (mem : e ∈ (({} : Registry).registerEach (offers y)).types) : e ∈ offers y :=
      (mem_of_mem_registerEach mem).resolve_left List.not_mem_nil
    have named : d.name ∈ (({} : Registry).registerEach (xs.flatMap offers)).types.map
        Descriptor.name := by
      rw [mem_names_registerEach]
      exact .inr (List.mem_map_of_mem (List.mem_flatMap.mpr ⟨x, mem_xs, of_group mem⟩))
    obtain ⟨e, mem_all, same⟩ := List.mem_map.mp named
    obtain mem' | ⟨x', mem_xs', mem'⟩ := exists_of_mem_registerEach_flatMap mem_all
    · cases mem'
    · obtain rfl : e = d := by
        by_cases eq : x' = x
        · subst eq
          exact List.inj_on_of_nodup_map (nodup_names_registerEach _) mem' mem same
        · exact agree x' mem_xs' x mem_xs eq e (of_group mem') d (of_group mem) same
      exact mem_all

/-- Groups that agree leave the same types behind, in whatever order they come. -/
theorem registerEach_flatMap_perm (agree : Agree offers xs) (perm : xs.Perm xs') :
    (({} : Registry).registerEach (xs.flatMap offers)).types.Perm
      (({} : Registry).registerEach (xs'.flatMap offers)).types := by
  have agree' : Agree offers xs' := fun x mem x' mem' =>
    agree x (perm.mem_iff.mpr mem) x' (perm.mem_iff.mpr mem')
  refine (List.perm_ext_iff_of_nodup (nodup_names_registerEach _).of_map
    (nodup_names_registerEach _).of_map).mpr fun d => ?_
  rw [mem_registerEach_flatMap_iff agree, mem_registerEach_flatMap_iff agree']
  exact exists_congr fun x => and_congr_left fun _ => perm.mem_iff

end Groups

end Registry

/-! ### What is offered -/

/-- The descriptor while a registry is built. -/
def Descriptor.begun (d : Descriptor) : Descriptor :=
  { d with state := .building }

namespace Configuration

/-- The type of a container of this name. -/
def usedContainer? (config : Configuration) (spelled : String) : Option Descriptor :=
  (stdContainer? spelled).map fun container =>
    (Descriptor.ofSpelled spelled
      ((config.customReflector? spelled).elim (.ofContainer container) .custom)).begun

/-- The type of an instantiation of this name, if the user has written its reflector. -/
def writtenType? (config : Configuration) (spelled : String) : Option Descriptor :=
  (config.customReflector? spelled).map fun body =>
    (Descriptor.ofSpelled spelled (.custom body)).begun

/-- The types that are offered where a type is used. -/
def offeredFor (config : Configuration) (type : String) : List Descriptor :=
  (collectContainers type []).filterMap config.usedContainer? ++
    (collectTemplateIds type []).filterMap config.writtenType?

end Configuration

namespace MemberDeclaration

/-- The name of a nested type in its scope. -/
def qualifiedName (scope : String) (m : MemberDeclaration) : String :=
  if scope.isEmpty then m.name else scope ++ "::" ++ m.name

/-- The type that the member is a synonym of, unless it is passed over. -/
def synonymOf? (scope : String) (m : MemberDeclaration) : Option String :=
  match m.declaredIn?, m.kind with
  | none, .typedef spelled =>
    let target := normalize spelled
    if target.toList.contains '(' || target == m.name || target == m.qualifiedName scope then none
    else some target
  | _, _ => none

/-- The kind of the nested type that the member declares. -/
def nestedKind? (scope : String) (m : MemberDeclaration) : Option Kind :=
  match m.declaredIn?, m.kind with
  | none, .enumeration enumerators isScoped =>
    some (.enumeration (evaluateEnumerators enumerators) isScoped)
  | _, _ => (m.synonymOf? scope).map fun target => .typedef target

/-- The nested type that the member declares, if it has this kind. -/
def nested (config : Configuration) (scope : String) (header? : Option String)
    (m : MemberDeclaration) (kind : Kind) : Descriptor :=
  let d := Descriptor.ofSpelled (m.qualifiedName scope) kind
  let kind := (config.customReflector? d.name).elim kind .custom
  { d with kind, header?, access := m.access }

/-- The nested type that the member declares. -/
def nestedType? (config : Configuration) (scope : String) (header? : Option String)
    (m : MemberDeclaration) : Option Descriptor :=
  (m.nestedKind? scope).map fun kind => (m.nested config scope header? kind).begun

end MemberDeclaration

namespace CompoundDeclaration

/-- The class that the compound declares. -/
def type? (config : Configuration) (c : CompoundDeclaration) : Option Descriptor :=
  match c.kind with
  | .isNamespace => none
  | .isClass | .isStruct | .isUnion => some (Descriptor.ofClass config c).begun

/-- The header of a type that a member declares. -/
def headerOf? (c : CompoundDeclaration) (m : MemberDeclaration) : Option String :=
  match c.kind with
  | .isNamespace => m.header? <|> c.header?
  | .isClass | .isStruct | .isUnion => c.header?

/-- The types that the registered members of a class use. -/
def memberTypes (config : Configuration) (c : CompoundDeclaration) : List String :=
  match c.kind with
  | .isNamespace => []
  | .isClass | .isStruct | .isUnion =>
    c.members.flatMap fun m => m.usedTypes (normalize c.name) (Descriptor.ofClass config c).kind

/-- The types that a compound uses. -/
def uses (config : Configuration) (c : CompoundDeclaration) : List String :=
  c.members.filterMap (fun m => m.synonymOf? (normalize c.name)) ++ c.memberTypes config

/-- The types that a compound declares. -/
def declared (config : Configuration) (c : CompoundDeclaration) : List Descriptor :=
  c.members.filterMap (fun m => m.nestedType? config (normalize c.name) (c.headerOf? m)) ++
    (c.type? config).toList

/-- The types that a compound offers, in their order. -/
def offered (config : Configuration) (c : CompoundDeclaration) : List Descriptor :=
  c.members.flatMap (fun m =>
      (m.synonymOf? (normalize c.name)).toList.flatMap config.offeredFor ++
        (m.nestedType? config (normalize c.name) (c.headerOf? m)).toList) ++
    (c.type? config).toList ++ (c.memberTypes config).flatMap config.offeredFor

/-- A compound offers what it declares, and what is offered where it uses types. -/
theorem mem_offered {config : Configuration} {c : CompoundDeclaration} {d : Descriptor} :
    d ∈ c.offered config ↔
      d ∈ c.declared config ∨ ∃ type ∈ c.uses config, d ∈ config.offeredFor type := by
  have of_members : d ∈ c.members.flatMap (fun m =>
      (m.synonymOf? (normalize c.name)).toList.flatMap config.offeredFor ++
        (m.nestedType? config (normalize c.name) (c.headerOf? m)).toList) ↔
      d ∈ c.members.filterMap (fun m =>
        m.nestedType? config (normalize c.name) (c.headerOf? m)) ∨
      ∃ type ∈ c.members.filterMap (fun m => m.synonymOf? (normalize c.name)),
        d ∈ config.offeredFor type := by
    simp only [List.mem_flatMap, List.mem_append, List.mem_filterMap, Option.mem_toList,
      and_or_left, exists_or]
    rw [or_comm]
    refine or_congr_right ⟨?_, ?_⟩
    · rintro ⟨m, mem, type, synonym, offered⟩
      exact ⟨type, ⟨m, mem, synonym⟩, offered⟩
    · rintro ⟨type, ⟨m, mem, synonym⟩, offered⟩
      exact ⟨m, mem, type, synonym, offered⟩
  have of_types : d ∈ (c.memberTypes config).flatMap config.offeredFor ↔
      ∃ type ∈ c.memberTypes config, d ∈ config.offeredFor type := List.mem_flatMap
  unfold offered declared uses
  simp only [List.mem_append, of_members, of_types, or_and_right, exists_or]
  rw [or_assoc, or_or_or_comm]

end CompoundDeclaration

/-- The type that is offered under a name where it is used. -/
def Configuration.usedType? (config : Configuration) (name : String) : Option Descriptor :=
  match config.customReflector? name, stdContainer? name with
  | some body, _ => some (Descriptor.ofSpelled name (.custom body)).begun
  | none, some container => some (Descriptor.ofSpelled name (.ofContainer container)).begun
  | none, none => none

/-- What is offered for a use follows from its name. -/
theorem Configuration.usedType?_of_mem_offeredFor {config : Configuration} {type : String}
    {d : Descriptor} (paired : PairedColons type) (mem : d ∈ config.offeredFor type) :
    config.usedType? d.name = some d := by
  obtain mem | mem := List.mem_append.mp mem
  · obtain ⟨s, named, made⟩ := List.mem_filterMap.mp mem
    obtain ⟨container, found, rfl⟩ := Option.map_eq_some_iff.mp made
    have name (kind : Kind) : (Descriptor.ofSpelled s kind).begun.name = s :=
      normalize_of_mem_containers paired named found
    rw [name, usedType?, found]
    cases config.customReflector? s <;> rfl
  · obtain ⟨s, named, made⟩ := List.mem_filterMap.mp mem
    obtain ⟨body, written, rfl⟩ := Option.map_eq_some_iff.mp made
    have name (kind : Kind) : (Descriptor.ofSpelled s kind).begun.name = s :=
      normalize_of_mem_templateIds paired named
    rw [name, usedType?, written]

/-! ### Building registers what is offered -/

namespace Building

variable {config : Configuration} {b : Building} {d : Descriptor}

@[simp] theorem note_registry (b : Building) (events : List Event) :
    (b.note events).registry = b.registry := rfl

theorem register_registry (b : Building) (d : Descriptor) :
    (b.register d).registry = b.registry.registerEach [d.begun] := by
  change _ = b.registry.perform (.register d.begun)
  unfold register
  cases result : b.registry.register { d with state := .building } with
  | ok registered => exact (Registry.perform_of_ok result).symm
  | error cause => exact (Registry.perform_of_error result).symm

/-- Steps that register types, one after another. -/
theorem foldl_registry {α : Type} {f : Building → α → Building} {offers : α → List Descriptor}
    {xs : List α} (b : Building)
    (step : ∀ x ∈ xs, ∀ b, (f b x).registry = b.registry.registerEach (offers x)) :
    (xs.foldl f b).registry = b.registry.registerEach (xs.flatMap offers) := by
  induction xs generalizing b with
  | nil => rfl
  | cons x xs ih =>
    rw [List.forall_mem_cons] at step
    rw [List.foldl_cons, ih _ step.2, step.1, ← Registry.registerEach_append, List.flatMap_cons]

theorem registerContainer_registry (b : Building) (spelled : String) :
    (b.registerContainer config spelled).registry =
      b.registry.registerEach (config.usedContainer? spelled).toList := by
  unfold registerContainer Configuration.usedContainer?
  cases stdContainer? spelled with
  | none => rfl
  | some container => exact register_registry b _

/-- An instantiation is looked up under its canonical name, so where it is found it would
not be taken. -/
theorem registerWritten_registry (b : Building) {spelled : String}
    (canonical : normalize spelled = spelled) :
    (b.registerWritten config spelled).registry =
      b.registry.registerEach (config.writtenType? spelled).toList := by
  unfold registerWritten Configuration.writtenType?
  split
  next body _ written =>
    rw [written]
    exact register_registry b _
  next other =>
    cases written : config.customReflector? spelled with
    | none => rfl
    | some body =>
      cases found : b.registry.lookup spelled with
      | none => exact absurd written (other body found)
      | some id =>
        obtain ⟨e, there, named⟩ := Registry.get?_of_lookup found
        have taken : (Descriptor.ofSpelled spelled (.custom body)).begun.name ∈
            b.registry.types.map Descriptor.name := by
          change normalize spelled ∈ _
          rw [canonical, ← named]
          exact List.mem_map_of_mem (List.mem_of_getElem? there)
        have refused := b.registry.perform_register
          (Descriptor.ofSpelled spelled (.custom body)).begun
        rw [if_pos taken] at refused
        exact refused.symm

theorem registerUses_registry (b : Building) {type : String} (paired : PairedColons type) :
    (b.registerUses config type).registry = b.registry.registerEach (config.offeredFor type) := by
  have written : ∀ s ∈ collectTemplateIds type [], ∀ b : Building,
      (b.registerWritten config s).registry =
        b.registry.registerEach (config.writtenType? s).toList :=
    fun s mem b => b.registerWritten_registry (normalize_of_mem_templateIds paired mem)
  unfold registerUses Configuration.offeredFor
  rw [Registry.registerEach_append, List.filterMap_eq_flatMap_toList,
    List.filterMap_eq_flatMap_toList]
  dsimp only
  rw [foldl_registry _ written, foldl_registry b fun s _ b => b.registerContainer_registry s]

section Nested

variable {scope : String} {header? : Option String} {m : MemberDeclaration}

theorem addNested_enumeration {enumerators : List EnumeratorDeclaration} {isScoped : Bool}
    (own : m.declaredIn? = none) (kind : m.kind = .enumeration enumerators isScoped) :
    b.addNested config scope header? m =
      (b.note (evaluationEvents (m.qualifiedName scope) [] enumerators)).register
        (m.nested config scope header?
          (.enumeration (evaluateEnumerators enumerators) isScoped)) := by
  rw [addNested, own, kind]
  rfl

theorem addNested_typedef {spelled : String} (own : m.declaredIn? = none)
    (kind : m.kind = .typedef spelled) :
    b.addNested config scope header? m =
      match m.synonymOf? scope with
      | some target =>
        (b.registerUses config target).register (m.nested config scope header? (.typedef target))
      | none => b := by
  rw [addNested, MemberDeclaration.synonymOf?, own, kind]
  change (if (normalize spelled).toList.contains '(' || normalize spelled == m.name ||
      normalize spelled == m.qualifiedName scope then b
    else (b.registerUses config (normalize spelled)).register
      (m.nested config scope header? (.typedef (normalize spelled)))) = _
  dsimp only
  split_ifs <;> rfl

theorem addNested_registry (b : Building)
    (paired : ∀ type ∈ m.synonymOf? scope, PairedColons type) :
    (b.addNested config scope header? m).registry =
      b.registry.registerEach ((m.synonymOf? scope).toList.flatMap config.offeredFor ++
        (m.nestedType? config scope header?).toList) := by
  have none_offered : b.registry = b.registry.registerEach [] := rfl
  cases own : m.declaredIn? with
  | some owner =>
    simpa [addNested, MemberDeclaration.nestedType?, MemberDeclaration.nestedKind?,
      MemberDeclaration.synonymOf?, own] using none_offered
  | none =>
    cases kind : m.kind with
    | enumeration enumerators isScoped =>
      rw [addNested_enumeration own kind, register_registry, note_registry]
      simp [MemberDeclaration.nestedType?, MemberDeclaration.nestedKind?,
        MemberDeclaration.synonymOf?, own, kind]
    | typedef spelled =>
      rw [addNested_typedef own kind]
      rw [MemberDeclaration.nestedType?, MemberDeclaration.nestedKind?, own, kind]
      cases synonym : m.synonymOf? scope with
      | none => exact none_offered
      | some target =>
        rw [synonym] at paired
        rw [register_registry, registerUses_registry _ (paired target rfl),
          ← Registry.registerEach_append]
        simp
    | _ =>
      simpa [addNested, MemberDeclaration.nestedType?, MemberDeclaration.nestedKind?,
        MemberDeclaration.synonymOf?, own, kind] using none_offered

/-- Members register the types that they declare, each after what it uses. -/
theorem foldl_addNested_registry {members : List MemberDeclaration} (b : Building)
    (headers : MemberDeclaration → Option String)
    (paired : ∀ type ∈ members.filterMap (fun m => m.synonymOf? scope), PairedColons type) :
    (members.foldl (fun b m => b.addNested config scope (headers m) m) b).registry =
      b.registry.registerEach (members.flatMap fun m =>
        (m.synonymOf? scope).toList.flatMap config.offeredFor ++
          (m.nestedType? config scope (headers m)).toList) := by
  refine foldl_registry b fun m mem b => b.addNested_registry fun type synonym => ?_
  exact paired type (List.mem_filterMap.mpr ⟨m, mem, synonym⟩)

end Nested

/-- Types that are used register what is offered for them. -/
theorem foldl_registerUses_registry {types : List String} (b : Building)
    (paired : ∀ type ∈ types, PairedColons type) :
    (types.foldl (registerUses config) b).registry =
      b.registry.registerEach (types.flatMap config.offeredFor) :=
  foldl_registry b fun type mem b => b.registerUses_registry (paired type mem)

/-- A compound registers what it offers. -/
theorem addCompound_registry (b : Building) {c : CompoundDeclaration}
    (paired : ∀ type ∈ c.uses config, PairedColons type) :
    (b.addCompound config c).registry = b.registry.registerEach (c.offered config) := by
  obtain ⟨synonyms, used⟩ := List.forall_mem_append.mp paired
  have nested (b : Building) : (c.members.foldl (fun b m =>
      b.addNested config (normalize c.name) (c.headerOf? m) m) b).registry = _ :=
    foldl_addNested_registry b c.headerOf? synonyms
  have used (b : Building) : ((c.memberTypes config).foldl (registerUses config) b).registry = _ :=
    foldl_registerUses_registry b used
  unfold addCompound CompoundDeclaration.offered
  cases kind : c.kind with
  | isNamespace =>
    simp only [CompoundDeclaration.headerOf?, kind] at nested
    simp only [nested, CompoundDeclaration.headerOf?, CompoundDeclaration.type?,
      CompoundDeclaration.memberTypes, kind]
    simp
  | isClass | isStruct | isUnion =>
    simp only [CompoundDeclaration.headerOf?, CompoundDeclaration.memberTypes, kind] at nested used
    simp only [addClass, used, register_registry, note_registry, nested,
      CompoundDeclaration.headerOf?, CompoundDeclaration.type?, CompoundDeclaration.memberTypes,
      kind, Registry.registerEach_append]
    rfl

end Building

/-! ### Indexes in memory -/

namespace DeclarationIndex

variable {cs : List CompoundDeclaration}

/-- Numbers are read back from their digits. -/
theorem number?_toString {n : Nat} (small : n < UInt64.size) : number? (toString n) = some n := by
  have digits : ∀ c ∈ Nat.toDigits 10 n, c.isDigit := fun c mem =>
    Nat.isDigit_of_mem_toDigits (by decide) (by decide) mem
  have text : toString n = String.ofList (Nat.toDigits 10 n) := Nat.toString_eq_ofList_toDigits
  have no_sign : Text.stripPrefix? "+" (toString n) = none := by
    rw [text, Text.stripPrefix?, String.toList_ofList, String.toList_ofList]
    cases split : Nat.toDigits 10 n with
    | nil => exact absurd split Nat.toDigits_ne_nil
    | cons c cs =>
      have ne : ('+' == c) = false := by
        rw [beq_eq_false_iff_ne]
        rintro rfl
        exact absurd (digits '+' (split ▸ List.mem_cons_self)) (by decide)
      rw [Text.after?, ne]
      rfl
  have nonempty : (toString n).isEmpty = false := by simp [text, Nat.toDigits_ne_nil]
  have value : (Nat.toDigits 10 n).foldl (fun n c => 10 * n + (c.toNat - '0'.toNat)) 0 = n :=
    Nat.ofDigitChars_ten_toDigits
  unfold number?
  dsimp only
  rw [no_sign, Option.getD_none, nonempty, text, String.toList_ofList, List.all_eq_true.mpr digits,
    value]
  exact if_pos small

theorem resolve_ofCompounds (few : cs.length ≤ UInt64.size) {n : Nat} {c : CompoundDeclaration}
    (there : cs[n]? = some c) : (ofCompounds cs).resolve (toString n) = .ok c := by
  have inside : n < cs.length := (List.getElem?_eq_some_iff.mp there).1
  rw [ofCompounds]
  dsimp only
  rw [number?_toString (Nat.lt_of_lt_of_le inside few), Option.bind_some, there]

/-- The handles of an index in memory lead to its compounds, in their order. -/
theorem forall₂_resolve (few : cs.length ≤ UInt64.size) :
    List.Forall₂ (fun handle c => (ofCompounds cs).resolve handle = .ok c)
      (ofCompounds cs).handles cs := by
  rw [List.forall₂_iff_get]
  have length : (ofCompounds cs).handles.length = cs.length := by simp [ofCompounds]
  refine ⟨length, fun n _ inside => ?_⟩
  have handle : (ofCompounds cs).handles.get ⟨n, length ▸ inside⟩ = toString n := by
    simp [ofCompounds]
  rw [handle]
  exact resolve_ofCompounds few (List.getElem?_eq_getElem inside)

end DeclarationIndex

/-- Handles that lead to compounds add those compounds. -/
theorem Building.foldl_addHandle {index : DeclarationIndex} {config : Configuration}
    {handles : List String} {cs : List CompoundDeclaration}
    (resolved : List.Forall₂ (fun handle c => index.resolve handle = .ok c) handles cs)
    (b : Building) :
    handles.foldl (addHandle index config) b = cs.foldl (addCompound config) b := by
  induction resolved generalizing b with
  | nil => rfl
  | cons found _ ih =>
    rw [List.foldl_cons, List.foldl_cons, ih, addHandle, found]

/-- **What is built is what is offered.** -/
theorem Registry.build_registry {config : Configuration} {cs : List CompoundDeclaration}
    (few : cs.length ≤ UInt64.size)
    (paired : ∀ c ∈ cs, ∀ type ∈ c.uses config, PairedColons type) :
    (Registry.build (.ofCompounds cs) config).registry =
      ({} : Registry).registerEach (cs.flatMap (CompoundDeclaration.offered config)) := by
  have added : (DeclarationIndex.ofCompounds cs).handles.foldl
      (Building.addHandle (.ofCompounds cs) config) { events := [.building] } = _ :=
    Building.foldl_addHandle (DeclarationIndex.forall₂_resolve few) _
  have step : ∀ c ∈ cs, ∀ b : Building,
      (b.addCompound config c).registry = b.registry.registerEach (c.offered config) :=
    fun c mem b => b.addCompound_registry (paired c mem)
  have registered := Building.foldl_registry { events := [.building] } step
  rw [← added] at registered
  exact registered

end Reflectory
