/-
Methods and signatures that classes declare.

A function member of a class can leave two traces in its descriptor. It is registered as a
method, where it can be wrapped: not where it is private, an operator, or a member of a type
that is reflected without its members. And its signature is recorded, where objects can
override it or it can override another one: not where it is a constructor, static, or
inherited. The signature of a registered method is recorded with it, that of another one by
itself; what is recorded is the same either way, so that neither access nor the kind of the
type has a part in whether a class is abstract.

* `signatures_declare`: both ways record the same.
* `mem_signatures_declare`: the signature that one member adds.
* `methods_declare`: the method that one member adds.
* `members_declare_methods`: the methods and signatures of the descriptor of a class.
-/

import Mathlib.Data.List.DropRight
import Mathlib.Tactic.SplitIfs
import Reflectory.Registry.Building

namespace Reflectory

open Spelling

variable {m : MemberDeclaration} {type : String} {kind : Kind} {method : Method}

/-! ### Function members -/

/-- An operator has a name that starts with the word, which ends there. -/
def OperatorName (name : String) : Prop :=
  ∃ rest, name.toList = "operator".toList ++ rest ∧
    ∀ c ∈ rest.head?, ¬ (Text.isAlphanumeric c ∨ c = '_')

theorem isOperator_iff {name : String} : isOperator name = true ↔ OperatorName name := by
  unfold isOperator OperatorName
  constructor
  · intro operator
    split at operator
    next after => exact ⟨[], Text.after?_eq_some_iff.mp after, nofun⟩
    next c rest after =>
      refine ⟨c :: rest, Text.after?_eq_some_iff.mp after, ?_⟩
      simpa [not_or] using operator
    next => cases operator
  · rintro ⟨rest, starts, ends⟩
    rw [Text.after?_eq_some_iff.mpr starts]
    cases rest with
    | nil => rfl
    | cons c rest => simpa [not_or] using ends c rfl

/-- A text of blanks has nothing left without them. -/
theorem Text.isEmpty_trim_iff {s : String} :
    (Text.trim s).isEmpty = true ↔ ∀ c ∈ s.toList, Text.isBlank c = true := by
  have dropped (cs : List Char) : cs.dropWhile isBlank = [] ↔ ∀ c ∈ cs, isBlank c = true :=
    List.dropWhile_eq_nil_iff
  have ends : Text.trimWhile isBlank s.toList = [] ↔ s.toList.dropWhile isBlank = [] := by
    rw [trimWhile, dropEndWhile, List.reverse_eq_nil_iff, dropped]
    simp only [List.mem_reverse]
    rw [← dropped, List.dropWhile_idempotent]
  rw [String.isEmpty_iff, trim, String.ofList_eq_empty_iff, ends, dropped]

namespace MemberDeclaration

/-- The member is a function with these parts that can be a method: destructors and functions
with any number of arguments cannot. -/
structure IsFunction (m : MemberDeclaration) (returnType : String)
    (params : List ParameterDeclaration) (isConst isExplicit : Bool) (virtuality : Virtuality) :
    Prop where
  kind : m.kind = .function returnType params isConst isExplicit virtuality
  noDestructor : ∀ rest, m.name.toList ≠ '~' :: rest
  notVariadic : ∀ p ∈ params, Text.trim p.type ≠ "..."

/-- A function with this return type is a constructor of the class: it has its name, and the
return type is blank. -/
def IsConstructor (m : MemberDeclaration) (type returnType : String) : Prop :=
  m.name = constructorName type ∧ ∀ c ∈ returnType.toList, Text.isBlank c = true

/-- The member has a signature that can override others or be overridden in the class: it is
a function of its instances that the class declares itself. -/
def Declares (m : MemberDeclaration) (type : String) (s : Signature) (virtuality : Virtuality) :
    Prop :=
  ∃ returnType params isConst isExplicit,
    m.IsFunction returnType params isConst isExplicit virtuality ∧
    ¬ m.IsConstructor type returnType ∧ m.isStatic = false ∧ m.declaredIn? = none ∧
    s = ⟨m.name, params.map fun p => normalize (valueType (normalize p.type)), isConst⟩

/-- The method is what the member says of a function with these parts. -/
structure Describes (m : MemberDeclaration) (type returnType : String)
    (params : List ParameterDeclaration) (method : Method) : Prop where
  function : m.IsFunction returnType params method.isConst method.isExplicit method.virtuality
  name : method.name = m.name
  params : method.params = params.map fun p => ⟨normalize p.type, p.name?.getD "", p.default?⟩
  ofConstructor : m.IsConstructor type returnType → method.returnType? = none
  ofOther : ¬ m.IsConstructor type returnType → method.returnType? = some (normalize returnType)
  isStatic : method.isStatic = m.isStatic
  declaredIn? : method.declaredIn? = m.declaredIn?

/-- The member is registered as this method of a type that is reflected with its members: a
public or protected function that is no operator. -/
def Registers (m : MemberDeclaration) (type : String) (method : Method) : Prop :=
  ∃ returnType params, m.Describes type returnType params method ∧ ¬ OperatorName m.name ∧
    m.access.visibility? = some method.visibility

end MemberDeclaration

/-- Whether a method can override others: it is one of the instances that the class declares
itself. -/
def Method.CanOverride (method : Method) : Prop :=
  method.declaredIn? = none ∧ method.isConstructor = false ∧ method.isStatic = false

theorem Method.canOverride_iff :
    (method.declaredIn?.isNone && !method.isConstructor && !method.isStatic) = true ↔
      method.CanOverride := by
  simp [CanOverride, and_assoc]

/-! ### One member -/

namespace MemberDeclaration

theorem isConstructor_iff {returnType : String} {params : List ParameterDeclaration}
    {isConst isExplicit : Bool} {virtuality : Virtuality}
    (function : m.kind = .function returnType params isConst isExplicit virtuality) :
    m.isConstructor (constructorName type) = true ↔ m.IsConstructor type returnType := by
  rw [isConstructor, function, Bool.and_eq_true, beq_iff_eq, Text.isEmpty_trim_iff, IsConstructor]

/-- What keeps a function from being a method. -/
theorem not_excluded_iff {params : List ParameterDeclaration} :
    ¬ (decide (m.name.toList.head? = some '~') ||
        params.any fun p => Text.trim p.type == "...") = true ↔
      (∀ rest, m.name.toList ≠ '~' :: rest) ∧ ∀ p ∈ params, Text.trim p.type ≠ "..." := by
  have destructor : m.name.toList.head? = some '~' ↔ ∃ rest, m.name.toList = '~' :: rest := by
    rw [List.head?_eq_some_iff]
  simp [destructor]

theorem isFunction_of_method? {constructors : String}
    (read : m.method? constructors = some method) :
    ∃ returnType params isConst isExplicit virtuality,
      m.IsFunction returnType params isConst isExplicit virtuality := by
  unfold method? at read
  split at read
  next returnType params isConst isExplicit virtuality kind =>
    split at read
    · cases read
    next able =>
      obtain ⟨noDestructor, notVariadic⟩ := not_excluded_iff.mp able
      exact ⟨returnType, params, isConst, isExplicit, virtuality, kind, noDestructor, notVariadic⟩
  next => cases read

/-- A function that can be a method is read as one that it describes. -/
theorem exists_method? {returnType : String} {params : List ParameterDeclaration}
    {isConst isExplicit : Bool} {virtuality : Virtuality}
    (function : m.IsFunction returnType params isConst isExplicit virtuality) (type : String) :
    ∃ method, m.method? (constructorName type) = some method ∧
      m.Describes type returnType params method ∧ method.visibility = .isPublic := by
  have ⟨kind, noDestructor, notVariadic⟩ := function
  unfold method?
  rw [kind]
  dsimp only
  rw [if_neg (not_excluded_iff.mpr ⟨noDestructor, notVariadic⟩)]
  refine ⟨_, rfl, ?_⟩
  by_cases constructor : m.IsConstructor type returnType
  · rw [if_pos ((isConstructor_iff kind).mpr constructor)]
    exact ⟨⟨function, rfl, rfl, fun _ => rfl, fun other => absurd constructor other, rfl, rfl⟩, rfl⟩
  · rw [if_neg ((isConstructor_iff kind).not.mpr constructor)]
    exact ⟨⟨function, rfl, rfl, fun other => absurd other constructor, fun _ => rfl, rfl, rfl⟩, rfl⟩

/-- Only the visibility of a method is not described. -/
theorem Describes.unique {returnType returnType' : String}
    {params params' : List ParameterDeclaration} {method' : Method}
    (describes : m.Describes type returnType params method)
    (describes' : m.Describes type returnType' params' method')
    (visibility : method.visibility = method'.visibility) : method = method' := by
  obtain ⟨rfl, rfl, isConst, isExplicit, virtuality⟩ :=
    MemberKind.function.inj (describes.function.kind.symm.trans describes'.function.kind)
  have returned : method.returnType? = method'.returnType? := by
    by_cases constructor : m.IsConstructor type returnType
    · rw [describes.ofConstructor constructor, describes'.ofConstructor constructor]
    · rw [describes.ofOther constructor, describes'.ofOther constructor]
  have name := describes.name.trans describes'.name.symm
  have params := describes.params.trans describes'.params.symm
  have isStatic := describes.isStatic.trans describes'.isStatic.symm
  have declaredIn? := describes.declaredIn?.trans describes'.declaredIn?.symm
  cases method
  cases method'
  rw [Method.mk.injEq]
  exact ⟨name, params, returned, isStatic, isConst, isExplicit, virtuality, visibility,
    declaredIn?⟩

/-- What is read are the methods that are described, as public ones. -/
theorem method?_eq_some_iff : m.method? (constructorName type) = some method ↔
    (∃ returnType params, m.Describes type returnType params method) ∧
      method.visibility = .isPublic := by
  constructor
  · intro read
    obtain ⟨returnType, params, _, _, _, function⟩ := isFunction_of_method? read
    obtain ⟨method', read', describes, visibility⟩ := exists_method? function type
    cases read.symm.trans read'
    exact ⟨⟨returnType, params, describes⟩, visibility⟩
  · rintro ⟨⟨returnType, params, describes⟩, visibility⟩
    obtain ⟨method', read, describes', visibility'⟩ := exists_method? describes.function type
    rw [read, describes.unique describes' (visibility.trans visibility'.symm)]

/-- The method of a function is a constructor if the function is one. -/
theorem Describes.isConstructor_iff {returnType : String} {params : List ParameterDeclaration}
    (describes : m.Describes type returnType params method) :
    method.isConstructor = true ↔ m.isConstructor (constructorName type) = true := by
  rw [MemberDeclaration.isConstructor_iff describes.function.kind, Method.isConstructor]
  by_cases constructor : m.IsConstructor type returnType
  · simp [describes.ofConstructor constructor, constructor]
  · simp [describes.ofOther constructor, constructor]

/-- The signature of a function may be recorded by itself where its method can override
others. -/
theorem recorded_iff (read : m.method? (constructorName type) = some method) :
    (!m.isConstructor (constructorName type) && !m.isStatic && m.declaredIn?.isNone) = true ↔
      method.CanOverride := by
  obtain ⟨⟨returnType, params, describes⟩, -⟩ := method?_eq_some_iff.mp read
  rw [Method.CanOverride, describes.declaredIn?, describes.isStatic, ← Bool.not_eq_true,
    describes.isConstructor_iff]
  simp only [Bool.and_eq_true, Bool.not_eq_true', Bool.not_eq_true, Option.isNone_iff_eq_none]
  constructor
  · rintro ⟨⟨other, ofInstance⟩, own⟩
    exact ⟨own, other, ofInstance⟩
  · rintro ⟨own, other, ofInstance⟩
    exact ⟨⟨other, ofInstance⟩, own⟩

/-- The member is registered as the method that the rules give, and as no other. -/
theorem registeredMethod?_eq_some_iff : m.registeredMethod? type kind = some method ↔
    kind.hasMembers = true ∧ m.Registers type method := by
  unfold registeredMethod? Registers
  constructor
  · intro registered
    split at registered
    next read visible =>
      split_ifs at registered with able
      obtain ⟨hasMembers, notOperator⟩ := Bool.and_eq_true_iff.mp able
      cases registered
      obtain ⟨⟨returnType, params, describes⟩, -⟩ := method?_eq_some_iff.mp read
      refine ⟨hasMembers, returnType, params, ?_, ?_, visible⟩
      · exact { describes with }
      · rwa [← isOperator_iff, Bool.not_eq_true, ← Bool.not_eq_true']
    next => cases registered
  · rintro ⟨hasMembers, returnType, params, describes, notOperator, visible⟩
    have read : m.method? (constructorName type) = some { method with visibility := .isPublic } :=
      method?_eq_some_iff.mpr ⟨⟨returnType, params, { describes with }⟩, rfl⟩
    have able : (kind.hasMembers && !isOperator m.name) = true := by
      rw [hasMembers, Bool.true_and, Bool.not_eq_true', ← Bool.not_eq_true, isOperator_iff]
      exact notOperator
    rw [read, visible]
    dsimp only
    rw [if_pos able]

/-- A signature is declared by the members whose methods have it and can override. -/
theorem declares_iff {s : Signature} {virtuality : Virtuality} :
    m.Declares type s virtuality ↔ ∃ method, m.method? (constructorName type) = some method ∧
      method.CanOverride ∧ method.signature = s ∧ method.virtuality = virtuality := by
  constructor
  · rintro ⟨returnType, params, isConst, isExplicit, function, other, ofInstance, own, rfl⟩
    let method : Method :=
      { name := m.name
        params := params.map fun p => ⟨normalize p.type, p.name?.getD "", p.default?⟩
        returnType? := some (normalize returnType)
        isConst, isExplicit, virtuality }
    have describes : m.Describes type returnType params method :=
      ⟨function, rfl, rfl, fun constructor => absurd constructor other, fun _ => rfl,
        ofInstance.symm, own.symm⟩
    refine ⟨method, method?_eq_some_iff.mpr ⟨⟨returnType, params, describes⟩, rfl⟩,
      ⟨rfl, rfl, rfl⟩, ?_, rfl⟩
    simp [method, Method.signature, Signature.ofSpelled]
  · rintro ⟨method, read, ⟨own, notConstructor, ofInstance⟩, rfl, rfl⟩
    obtain ⟨⟨returnType, params, describes⟩, -⟩ := method?_eq_some_iff.mp read
    refine ⟨returnType, params, _, _, describes.function, fun constructor => ?_, ?_, ?_, ?_⟩
    · simp [Method.isConstructor, describes.ofConstructor constructor] at notConstructor
    · rw [← describes.isStatic, ofInstance]
    · rw [← describes.declaredIn?, own]
    · simp [Method.signature, Signature.ofSpelled, describes.name, describes.params]

end MemberDeclaration

/-! ### The sets of a descriptor -/

theorem SignatureSet.nodup_insert {set : SignatureSet} (nodup : set.Nodup) (s : Signature) :
    (set.insert s).Nodup := by
  unfold insert
  split
  · exact nodup
  next fresh =>
    refine List.nodup_append.mpr ⟨nodup, by simp, ?_⟩
    rintro t mem t' mem' rfl
    exact fresh (List.mem_singleton.mp mem' ▸ mem)

namespace Descriptor

variable {d : Descriptor} {s : Signature} {isPure : Bool}

/-- The pure virtual signatures that a type declares, or the others. -/
def signatures (d : Descriptor) (isPure : Bool) : SignatureSet :=
  if isPure then d.pureVirtuals else d.implemented

theorem signatures_recordSignature (d : Descriptor) (s : Signature) (virtuality : Virtuality) :
    (d.recordSignature s virtuality).signatures isPure =
      if virtuality = .pureVirtual ↔ isPure = true then (d.signatures isPure).insert s
      else d.signatures isPure := by
  cases virtuality <;> cases isPure <;> rfl

/-- The signature of a method is recorded with those of its virtuality, if it can override. -/
theorem mem_signatures_recordMethod : s ∈ (d.recordMethod method).signatures isPure ↔
    s ∈ d.signatures isPure ∨
      method.CanOverride ∧ method.signature = s ∧
        (method.virtuality = .pureVirtual ↔ isPure = true) := by
  rw [← Method.canOverride_iff]
  unfold recordMethod
  by_cases overrides :
    (method.declaredIn?.isNone && !method.isConstructor && !method.isStatic) = true
  · rw [if_pos overrides, signatures_recordSignature]
    split
    next fits => simp only [SignatureSet.mem_insert, overrides, fits, eq_comm, true_and, and_true]
    next other => simp only [other, and_false, or_false]
  · rw [if_neg overrides]
    simp only [overrides, Bool.false_eq_true, false_and, or_false]

theorem nodup_signatures_recordMethod (nodup : (d.signatures isPure).Nodup) (method : Method) :
    ((d.recordMethod method).signatures isPure).Nodup := by
  unfold recordMethod
  split
  · rw [signatures_recordSignature]
    split
    · exact SignatureSet.nodup_insert nodup _
    · exact nodup
  · exact nodup

/-- Recording a method leaves everything but the sets as it is. -/
theorem recordMethod_eq (d : Descriptor) (method : Method) : ∃ pureVirtuals implemented,
    d.recordMethod method = { d with pureVirtuals, implemented } := by
  unfold recordMethod recordSignature
  split
  · split <;> exact ⟨_, _, rfl⟩
  · exact ⟨_, _, rfl⟩

theorem methods_recordMethod (d : Descriptor) (method : Method) :
    (d.recordMethod method).methods = d.methods := by
  obtain ⟨_, _, recorded⟩ := d.recordMethod_eq method
  rw [recorded]

theorem kind_recordMethod (d : Descriptor) (method : Method) :
    (d.recordMethod method).kind = d.kind := by
  obtain ⟨_, _, recorded⟩ := d.recordMethod_eq method
  rw [recorded]

/-- A registered method is recorded as it is by itself, whatever its visibility. -/
theorem signatures_addMethod (d : Descriptor) (method : Method) (visibility : Visibility)
    (isPure : Bool) : (d.addMethod { method with visibility }).signatures isPure =
      (d.recordMethod method).signatures isPure := by
  unfold addMethod recordMethod
  by_cases overrides :
    (method.declaredIn?.isNone && !method.isConstructor && !method.isStatic) = true
  · rw [if_pos overrides, if_pos (by exact overrides), signatures_recordSignature,
      signatures_recordSignature]
    rfl
  · rw [if_neg overrides, if_neg (by exact overrides)]
    rfl

/-- The condition on a function that is not registered is the one under which its method is
recorded. -/
theorem declare_eq (type : String) (d : Descriptor) (m : MemberDeclaration) :
    d.declare type m =
      match m.registeredMethod? type d.kind with
      | some method => d.addMethod method
      | none => (m.method? (constructorName type)).elim d d.recordMethod := by
  unfold declare
  cases m.registeredMethod? type d.kind with
  | some method => rfl
  | none =>
    cases read : m.method? (constructorName type) with
    | none => rfl
    | some method =>
      have same : (!m.isConstructor (constructorName type) && !m.isStatic &&
          m.declaredIn?.isNone) =
            (method.declaredIn?.isNone && !method.isConstructor && !method.isStatic) := by
        rw [Bool.eq_iff_iff, MemberDeclaration.recorded_iff read, Method.canOverride_iff]
      simp only [same, Option.elim_some, recordMethod]

/-- Both ways record the same: what a member adds to the sets is what its method adds when it
is recorded by itself. -/
theorem signatures_declare (type : String) (d : Descriptor) (m : MemberDeclaration)
    (isPure : Bool) : (d.declare type m).signatures isPure =
      ((m.method? (constructorName type)).elim d d.recordMethod).signatures isPure := by
  rw [declare_eq]
  split
  next registered method there =>
    unfold MemberDeclaration.registeredMethod? at there
    split at there
    next method visibility read _ =>
      split_ifs at there
      cases there
      rw [read, Option.elim_some, signatures_addMethod]
    next => cases there
  next => rfl

/-- The sets get the signature that a member declares, and no other. -/
theorem mem_signatures_declare : s ∈ (d.declare type m).signatures isPure ↔
    s ∈ d.signatures isPure ∨
      ∃ virtuality, m.Declares type s virtuality ∧
        (virtuality = .pureVirtual ↔ isPure = true) := by
  rw [signatures_declare]
  simp only [MemberDeclaration.declares_iff]
  cases read : m.method? (constructorName type) with
  | none => simp
  | some method =>
    rw [Option.elim_some, mem_signatures_recordMethod]
    refine or_congr_right ⟨?_, ?_⟩
    · rintro ⟨overrides, same, fits⟩
      exact ⟨_, ⟨method, rfl, overrides, same, rfl⟩, fits⟩
    · rintro ⟨_, ⟨_, same, overrides, signature, rfl⟩, fits⟩
      cases same
      exact ⟨overrides, signature, fits⟩

theorem nodup_signatures_declare (nodup : (d.signatures isPure).Nodup) (type : String)
    (m : MemberDeclaration) : ((d.declare type m).signatures isPure).Nodup := by
  rw [signatures_declare]
  cases m.method? (constructorName type) with
  | none => exact nodup
  | some method => exact nodup_signatures_recordMethod nodup method

theorem kind_declare (type : String) (d : Descriptor) (m : MemberDeclaration) :
    (d.declare type m).kind = d.kind := by
  rw [declare_eq]
  split
  · exact kind_recordMethod _ _
  · cases m.method? (constructorName type) with
    | none => rfl
    | some method => exact kind_recordMethod _ _

/-- The method that a member is registered as comes behind the others. -/
theorem methods_declare (type : String) (d : Descriptor) (m : MemberDeclaration) :
    (d.declare type m).methods = d.methods ++ (m.registeredMethod? type d.kind).toList := by
  rw [declare_eq]
  split
  next method registered =>
    rw [registered, addMethod, methods_recordMethod]
    rfl
  next absent =>
    rw [absent, Option.toList_none, List.append_nil]
    cases m.method? (constructorName type) with
    | none => rfl
    | some method => exact methods_recordMethod _ _

/-! ### All members -/

variable {members : List MemberDeclaration}

theorem mem_signatures_foldl_declare :
    s ∈ (members.foldl (declare type) d).signatures isPure ↔
      s ∈ d.signatures isPure ∨
        ∃ m ∈ members, ∃ virtuality, m.Declares type s virtuality ∧
          (virtuality = .pureVirtual ↔ isPure = true) := by
  induction members generalizing d with
  | nil => simp
  | cons m members ih =>
    rw [List.foldl_cons, ih, mem_signatures_declare, or_assoc]
    simp only [List.mem_cons, exists_eq_or_imp]

theorem nodup_signatures_foldl_declare (nodup : (d.signatures isPure).Nodup) (type : String)
    (members : List MemberDeclaration) :
    ((members.foldl (declare type) d).signatures isPure).Nodup := by
  induction members generalizing d with
  | nil => exact nodup
  | cons m members ih => exact ih (nodup_signatures_declare nodup type m)

theorem kind_foldl_declare (type : String) (members : List MemberDeclaration) (d : Descriptor) :
    (members.foldl (declare type) d).kind = d.kind := by
  induction members generalizing d with
  | nil => rfl
  | cons m members ih => exact (ih _).trans (kind_declare type d m)

theorem methods_foldl_declare (type : String) (members : List MemberDeclaration)
    (d : Descriptor) : (members.foldl (declare type) d).methods =
      d.methods ++ members.filterMap fun m => m.registeredMethod? type d.kind := by
  induction members generalizing d with
  | nil => simp
  | cons m members ih =>
    rw [List.foldl_cons, ih, kind_declare, methods_declare, List.append_assoc,
      List.filterMap_cons]
    cases m.registeredMethod? type d.kind <;> rfl

/-! ### Classes -/

section Classes

variable (config : Configuration) (c : CompoundDeclaration) (isPure : Bool)

/-- The members of a class do not change its kind. -/
theorem kind_ofClass : (ofClass config c).kind = c.typeKind config (normalize c.name) :=
  kind_foldl_declare _ _ _

/-- A class has the signatures that its members declare. -/
theorem mem_signatures_ofClass : s ∈ (ofClass config c).signatures isPure ↔
    ∃ m ∈ c.members, ∃ virtuality, m.Declares (normalize c.name) s virtuality ∧
      (virtuality = .pureVirtual ↔ isPure = true) := by
  refine mem_signatures_foldl_declare.trans ?_
  cases isPure <;> simp [signatures, ofSpelled]

theorem nodup_signatures_ofClass : ((ofClass config c).signatures isPure).Nodup := by
  refine nodup_signatures_foldl_declare ?_ _ _
  cases isPure <;> exact .nil

theorem methods_ofClass : (ofClass config c).methods =
    c.members.filterMap fun m =>
      m.registeredMethod? (normalize c.name) (ofClass config c).kind := by
  rw [kind_ofClass]
  exact methods_foldl_declare _ _ _

end Classes

end Descriptor

/-- The methods are those that the members are registered as, in their order; other members
are passed over. -/
inductive MethodsOf (type : String) : List MemberDeclaration → List Method → Prop where
  | nil : MethodsOf type [] []
  | method {m : MemberDeclaration} {members : List MemberDeclaration} {method : Method}
      {methods : List Method} : m.Registers type method → MethodsOf type members methods →
      MethodsOf type (m :: members) (method :: methods)
  | other {m : MemberDeclaration} {members : List MemberDeclaration} {methods : List Method} :
      (∀ method, ¬ m.Registers type method) → MethodsOf type members methods →
      MethodsOf type (m :: members) methods

/-- The members of a type that is reflected with them have these methods, and no others. -/
theorem methodsOf_iff (hasMembers : kind.hasMembers = true) {members : List MemberDeclaration}
    {methods : List Method} : MethodsOf type members methods ↔
      methods = members.filterMap fun m => m.registeredMethod? type kind := by
  constructor
  · intro methodsOf
    induction methodsOf with
    | nil => rfl
    | method registers _ ih =>
      have registered := MemberDeclaration.registeredMethod?_eq_some_iff.mpr
        ⟨hasMembers, registers⟩
      rw [List.filterMap_cons, registered, ih]
    | @other m _ _ others _ ih =>
      have unregistered : m.registeredMethod? type kind = none := by
        refine Option.eq_none_iff_forall_ne_some.mpr fun method registered => ?_
        exact others method (MemberDeclaration.registeredMethod?_eq_some_iff.mp registered).2
      rw [List.filterMap_cons, unregistered, ih]
  · rintro rfl
    induction members with
    | nil => exact .nil
    | cons m members ih =>
      rw [List.filterMap_cons]
      cases registered : m.registeredMethod? type kind with
      | some method =>
        exact .method (MemberDeclaration.registeredMethod?_eq_some_iff.mp registered).2 ih
      | none =>
        refine .other (fun method registers => ?_) ih
        rw [MemberDeclaration.registeredMethod?_eq_some_iff.mpr ⟨hasMembers, registers⟩]
          at registered
        cases registered

theorem registeredMethod?_of_no_members (noMembers : kind.hasMembers = false) (type : String)
    (m : MemberDeclaration) : m.registeredMethod? type kind = none := by
  refine Option.eq_none_iff_forall_ne_some.mpr fun method registered => ?_
  have hasMembers := (MemberDeclaration.registeredMethod?_eq_some_iff.mp registered).1
  rw [noMembers] at hasMembers
  cases hasMembers

/-- **Members declare methods and signatures.** The descriptor of a class records the
signatures of the functions among its members that are no destructors, constructors or static
functions, have no arguments of any number, and are not inherited, each once; the pure virtual
ones apart from the others. Their access, whether they are operators, and the kind of the type
have no part in that. Its methods are, in their order, the public and protected functions that
are no destructors or operators and have no arguments of any number, and it has none if it is
reflected without its members. -/
theorem members_declare_methods (config : Configuration) (c : CompoundDeclaration) :
    let type := normalize c.name
    let d := Descriptor.ofClass config c
    (d.pureVirtuals.Nodup ∧
      ∀ s, s ∈ d.pureVirtuals ↔ ∃ m ∈ c.members, m.Declares type s .pureVirtual) ∧
    (d.implemented.Nodup ∧
      ∀ s, s ∈ d.implemented ↔
        ∃ m ∈ c.members, ∃ virtuality ≠ .pureVirtual, m.Declares type s virtuality) ∧
    d.kind = c.typeKind config type ∧
    (d.kind.hasMembers = true →
      ∀ methods, MethodsOf type c.members methods ↔ methods = d.methods) ∧
    (d.kind.hasMembers = false → d.methods = []) := by
  intro type d
  refine ⟨⟨?_, fun s => ?_⟩, ⟨?_, fun s => ?_⟩, ?_, ?_, ?_⟩
  · exact Descriptor.nodup_signatures_ofClass config c true
  · refine (Descriptor.mem_signatures_ofClass config c true).trans ?_
    simp [type]
  · exact Descriptor.nodup_signatures_ofClass config c false
  · refine (Descriptor.mem_signatures_ofClass config c false).trans ?_
    simp [type, and_comm]
  · exact Descriptor.kind_ofClass config c
  · intro hasMembers methods
    rw [methodsOf_iff hasMembers, Descriptor.methods_ofClass]
  · intro noMembers
    rw [Descriptor.methods_ofClass, List.filterMap_eq_nil_iff]
    exact fun m _ => registeredMethod?_of_no_members noMembers _ m

example :
    let c := ((((CompoundDeclaration.ofClass "Node").member (.function "Node" "")).member
      ((MemberDeclaration.function "operator()" "void").withAccess .isPrivate)).member
      ((MemberDeclaration.function "draw" "void").withVirtuality .pureVirtual)).member
      (MemberDeclaration.function "count" "int").static
    let d := Descriptor.ofClass {} c
    d.implemented.map Signature.name = ["operator()"] ∧
      d.pureVirtuals.map Signature.name = ["draw"] ∧
      d.methods.map Method.name = ["Node", "draw", "count"] := by
  decide +kernel

end Reflectory
