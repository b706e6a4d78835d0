/-
What the identifiers of wrappers tell of methods.

The identifier of a wrapper has the encoded types of a method and its name, double low lines
between them. They are found again where the name has none and the encodings have neither
two low lines side by side nor one at an end, and then the identifier determines what the
encodings do: the tokens of the types that have codes. Two types that differ only in where
brackets close or arguments end have one encoding, so overloads can share an identifier.

* `wrapperId_eq_iff`: what an identifier determines.
* `wrapper_ids_identify`: where that is the method, for the wrappers of a unit and for the
  accessors on the lines of its properties.
-/

import Reflectory.Proofs.Generation.PropertyLines
import Reflectory.Proofs.Spelling.Encoding

namespace Reflectory

open Spelling

/-! ### Parts of an identifier -/

/-- What stands behind the name in the identifier of a wrapper. -/
def Method.encodedParams (m : Method) : List String :=
  m.params.map (fun p => mangle p.type) ++
    if m.isConst && !m.isConstructor then ["const"] else []

theorem Method.toList_wrapperId (m : Method) :
    m.wrapperId.toList = '_' :: '_' :: ((mangle m.returnType).toList ++
      '_' :: '_' :: (m.name.toList ++ behindLines (m.encodedParams.map String.toList))) := by
  have params : (String.join (m.params.map fun p => "__" ++ mangle p.type)).toList =
      behindLines ((m.params.map fun p => mangle p.type).map String.toList) := by
    simp [String.toList_join, behindLines, List.flatMap_map]
  rw [wrapperId, encodedParams]
  split_ifs <;> simp [params, behindLines]

/-- Lists that end with a mark or do without are told apart by it. -/
theorem append_mark_iff {α : Type} {xs ys : List α} {mark : α} (unmarked : mark ∉ xs)
    (unmarked' : mark ∉ ys) (marked marked' : Bool) :
    (xs ++ if marked then [mark] else []) = (ys ++ if marked' then [mark] else []) ↔
      xs = ys ∧ marked = marked' := by
  cases marked <;> cases marked'
  · simp
  · simp only [Bool.false_eq_true, if_false, if_true, List.append_nil, and_false, iff_false]
    rintro rfl
    exact unmarked (List.mem_append_right _ (List.mem_singleton_self mark))
  · simp only [Bool.false_eq_true, if_false, if_true, List.append_nil, Bool.true_eq_false,
      and_false, iff_false]
    rintro rfl
    exact unmarked' (List.mem_append_right _ (List.mem_singleton_self mark))
  · simp

/-- Lists have the same values under a map where they have them under another. -/
theorem map_eq_map_of_imp {α β γ : Type} {f : α → β} {g : α → γ} {xs ys : List α}
    (each : ∀ x ∈ xs, ∀ y ∈ ys, f x = f y → g x = g y) (same : xs.map f = ys.map f) :
    xs.map g = ys.map g := by
  induction xs generalizing ys with
  | nil => rw [List.map_eq_nil_iff.mp same.symm]
  | cons x xs ih =>
    cases ys with
    | nil => cases same
    | cons y ys =>
      obtain ⟨first, others⟩ := List.cons.inj same
      rw [List.map_cons, List.map_cons, each x List.mem_cons_self y List.mem_cons_self first,
        ih (fun x mem y mem' => each x (.tail _ mem) y (.tail _ mem')) others]

namespace Spelling.Vocabulary

/-- The names tell the types of the method, and its own name has no double low line. -/
structure Describes (V : Vocabulary) (m : Method) : Prop where
  single : ¬ ['_', '_'] <:+: m.name.toList
  returns : V.Tells m.returnType
  params : ∀ p ∈ m.params, V.Tells p.type
  /-- No constructor is const, and an identifier would not say so. -/
  constructs : m.isConstructor → m.isConst = false

variable {V : Vocabulary} {m m' : Method}

namespace Describes

theorem tidy (describes : V.Describes m) :
    ∀ text ∈ m.encodedParams.map String.toList, IsTidy text := by
  intro text mem
  obtain ⟨part, part_mem, rfl⟩ := List.mem_map.mp mem
  obtain param | const := List.mem_append.mp part_mem
  · obtain ⟨p, p_mem, rfl⟩ := List.mem_map.mp param
    exact (describes.params p p_mem).tidy_mangle
  · split_ifs at const
    · obtain rfl := List.mem_singleton.mp const
      intro _
      decide
    · cases const

/-- What stands behind the name are the encoded parameters and whether the method is
const. -/
theorem encodedParams_eq_iff (describes : V.Describes m) (describes' : V.Describes m') :
    m.encodedParams = m'.encodedParams ↔
      m.params.map (fun p => mangle p.type) = m'.params.map (fun p => mangle p.type) ∧
        m.isConst = m'.isConst := by
  have no_const {m : Method} (describes : V.Describes m) :
      "const" ∉ m.params.map fun p => mangle p.type := by
    intro mem
    obtain ⟨p, p_mem, same⟩ := List.mem_map.mp mem
    exact (describes.params p p_mem).mangle_ne_const same
  have isConst {m : Method} (describes : V.Describes m) :
      (m.isConst && !m.isConstructor) = m.isConst := by
    cases constructs : m.isConstructor
    · simp
    · simp [describes.constructs constructs]
  rw [Method.encodedParams, Method.encodedParams, isConst describes, isConst describes']
  exact append_mark_iff (no_const describes) (no_const describes') _ _

/-- The parts of an identifier are found again. -/
theorem wrapperId_inj (describes : V.Describes m) (describes' : V.Describes m') :
    m.wrapperId = m'.wrapperId ↔
      mangle m.returnType = mangle m'.returnType ∧ m.name = m'.name ∧
        m.encodedParams = m'.encodedParams := by
  constructor
  · intro same
    have chars := congrArg String.toList same
    rw [Method.toList_wrapperId, Method.toList_wrapperId] at chars
    -- The encoded return type ends before the double low line of the name, and the name, which
    -- has none, before that of the parameters.
    have chars := (List.cons.inj (List.cons.inj chars).2).2
    obtain ⟨returns, chars⟩ := tidy_append_inj describes.returns.tidy_mangle
      describes'.returns.tidy_mangle (.inr ⟨_, rfl⟩) (.inr ⟨_, rfl⟩) chars
    have chars := (List.cons.inj (List.cons.inj chars).2).2
    obtain ⟨name, chars⟩ := name_append_inj describes.single describes'.single
      (endsName_behindLines describes.tidy) (endsName_behindLines describes'.tidy) chars
    have parts := behindLines_inj describes.tidy describes'.tidy chars
    exact ⟨String.toList_injective returns, String.toList_injective name,
      List.map_injective_iff.mpr (fun _ _ same => String.toList_injective same) parts⟩
  · rintro ⟨returns, name, params⟩
    refine String.toList_injective ?_
    rw [Method.toList_wrapperId, returns, name, params, Method.toList_wrapperId]

/-- **What an identifier determines**: the name, whether the method is const, and the tokens
with codes of all types. -/
theorem wrapperId_eq_iff (describes : V.Describes m) (describes' : V.Describes m') :
    m.wrapperId = m'.wrapperId ↔
      m.name = m'.name ∧ m.isConst = m'.isConst ∧
        codedTokens m.returnType = codedTokens m'.returnType ∧
        m.params.map (fun p => codedTokens p.type) =
          m'.params.map (fun p => codedTokens p.type) := by
  have params : m.params.map (fun p => mangle p.type) = m'.params.map (fun p => mangle p.type) ↔
      m.params.map (fun p => codedTokens p.type) =
        m'.params.map (fun p => codedTokens p.type) := by
    constructor
    · exact map_eq_map_of_imp fun p mem p' mem' =>
        ((describes.params p mem).mangle_eq_iff (describes'.params p' mem')).mp
    · exact map_eq_map_of_imp fun p mem p' mem' =>
        ((describes.params p mem).mangle_eq_iff (describes'.params p' mem')).mpr
  rw [describes.wrapperId_inj describes', describes.encodedParams_eq_iff describes',
    describes.returns.mangle_eq_iff describes'.returns, params]
  tauto

end Describes

end Spelling.Vocabulary

/-! ### Methods that their identifiers determine -/

namespace Method

/-- Whether the types of all parameters are spelled as their codes are laid out. -/
def IsLaidOut (m : Method) : Prop :=
  ∀ p ∈ m.params, Spelling.IsLaidOut p.type

instance (m : Method) : Decidable m.IsLaidOut :=
  inferInstanceAs (Decidable (∀ p ∈ m.params, Spelling.IsLaidOut p.type))

/-- Same name, same parameter types and same constness. -/
structure Alike (m m' : Method) : Prop where
  name : m.name = m'.name
  params : m.params.map (fun p => tokenize p.type) = m'.params.map (fun p => tokenize p.type)
  const : m.isConst = m'.isConst

variable {V : Vocabulary} {m m' : Method}

theorem Alike.normalize_eq (alike : m.Alike m') :
    m.params.map (fun p => Spelling.normalize p.type) =
      m'.params.map (fun p => Spelling.normalize p.type) :=
  map_eq_map_of_imp (fun _ _ _ _ same => congrArg render same) alike.params

theorem Alike.signature_eq (alike : m.Alike m') : m.signature = m'.signature := by
  have values : m.params.map (fun p => valueType p.type) =
      m'.params.map (fun p => valueType p.type) :=
    map_eq_map_of_imp (fun _ _ _ _ same => congrArg (render ∘ dropQualifiers 0) same) alike.params
  rw [signature, signature, alike.name, values, alike.const]

theorem alike_of_wrapperId (describes : V.Describes m) (describes' : V.Describes m')
    (laid_out : m.IsLaidOut) (laid_out' : m'.IsLaidOut) (same : m.wrapperId = m'.wrapperId) :
    m.Alike m' := by
  obtain ⟨name, const, -, params⟩ := (describes.wrapperId_eq_iff describes').mp same
  refine ⟨name, map_eq_map_of_imp (fun p mem p' mem' => ?_) params, const⟩
  exact tokenize_eq_of_isLaidOut (laid_out p mem) (laid_out' p' mem')

end Method

namespace Registry

variable {index : DeclarationIndex} {config : Configuration} {id : TypeId} {d : Descriptor}

/-- **Identifiers tell methods apart** as far as they encode them. Where the words of all
types are keywords and names of a vocabulary, two wrapped methods have the same identifier
exactly if they agree in name, constness and the tokens with codes of their types. If
besides, brackets close at the end only, then they have the same name, parameter types and
constness, and a wrapper with the identifier of an accessor has the signature of the
accessor. -/
theorem wrapper_ids_identify (V : Vocabulary)
    (there : ((build index config).registry.consolidate config).registry.get? id = some d) :
    let unit := SourceUnit.ofDescriptor
      ((build index config).registry.consolidate config).registry d
    (∀ m m', Entry.method m ∈ unit.members → Entry.method m' ∈ unit.members →
      V.Describes m → V.Describes m' →
        (m.wrapperId = m'.wrapperId ↔
          m.name = m'.name ∧ m.isConst = m'.isConst ∧
            codedTokens m.returnType = codedTokens m'.returnType ∧
            m.params.map (fun p => codedTokens p.type) =
              m'.params.map (fun p => codedTokens p.type)) ∧
        (m.IsLaidOut → m'.IsLaidOut → m.wrapperId = m'.wrapperId →
          m.name = m'.name ∧
            m.params.map (fun p => Spelling.normalize p.type) =
              m'.params.map (fun p => Spelling.normalize p.type) ∧
            m.isConst = m'.isConst)) ∧
      ((∀ m ∈ d.methods, V.Describes m ∧ m.IsLaidOut) →
        ∀ s printed, unit.Prints (some s) printed → ∀ m, Entry.method m ∈ unit.members →
          m.wrapperId = printed → m.signature = s) := by
  intro unit
  constructor
  · intro m m' _ _ describes describes'
    refine ⟨describes.wrapperId_eq_iff describes', fun laid_out laid_out' same => ?_⟩
    have alike := Method.alike_of_wrapperId describes describes' laid_out laid_out' same
    exact ⟨alike.name, alike.normalize_eq, alike.const⟩
  · intro described s printed prints m wrapped same
    obtain ⟨registered, given, unshadowed⟩ := exists_registered there
    have has : registered.HasAccessors := hasAccessors_of_mem_build (List.mem_of_getElem? given)
    obtain ⟨-, -, accessor, listed, rfl, -, rfl⟩ := unshadowed.of_prints has prints
    have listed' := (List.mem_filter.mp (Descriptor.method_mem_members.mp wrapped)).1
    obtain ⟨describes, laid_out⟩ := described m listed'
    obtain ⟨describes', laid_out'⟩ := described accessor listed
    exact (Method.alike_of_wrapperId describes describes' laid_out laid_out' same).signature_eq

/-- A class with setters for a node and for nodes under names. -/
def mappedScene : CompoundDeclaration :=
  (((CompoundDeclaration.ofClass "Scene").member
    (MemberDeclaration.function "getNode" "osg::Node *").constant).member
    ((MemberDeclaration.function "setNode" "void").param "osg::Node *" "node")).member
    ((MemberDeclaration.function "setNode" "void").param
      "const Map<std::string, osg::Node *> &" "nodes")

/-- The names that the types of `mappedScene` are made of. -/
def sceneNames : List (List (List Char)) :=
  [["osg".toList, "Node".toList], ["Map".toList], ["std".toList, "string".toList]]

theorem mappedScene_facts :
    (((build (.ofCompounds [mappedScene]) {}).registry.consolidate {}).registry.get? ⟨0⟩).any
      fun d => decide ((SourceUnit.ofDescriptor ((build (.ofCompounds [mappedScene])
          {}).registry.consolidate {}).registry d).Prints
            (some ⟨"setNode", ["osg::Node *"], false⟩) "__void__setNode__osg_Node_P1" ∧
        ∀ m ∈ d.methods, m.IsLaidOut ∧ ¬ ['_', '_'] <:+: m.name.toList ∧
          m.isConstructor = false ∧
          ∀ ty ∈ m.returnType :: m.params.map Parameter.type,
            Vocabulary.TellsAmong sceneNames ty) := by
  decide +kernel

/-- The identifier of a setter of `mappedScene` is that of this setter only. -/
theorem wrapper_ids_identify_mapped :
    ∃ d, ((build (.ofCompounds [mappedScene]) {}).registry.consolidate {}).registry.get? ⟨0⟩ =
        some d ∧
      ∀ m, Entry.method m ∈ (SourceUnit.ofDescriptor ((build (.ofCompounds [mappedScene])
          {}).registry.consolidate {}).registry d).members →
        m.wrapperId = "__void__setNode__osg_Node_P1" →
          m.signature = ⟨"setNode", ["osg::Node *"], false⟩ := by
  obtain ⟨d, there, facts⟩ := (Option.any_eq_true _ _).mp mappedScene_facts
  obtain ⟨prints, methods⟩ := of_decide_eq_true facts
  have names : ∀ path ∈ sceneNames, IsPath path := by decide +kernel
  refine ⟨d, there, fun m => ?_⟩
  refine (wrapper_ids_identify (.ofPaths (· ∈ sceneNames) names) there).2 ?_ _ _ prints m
  intro m mem
  obtain ⟨laid_out, single, method, types⟩ := methods m mem
  obtain ⟨returns, params⟩ := List.forall_mem_cons.mp types
  refine ⟨⟨single, returns.tells, fun p p_mem => ?_, fun constructs => ?_⟩, laid_out⟩
  · exact (params p.type (List.mem_map_of_mem p_mem)).tells
  · cases constructs.symm.trans method

/-- Whether a name is an identifier without a double low line. -/
def IsSingleName (name : String) : Prop :=
  (name.toList.head?.any fun c => !c.isDigit) ∧ name.toList.all isNameChar ∧
    ¬ ['_', '_'] <:+: name.toList

instance (name : String) : Decidable (IsSingleName name) :=
  inferInstanceAs (Decidable (_ ∧ _ ∧ ¬ _))

/-- A class with setters for a reference to a pointer and for a pointer to a reference. -/
def swappedScene : CompoundDeclaration :=
  (((CompoundDeclaration.ofClass "Scene").member
    (MemberDeclaration.function "getNode" "Ref<Node *>").constant).member
    ((MemberDeclaration.function "setNode" "void").param "Ref<Node *>" "node")).member
    ((MemberDeclaration.function "setNode" "void").param "Ref<Node> *" "node")

theorem swappedScene_facts :
    (((build (.ofCompounds [swappedScene]) {}).registry.consolidate {}).registry.get? ⟨0⟩).any
      fun d => decide ((SourceUnit.ofDescriptor ((build (.ofCompounds [swappedScene])
          {}).registry.consolidate {}).registry d).Prints
            (some ⟨"setNode", ["Ref< Node * >"], false⟩) "__void__setNode__Ref_T1_Node_P1" ∧
        ∃ m ∈ d.wrappedMethods, ∃ m' ∈ d.wrappedMethods,
          m.wrapperId = "__void__setNode__Ref_T1_Node_P1" ∧
          m'.wrapperId = "__void__setNode__Ref_T1_Node_P1" ∧
          IsSingleName m.name ∧ IsSingleName m'.name ∧
          m.params.map (fun p => Spelling.normalize p.type) = ["Ref< Node * >"] ∧
          m'.params.map (fun p => Spelling.normalize p.type) = ["Ref< Node > *"]) := by
  decide +kernel

/-- Overloads can have one identifier, and the accessor of a property can be any of them. -/
theorem overloads_share_identifiers :
    ¬ ∀ (index : DeclarationIndex) (config : Configuration) (id : TypeId) (d : Descriptor),
      ((build index config).registry.consolidate config).registry.get? id = some d →
        ∀ accessor? printed, (SourceUnit.ofDescriptor
            ((build index config).registry.consolidate config).registry d).Prints
              accessor? printed →
          ∀ m ∈ d.wrappedMethods, ∀ m' ∈ d.wrappedMethods,
            IsSingleName m.name → IsSingleName m'.name →
            m.wrapperId = printed → m'.wrapperId = printed →
              m.name = m'.name ∧
                m.params.map (fun p => Spelling.normalize p.type) =
                  m'.params.map (fun p => Spelling.normalize p.type) ∧
                m.isConst = m'.isConst := by
  intro always
  obtain ⟨d, there, facts⟩ := (Option.any_eq_true _ _).mp swappedScene_facts
  obtain ⟨prints, m, wrapped, m', wrapped', id, id', single, single', types, types'⟩ :=
    of_decide_eq_true facts
  have same := (always _ _ _ d there _ _ prints m wrapped m' wrapped' single single' id id').2.1
  rw [types, types'] at same
  exact absurd same (by decide)

end Registry

end Reflectory
