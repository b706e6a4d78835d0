/-
What value spellings tell of types.

A value spelling is computed with a running count of open brackets. Said without the count,
a token stands inside angle brackets if some bracket before it has been opened and not been
closed since (`IsEnclosed`); a bracket that closes nothing plays no part in it. Leaving out
the qualifiers that stand outside of all brackets makes new neighbours, but where colons
stand in pairs it merges no tokens, so a value spelling is read back as what was left.

* `dropQualifiers_eq_withoutQualifiers`: the count says what stands inside brackets.
* `value_types_compare`: which types have one value spelling, and which methods one
  signature.
-/

import Reflectory.Descriptor.Basic
import Reflectory.Proofs.Lists.Staying
import Reflectory.Proofs.Spelling.Containers

namespace Reflectory.Spelling

/-! ### Inside brackets -/

/-- Whether what follows these tokens stands inside angle brackets: a bracket is opened
among them, and up to their end not closed. -/
def IsEnclosed (before : List Token) : Prop :=
  ∃ outer inner, before = outer ++ .mark '<' :: inner ∧
    ∀ part, part <+: inner → part.count (.mark '>') ≤ part.count (.mark '<')

/-- The number of brackets that are open behind these tokens. -/
def depthOf (ts : List Token) : Nat :=
  ts.foldl depthAfter 0

theorem depthOf_concat (ts : List Token) (t : Token) :
    depthOf (ts ++ [t]) = depthAfter (depthOf ts) t :=
  List.foldl_concat depthAfter 0 t ts

/-- A token adds to the number of open brackets the bracket that it opens, and takes away the
one that it closes. -/
theorem depthAfter_eq (depth : Nat) (t : Token) :
    depthAfter depth t = depth + [t].count (.mark '<') - [t].count (.mark '>') := by
  unfold depthAfter
  split
  next => rfl
  next => rfl
  next opens closes =>
    rw [List.count_singleton, List.count_singleton, if_neg (by simpa using opens),
      if_neg (by simpa using closes)]
    rfl

/-- Tokens that close no bracket from before them leave as many more open as they open and
do not close. -/
theorem foldl_depthAfter {ts : List Token} (depth : Nat)
    (opened : ∀ part, part <+: ts → part.count (.mark '>') ≤ part.count (.mark '<')) :
    ts.foldl depthAfter depth + ts.count (.mark '>') = depth + ts.count (.mark '<') := by
  induction ts using List.reverseRecOn with
  | nil => rfl
  | append_singleton ts t ih =>
    have before := ih fun part pre => opened part (pre.trans (List.prefix_append ts [t]))
    have whole := opened (ts ++ [t]) List.prefix_rfl
    rw [List.count_append, List.count_append] at whole
    rw [List.foldl_concat, List.count_append, List.count_append, depthAfter_eq]
    omega

/-- For each level below the number of open brackets there is a bracket that is not closed,
and behind it this many more are open. -/
theorem exists_open_of_lt_depthOf {ts : List Token} {level : Nat} (less : level < depthOf ts) :
    ∃ outer inner, ts = outer ++ Token.mark '<' :: inner ∧
      (∀ part, part <+: inner → part.count (.mark '>') ≤ part.count (.mark '<')) ∧
        inner.count (.mark '>') + level ≤ inner.count (.mark '<') := by
  induction ts using List.reverseRecOn generalizing level with
  | nil => cases less
  | append_singleton ts t ih =>
    rw [depthOf_concat, depthAfter_eq] at less
    by_cases innermost : level + [t].count (.mark '>') < [t].count (.mark '<')
    · have opens : Token.mark '<' ∈ [t] := List.count_pos_iff.mp (by omega)
      obtain rfl := List.mem_singleton.mp opens
      have once : [Token.mark '<'].count (.mark '<') = 1 := List.count_singleton_self
      obtain rfl : level = 0 := by omega
      refine ⟨ts, [], rfl, fun part pre => ?_, le_rfl⟩
      rw [List.prefix_nil.mp pre]
      rfl
    · -- A bracket from before `t` stays open, and `t` takes it from one level to the other.
      obtain ⟨outer, inner, rfl, opened, more⟩ :=
        ih (show level + [t].count (.mark '>') - [t].count (.mark '<') < depthOf ts by omega)
      have whole : (inner ++ [t]).count (.mark '>') + level ≤ (inner ++ [t]).count (.mark '<') := by
        rw [List.count_append, List.count_append]
        omega
      refine ⟨outer, inner ++ [t], by simp, fun part pre => ?_, whole⟩
      obtain rfl | pre := List.prefix_concat_iff.mp pre
      · omega
      · exact opened part pre

/-- The count says what stands inside brackets. -/
theorem isEnclosed_iff {before : List Token} : IsEnclosed before ↔ 0 < depthOf before := by
  constructor
  · rintro ⟨outer, inner, rfl, opened⟩
    have balance := foldl_depthAfter (depthOf outer + 1) opened
    have whole := opened inner List.prefix_rfl
    have depth : depthOf (outer ++ .mark '<' :: inner) =
        inner.foldl depthAfter (depthOf outer + 1) := by
      rw [depthOf, List.foldl_append]
      rfl
    omega
  · intro less
    obtain ⟨outer, inner, split, opened, -⟩ := exists_open_of_lt_depthOf less
    exact ⟨outer, inner, split, opened⟩

instance (before : List Token) : Decidable (IsEnclosed before) :=
  decidable_of_iff _ isEnclosed_iff.symm

/-! ### Outside of brackets -/

/-- What a value spelling leaves out: qualifiers, keywords that only introduce a name, and
references. -/
def qualifiers : List Token :=
  ["const", "volatile", "struct", "class", "enum", "typename"].map
    (fun word => .word word.toList) ++ [.mark '&']

/-- The tokens without the qualifiers that stand outside of all angle brackets. -/
def withoutQualifiers (ts : List Token) : List Token :=
  staying (fun before t => decide (t ∈ qualifiers → IsEnclosed before)) ts

theorem isQualifier_iff {t : Token} : isQualifier t ↔ t ∈ qualifiers := by
  simp [isQualifier, qualifiers, Token.isWord, or_assoc]

theorem depthAfter_of_isQualifier {t : Token} (qualifier : isQualifier t) (depth : Nat) :
    depthAfter depth t = depth := by
  have opens : t ≠ .mark '<' := by
    rintro rfl
    exact absurd qualifier (by decide)
  have closes : t ≠ .mark '>' := by
    rintro rfl
    exact absurd qualifier (by decide)
  unfold depthAfter
  split
  next => contradiction
  next => contradiction
  next => rfl

/-- Behind other tokens, a qualifier is left out if these leave no bracket open. -/
theorem dropQualifiers_eq_staying (before ts : List Token) :
    dropQualifiers (depthOf before) ts =
      staying (fun more t => decide (t ∈ qualifiers → IsEnclosed (before ++ more))) ts := by
  induction ts generalizing before with
  | nil => rfl
  | cons t ts ih =>
    have rest := ih (before ++ [t])
    simp only [List.append_assoc, List.singleton_append] at rest
    have dropped : (depthOf (before ++ [t]) = 0 && isQualifier t) =
        !decide (t ∈ qualifiers → IsEnclosed before) := by
      by_cases qualifier : isQualifier t
      · rw [depthOf_concat, depthAfter_of_isQualifier qualifier]
        simp [qualifier, ← isQualifier_iff, isEnclosed_iff, Nat.pos_iff_ne_zero]
      · simp [qualifier, ← isQualifier_iff]
    rw [staying_cons, dropQualifiers, ← depthOf_concat, rest, dropped, List.append_nil]
    cases decide (t ∈ qualifiers → IsEnclosed before) <;> rfl

/-- **A value spelling has the tokens that are no qualifiers outside of brackets.** -/
theorem dropQualifiers_eq_withoutQualifiers (ts : List Token) :
    dropQualifiers 0 ts = withoutQualifiers ts :=
  dropQualifiers_eq_staying [] ts

/-! ### Value spellings -/

section

variable {s t : String}

theorem PairedColons.tokenize_valueType_eq (paired : PairedColons s) :
    tokenize (Spelling.valueType s) = withoutQualifiers (tokenize s) := by
  rw [paired.tokenize_valueType, dropQualifiers_eq_withoutQualifiers]

theorem PairedColons.valueType_eq_iff (paired : PairedColons s) (paired' : PairedColons t) :
    Spelling.valueType s = Spelling.valueType t ↔
      withoutQualifiers (tokenize s) = withoutQualifiers (tokenize t) := by
  constructor
  · intro same
    rw [← paired.tokenize_valueType_eq, ← paired'.tokenize_valueType_eq, same]
  · intro same
    rw [Spelling.valueType, Spelling.valueType, dropQualifiers_eq_withoutQualifiers,
      dropQualifiers_eq_withoutQualifiers, same]

theorem PairedColons.valueType_valueType (paired : PairedColons s) :
    Spelling.valueType (Spelling.valueType s) = Spelling.valueType s := by
  rw [Spelling.valueType, paired.tokenize_valueType, dropQualifiers_dropQualifiers]
  rfl

theorem PairedColons.normalize_valueType (paired : PairedColons s) :
    normalize (Spelling.valueType s) = Spelling.valueType s :=
  (paired.readable.sublist (dropQualifiers_sublist 0 _)).normalize_render

end

/-! ### Signatures -/

/-- The tokens of what the parameters of a method stand for, position by position. -/
def paramValues (m : Method) : List (List Token) :=
  m.params.map fun p => withoutQualifiers (tokenize p.type)

/-- The parameters in a signature are the value spellings of the types. -/
theorem signature_eq {m : Method} (paired : ∀ p ∈ m.params, PairedColons p.type) :
    m.signature = ⟨m.name, m.params.map fun p => valueType p.type, m.isConst⟩ := by
  have canonical : (m.params.map fun p => valueType p.type).map normalize =
      m.params.map fun p => valueType p.type := by
    rw [List.map_map]
    refine List.map_congr_left fun p mem => ?_
    rw [Function.comp_apply, (paired p mem).normalize_valueType]
  rw [Method.signature, Signature.ofSpelled, canonical]

theorem map_tokenize_valueType {m : Method} (paired : ∀ p ∈ m.params, PairedColons p.type) :
    (m.params.map fun p => valueType p.type).map tokenize = paramValues m := by
  rw [List.map_map]
  refine List.map_congr_left fun p mem => ?_
  rw [Function.comp_apply, (paired p mem).tokenize_valueType_eq]

theorem map_render_paramValues (m : Method) :
    (paramValues m).map render = m.params.map fun p => valueType p.type := by
  rw [paramValues, List.map_map]
  refine List.map_congr_left fun p _ => ?_
  rw [Function.comp_apply, ← dropQualifiers_eq_withoutQualifiers, valueType]

/-- Methods have one signature if they agree in name, constness and the values of their
parameters. -/
theorem signature_eq_iff {m m' : Method}
    (paired : ∀ p ∈ m.params ++ m'.params, PairedColons p.type) :
    m.signature = m'.signature ↔
      m.name = m'.name ∧ m.isConst = m'.isConst ∧ paramValues m = paramValues m' := by
  obtain ⟨left, right⟩ := List.forall_mem_append.mp paired
  have params : (m.params.map fun p => valueType p.type) = (m'.params.map fun p =>
      valueType p.type) ↔ paramValues m = paramValues m' := by
    constructor
    · intro same
      rw [← map_tokenize_valueType left, ← map_tokenize_valueType right, same]
    · intro same
      rw [← map_render_paramValues, ← map_render_paramValues, same]
  rw [signature_eq left, signature_eq right, Signature.mk.injEq, params]
  tauto

/-- **What value spellings tell.** Where colons stand in pairs, two types have one value
spelling exactly if they have the same tokens, apart from the qualifiers that stand outside
of all angle brackets. A value spelling is its own value spelling, that of the canonical
spelling, and canonical itself. So two methods have one signature exactly if they agree in
name and constness and, position by position, in the types of their parameters, apart from
those qualifiers. -/
theorem value_types_compare :
    (∀ s t, PairedColons s → PairedColons t → (valueType s = valueType t ↔
      withoutQualifiers (tokenize s) = withoutQualifiers (tokenize t))) ∧
    (∀ s, PairedColons s → valueType (valueType s) = valueType s ∧
      valueType (normalize s) = valueType s ∧ normalize (valueType s) = valueType s) ∧
    ∀ m m' : Method, (∀ p ∈ m.params ++ m'.params, PairedColons p.type) →
      (m.signature = m'.signature ↔
        m.name = m'.name ∧ m.isConst = m'.isConst ∧ paramValues m = paramValues m') := by
  refine ⟨fun s t paired paired' => paired.valueType_eq_iff paired', fun s paired => ?_,
    fun m m' paired => signature_eq_iff paired⟩
  refine ⟨paired.valueType_valueType, ?_, paired.normalize_valueType⟩
  rw [valueType, tokenize_normalize paired, valueType]

/-- Qualifiers around a type do not count and those inside of brackets do, also behind a
bracket that closes nothing. -/
theorem value_types_compare_qualified :
    valueType "const std::vector<const Node*>&" = valueType "std::vector< const Node * > volatile" ∧
    valueType "const std::vector<const Node*>&" ≠ valueType "const std::vector<Node*>&" ∧
    valueType "> const Node" = valueType "> Node" ∧
    (Method.ofSpelled "set" "void" [⟨"const Node &", "node", none⟩]).signature =
      (Method.ofSpelled "set" "int" [⟨"class Node", "other", some "{}"⟩]).signature := by
  obtain ⟨spellings, -, signatures⟩ := value_types_compare
  refine ⟨?_, ?_, ?_, ?_⟩
  · exact (spellings _ _ (by decide +kernel) (by decide +kernel)).mpr (by decide +kernel)
  · exact (spellings _ _ (by decide +kernel) (by decide +kernel)).not.mpr (by decide +kernel)
  · exact (spellings _ _ (by decide +kernel) (by decide +kernel)).mpr (by decide +kernel)
  · exact (signatures _ _ (by decide +kernel)).mpr ⟨rfl, rfl, by decide +kernel⟩

end Reflectory.Spelling
