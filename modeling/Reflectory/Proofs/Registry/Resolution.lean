/-
What a name means inside a scope.

A name is looked up by two spellings, as it is and without its template arguments. Each of
them may stand behind the segments of the scope, behind fewer of them, and by itself; the
first spelling that is registered anywhere decides, and it means the type that is innermost.
A type does not mean itself by a name that is shorter than its own.

A leading `::` is cut off before the scopes are tried, so it does not make a name a global
one: a type in a scope is preferred to the global type here as well.

* `resolve_innermost`: what a name means that has no leading `::`.
* `global_names_resolved`: when a name with leading `::` means the global type.
* `global_names_captured`: a type in a scope that is found for one.
-/

import Reflectory.Proofs.Registry.Renumbering
import Reflectory.Proofs.Spelling.Segments

namespace Reflectory

open Spelling Text

namespace Registry

variable {r : Registry} {id : TypeId}

/-! ### Candidates -/

/-- The type that a candidate for a name leads to. The scope itself is a candidate only for
its name in full. -/
def candidate? (r : Registry) (scope name candidate : String) : Option TypeId :=
  if candidate = scope → normalize name = scope then r.lookup candidate else none

theorem candidate?_eq_some_iff {scope name candidate : String} :
    r.candidate? scope name candidate = some id ↔
      r.lookup candidate = some id ∧ (candidate = scope → normalize name = scope) := by
  unfold candidate?
  split_ifs with counts
  · exact (and_iff_left counts).symm
  · simp [counts]

/-- The type that a spelling of a name means inside a scope. -/
def spelled? (r : Registry) (scope name spelling : String) : Option TypeId :=
  (scopedCandidates (some scope) spelling).findSome? (r.candidate? scope name)

/-- The spellings of a name are tried one after the other. -/
theorem findSome?_spellings {β : Type} (f : String → Option β) (name : String) :
    (spellings name).findSome? f =
      (f (normalize name)).or (f (stripTemplateArgs (normalize name))) := by
  unfold spellings
  dsimp only
  split_ifs with same
  · rw [eq_of_beq same, List.findSome?_singleton, Option.or_self]
  · rw [List.findSome?_cons, List.findSome?_singleton]
    cases f (normalize name) <;> rfl

theorem resolve_some (r : Registry) (scope name : String) :
    r.resolve (some scope) name =
      (r.spelled? scope name (normalize name)).or
        (r.spelled? scope name (stripTemplateArgs (normalize name))) := by
  rw [← findSome?_spellings, resolve, resolveBy]
  congr 1
  funext spelling
  rw [spelled?, ← List.head?_filterMap, ← List.head?_filterMap, List.filterMap_filter]
  refine congrArg List.head? (List.filterMap_congr fun candidate _ => if_congr ?_ rfl rfl)
  rw [Bool.or_eq_true, bne_iff_ne, beq_iff_eq, Ne, Option.some_inj, ← imp_iff_not_or]
  constructor
  · rintro counts rfl
    exact (counts rfl).symm
  · rintro counts rfl
    exact (counts rfl).symm

theorem resolve_none (r : Registry) (name : String) :
    r.resolve none name =
      (r.lookup (localName (normalize name))).or
        (r.lookup (localName (stripTemplateArgs (normalize name)))) := by
  rw [← findSome?_spellings fun spelling => r.lookup (localName spelling), resolve,
    resolveBy]
  congr 1
  funext spelling
  simp [scopedCandidates, localName]

theorem mem_scopedCandidates {scope spelling candidate : String} :
    candidate ∈ scopedCandidates (some scope) spelling ↔
      (∃ outer ∈ scopesFrom scope, candidate = outer ++ "::" ++ localName spelling) ∨
        candidate = localName spelling := by
  simp [scopedCandidates_eq, eq_comm]

theorem exists_of_spelled? {scope name spelling : String}
    (found : r.spelled? scope name spelling = some id) :
    ∃ candidate ∈ scopedCandidates (some scope) spelling,
      r.lookup candidate = some id ∧ (candidate = scope → normalize name = scope) := by
  obtain ⟨candidate, mem, leads⟩ := List.exists_of_findSome?_eq_some found
  exact ⟨candidate, mem, candidate?_eq_some_iff.mp leads⟩

/-- A number belongs to one name. -/
theorem eq_of_lookup {name name' : String} (found : r.lookup name = some id)
    (found' : r.lookup name' = some id) : name = name' := by
  obtain ⟨d, there, rfl⟩ := get?_of_lookup found
  obtain ⟨d', there', rfl⟩ := get?_of_lookup found'
  rw [Option.some.inj (there.symm.trans there')]

/-- Inside a scope, its own type is found for its name in full only. -/
theorem eq_of_resolve_itself {scope name : String} {d : Descriptor} (there : r.get? id = some d)
    (named : d.name = scope) (found : r.resolve (some scope) name = some id) :
    normalize name = scope := by
  rw [resolve_some, Option.or_eq_some_iff] at found
  obtain ⟨spelling, found⟩ : ∃ spelling, r.spelled? scope name spelling = some id := by
    obtain found | ⟨-, found⟩ := found <;> exact ⟨_, found⟩
  obtain ⟨candidate, -, leads, counts⟩ := exists_of_spelled? found
  obtain ⟨d', there', rfl⟩ := get?_of_lookup leads
  obtain rfl := Option.some.inj (there.symm.trans there')
  exact counts named

/-! ### Names in scopes -/

/-- Behind the first `k` segments of a scope, a spelling of a name is the name of a type. The
scope itself counts only for its name in full. -/
structure Names (r : Registry) (segments : List String) (name spelling : String) (k : Nat)
    (id : TypeId) : Prop where
  within : k ≤ segments.length
  registered : r.lookup (join "::" (segments.take k ++ [spelling])) = some id
  in_full : join "::" (segments.take k ++ [spelling]) = join "::" segments →
    normalize name = join "::" segments

/-- A type is named by a spelling, and none is behind more of the segments. -/
def NamesInnermost (r : Registry) (segments : List String) (name spelling : String)
    (id : TypeId) : Prop :=
  ∃ k, r.Names segments name spelling k id ∧
    ∀ k' id', k < k' → ¬ r.Names segments name spelling k' id'

theorem findSome?_reverse_range {β : Type} {f : Nat → Option β} {n : Nat} {b : β} :
    (List.range n).reverse.findSome? f = some b ↔
      ∃ k < n, f k = some b ∧ ∀ k' < n, k < k' → f k' = none := by
  induction n with
  | zero => simp
  | succ n ih =>
    rw [List.range_succ, List.reverse_concat, List.findSome?_cons]
    cases last : f n with
    | some c =>
      constructor
      · intro same
        exact ⟨n, n.lt_succ_self, last.trans same, fun k' below above => by omega⟩
      · rintro ⟨k, below, leads, none⟩
        obtain rfl | less := Nat.eq_or_lt_of_le (Nat.le_of_lt_succ below)
        · exact last.symm.trans leads
        · cases last.symm.trans (none n n.lt_succ_self less)
    | none =>
      dsimp only
      rw [ih]
      constructor
      · rintro ⟨k, below, leads, none⟩
        refine ⟨k, below.trans n.lt_succ_self, leads, fun k' below' above => ?_⟩
        obtain rfl | less := Nat.eq_or_lt_of_le (Nat.le_of_lt_succ below')
        · exact last
        · exact none k' less above
      · rintro ⟨k, below, leads, none⟩
        have ne : k ≠ n := by
          rintro rfl
          cases last.symm.trans leads
        exact ⟨k, by omega, leads, fun k' below' => none k' (by omega)⟩

section

variable {segments : List String} {name spelling : String} (some_segments : segments ≠ [])
  (all : ∀ s ∈ segments, IsScopePart s) (relative : localName spelling = spelling)

theorem names_iff {k : Nat} : r.Names segments name spelling k id ↔
    k < segments.length + 1 ∧
      r.candidate? (join "::" segments) name (join "::" (segments.take k ++ [spelling])) =
        some id := by
  rw [candidate?_eq_some_iff, Nat.lt_succ_iff]
  exact ⟨fun names => ⟨names.within, names.registered, names.in_full⟩,
    fun ⟨within, registered, in_full⟩ => ⟨within, registered, in_full⟩⟩

include some_segments all relative

theorem spelled?_join : r.spelled? (join "::" segments) name spelling =
    (List.range (segments.length + 1)).reverse.findSome? fun k =>
      r.candidate? (join "::" segments) name (join "::" (segments.take k ++ [spelling])) := by
  rw [spelled?, scopedCandidates_join all some_segments, List.findSome?_map, relative]
  rfl

/-- A spelling means the innermost type that it names. -/
theorem spelled?_eq_some_iff : r.spelled? (join "::" segments) name spelling = some id ↔
    r.NamesInnermost segments name spelling id := by
  rw [spelled?_join some_segments all relative, findSome?_reverse_range]
  constructor
  · rintro ⟨k, below, leads, none⟩
    refine ⟨k, names_iff.mpr ⟨below, leads⟩, fun k' id' less names => ?_⟩
    obtain ⟨below', leads'⟩ := names_iff.mp names
    cases leads'.symm.trans (none k' below' less)
  · rintro ⟨k, names, innermost⟩
    obtain ⟨below, leads⟩ := names_iff.mp names
    refine ⟨k, below, leads, fun k' below' less => ?_⟩
    rw [Option.eq_none_iff_forall_ne_some]
    exact fun id' leads' => innermost k' id' less (names_iff.mpr ⟨below', leads'⟩)

/-- A spelling means nothing if it names no type. -/
theorem spelled?_eq_none_iff : r.spelled? (join "::" segments) name spelling = none ↔
    ∀ k id, ¬ r.Names segments name spelling k id := by
  rw [spelled?_join some_segments all relative, List.findSome?_eq_none_iff]
  constructor
  · intro none k id names
    obtain ⟨below, leads⟩ := names_iff.mp names
    cases leads.symm.trans (none k (by simpa using below))
  · intro none k mem
    rw [Option.eq_none_iff_forall_ne_some]
    exact fun id leads => none k id (names_iff.mpr ⟨by simpa using mem, leads⟩)

end

/-- A name that begins with a word without leading `::` is not cut, in neither spelling. -/
theorem localName_eq {name : String} {first : List Char}
    (begins : (tokenize name).head? = some (.word first)) (relative : ¬ [':', ':'] <+: first) :
    localName (normalize name) = normalize name ∧
      localName (stripTemplateArgs (normalize name)) = stripTemplateArgs (normalize name) := by
  have uncut {c : Char} {cs : List Char} {text : String} (letter : isNameChar c)
      (split : text.toList = c :: cs) : localName text = text := by
    refine localName_eq_self ?_
    rw [split]
    rintro ⟨ds, same⟩
    obtain ⟨rfl, -⟩ := List.cons.inj same
    simp [isNameChar_colon] at letter
  obtain ⟨ts, tokens⟩ := List.head?_eq_some_iff.mp begins
  obtain ⟨nonempty, word⟩ := legible_tokenize name (.word first) (by simp [tokens])
  cases word with
  | nil => exact absurd rfl nonempty
  | scope => exact absurd (List.prefix_append [':', ':'] _) relative
  | @name c cs letter _ =>
    have full : (normalize name).toList = [c] ++ (cs ++ renderAfter (.word (c :: cs)) ts) := by
      rw [Spelling.normalize, tokens, render, String.toList_ofList]
      rfl
    obtain ⟨rest, stripped, -⟩ :=
      exists_append_stripTemplateArgs (.name letter .nil) (List.cons_ne_nil c []) full
    exact ⟨uncut letter full, uncut letter stripped⟩

/-- **A name means the innermost type that it names.** Inside a scope of segments, a name
that begins with no `::` means what its canonical spelling names behind the most of the
segments. If this names nothing, the same goes for the spelling without template arguments;
and if neither names a type, the name means none. A base of a type leads to the type itself
only if it has its full name. -/
theorem resolve_innermost (r : Registry) {segments : List String} (some_segments : segments ≠ [])
    (all : ∀ s ∈ segments, IsScopePart s) {name : String} {first : List Char}
    (begins : (tokenize name).head? = some (.word first)) (relative : ¬ [':', ':'] <+: first) :
    let full := normalize name
    let stripped := stripTemplateArgs full
    (∀ id, r.resolve (some (join "::" segments)) name = some id ↔
      r.NamesInnermost segments name full id ∨
        (∀ k id', ¬ r.Names segments name full k id') ∧
          r.NamesInnermost segments name stripped id) ∧
    (r.resolve (some (join "::" segments)) name = none ↔
      ∀ spelling ∈ [full, stripped], ∀ k id, ¬ r.Names segments name spelling k id) ∧
    (∀ config id d b, r.get? id = some d → r.target config d.name b = .resolved id →
      normalize b.name = d.name) := by
  intro full stripped
  obtain ⟨full_relative, stripped_relative⟩ := localName_eq begins relative
  refine ⟨fun id => ?_, ?_, fun config id d b there leads => ?_⟩
  · rw [resolve_some, Option.or_eq_some_iff, spelled?_eq_some_iff some_segments all full_relative,
      spelled?_eq_none_iff some_segments all full_relative,
      spelled?_eq_some_iff some_segments all stripped_relative]
  · rw [resolve_some, Option.or_eq_none_iff,
      spelled?_eq_none_iff some_segments all full_relative,
      spelled?_eq_none_iff some_segments all stripped_relative]
    simp only [List.forall_mem_cons, List.not_mem_nil, false_implies, implies_true, and_true, full,
      stripped]
  · exact eq_of_resolve_itself there rfl (target_eq_resolved_iff.mp leads)

/-- Types of these names. -/
def ofNames (names : List String) : Registry :=
  { types := names.map fun name => .ofSpelled name (.object false) }

/-- A callback at three levels of scopes, one of them a class template. -/
def callbacks : Registry :=
  ofNames ["Callback", "scene::Callback", "scene::Array<a::b>::Callback"]

/-- The segments of a scope in that class template. -/
def iterator : List String :=
  ["scene", "Array< a::b >", "Iterator"]

/-- The colons of a template argument divide no scope: inside the class template its callback
is found, for a name with arguments of its own. -/
theorem resolve_innermost_iterator :
    (∀ s ∈ iterator, IsScopePart s) ∧
      callbacks.resolve (some (join "::" iterator)) "Callback<int>" = some ⟨2⟩ := by
  have all : ∀ s ∈ iterator, IsScopePart s := by decide +kernel
  have begins : (tokenize "Callback<int>").head? = some (.word "Callback".toList) := by
    decide +kernel
  obtain ⟨means, -⟩ := resolve_innermost callbacks (by decide) all begins (by decide)
  refine ⟨all, (means ⟨2⟩).mpr (.inr ⟨?_, 2, ⟨by decide, by decide +kernel, by decide⟩, ?_⟩)⟩
  · rintro k id ⟨within, registered, -⟩
    have none : ∀ k ∈ List.range (iterator.length + 1), callbacks.lookup
        (join "::" (iterator.take k ++ [Spelling.normalize "Callback<int>"])) = none := by
      decide +kernel
    cases registered.symm.trans (none k (List.mem_range.mpr (Nat.lt_succ_of_le within)))
  · rintro k id more ⟨within, registered, -⟩
    obtain rfl : k = 3 := le_antisymm within more
    have none : callbacks.lookup (join "::" (iterator.take 3 ++
        [stripTemplateArgs (Spelling.normalize "Callback<int>")])) = none := by
      decide +kernel
    cases registered.symm.trans none

/-! ### Names with leading colons -/

/-- A spelling of a name with leading `::` does not mean the global type inside a scope: a
type in the scope or in one around it is found for it, or the global type is the scope itself
and is passed over. -/
inductive Captures (r : Registry) (scope name spelling : String) : Prop where
  | inside {outer : String} {id : TypeId} (around : outer ∈ scopesFrom scope)
      (registered : r.lookup (outer ++ "::" ++ localName spelling) = some id)
      (counts : outer ++ "::" ++ localName spelling = scope → normalize name = scope)
  | itself {id : TypeId} (same : localName spelling = scope) (registered : r.lookup scope = some id)

/-- The type that a spelling of a name means in a scope or one around it. -/
def around? (r : Registry) (scope name spelling : String) : Option TypeId :=
  ((scopesFrom scope).map (· ++ "::" ++ localName spelling)).findSome? (r.candidate? scope name)

section

variable {scope name spelling : String}

theorem spelled?_eq_or : r.spelled? scope name spelling =
    (r.around? scope name spelling).or (r.candidate? scope name (localName spelling)) := by
  rw [spelled?, scopedCandidates_eq, List.findSome?_append, List.findSome?_singleton, around?]

theorem exists_of_around? (found : r.around? scope name spelling = some id) :
    ∃ outer ∈ scopesFrom scope, r.lookup (outer ++ "::" ++ localName spelling) = some id := by
  obtain ⟨candidate, mem, leads⟩ := List.exists_of_findSome?_eq_some found
  obtain ⟨outer, around, rfl⟩ := List.mem_map.mp mem
  exact ⟨outer, around, (candidate?_eq_some_iff.mp leads).1⟩

theorem around?_eq_none_iff : r.around? scope name spelling = none ↔
    ∀ outer ∈ scopesFrom scope, ∀ id, r.lookup (outer ++ "::" ++ localName spelling) = some id →
      ¬ (outer ++ "::" ++ localName spelling = scope → normalize name = scope) := by
  rw [around?, List.findSome?_eq_none_iff, List.forall_mem_map]
  refine forall₂_congr fun outer _ => ?_
  rw [Option.eq_none_iff_forall_ne_some]
  exact forall_congr' fun id => candidate?_eq_some_iff.not.trans not_and

end

section

variable {scope name : String} (global : [':', ':'] <+: (normalize name).toList)

theorem length_append_scope (outer name : String) :
    name.toList.length < (outer ++ "::" ++ name).toList.length := by
  simp only [String.toList_append, List.length_append]
  have : "::".toList.length = 2 := rfl
  omega

include global

theorem normalize_ne_localName (spelling : String) : normalize name ≠ localName spelling := by
  intro same
  rw [same, localName, String.toList_ofList] at global
  exact not_prefix_dropGlobal _ global

/-- Without template arguments, what follows the leading `::` is no longer than before. -/
theorem length_localName_le : (localName (stripTemplateArgs (normalize name))).toList.length ≤
    (localName (normalize name)).toList.length := by
  obtain ⟨pairs, word, split, passed⟩ := exists_append_dropGlobal (normalize name).toList
  have nonempty : pairs ≠ [] := by
    rintro rfl
    rw [split, List.nil_append] at global
    exact not_prefix_dropGlobal _ global
  obtain ⟨rest, stripped, shorter⟩ := exists_append_stripTemplateArgs word nonempty split
  rw [localName, localName, String.toList_ofList, String.toList_ofList, stripped, passed]
  exact (length_dropGlobal_le rest).trans shorter

/-- A spelling means the global type, or none where there is none, unless it is captured. -/
theorem captures_iff (spelling : String) : r.Captures scope name spelling ↔
    r.spelled? scope name spelling ≠ r.lookup (localName spelling) := by
  constructor
  · rintro (⟨around, registered, counts⟩ | ⟨same, registered⟩) global_type
    · have some_type : r.around? scope name spelling ≠ none := by
        rw [Ne, around?_eq_none_iff]
        exact fun free => free _ around _ registered counts
      obtain ⟨id, found⟩ := Option.ne_none_iff_exists'.mp some_type
      obtain ⟨outer, -, leads⟩ := exists_of_around? found
      rw [spelled?_eq_or, found, Option.some_or] at global_type
      have longer := length_append_scope outer (localName spelling)
      rw [eq_of_lookup leads global_type.symm] at longer
      exact lt_irrefl _ longer
    · rw [same, registered] at global_type
      obtain ⟨candidate, -, leads, counts⟩ := exists_of_spelled? global_type
      obtain rfl := eq_of_lookup leads registered
      exact normalize_ne_localName global spelling ((counts rfl).trans same.symm)
  · intro other
    by_contra free
    refine other ?_
    have outside : r.around? scope name spelling = none :=
      around?_eq_none_iff.mpr fun outer around id registered counts =>
        free (.inside around registered counts)
    rw [spelled?_eq_or, outside, Option.none_or, candidate?]
    split_ifs with counts
    · rfl
    · obtain ⟨same, -⟩ := Classical.not_imp.mp counts
      cases found : r.lookup (localName spelling) with
      | none => rfl
      | some id => exact absurd (.itself same (same ▸ found)) free

/-- Where a name means the same type inside a scope and without one, its canonical spelling
does: the spelling without template arguments does not make up for it. -/
theorem spelled?_normalize_eq_lookup
    (same : r.resolve (some scope) name = r.resolve none name) :
    r.spelled? scope name (normalize name) = r.lookup (localName (normalize name)) := by
  rw [resolve_some, resolve_none] at same
  cases inside : r.spelled? scope name (normalize name) with
  | some id =>
    rw [inside, Option.some_or] at same
    cases outside : r.lookup (localName (normalize name)) with
    | some id' => rwa [outside, Option.some_or] at same
    | none =>
      rw [outside, Option.none_or] at same
      obtain ⟨candidate, mem, leads, -⟩ := exists_of_spelled? inside
      have shorter := length_localName_le global
      rw [← eq_of_lookup leads same.symm] at shorter
      obtain ⟨outer, -, rfl⟩ | rfl := mem_scopedCandidates.mp mem
      · exact absurd shorter (length_append_scope outer _).not_ge
      · cases outside.symm.trans leads
  | none =>
    rw [inside, Option.none_or] at same
    cases outside : r.lookup (localName (normalize name)) with
    | none => rfl
    | some id =>
      rw [outside, Option.some_or] at same
      obtain ⟨candidate, -, leads, counts⟩ := exists_of_spelled? same
      obtain rfl := eq_of_lookup leads outside
      rw [spelled?, List.findSome?_eq_none_iff] at inside
      have passed := inside _ (mem_scopedCandidates.mpr (.inr rfl))
      cases passed.symm.trans (candidate?_eq_some_iff.mpr ⟨leads, counts⟩)

/-- Inside a scope a name means the same type as without one if none of its spellings that
counts is captured. -/
theorem resolve_some_eq_resolve_none_iff : r.resolve (some scope) name = r.resolve none name ↔
    ¬ r.Captures scope name (normalize name) ∧
      (r.lookup (localName (normalize name)) = none →
        ¬ r.Captures scope name (stripTemplateArgs (normalize name))) := by
  rw [captures_iff global, captures_iff global, not_not, not_not]
  constructor
  · intro same
    have first := spelled?_normalize_eq_lookup global same
    refine ⟨first, fun none => ?_⟩
    rw [resolve_some, resolve_none, first, none, Option.none_or, Option.none_or] at same
    exact same
  · rintro ⟨first, second⟩
    rw [resolve_some, resolve_none, first]
    cases found : r.lookup (localName (normalize name)) with
    | some id => rfl
    | none => rw [Option.none_or, Option.none_or, second found]

/-- **A leading `::` is cut off.** Without a scope, a name with leading `::` is looked up
without it. Inside a scope it means the same type exactly if neither of its two spellings is
captured, the second one counting only if the first means no type; and a base that is not
captured leads to that type. -/
theorem global_names_resolved (r : Registry) (scope : String) :
    let full := normalize name
    let stripped := stripTemplateArgs full
    r.resolve none name = (r.lookup (localName full)).or (r.lookup (localName stripped)) ∧
    (r.resolve (some scope) name = r.resolve none name ↔
      ¬ r.Captures scope name full ∧
        (r.lookup (localName full) = none → ¬ r.Captures scope name stripped)) ∧
    (¬ r.Captures scope name full → ¬ r.Captures scope name stripped →
      ∀ config id b, b.name = name →
        (r.target config scope b = .resolved id ↔ r.resolve none name = some id)) := by
  refine ⟨resolve_none r name, resolve_some_eq_resolve_none_iff global,
    fun free free_stripped config id b named => ?_⟩
  rw [target_eq_resolved_iff, named,
    (resolve_some_eq_resolve_none_iff global).mpr ⟨free, fun _ => free_stripped⟩]

end

/-- A type in a scope has the name of a global type. -/
def nodes : Registry :=
  ofNames ["Node", "scene::Node", "scene::Group"]

theorem scopesFrom_group : scopesFrom "scene::Group" = ["scene::Group", "scene"] := by
  have all : ∀ s ∈ ["scene", "Group"], IsScopePart s := by decide +kernel
  have name : "scene::Group" = join "::" ["scene", "Group"] := by decide +kernel
  rw [name, scopesFrom_join all (by decide)]
  decide +kernel

/-- With the scope in front, the name reaches the type in the scope. -/
theorem global_names_resolved_scene :
    nodes.resolve (some "scene::Group") "::scene::Node" = some ⟨1⟩ := by
  have apart : ∀ outer ∈ scopesFrom "scene::Group",
      nodes.lookup (outer ++ "::" ++ localName (Spelling.normalize "::scene::Node")) = none := by
    rw [scopesFrom_group]
    decide +kernel
  have free : ¬ nodes.Captures "scene::Group" "::scene::Node"
      (Spelling.normalize "::scene::Node") := by
    rintro (⟨around, registered, -⟩ | ⟨same, -⟩)
    · cases registered.symm.trans (apart _ around)
    · exact absurd same (by decide +kernel)
  have there : nodes.lookup (localName (Spelling.normalize "::scene::Node")) = some ⟨1⟩ := by
    decide +kernel
  have global : [':', ':'] <+: (Spelling.normalize "::scene::Node").toList := by decide +kernel
  obtain ⟨outside, alike, -⟩ := global_names_resolved global nodes "scene::Group"
  rw [alike.mpr ⟨free, fun none => nomatch there.symm.trans none⟩, outside, there, Option.some_or]

/-- Without it, the type in the scope is found in place of the global type. -/
theorem global_names_captured :
    ¬ ∀ (r : Registry) (scope name : String), [':', ':'] <+: (Spelling.normalize name).toList →
      scope ≠ Spelling.normalize name → scope ≠ localName (Spelling.normalize name) →
      r.resolve (some scope) name = r.resolve none name := by
  intro resolved
  have global : [':', ':'] <+: (Spelling.normalize "::Node").toList := by decide +kernel
  have same := resolved nodes "scene::Group" "::Node" global (by decide +kernel)
    (by decide +kernel)
  have around : "scene" ∈ scopesFrom "scene::Group" := by
    rw [scopesFrom_group]
    decide
  have registered : nodes.lookup ("scene" ++ "::" ++ localName (Spelling.normalize "::Node")) =
      some ⟨1⟩ := by decide +kernel
  exact ((resolve_some_eq_resolve_none_iff global).mp same).1
    (.inside around registered (by decide +kernel))

end Registry

end Reflectory
