/-
What a method has to be like to play a role.

Roles are read off names and parameters. `Method.Plays` says what can be relied
on where a method plays a role under a base name: its name is a prefix of that
role followed by the base name, and it takes as many parameters as the role does.
`Accessor.Fits` carries this to the accessors that the passes choose from
(`fits_of_mem_ofMethods`), so nothing after the roles looks at names again.
-/

import Mathlib.Data.List.Basic
import Reflectory.Property.Inference

namespace Reflectory

open Spelling

/-! ### Names divided into prefix and base -/

/-- The name is one of the prefixes, followed by the base name. -/
def NamedAfter (prefixes : List String) (base name : String) : Prop :=
  ∃ pre ∈ prefixes, name = pre ++ base

namespace PrefixedName

theorem eq_append_of_divide? {name pre : String} {n : PrefixedName}
    (h : divide? name pre = some n) : n.pre = pre ∧ name = pre ++ n.base := by
  unfold divide? at h
  split at h
  · rename_i c cs rest
    split_ifs at h
    cases h
    refine ⟨rfl, String.toList_inj.mp ?_⟩
    rw [String.toList_append, String.toList_ofList]
    exact Text.after?_eq_some_iff.mp rest
  · cases h

/-- Where each step takes the next or stays, the last choice is one of the list. -/
theorem mem_of_foldl_choice {α : Type} {choose : Option α → α → Option α} {ns : List α} {n : α}
    (choice : ∀ best n, choose best n = some n ∨ choose best n = best) {best : Option α}
    (chosen : ns.foldl choose best = some n) : n ∈ ns ∨ best = some n := by
  induction ns generalizing best with
  | nil => exact .inr chosen
  | cons m ns ih =>
    rcases ih chosen with mem | same
    · exact .inl (List.mem_cons_of_mem _ mem)
    · rcases choice best m with next | stay
      · exact .inl (Option.some.inj (next.symm.trans same) ▸ List.mem_cons_self)
      · exact .inr (stay.symm.trans same)

/-- A name is divided after one of the prefixes. -/
theorem namedAfter_of_ofName? {name : String} {prefixes : List String} {n : PrefixedName}
    (h : ofName? name prefixes = some n) : NamedAfter prefixes n.base name := by
  unfold ofName? at h
  have mem : n ∈ prefixes.filterMap (divide? name) := by
    refine (mem_of_foldl_choice (fun best m => ?_) h).resolve_right nofun
    cases best with
    | none => exact .inl rfl
    | some b =>
      dsimp only
      split_ifs
      · exact .inl rfl
      · exact .inr rfl
  obtain ⟨pre, pre_mem, divided⟩ := List.mem_filterMap.mp mem
  exact ⟨pre, pre_mem, (eq_append_of_divide? divided).2⟩

end PrefixedName

/-! ### Plurals -/

/-- The plural forms of a base name. -/
def IsPluralForm (plural single : String) : Prop :=
  (∃ suffix ∈ ["s", "es", "ren"], plural = single ++ suffix) ∨
    ∃ stem, single = stem ++ "y" ∧ plural = stem ++ "ies"

theorem eq_append_of_stripSuffix? {post s stem : String}
    (h : Text.stripSuffix? post s = some stem) : s = stem ++ post := by
  obtain ⟨cs, rest, rfl⟩ := Option.map_eq_some_iff.mp h
  have reversed := congrArg List.reverse (Text.after?_eq_some_iff.mp rest)
  rw [List.reverse_reverse, List.reverse_append, List.reverse_reverse] at reversed
  apply String.toList_inj.mp
  rw [String.toList_append, String.toList_ofList, reversed]

theorem pluralForm_of_isPluralOf {plural single : String} (h : isPluralOf plural single) :
    plural = single ∨ IsPluralForm plural single := by
  unfold isPluralOf at h
  rcases (Bool.or_eq_true _ _).mp h with same | h
  · exact .inl (eq_of_beq same)
  · right
    split at h
    · rename_i rest after
      obtain ⟨suffix, mem, same⟩ := List.any_eq_true.mp h
      refine .inl ⟨suffix, mem, String.toList_inj.mp ?_⟩
      rw [String.toList_append, eq_of_beq same]
      exact Text.after?_eq_some_iff.mp after
    · split at h
      · rename_i stem stripped
        exact .inr ⟨stem, eq_append_of_stripSuffix? stripped, eq_of_beq h⟩
      · cases h

/-! ### Roles -/

/-- The prefixes of the names of methods with this role. -/
def PropertyPolicy.prefixes (policy : PropertyPolicy) : Role → List String
  | .getter | .keyedGetter => policy.getterPrefixes
  | .setter | .keyedSetter => policy.setterPrefixes
  | .counter => policy.countPrefixes
  | .adder => policy.adderPrefixes
  | .inserter => policy.inserterPrefixes
  | .remover => policy.removerPrefixes

/-- Whether methods with this role can have so many parameters. -/
def Role.takes : Role → Nat → Bool
  | getter, n | counter, n => n = 0
  | keyedGetter, n | setter, n | adder, n => n = 1
  | keyedSetter, n | inserter, n => n = 2
  | remover, n => 0 < n

/-- Whether the first parameter of methods with this role is always a position. -/
def Role.takesPosition : Role → Bool
  | inserter | remover => true
  | _ => false

/-- What can be relied on where a method plays a role under a base name. -/
structure Method.Plays (policy : PropertyPolicy) (m : Method) (role : Role) (base : String) :
    Prop where
  named : NamedAfter (policy.prefixes role) base m.name
  arity : role.takes m.params.length
  position : role.takesPosition → m.takesIndexAt policy 0
  counts : role = .counter → policy.isIndexType m.returnValue

theorem Method.namedAfter_of_getterBase? {m : Method} {policy : PropertyPolicy} {base : String}
    (h : m.getterBase? policy = some base) : NamedAfter policy.getterPrefixes base m.name := by
  obtain ⟨n, divided, h⟩ := Option.bind_eq_some_iff.mp h
  split_ifs at h
  cases h
  exact PrefixedName.namedAfter_of_ofName? divided

theorem Method.namedAfter_of_baseAfter? {m : Method} {prefixes : List String} {base : String}
    (h : m.baseAfter? prefixes = some base) : NamedAfter prefixes base m.name := by
  obtain ⟨n, divided, rfl⟩ := Option.map_eq_some_iff.mp h
  exact PrefixedName.namedAfter_of_ofName? divided

/-- One kind of role is played under at most one base name, where one is left
and the parameters fit. -/
theorem Method.mem_play {base? : Option String} {fits : Bool} {played role : Role}
    {base : String} :
    (role, base) ∈
        (match base? with
          | some base => if fits then [(played, base)] else []
          | none => []) ↔
      role = played ∧ base? = some base ∧ fits := by
  cases base? <;> cases fits <;> simp [eq_comm]

theorem Method.plays_of_mem_roles {m : Method} {policy : PropertyPolicy} {role : Role}
    {base : String} (mem : (role, base) ∈ m.roles policy) : m.Plays policy role base := by
  simp only [roles, List.mem_append, or_assoc] at mem
  rcases mem with mem | mem | mem | mem | mem | mem | mem | mem <;>
    obtain ⟨rfl, after, fits⟩ := mem_play.mp mem
  · exact ⟨namedAfter_of_getterBase? after, fits, nofun, nofun⟩
  · exact ⟨namedAfter_of_getterBase? after, fits, nofun, nofun⟩
  · exact ⟨namedAfter_of_baseAfter? after, fits, nofun, nofun⟩
  · exact ⟨namedAfter_of_baseAfter? after, fits, nofun, nofun⟩
  · obtain ⟨arity, counts⟩ := (Bool.and_eq_true _ _).mp fits
    exact ⟨namedAfter_of_baseAfter? after, arity, nofun, fun _ => counts⟩
  · exact ⟨namedAfter_of_baseAfter? after, fits, nofun, nofun⟩
  · obtain ⟨arity, position⟩ := (Bool.and_eq_true _ _).mp fits
    exact ⟨namedAfter_of_baseAfter? after, arity, fun _ => position, nofun⟩
  · obtain ⟨p, first, -⟩ := (Option.any_eq_true _ _).mp fits
    have some_param : 0 < m.params.length := (List.getElem?_eq_some_iff.mp first).1
    exact ⟨namedAfter_of_baseAfter? after, decide_eq_true some_param, fun _ => fits, nofun⟩

/-! ### Accessors -/

/-- What can be relied on for an accessor of a method list. -/
structure Accessor.Fits (policy : PropertyPolicy) (methods : List Method) (a : Accessor) :
    Prop where
  there : methods[a.index]? = some a.method
  candidate : a.method.isCandidate
  plays : a.method.Plays policy a.role a.base

theorem Accessor.fits_of_mem_ofMethods {policy : PropertyPolicy} {methods : List Method}
    {a : Accessor} (mem : a ∈ Accessor.ofMethods policy methods) : a.Fits policy methods := by
  obtain ⟨⟨m, i⟩, chosen, mem⟩ := List.mem_flatMap.mp mem
  obtain ⟨there, candidate⟩ := List.mem_filter.mp chosen
  obtain ⟨⟨role, base⟩, played, rfl⟩ := List.mem_map.mp mem
  exact ⟨List.mk_mem_zipIdx_iff_getElem?.mp there, candidate, Method.plays_of_mem_roles played⟩

end Reflectory
