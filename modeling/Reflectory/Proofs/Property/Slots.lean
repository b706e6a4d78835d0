/-
Reading by place.

The passes over the base names can be run on a table that lists, for every role under a base
name, the places of the methods that play it. They then look up slots under names that come
from a list kept beside the table, methods at the places in the slots, and parameters by
position, and any of these could be missing. None is: `SlotTable.Sound` says what the table
promises, every turn of a name keeps the promise and reads nothing that is not there, and
what comes out is what the passes find.

* `SlotTable.slots?_ofAccessors`, `SlotTable.order_ofAccessors`: what the table lists.
* `Sweep.free_eq`, `Sweep.turn_eq`, `Sweep.run_eq`: what is read, what a turn does and what a
  run comes to.
* `nothing_missing`: every state of a run is sound, and every turn from it succeeds.
-/

import Mathlib.Data.List.Induction
import Mathlib.Logic.Function.Basic
import Reflectory.Proofs.Property.Agreement

namespace Reflectory

open Spelling

/-! ### The table -/

/-- The accessors with a role under a base name. -/
def Accessor.playing (accessors : List Accessor) (base : String) (role : Role) : List Accessor :=
  accessors.filter fun a => a.base = base && a.role = role

theorem Accessor.mem_playing_iff {accessors : List Accessor} {base : String} {role : Role}
    {a : Accessor} :
    a ∈ Accessor.playing accessors base role ↔ a ∈ accessors ∧ a.base = base ∧ a.role = role := by
  simp [playing]

theorem Accessor.playing_concat (accessors : List Accessor) (a : Accessor) (base : String)
    (role : Role) :
    Accessor.playing (accessors ++ [a]) base role =
      Accessor.playing accessors base role ++
        if a.base = base ∧ a.role = role then [a] else [] := by
  rw [playing, List.filter_append, ← playing, List.filter_singleton, ← Bool.decide_and,
    Bool.cond_decide]

theorem Accessor.mem_baseNames_iff {accessors : List Accessor} {base : String} :
    base ∈ Accessor.baseNames accessors ↔ base ∈ accessors.map Accessor.base := by
  rw [baseNames, mem_foldl_insertNew, or_iff_right List.not_mem_nil]

/-- The places of the methods with each role under one base name. -/
abbrev Slots := Role → List Nat

/-- The slots of each base name that occurs, and the names in the order in which they first
occur. -/
structure SlotTable where
  slots? : String → Option Slots := fun _ => none
  order : List String := []

namespace SlotTable

/-- Lists the place of an accessor. -/
def list (t : SlotTable) (a : Accessor) : SlotTable :=
  let slots := (t.slots? a.base).getD fun _ => []
  { slots? := Function.update t.slots? a.base
      (some (Function.update slots a.role (slots a.role ++ [a.index])))
    order := if (t.slots? a.base).isSome then t.order else t.order ++ [a.base] }

/-- The table of a list of accessors. -/
def ofAccessors (accessors : List Accessor) : SlotTable :=
  accessors.foldl list {}

/-- What a table promises: what it lists for a role are public methods of the list that are
neither static nor constructors and take as many parameters as the role does, and there are
slots for every name. -/
structure Sound (methods : List Method) (t : SlotTable) : Prop where
  listed : ∀ base slots, t.slots? base = some slots → ∀ role, ∀ i ∈ slots role,
    ∃ m, methods[i]? = some m ∧ m.visibility = .isPublic ∧ m.isStatic = false ∧
      m.isConstructor = false ∧ role.takes m.params.length
  ordered : ∀ base ∈ t.order, ∃ slots, t.slots? base = some slots

theorem ofAccessors_concat (accessors : List Accessor) (a : Accessor) :
    ofAccessors (accessors ++ [a]) = (ofAccessors accessors).list a := by
  simp [ofAccessors]

/-- The slots of a name list the accessors with that base name, role by role. -/
theorem slots?_ofAccessors (accessors : List Accessor) (base : String) :
    (ofAccessors accessors).slots? base =
      if base ∈ accessors.map Accessor.base then
        some fun role => (Accessor.playing accessors base role).map Accessor.index
      else none := by
  induction accessors using List.reverseRecOn with
  | nil => rfl
  | append_singleton accessors a ih =>
    rw [ofAccessors_concat]
    simp only [list]
    by_cases here : base = a.base
    · subst here
      have before : ((ofAccessors accessors).slots? a.base).getD (fun _ => []) =
          fun role => (Accessor.playing accessors a.base role).map Accessor.index := by
        rw [ih]
        split_ifs with occurs
        · rfl
        · funext role
          have none_plays : Accessor.playing accessors a.base role = [] := by
            refine List.filter_eq_nil_iff.mpr fun b mem plays => occurs ?_
            have same : b.base = a.base ∧ b.role = role := by simpa using plays
            exact same.1 ▸ List.mem_map_of_mem mem
          simp [none_plays]
      rw [Function.update_self, before, if_pos (by simp)]
      congr 1
      funext role
      by_cases plays : role = a.role
      · subst plays
        simp [Accessor.playing_concat]
      · simp [Accessor.playing_concat, plays, Ne.symm plays]
    · have other : ¬ a.base = base := Ne.symm here
      rw [Function.update_of_ne here, ih]
      simp [Accessor.playing_concat, here, other]

/-- The names stand in the order in which they first occur. -/
theorem order_ofAccessors (accessors : List Accessor) :
    (ofAccessors accessors).order = Accessor.baseNames accessors := by
  induction accessors using List.reverseRecOn with
  | nil => rfl
  | append_singleton accessors a ih =>
    have occurs : ((ofAccessors accessors).slots? a.base).isSome ↔
        a.base ∈ Accessor.baseNames accessors := by
      rw [slots?_ofAccessors, Accessor.mem_baseNames_iff]
      split_ifs with mem <;> simp [mem]
    have next : Accessor.baseNames (accessors ++ [a]) =
        insertNew (Accessor.baseNames accessors) a.base := by
      simp [Accessor.baseNames]
    rw [ofAccessors_concat, next, insertNew, list, ih]
    simp [occurs]

theorem sound_ofAccessors (policy : PropertyPolicy) (methods : List Method) :
    (ofAccessors (Accessor.ofMethods policy methods)).Sound methods where
  listed := by
    intro base slots found role i listed
    rw [slots?_ofAccessors] at found
    split_ifs at found
    cases found
    obtain ⟨a, plays, rfl⟩ := List.mem_map.mp listed
    obtain ⟨mem, -, rfl⟩ := Accessor.mem_playing_iff.mp plays
    have fits := Accessor.fits_of_mem_ofMethods mem
    have candidate := fits.candidate
    simp only [Method.isCandidate, Bool.and_eq_true, decide_eq_true_eq,
      Bool.not_eq_true'] at candidate
    exact ⟨a.method, fits.there, candidate.1.1, candidate.1.2, candidate.2, fits.plays.arity⟩
  ordered := by
    intro base mem
    rw [order_ofAccessors, Accessor.mem_baseNames_iff] at mem
    exact ⟨_, (slots?_ofAccessors _ base).trans (if_pos mem)⟩

end SlotTable

/-! ### Reading -/

/-- What is to be read and is not there. -/
inductive Missing where
  | slots (base : String)
  | method (place : Nat)
  | parameter (method : String) (place : Nat)
  | setter (base : String)
  deriving DecidableEq, Repr

/-- What is there, or what is missing. -/
def Missing.read {α : Type} (missing : Missing) : Option α → Except Missing α
  | some a => .ok a
  | none => .error missing

/-- A parameter by its position. -/
def Method.param (m : Method) (i : Nat) : Except Missing Parameter :=
  (Missing.parameter m.name i).read m.params[i]?

/-- A run over the base names: the table that it reads, and what it has found. -/
structure Sweep where
  table : SlotTable
  findings : Findings := {}

/-- The three passes. -/
inductive Pass where
  | arrays | indexed | simple
  deriving DecidableEq, Repr

/-- What a pass finds under a name. -/
def Pass.find (policy : PropertyPolicy) (accessors : List Accessor) :
    Pass → Findings → String → Findings
  | .arrays => Findings.addArray policy accessors
  | .indexed => Findings.addIndexed accessors
  | .simple => Findings.addSimple accessors

namespace Sweep

/-- The accessor at a place that is listed for a role under a base name. -/
def accessorAt (methods : List Method) (base : String) (role : Role) (i : Nat) :
    Except Missing Accessor := do
  let m ← (Missing.method i).read methods[i]?
  return ⟨i, m, role, base⟩

/-- The accessors that the slots of a name list for a role and that serve no property yet. -/
def free (w : Sweep) (methods : List Method) (base : String) (role : Role) :
    Except Missing (List Accessor) := do
  let slots ← (Missing.slots base).read (w.table.slots? base)
  let listed ← (slots role).mapM (accessorAt methods base role)
  return listed.filter fun a => !w.findings.uses a.index

/-- Adds a property. -/
def fuse (w : Sweep) (f : Fusion) : Sweep :=
  { w with findings := { w.findings with found := w.findings.found ++ [f] } }

/-- The turn of a name in the pass over arrays. -/
def arrayTurn (policy : PropertyPolicy) (methods : List Method) (w : Sweep) (base : String) :
    Except Missing Sweep := do
  let getter? ← (← w.free methods base .keyedGetter).findM? fun a => do
    return policy.isIndexType (← a.method.param 0).type
  let some getter := getter? | return w
  let counter? ← w.table.order.findSomeM? fun plural => do
    if isPluralOf plural base then
      return (← w.free methods plural .counter).head?
    else return none
  let some counter := counter? | return w
  let name := propertyName counter.base
  if w.findings.names name then return w
  let element := getter.method.returnValue
  let setter ← (← w.free methods base .keyedSetter).findM? fun a => do
    return policy.isIndexType (← a.method.param 0).type &&
      valueType (← a.method.param 1).type == element
  let adder ← (← w.free methods base .adder).findM? fun a => do
    return valueType (← a.method.param 0).type == element
  let inserter ← (← w.free methods base .inserter).findM? fun a => do
    return valueType (← a.method.param 1).type == element
  let remover := (← w.free methods base .remover).head?
  return w.fuse <| .of getter.index name .array getter.method.returnType
    (some (getter.method.paramValue 0))
    { getter := some getter, counter := some counter, setter, adder, inserter, remover }

/-- The turn of a name in the pass over indexed properties. -/
def indexedTurn (methods : List Method) (w : Sweep) (base : String) : Except Missing Sweep := do
  let some getter := (← w.free methods base .keyedGetter).head? | return w
  let name := propertyName base
  if w.findings.names name then return w
  let key := getter.method.paramValue 0
  let element := getter.method.returnValue
  let setter ← (← w.free methods base .keyedSetter).findM? fun a => do
    return valueType (← a.method.param 0).type == key &&
      valueType (← a.method.param 1).type == element
  return w.fuse <| .of getter.index name .indexed getter.method.returnType (some key)
    { getter := some getter, setter }

/-- The turn of a name in the pass over simple properties. -/
def simpleTurn (methods : List Method) (w : Sweep) (base : String) : Except Missing Sweep := do
  let getters ← w.free methods base .getter
  let setters ← w.free methods base .setter
  let getter? := (getters.find? fun a => a.method.isConst) <|> getters.head?
  if getter?.isNone && setters.isEmpty then return w
  let name := propertyName base
  if w.findings.names name then return w
  match getter? with
  | some getter =>
    let value := getter.method.returnValue
    match setters.find? fun a => a.method.paramValue 0 == value, setters.head? with
    | none, some setter =>
      let rejection : Rejection :=
        { property := name
          getter := getter.method.signature
          returned := value
          setter := setter.method.signature
          taken := setter.method.paramValue 0 }
      return { w with findings :=
        { w.findings with rejected := w.findings.rejected ++ [rejection] } }
    | setter, _ =>
      return w.fuse <| .of getter.index name .simple getter.method.returnType none
        { getter := some getter, setter }
  | none =>
    let setter ← (Missing.setter base).read setters[0]?
    return w.fuse <| .of setter.index name .simple (← setter.method.param 0).type none
      { setter := some setter }

/-- The turn of a name in a pass. -/
def turn (policy : PropertyPolicy) (methods : List Method) : Pass → Sweep → String →
    Except Missing Sweep
  | .arrays => arrayTurn policy methods
  | .indexed => indexedTurn methods
  | .simple => simpleTurn methods

/-- A pass: every name of the table has its turn. -/
def pass (policy : PropertyPolicy) (methods : List Method) (w : Sweep) (p : Pass) :
    Except Missing Sweep :=
  w.table.order.foldlM (turn policy methods p) w

/-- The table of a method list, with what has been found. -/
def ofFindings (policy : PropertyPolicy) (methods : List Method) (s : Findings) : Sweep :=
  ⟨.ofAccessors (Accessor.ofMethods policy methods), s⟩

/-- The three passes, one after the other. -/
def run (policy : PropertyPolicy) (methods : List Method) : Except Missing Sweep :=
  [Pass.arrays, .indexed, .simple].foldlM (pass policy methods) (ofFindings policy methods {})

/-- The states that turns of names lead to, in whatever order they come. -/
inductive Reached (policy : PropertyPolicy) (methods : List Method) : Sweep → Prop
  | start : Reached policy methods (ofFindings policy methods {})
  | turn {w w' : Sweep} {p : Pass} {base : String} (reached : Reached policy methods w)
      (mem : base ∈ w.table.order) (done : turn policy methods p w base = .ok w') :
      Reached policy methods w'

end Sweep

/-! ### Nothing is missing -/

section

variable {α β ε : Type}

theorem ok_bind (a : α) (next : α → Except ε β) : (Except.ok a >>= next) = next a :=
  rfl

/-- Searching succeeds where looking at the elements does. -/
theorem findM?_eq_ok {accept : α → Except ε Bool} {accepts : α → Bool} {as : List α}
    (looks : ∀ a ∈ as, accept a = .ok (accepts a)) : as.findM? accept = .ok (as.find? accepts) := by
  induction as with
  | nil => rfl
  | cons a as ih =>
    obtain ⟨look, looks⟩ := List.forall_mem_cons.mp looks
    rw [List.findM?, look, List.find?_cons]
    cases accepts a with
    | true => rfl
    | false => exact ih looks

theorem findSomeM?_eq_ok {choose : α → Except ε (Option β)} {chosen : α → Option β} {as : List α}
    (looks : ∀ a ∈ as, choose a = .ok (chosen a)) :
    as.findSomeM? choose = .ok (as.findSome? chosen) := by
  induction as with
  | nil => rfl
  | cons a as ih =>
    obtain ⟨look, looks⟩ := List.forall_mem_cons.mp looks
    rw [List.findSomeM?_cons, look, List.findSome?_cons]
    cases chosen a with
    | some b => rfl
    | none => exact ih looks

/-- Reading elements at places succeeds where each is there. -/
theorem mapM_map_eq_ok {place : α → β} {read : β → Except ε α} {as : List α}
    (there : ∀ a ∈ as, read (place a) = .ok a) : (as.map place).mapM read = .ok as := by
  induction as with
  | nil => rfl
  | cons a as ih =>
    obtain ⟨first, there⟩ := List.forall_mem_cons.mp there
    rw [List.map_cons, List.mapM_cons, first, ih there]
    rfl

end

namespace Method

variable {m : Method} {p q : Parameter} {rest : List Parameter}

theorem param_zero (params : m.params = p :: rest) : m.param 0 = .ok p := by
  rw [param, params]
  rfl

theorem param_one (params : m.params = p :: q :: rest) : m.param 1 = .ok q := by
  rw [param, params]
  rfl

end Method

namespace Sweep

variable {policy : PropertyPolicy} {methods : List Method} {s : Findings} {base element : String}
  {a : Accessor}

/-- A turn that stops where the name of its property is taken comes to what adding the
property does. -/
theorem ok_add {f : Fusion} {name : String} (of_name : f.property.name = name) :
    (if (ofFindings policy methods s).findings.names name then pure (ofFindings policy methods s)
      else pure ((ofFindings policy methods s).fuse f) : Except Missing Sweep) =
        .ok (ofFindings policy methods (s.add f)) := by
  subst of_name
  exact (apply_ite (fun t => Except.ok (ofFindings policy methods t)) _ _ _).symm

/-! Each thing that is asked of an accessor can be read, because it has the parameters of its
role. -/

theorem key_read (free : a ∈ s.free (Accessor.ofMethods policy methods) base .keyedGetter) :
    (do return policy.isIndexType (← a.method.param 0).type : Except Missing Bool) =
      .ok (a.method.takesIndexAt policy 0) := by
  obtain ⟨key, params⟩ := (Accessor.plays_of_mem_free free).params_eq_one rfl
  rw [Method.param_zero params, Method.takesIndexAt_zero params]
  rfl

theorem position_and_value_read
    (free : a ∈ s.free (Accessor.ofMethods policy methods) base .keyedSetter) :
    (do return policy.isIndexType (← a.method.param 0).type &&
        valueType (← a.method.param 1).type == element : Except Missing Bool) =
      .ok (a.method.takesIndexAt policy 0 && a.method.paramValue 1 == element) := by
  obtain ⟨key, value, params⟩ := (Accessor.plays_of_mem_free free).params_eq_two rfl
  rw [Method.param_zero params, Method.param_one params, Method.takesIndexAt_zero params,
    Method.paramValue_one params]
  rfl

theorem key_and_value_read {key : String}
    (free : a ∈ s.free (Accessor.ofMethods policy methods) base .keyedSetter) :
    (do return valueType (← a.method.param 0).type == key &&
        valueType (← a.method.param 1).type == element : Except Missing Bool) =
      .ok (a.method.paramValue 0 == key && a.method.paramValue 1 == element) := by
  obtain ⟨key, value, params⟩ := (Accessor.plays_of_mem_free free).params_eq_two rfl
  rw [Method.param_zero params, Method.param_one params, Method.paramValue_zero params,
    Method.paramValue_one params]
  rfl

theorem added_value_read (free : a ∈ s.free (Accessor.ofMethods policy methods) base .adder) :
    (do return valueType (← a.method.param 0).type == element : Except Missing Bool) =
      .ok (a.method.paramValue 0 == element) := by
  obtain ⟨value, params⟩ := (Accessor.plays_of_mem_free free).params_eq_one rfl
  rw [Method.param_zero params, Method.paramValue_zero params]
  rfl

theorem inserted_value_read
    (free : a ∈ s.free (Accessor.ofMethods policy methods) base .inserter) :
    (do return valueType (← a.method.param 1).type == element : Except Missing Bool) =
      .ok (a.method.paramValue 1 == element) := by
  obtain ⟨position, value, params⟩ := (Accessor.plays_of_mem_free free).params_eq_two rfl
  rw [Method.param_one params, Method.paramValue_one params]
  rfl

section

variable (mem : base ∈ Accessor.baseNames (Accessor.ofMethods policy methods))
include mem

/-- What is read under a name of the table is what is free. -/
theorem free_eq (role : Role) :
    (ofFindings policy methods s).free methods base role =
      .ok (s.free (Accessor.ofMethods policy methods) base role) := by
  rw [Accessor.mem_baseNames_iff] at mem
  have there : ∀ a ∈ Accessor.playing (Accessor.ofMethods policy methods) base role,
      accessorAt methods base role a.index = .ok a := by
    intro a plays
    obtain ⟨a_mem, rfl, rfl⟩ := Accessor.mem_playing_iff.mp plays
    rw [accessorAt, (Accessor.fits_of_mem_ofMethods a_mem).there]
    rfl
  rw [free, ofFindings, SlotTable.slots?_ofAccessors, if_pos mem, Missing.read, ok_bind,
    mapM_map_eq_ok there, ok_bind]
  simp [Accessor.playing, Findings.free, List.filter_filter, Bool.and_comm, pure, Except.pure]

/-- The turn of a name finds what the pass over arrays finds. -/
theorem arrayTurn_eq :
    (ofFindings policy methods s).arrayTurn policy methods base =
      .ok (ofFindings policy methods
        (s.addArray policy (Accessor.ofMethods policy methods) base)) := by
  have counter : ∀ plural ∈ Accessor.baseNames (Accessor.ofMethods policy methods),
      (if isPluralOf plural base then
        do return (← (ofFindings policy methods s).free methods plural .counter).head?
      else return none : Except Missing (Option Accessor)) =
        .ok (if isPluralOf plural base then
          (s.free (Accessor.ofMethods policy methods) plural .counter).head? else none) := by
    intro plural mem
    rw [free_eq mem, ok_bind]
    split_ifs <;> rfl
  rw [arrayTurn, free_eq mem, ok_bind, findM?_eq_ok fun _ => key_read, ok_bind, Findings.addArray]
  dsimp only
  cases (s.free (Accessor.ofMethods policy methods) base .keyedGetter).find?
      fun a => a.method.takesIndexAt policy 0 with
  | none => rfl
  | some getter =>
    dsimp only
    have order : (ofFindings policy methods s).table.order =
        Accessor.baseNames (Accessor.ofMethods policy methods) :=
      SlotTable.order_ofAccessors _
    rw [order, findSomeM?_eq_ok counter, ok_bind]
    cases (Accessor.baseNames (Accessor.ofMethods policy methods)).findSome? fun plural =>
        if isPluralOf plural base then
          (s.free (Accessor.ofMethods policy methods) plural .counter).head? else none with
    | none => rfl
    | some counter =>
      dsimp only
      rw [free_eq mem, ok_bind, findM?_eq_ok fun _ => position_and_value_read, ok_bind,
        free_eq mem, ok_bind, findM?_eq_ok fun _ => added_value_read, ok_bind,
        free_eq mem, ok_bind, findM?_eq_ok fun _ => inserted_value_read, ok_bind,
        free_eq mem, ok_bind]
      exact ok_add rfl

/-- The turn of a name finds what the pass over indexed properties finds. -/
theorem indexedTurn_eq :
    (ofFindings policy methods s).indexedTurn methods base =
      .ok (ofFindings policy methods (s.addIndexed (Accessor.ofMethods policy methods) base)) := by
  rw [indexedTurn, free_eq mem, ok_bind, Findings.addIndexed]
  dsimp only
  cases (s.free (Accessor.ofMethods policy methods) base .keyedGetter).head? with
  | none => rfl
  | some getter =>
    dsimp only
    rw [free_eq mem, ok_bind, findM?_eq_ok fun _ => key_and_value_read, ok_bind]
    exact ok_add rfl

/-- The turn of a name finds what the pass over simple properties finds. -/
theorem simpleTurn_eq :
    (ofFindings policy methods s).simpleTurn methods base =
      .ok (ofFindings policy methods (s.addSimple (Accessor.ofMethods policy methods) base)) := by
  rw [simpleTurn, free_eq mem, ok_bind, free_eq mem, ok_bind, Findings.addSimple]
  dsimp only
  cases ((s.free (Accessor.ofMethods policy methods) base .getter).find? fun a =>
      a.method.isConst) <|> (s.free (Accessor.ofMethods policy methods) base .getter).head? with
  | none =>
    cases setters : s.free (Accessor.ofMethods policy methods) base .setter with
    | nil => rfl
    | cons setter rest =>
      -- No getter is free, so the first setter is taken, and its only parameter.
      have free : setter ∈ s.free (Accessor.ofMethods policy methods) base .setter :=
        setters ▸ List.mem_cons_self
      obtain ⟨value, params⟩ := (Accessor.plays_of_mem_free free).params_eq_one rfl
      have type : (setter.method.params[0]?.map Parameter.type).getD "" = value.type := by
        rw [params]
        rfl
      dsimp only
      rw [type, List.getElem?_cons_zero, Missing.read, ok_bind, Method.param_zero params, ok_bind]
      exact ok_add rfl
  | some getter =>
    dsimp only
    rw [Option.isNone_some, Bool.false_and, if_neg Bool.false_ne_true]
    cases (s.free (Accessor.ofMethods policy methods) base .setter).find? fun a =>
        a.method.paramValue 0 == getter.method.returnValue with
    | some setter => exact ok_add rfl
    | none =>
      cases s.free (Accessor.ofMethods policy methods) base .setter with
      | nil => exact ok_add rfl
      | cons setter rest =>
        exact (apply_ite (fun t => Except.ok (ofFindings policy methods t)) _ _ _).symm

/-- The turn of a name finds what the pass finds. -/
theorem turn_eq (p : Pass) :
    turn policy methods p (ofFindings policy methods s) base =
      .ok (ofFindings policy methods (p.find policy (Accessor.ofMethods policy methods) s base)) :=
  match p with
  | .arrays => arrayTurn_eq mem
  | .indexed => indexedTurn_eq mem
  | .simple => simpleTurn_eq mem

end

theorem order_ofFindings :
    (ofFindings policy methods s).table.order =
      Accessor.baseNames (Accessor.ofMethods policy methods) :=
  SlotTable.order_ofAccessors _

/-- Turns of some names one after the other find what the pass over them finds. -/
theorem turns_eq {p : Pass} {bases : List String}
    (occur : bases ⊆ Accessor.baseNames (Accessor.ofMethods policy methods)) :
    bases.foldlM (turn policy methods p) (ofFindings policy methods s) =
      .ok (ofFindings policy methods
        (bases.foldl (p.find policy (Accessor.ofMethods policy methods)) s)) := by
  induction bases generalizing s with
  | nil => rfl
  | cons base bases ih =>
    obtain ⟨mem, occur⟩ := List.cons_subset.mp occur
    rw [List.foldlM_cons, turn_eq mem, ok_bind, ih occur, List.foldl_cons]

theorem pass_eq (p : Pass) :
    pass policy methods (ofFindings policy methods s) p =
      .ok (ofFindings policy methods ((Accessor.baseNames (Accessor.ofMethods policy methods)).foldl
        (p.find policy (Accessor.ofMethods policy methods)) s)) := by
  rw [pass, order_ofFindings, turns_eq (List.Subset.refl _)]

/-- A run finds what the three passes find. -/
theorem run_eq :
    run policy methods =
      .ok (ofFindings policy methods
        (Findings.ofAccessors policy (Accessor.ofMethods policy methods))) := by
  rw [run, List.foldlM_cons, pass_eq, ok_bind, List.foldlM_cons, pass_eq, ok_bind,
    List.foldlM_cons, pass_eq, ok_bind]
  rfl

namespace Reached

variable {w : Sweep}

/-- No turn of a name changes the table. -/
theorem eq_ofFindings (reached : Reached policy methods w) :
    ∃ s, w = ofFindings policy methods s := by
  induction reached with
  | start => exact ⟨{}, rfl⟩
  | turn _ mem done ih =>
    obtain ⟨s, rfl⟩ := ih
    rw [turn_eq (order_ofFindings ▸ mem)] at done
    exact ⟨_, (Except.ok.inj done).symm⟩

/-- Turns of names one after the other go through states that are reached. -/
theorem turns {p : Pass} {bases : List String}
    (reached : Reached policy methods (ofFindings policy methods s))
    (occur : bases ⊆ Accessor.baseNames (Accessor.ofMethods policy methods)) :
    Reached policy methods (ofFindings policy methods
      (bases.foldl (p.find policy (Accessor.ofMethods policy methods)) s)) := by
  induction bases generalizing s with
  | nil => exact reached
  | cons base bases ih =>
    obtain ⟨mem, occur⟩ := List.cons_subset.mp occur
    exact ih (.turn reached (order_ofFindings ▸ mem) (turn_eq mem p)) occur

theorem pass (p : Pass) (reached : Reached policy methods (ofFindings policy methods s)) :
    Reached policy methods (ofFindings policy methods
      ((Accessor.baseNames (Accessor.ofMethods policy methods)).foldl
        (p.find policy (Accessor.ofMethods policy methods)) s)) :=
  reached.turns (List.Subset.refl _)

/-- A run comes to a state that is reached. -/
theorem run :
    Reached policy methods (ofFindings policy methods
      (Findings.ofAccessors policy (Accessor.ofMethods policy methods))) :=
  ((Reached.start.pass .arrays).pass .indexed).pass .simple

end Reached

end Sweep

/-- At every state of a run, whatever turns have led to it, the table keeps its promise and
every name of the table has its slots; so the next turn of any name in any pass finds every
slot, method and parameter it reads. A run therefore comes to an end, with what the passes
find. -/
theorem nothing_missing (policy : PropertyPolicy) (methods : List Method) :
    (∀ w, Sweep.Reached policy methods w →
      w.table.Sound methods ∧
        ∀ p, ∀ base ∈ w.table.order, ∃ w', Sweep.turn policy methods p w base = .ok w') ∧
    ∃ last, Sweep.run policy methods = .ok last ∧ Sweep.Reached policy methods last ∧
      last.findings = Findings.ofAccessors policy (Accessor.ofMethods policy methods) := by
  refine ⟨fun w reached => ?_, _, Sweep.run_eq, Sweep.Reached.run, rfl⟩
  obtain ⟨s, rfl⟩ := reached.eq_ofFindings
  refine ⟨SlotTable.sound_ofAccessors policy methods, fun p base mem => ⟨_, Sweep.turn_eq ?_ p⟩⟩
  exact Sweep.order_ofFindings ▸ mem

/-- The children of a node have a getter, a setter, two adders and a remover, each listed by its
place, and their turn in the first pass succeeds. -/
theorem nothing_missing_children :
    let start := Sweep.ofFindings {} nodeMethods {}
    Sweep.Reached {} nodeMethods start ∧ start.table.order = ["NumChildren", "Children", "Child"] ∧
      (start.table.slots? "Child").map (fun slots => slots .adder) = some [3, 4] ∧
      start.table.Sound nodeMethods ∧
      ∃ w', Sweep.turn {} nodeMethods .arrays start "Child" = .ok w' := by
  have order :
      (Sweep.ofFindings {} nodeMethods {}).table.order = ["NumChildren", "Children", "Child"] := by
    decide +kernel
  obtain ⟨sound, turns⟩ := (nothing_missing {} nodeMethods).1 _ .start
  exact ⟨.start, order, by decide +kernel, sound, turns .arrays "Child" (by simp [order])⟩

end Reflectory
