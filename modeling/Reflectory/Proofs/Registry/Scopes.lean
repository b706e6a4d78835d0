/-
Types in scopes that are not reflected.

Without include patterns a type is reflected if it is complete and nothing in its own
declaration speaks against it. The scopes around it have no say, with one exception: what
cannot be named cannot be named further in, since a name holds the names of its scopes. So
a type can be reflected inside a class template or a private class, and is, wherever a
declaration puts it there.

* `eligible_iff_declared`: what makes a type eligible.
* `eligible_in_template`: a type that is eligible inside a class template.
-/

import Reflectory.Proofs.Registry.Provenance
import Reflectory.Proofs.Registry.Repetition
import Reflectory.Proofs.Registry.Validity

namespace Reflectory

/-! ### Scopes around a name -/

namespace Spelling

/-- The scopes around a name, innermost first. -/
def enclosingScopes (name : String) : List String :=
  (scope? name).elim [] scopesFrom

theorem eq_of_splitScope {depth : Nat} {cs before after : List Char}
    (split : splitScope depth cs = some (before, after)) :
    cs = before ++ ':' :: ':' :: after := by
  fun_induction splitScope depth cs generalizing before after with
  | case1 => cases split
  | case2 cs inner rest found ih =>
    obtain ⟨rfl, rfl⟩ := Prod.mk.inj (Option.some.inj split)
    rw [ih found]
    rfl
  | case3 cs none =>
    obtain ⟨rfl, rfl⟩ := Prod.mk.inj (Option.some.inj split)
    rfl
  | case4 depth c cs other ih =>
    obtain ⟨⟨inner, rest⟩, found, same⟩ := Option.map_eq_some_iff.mp split
    obtain ⟨rfl, rfl⟩ := Prod.mk.inj same
    rw [ih found]
    rfl

/-- A name begins with its scope. -/
theorem prefix_of_scope? {name scope : String} (inside : scope? name = some scope) :
    scope.toList <+: name.toList := by
  unfold scope? at inside
  split at inside
  next before after split =>
    split_ifs at inside
    obtain rfl := Option.some.inj inside
    rw [eq_of_splitScope split, String.toList_ofList]
    exact List.prefix_append _ _
  next => cases inside

theorem prefix_of_mem_scopesFrom {scope outer : String} (mem : outer ∈ scopesFrom scope) :
    outer.toList <+: scope.toList := by
  induction scope using scopesFrom.induct with
  | case1 scope ih =>
    rw [scopesFrom, List.mem_cons] at mem
    obtain rfl | further := mem
    · exact List.prefix_rfl
    · split at further
      next inner inside => exact (ih inner inside further).trans (prefix_of_scope? inside)
      next => cases further

/-- A name begins with every scope around it. -/
theorem prefix_of_mem_enclosingScopes {name scope : String} (mem : scope ∈ enclosingScopes name) :
    scope.toList <+: name.toList := by
  unfold enclosingScopes at mem
  cases inside : scope? name with
  | none =>
    rw [inside] at mem
    cases mem
  | some inner =>
    rw [inside] at mem
    exact (prefix_of_mem_scopesFrom mem).trans (prefix_of_scope? inside)

end Spelling

open Spelling

/-! ### What a declaration says -/

theorem Configuration.eligibilityOverride?_of_no_includes {config : Configuration}
    (no_includes : config.includes = []) (name : String) :
    config.eligibilityOverride? name =
      if anyMatch config.excludes name then some false else none := by
  simp [eligibilityOverride?, no_includes, anyMatch]

namespace Descriptor

/-- The type can be reflected: it is not private, and is no class template unless its
reflector is written for it. -/
def IsReflectable (d : Descriptor) : Prop :=
  d.access ≠ .isPrivate ∧ (d.isTemplate → d.kind.isCustom)

/-- Nothing but a missing base can keep the type from being reflected. -/
def IsOpen (config : Configuration) (d : Descriptor) : Prop :=
  d.IsReflectable ∧ '@' ∉ d.name.toList ∧ ∀ p ∈ config.excludes, p.isMatch d.name = false

instance (d : Descriptor) : Decidable d.IsReflectable :=
  inferInstanceAs (Decidable (_ ∧ _))

instance (config : Configuration) (d : Descriptor) : Decidable (d.IsOpen config) :=
  inferInstanceAs (Decidable (_ ∧ _))

variable {config : Configuration} {d e : Descriptor}

/-- Two descriptors say the same of how their type may be used. -/
structure SameUse (d e : Descriptor) : Prop where
  name : d.name = e.name
  access : d.access = e.access
  isTemplate : d.isTemplate = e.isTemplate
  isCustom : d.kind.isCustom = e.kind.isCustom

theorem SameUse.isReflectable_iff (same : SameUse d e) : d.IsReflectable ↔ e.IsReflectable := by
  rw [IsReflectable, IsReflectable, same.access, same.isTemplate, same.isCustom]

/-- Without include patterns, a type is eligible if it is open and complete. -/
theorem isEligible_iff (no_includes : config.includes = []) {invalid : Bool} :
    d.isEligible config invalid ↔ (d.state ≠ .invalid ∧ invalid = false) ∧ d.IsOpen config := by
  rw [isEligible, config.eligibilityOverride?_of_no_includes no_includes, IsOpen, IsReflectable]
  by_cases excluded : Configuration.anyMatch config.excludes d.name
  · obtain ⟨p, mem, is_match⟩ : ∃ p ∈ config.excludes, p.isMatch d.name := by
      simpa [Configuration.anyMatch] using excluded
    rw [if_pos excluded]
    constructor
    · intro eligible
      cases eligible
    · rintro ⟨-, -, -, none⟩
      rw [none p mem] at is_match
      cases is_match
  · have none : ∀ p ∈ config.excludes, p.isMatch d.name = false := by
      simpa [Configuration.anyMatch] using excluded
    rw [if_neg excluded, and_iff_left none]
    cases invalid <;> cases d.isTemplate <;> simp <;> tauto

/-- Completing a type does not change how it may be used. -/
theorem sameUse_finished (r : Registry) (id : TypeId) (get? : TypeId → Option Descriptor)
    (d : Descriptor) : SameUse ((r.relinked config id d).finished config get?) d where
  name := rfl
  access := rfl
  isTemplate := rfl
  isCustom := by rw [finished_kind, Kind.isCustom_completed]; rfl

theorem eligible_finished_iff (no_includes : config.includes = [])
    {get? : TypeId → Option Descriptor} :
    (d.finished config get?).eligible ↔
      (d.finished config get?).state ≠ .invalid ∧ d.IsOpen config := by
  have complete : (d.finished config get?).state ≠ .invalid ↔
      d.state ≠ .invalid ∧ (d.invalidReason? get?).isSome = false := by
    rw [Ne, Registry.state_finished_eq_invalid_iff, not_or, Bool.not_eq_true]
  rw [finished_eligible, isEligible_iff no_includes, complete]

end Descriptor

/-! ### What is reflected -/

/-- A compound of the index offers the type. -/
def DeclarationIndex.Offers (index : DeclarationIndex) (config : Configuration)
    (d : Descriptor) : Prop :=
  ∃ handle ∈ index.handles, ∃ c, index.resolve handle = .ok c ∧ d ∈ c.offered config

namespace Registry

/-- A registered type can be used as before when it is consolidated. -/
theorem exists_sameUse {r : Registry} (config : Configuration) {d : Descriptor}
    (registered : d ∈ r.types) :
    ∃ D ∈ (r.consolidate config).registry.types, D.SameUse d := by
  obtain ⟨id, there⟩ := mem_types_iff_get?.mp registered
  exact ⟨_, mem_types_iff_get?.mpr ⟨id, consolidated_of_registered there⟩,
    Descriptor.sameUse_finished _ _ _ d⟩

/-- An open type without bases gets a unit, whatever scope it is in. -/
theorem exists_emitted {r : Registry} {config : Configuration} (no_includes : config.includes = [])
    {d : Descriptor} (registered : d ∈ r.types) (valid : d.state ≠ .invalid)
    (no_bases : d.bases = []) (is_open : d.IsOpen config) :
    ∃ D ∈ (r.consolidate config).registry.types, D.SameUse d ∧ D.isEmitted ∧
      ∃ leavesOver, D.kind = d.kind.completed leavesOver := by
  obtain ⟨id, there⟩ := mem_types_iff_get?.mp registered
  have completed : (r.consolidate config).registry.get? id = _ := consolidated_of_registered there
  have no_links : (r.relinked config id d).bases = [] := by simp [relinked, no_bases]
  have complete : ((r.relinked config id d).finished config
      (r.consolidate config).registry.get?).state ≠ .invalid := by
    rw [Ne, state_finished_eq_invalid_iff, Descriptor.invalidReason?, no_links]
    simpa [relinked] using valid
  refine ⟨_, mem_types_iff_get?.mpr ⟨id, completed⟩, Descriptor.sameUse_finished _ _ _ d, ?_,
    _, Descriptor.finished_kind⟩
  have eligible := (Descriptor.eligible_finished_iff no_includes).mpr ⟨complete, is_open⟩
  have state := (state_of_consolidated completed).resolve_right complete
  exact Bool.and_eq_true_iff.mpr ⟨eligible, decide_eq_true state⟩

/-- Every type of a registry that was built and consolidated is used as a compound of the
index says. -/
theorem exists_offer {index : DeclarationIndex} {config : Configuration}
    (no_includes : config.includes = []) {D : Descriptor}
    (mem : D ∈ ((build index config).registry.consolidate config).registry.types) :
    ∃ d, index.Offers config d ∧ D.SameUse d ∧
      (D.eligible ↔ D.state ≠ .invalid ∧ d.IsOpen config) := by
  obtain ⟨id, there⟩ := mem_types_iff_get?.mp mem
  obtain ⟨d, registered, rfl⟩ := registered_of_consolidated there
  have offered := offered_of_mem_build (mem_types_iff_get?.mpr ⟨id, registered⟩)
  exact ⟨d, offered, Descriptor.sameUse_finished _ _ _ d,
    Descriptor.eligible_finished_iff no_includes⟩

/-- **A type is eligible by what its own declaration says.** Without include patterns, a
type that was built and consolidated is eligible exactly if it is complete and its
declaration is open. No scope around an eligible type has a name that cannot be written.
And where no compound offers an open type inside one that cannot be reflected, no eligible
type lies in the scope of one that cannot be reflected. -/
theorem eligible_iff_declared (index : DeclarationIndex) {config : Configuration}
    (no_includes : config.includes = []) :
    let types := ((build index config).registry.consolidate config).registry.types
    (∀ D ∈ types, ∃ d, index.Offers config d ∧ D.SameUse d ∧
      (D.eligible ↔ D.state ≠ .invalid ∧ d.IsOpen config)) ∧
    (∀ D ∈ types, D.eligible → ∀ scope ∈ enclosingScopes D.name, '@' ∉ scope.toList) ∧
    ((∀ d e, index.Offers config d → index.Offers config e → e.name ∈ enclosingScopes d.name →
        d.IsOpen config → e.IsReflectable) →
      ∀ D ∈ types, D.eligible → ∀ E ∈ types, E.name ∈ enclosingScopes D.name →
        E.IsReflectable) := by
  intro types
  refine ⟨fun D mem => exists_offer no_includes mem, ?_, ?_⟩
  · intro D mem eligible scope around unwritable
    obtain ⟨d, -, same, iff⟩ := exists_offer no_includes mem
    obtain ⟨-, -, writable, -⟩ := iff.mp eligible
    rw [← same.name] at writable
    exact writable ((prefix_of_mem_enclosingScopes around).subset unwritable)
  · intro kept_out D mem eligible E outer_mem around
    obtain ⟨d, offered, same, iff⟩ := exists_offer no_includes mem
    obtain ⟨e, outer_offered, outer_same, -⟩ := exists_offer no_includes outer_mem
    rw [outer_same.name, same.name] at around
    exact outer_same.isReflectable_iff.mpr
      (kept_out d e offered outer_offered around (iff.mp eligible).2)

/-- A class and a class template, each with an enumeration. -/
def nodeAndGrid (access : Access) : List CompoundDeclaration :=
  [(CompoundDeclaration.ofClass "Node").member (.enumeration "Mode" []),
    { CompoundDeclaration.ofClass "Grid" with
      templateParams := ["typename T"]
      members := [(MemberDeclaration.enumeration "Mode" []).withAccess access] }]

/-- Where the enumeration of the template is private, that of the class is all that is
eligible in a scope. -/
theorem eligible_iff_declared_private :
    let types := ((build (.ofCompounds (nodeAndGrid .isPrivate)) {}).registry.consolidate
      {}).registry.types
    (∃ D ∈ types, D.name = "Node::Mode" ∧ D.eligible) ∧
      ∀ D ∈ types, D.eligible → ∀ E ∈ types, E.name ∈ enclosingScopes D.name →
        E.IsReflectable := by
  intro types
  have no_includes : ({} : Configuration).includes = [] := rfl
  obtain ⟨-, -, kept_out⟩ :=
    eligible_iff_declared (.ofCompounds (nodeAndGrid .isPrivate)) no_includes
  have closed : ∀ d ∈ (nodeAndGrid .isPrivate).flatMap (CompoundDeclaration.offered {}),
      ∀ e ∈ (nodeAndGrid .isPrivate).flatMap (CompoundDeclaration.offered {}),
        e.name ∈ enclosingScopes d.name → d.IsOpen {} → e.IsReflectable := by
    decide +kernel
  have inner : ∃ d ∈ (build (.ofCompounds (nodeAndGrid .isPrivate)) {}).registry.types,
      d.name = "Node::Mode" ∧ d.state ≠ .invalid ∧ d.bases = [] ∧ d.IsOpen {} := by
    decide +kernel
  refine ⟨?_, kept_out ?_⟩
  · obtain ⟨d, registered, name, valid, no_bases, is_open⟩ := inner
    obtain ⟨D, mem, same, emitted, -⟩ :=
      exists_emitted no_includes registered valid no_bases is_open
    exact ⟨D, mem, same.name.trans name, (Bool.and_eq_true_iff.mp emitted).1⟩
  · rintro d e ⟨handle, -, c, resolved, offered⟩ ⟨handle', -, c', resolved', offered'⟩
    exact closed d (List.mem_flatMap.mpr ⟨c, mem_of_resolve_ofCompounds resolved, offered⟩)
      e (List.mem_flatMap.mpr ⟨c', mem_of_resolve_ofCompounds resolved', offered'⟩)

/-- **A type can be eligible inside a class template.** Where the enumeration of the template
is public, it is reflected and the template is not. -/
theorem eligible_in_template :
    ¬ ∀ (index : DeclarationIndex) (config : Configuration), config.includes = [] →
      ∀ D ∈ ((build index config).registry.consolidate config).registry.types, D.eligible →
        ∀ E ∈ ((build index config).registry.consolidate config).registry.types,
          E.name ∈ enclosingScopes D.name → E.IsReflectable := by
  intro always
  have inside : ∃ d ∈ (build (.ofCompounds (nodeAndGrid .isPublic)) {}).registry.types,
      (d.state ≠ .invalid ∧ d.bases = [] ∧ d.IsOpen {}) ∧
        ∃ e ∈ (build (.ofCompounds (nodeAndGrid .isPublic)) {}).registry.types,
          e.name ∈ enclosingScopes d.name ∧ ¬ e.IsReflectable := by
    decide +kernel
  obtain ⟨d, registered, ⟨valid, no_bases, is_open⟩, e, outer, around, unreflectable⟩ := inside
  obtain ⟨D, mem, same, emitted, -⟩ := exists_emitted rfl registered valid no_bases is_open
  obtain ⟨E, outer_mem, outer_same⟩ := exists_sameUse {} outer
  rw [← outer_same.name, ← same.name] at around
  rw [← outer_same.isReflectable_iff] at unreflectable
  have eligible : D.eligible := (Bool.and_eq_true_iff.mp emitted).1
  exact unreflectable (always _ _ rfl D mem eligible E outer_mem around)

end Registry

end Reflectory
