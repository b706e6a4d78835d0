/-
Types that cannot be completed.

A type is finished as invalid if it was invalid before, or if a public base is
missing or invalid (`isInvalid_iff_step`). Over the whole graph, invalidity
comes from where it begins along public bases, and along nothing else
(`isInvalid_iff_way`). So what gets a unit has no public base that could not be
completed.
-/

import Reflectory.Generation.Units
import Reflectory.Proofs.Registry.Bases

namespace Reflectory

open Relation

namespace Registry

/-! ### Where invalidity begins -/

/-- The type is invalid. -/
def IsInvalid (r : Registry) (id : TypeId) : Prop :=
  ∃ d, r.get? id = some d ∧ d.state = .invalid

/-- The type has a public base that is not found. -/
def MissesPublicBase (r : Registry) (id : TypeId) : Prop :=
  ∃ d, r.get? id = some d ∧
    ∃ b ∈ d.bases, b.access = .isPublic ∧ b.target = .invalid .missing

/-! ### How it spreads -/

variable {r : Registry} {config : Configuration}

theorem isSome_invalidReason?_iff {get? : TypeId → Option Descriptor} {d : Descriptor} :
    (d.invalidReason? get?).isSome ↔ ∃ b ∈ d.bases, b.access = .isPublic ∧
      (b.target = .invalid .missing ∨ ∃ base, b.target = .resolved base ∧
        ∃ e, get? base = some e ∧ e.state = .invalid) := by
  unfold Descriptor.invalidReason?
  rw [List.findSome?_isSome_iff]
  refine exists_congr fun b => and_congr_right fun _ => ?_
  by_cases isPublic : b.access = .isPublic
  · rw [if_pos isPublic, and_iff_right isPublic]
    cases b.target with
    | resolved base => cases there : get? base <;> simp [there]
    | unresolved => simp
    | external => simp
    | invalid defect => cases defect <;> simp
  · simp [isPublic]

theorem state_finished_eq_invalid_iff {get? : TypeId → Option Descriptor} {d : Descriptor} :
    (d.finished config get?).state = .invalid ↔
      d.state = .invalid ∨ (d.invalidReason? get?).isSome := by
  rw [Descriptor.finished_state]
  split_ifs with h
  · simpa using h
  · simpa using h

/-- A type is invalid if it was, or if a public base is missing or invalid. -/
theorem isInvalid_iff_step {id : TypeId} :
    (r.consolidate config).registry.IsInvalid id ↔
      (r.IsInvalid id ∨ (r.consolidate config).registry.MissesPublicBase id) ∨
        ∃ base, (r.consolidate config).registry.HasPublicBase id base ∧
          (r.consolidate config).registry.IsInvalid base := by
  constructor
  · rintro ⟨D, there, invalid⟩
    obtain ⟨d, registered, rfl⟩ := registered_of_consolidated there
    rcases state_finished_eq_invalid_iff.mp invalid with before | reason
    · exact .inl (.inl ⟨d, registered, before⟩)
    · obtain ⟨b, mem, isPublic, missing | ⟨base, target, e, known, spoilt⟩⟩ :=
        isSome_invalidReason?_iff.mp reason
      · exact .inl (.inr ⟨_, there, b, mem, isPublic, missing⟩)
      · exact .inr ⟨base, ⟨_, there, b, mem, isPublic, target⟩, e, known, spoilt⟩
  · rintro ((⟨d, registered, before⟩ | ⟨D, there, b, mem, isPublic, missing⟩) |
      ⟨base, ⟨D, there, b, mem, isPublic, target⟩, e, known, spoilt⟩)
    · exact ⟨_, consolidated_of_registered registered,
        state_finished_eq_invalid_iff.mpr (.inl before)⟩
    · obtain ⟨d, registered, rfl⟩ := registered_of_consolidated there
      exact ⟨_, there, state_finished_eq_invalid_iff.mpr
        (.inr (isSome_invalidReason?_iff.mpr ⟨b, mem, isPublic, .inl missing⟩))⟩
    · obtain ⟨d, registered, rfl⟩ := registered_of_consolidated there
      exact ⟨_, there, state_finished_eq_invalid_iff.mpr (.inr
        (isSome_invalidReason?_iff.mpr
          ⟨b, mem, isPublic, .inr ⟨base, target, e, known, spoilt⟩⟩))⟩

/-- Over the whole graph of bases, invalidity spreads along public bases only. -/
theorem isInvalid_iff_way (id : TypeId) :
    (r.consolidate config).registry.IsInvalid id ↔
      ∃ e, ReflTransGen (r.consolidate config).registry.HasPublicBase id e ∧
        (r.IsInvalid e ∨ (r.consolidate config).registry.MissesPublicBase e) := by
  induction id using base_induction r config with
  | step id ih =>
    rw [isInvalid_iff_step]
    constructor
    · rintro (begins | ⟨base, link, invalid⟩)
      · exact ⟨id, .refl, begins⟩
      · obtain ⟨e, way, begins⟩ := (ih base link.hasBase).mp invalid
        exact ⟨e, .head link way, begins⟩
    · rintro ⟨e, way, begins⟩
      rcases ReflTransGen.cases_head way with rfl | ⟨base, link, way⟩
      · exact .inl begins
      · exact .inr ⟨base, link, (ih base link.hasBase).mpr ⟨e, way, begins⟩⟩

/-! ### What is reflected -/

/-- Where no rule decides, only what is consolidated is reflected. -/
theorem consolidated_of_eligible {id : TypeId} {D : Descriptor}
    (there : (r.consolidate config).registry.get? id = some D)
    (undecided : config.eligibilityOverride? D.name = none) (eligible : D.eligible) :
    D.state = .consolidated := by
  refine (state_of_consolidated there).resolve_right fun invalid => ?_
  obtain ⟨d, registered, rfl⟩ := registered_of_consolidated there
  rw [Descriptor.finished_eligible, Descriptor.isEligible] at eligible
  rw [Descriptor.finished_name] at undecided
  rcases state_finished_eq_invalid_iff.mp invalid with before | reason
  · simp [undecided, before] at eligible
  · simp [undecided, reason] at eligible

theorem eligibilityOverride?_eq_none {name : String}
    (included : ∀ p ∈ config.includes, p.isMatch name = false)
    (excluded : ∀ p ∈ config.excludes, p.isMatch name = false) :
    config.eligibilityOverride? name = none := by
  have no_include : Configuration.anyMatch config.includes name = false := by
    simpa [Configuration.anyMatch] using included
  have no_exclude : Configuration.anyMatch config.excludes name = false := by
    simpa [Configuration.anyMatch] using excluded
  simp [Configuration.eligibilityOverride?, no_include, no_exclude]

/-- The public bases of a consolidated type are complete, unless they are
external or dropped. -/
theorem publicBase_of_consolidated {id : TypeId} {D : Descriptor}
    (there : (r.consolidate config).registry.get? id = some D) (state : D.state = .consolidated)
    {b : BaseLink} (mem : b ∈ D.bases) (isPublic : b.access = .isPublic) :
    b.target = .external ∨ b.target = .invalid .cycle ∨
      ∃ base e, b.target = .resolved base ∧
        (r.consolidate config).registry.get? base = some e ∧ e.state = .consolidated := by
  have valid : ¬ (r.consolidate config).registry.IsInvalid id := by
    rintro ⟨D', there', invalid⟩
    cases there.symm.trans there'
    rw [state] at invalid
    cases invalid
  rw [isInvalid_iff_step, not_or, not_or] at valid
  cases target : b.target with
  | unresolved => exact absurd target (target_ne_unresolved_of_consolidated there mem)
  | external => exact .inl rfl
  | invalid defect =>
    cases defect with
    | missing => exact absurd ⟨D, there, b, mem, isPublic, target⟩ valid.1.2
    | cycle => exact .inr (.inl rfl)
  | resolved base =>
    have registered := mem_ids_of_hasBase (r := r) ⟨D, there, b, mem, target⟩
    obtain ⟨e, known⟩ := mem_ids_iff_get?.mp ((ids_consolidate r config base).mpr registered)
    refine .inr (.inr ⟨base, e, rfl, known, ?_⟩)
    refine (state_of_consolidated known).resolve_right fun invalid => valid.2 ?_
    exact ⟨base, ⟨D, there, b, mem, isPublic, target⟩, e, known, invalid⟩

/-- Every unit is that of a consolidated type. -/
theorem type_of_unit {config : Configuration} {u : UnitFile}
    (mem : u ∈ UnitFile.ofRegistry r config) :
    ∃ id d, r.get? id = some d ∧ u.type = d.name ∧
      u.contents = (SourceUnit.ofDescriptor r d).render ∧ d.state = .consolidated := by
  rw [UnitFile.ofRegistry, List.mem_map] at mem
  obtain ⟨d, emitted, unit⟩ := mem
  rw [Registry.emitted, List.mem_filter, settledTypes, List.mem_filterMap] at emitted
  obtain ⟨⟨id, -, there⟩, isEmitted⟩ := emitted
  have complete := (Bool.and_eq_true_iff.mp isEmitted).2
  refine ⟨id, d, there, ?_, ?_, by simpa using complete⟩
  · rw [← unit]
  · rw [← unit]

/-- **Invalidity spreads along public bases, and nothing invalid is reflected.**
After consolidation a type is invalid exactly if a way along public bases leads
to a type that was invalid before or misses a public base; every other type is
consolidated. Where no rule of the configuration matches, only what is
consolidated is reflected; and every public base of a type that gets a unit,
whatever the units are made with, is external, dropped, or consolidated. -/
theorem invalid_iff_publicWay (r : Registry) (config : Configuration) :
    let consolidated := (r.consolidate config).registry
    (∀ id d, consolidated.get? id = some d →
      (d.state = .invalid ↔ ∃ e, ReflTransGen consolidated.HasPublicBase id e ∧
        (r.IsInvalid e ∨ consolidated.MissesPublicBase e)) ∧
      (d.state ≠ .invalid → d.state = .consolidated) ∧
      ((∀ p ∈ config.includes, p.isMatch d.name = false) →
        (∀ p ∈ config.excludes, p.isMatch d.name = false) →
        d.eligible → d.state = .consolidated)) ∧
    ∀ naming, ∀ u ∈ UnitFile.ofRegistry consolidated naming,
      ∃ id d, consolidated.get? id = some d ∧ u.type = d.name ∧
        u.contents = (SourceUnit.ofDescriptor consolidated d).render ∧
        ∀ b ∈ d.bases, b.access = .isPublic →
          b.target = .external ∨ b.target = .invalid .cycle ∨
            ∃ base e, b.target = .resolved base ∧ consolidated.get? base = some e ∧
              e.state = .consolidated := by
  intro consolidated
  refine ⟨fun id d there => ⟨?_, ?_, ?_⟩, fun naming u mem => ?_⟩
  · rw [← isInvalid_iff_way]
    constructor
    · exact fun invalid => ⟨d, there, invalid⟩
    · rintro ⟨d', there', invalid⟩
      cases there.symm.trans there'
      exact invalid
  · exact (state_of_consolidated there).resolve_right
  · intro included excluded eligible
    exact consolidated_of_eligible there (eligibilityOverride?_eq_none included excluded) eligible
  · obtain ⟨id, d, there, type, contents, state⟩ := type_of_unit mem
    exact ⟨id, d, there, type, contents,
      fun b mem isPublic => publicBase_of_consolidated there state mem isPublic⟩

/-- A missing base that is public, one that is not, and a type above each. -/
def strays : Registry where
  types := [
    { name := "A", kind := .object false, bases := [{ name := "N" }] },
    { name := "B", kind := .object false, bases := [{ name := "N", access := .isPrivate }] },
    { name := "C", kind := .object false, bases := [{ name := "A" }] },
    { name := "D", kind := .object false, bases := [{ name := "B" }] }]

/-- In `strays`, `C` is invalid for what its base misses; `D` is reflected, and
its unit is that of a type whose base is consolidated. -/
theorem invalid_iff_publicWay_strays :
    (∃ e, ReflTransGen (strays.consolidate {}).registry.HasPublicBase ⟨2⟩ e ∧
      (strays.IsInvalid e ∨ (strays.consolidate {}).registry.MissesPublicBase e)) ∧
    (∃ d, (strays.consolidate {}).registry.get? ⟨3⟩ = some d ∧ d.eligible ∧
      d.state = .consolidated) ∧
    ∃ u ∈ UnitFile.ofRegistry (strays.consolidate {}).registry {}, u.type = "D" ∧
      ∃ e, (strays.consolidate {}).registry.get? ⟨1⟩ = some e ∧ e.state = .consolidated := by
  obtain ⟨types, units⟩ := invalid_iff_publicWay strays {}
  have spoilt : ((strays.consolidate {}).registry.get? ⟨2⟩).map Descriptor.state =
      some .invalid := by cbv
  have fine : ((strays.consolidate {}).registry.get? ⟨3⟩).map Descriptor.eligible =
      some true := by cbv
  have emitted : (strays.consolidate {}).registry.emitted.map Descriptor.name = ["B", "D"] := by
    cbv
  have linked : ((strays.consolidate {}).registry.types.filter fun d => d.name = "D").map
      Descriptor.bases = [[{ name := "B", target := .resolved ⟨1⟩ }]] := by cbv
  refine ⟨?_, ?_, ?_⟩
  · obtain ⟨d, there, state⟩ := Option.map_eq_some_iff.mp spoilt
    exact (types ⟨2⟩ d there).1.mp state
  · obtain ⟨d, there, eligible⟩ := Option.map_eq_some_iff.mp fine
    exact ⟨d, there, eligible, (types ⟨3⟩ d there).2.2 (by simp) (by simp) eligible⟩
  · have named : "D" ∈ (strays.consolidate {}).registry.emitted.map Descriptor.name := by
      rw [emitted]
      exact List.mem_cons_of_mem _ List.mem_cons_self
    obtain ⟨d, mem, name⟩ := List.mem_map.mp named
    obtain ⟨id, d', there, type, -, bases⟩ := units {} _ (List.mem_map_of_mem mem)
    have of_d : d' ∈ (strays.consolidate {}).registry.types.filter fun d => d.name = "D" :=
      List.mem_filter.mpr ⟨List.mem_of_getElem? there, decide_eq_true (type.symm.trans name)⟩
    have of_bases := List.mem_map_of_mem (f := Descriptor.bases) of_d
    rw [linked, List.mem_singleton] at of_bases
    refine ⟨_, List.mem_map_of_mem mem, name, ?_⟩
    rcases bases _ (of_bases ▸ List.mem_singleton.mpr rfl) rfl with
      external | cycle | ⟨base, e, target, known, state⟩
    · cases external
    · cases cycle
    · cases target
      exact ⟨e, known, state⟩

end Registry

end Reflectory
