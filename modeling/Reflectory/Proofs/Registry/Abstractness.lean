/-
Pure virtual methods that are left over, and types that become abstract by them.

A type is finished from what its direct bases leave over (`leftOver_iff_step`).
Over the whole graph of bases this comes to ways: a method is left over by a
type exactly if a way along its bases, of any access and any length, leads to a
type that declares it pure virtual, past no type that implements it
(`leftOver_iff_unmetWay`). The kinds of types follow from that alone.
-/

import Reflectory.Proofs.Registry.Bases

namespace Reflectory

namespace Registry

/-! ### What types declare -/

/-- The type declares the method, and declares it pure virtual. -/
def DeclaresPure (r : Registry) (id : TypeId) (s : Signature) : Prop :=
  ∃ d, r.get? id = some d ∧ s ∈ d.pureVirtuals

/-- The type declares the method, and not as a pure virtual one. -/
def Implements (r : Registry) (id : TypeId) (s : Signature) : Prop :=
  ∃ d, r.get? id = some d ∧ s ∈ d.implemented

/-- The type leaves the method over. -/
def LeavesOver (r : Registry) (id : TypeId) (s : Signature) : Prop :=
  ∃ d, r.get? id = some d ∧ s ∈ d.unimplemented

/-- A way along bases leads from the type to one that declares the method pure
virtual, and no type before that one implements it. -/
def UnmetWay (r : Registry) (id : TypeId) (s : Signature) : Prop :=
  ∃ (k : Nat) (way : Nat → TypeId), way 0 = id ∧ (∀ i < k, r.HasBase (way i) (way (i + 1))) ∧
    r.DeclaresPure (way k) s ∧ ∀ i < k, ¬ r.Implements (way i) s

/-- The way that begins with this type and goes on along another. -/
def wayFrom (id : TypeId) (way : Nat → TypeId) : Nat → TypeId
  | 0 => id
  | i + 1 => way i

/-- A way is over at once, or goes on from a base. -/
theorem unmetWay_iff_step {r : Registry} {id : TypeId} {s : Signature} :
    r.UnmetWay id s ↔ r.DeclaresPure id s ∨
      ¬ r.Implements id s ∧ ∃ base, r.HasBase id base ∧ r.UnmetWay base s := by
  constructor
  · rintro ⟨k, way, rfl, along, declared, unmet⟩
    cases k with
    | zero => exact .inl declared
    | succ k =>
      refine .inr ⟨unmet 0 k.succ_pos, way 1, along 0 k.succ_pos, k, fun i => way (i + 1), rfl,
        fun i h => along (i + 1) (Nat.succ_lt_succ h), declared,
        fun i h => unmet (i + 1) (Nat.succ_lt_succ h)⟩
  · rintro (declared | ⟨unmet, base, link, k, way, rfl, along, declared, rest⟩)
    · exact ⟨0, fun _ => id, rfl, fun _ h => absurd h (Nat.not_lt_zero _), declared,
        fun _ h => absurd h (Nat.not_lt_zero _)⟩
    · refine ⟨k + 1, wayFrom id way, rfl, fun i h => ?_, declared, fun i h => ?_⟩
      · cases i with
        | zero => exact link
        | succ i => exact along i (Nat.lt_of_succ_lt_succ h)
      · cases i with
        | zero => exact unmet
        | succ i => exact rest i (Nat.lt_of_succ_lt_succ h)

/-! ### What types leave over -/

variable {r : Registry} {config : Configuration}

theorem mem_leftOver_iff {get? : TypeId → Option Descriptor} {d : Descriptor} {s : Signature} :
    s ∈ d.leftOver get? ↔ s ∈ d.pureVirtuals ∨
      s ∉ d.implemented ∧ ∃ b ∈ d.bases, ∃ base, b.target = .resolved base ∧
        ∃ e, get? base = some e ∧ s ∈ e.unimplemented := by
  unfold Descriptor.leftOver
  rw [SignatureSet.mem_union, List.mem_flatMap]
  refine or_congr_right ⟨?_, ?_⟩
  · rintro ⟨b, mem, left⟩
    cases target : b.target with
    | resolved base =>
      rw [target] at left
      obtain ⟨left, unmet⟩ := List.mem_filter.mp left
      cases there : get? base with
      | none => simp [there] at left
      | some e =>
        rw [there] at left
        exact ⟨of_decide_eq_true unmet, b, mem, base, target, e, there, left⟩
    | unresolved => simp [target] at left
    | external => simp [target] at left
    | invalid => simp [target] at left
  · rintro ⟨unmet, b, mem, base, target, e, there, left⟩
    refine ⟨b, mem, ?_⟩
    rw [target]
    refine List.mem_filter.mpr ⟨?_, decide_eq_true unmet⟩
    rw [there]
    exact left

/-- A type leaves over what it declares pure virtual, and what its bases leave
over as far as it does not implement it. -/
theorem leftOver_iff_step {id : TypeId} {s : Signature} :
    (r.consolidate config).registry.LeavesOver id s ↔
      (r.consolidate config).registry.DeclaresPure id s ∨
        ¬ (r.consolidate config).registry.Implements id s ∧
          ∃ base, (r.consolidate config).registry.HasBase id base ∧
            (r.consolidate config).registry.LeavesOver base s := by
  constructor
  · rintro ⟨D, there, left⟩
    obtain ⟨d, registered, rfl⟩ := registered_of_consolidated there
    rw [Descriptor.finished_unimplemented] at left
    rcases mem_leftOver_iff.mp left with declared | ⟨unmet, b, mem, base, target, e, known, left⟩
    · exact .inl ⟨_, there, declared⟩
    · refine .inr ⟨?_, base, ⟨_, there, b, mem, target⟩, e, known, left⟩
      rintro ⟨D, there', implemented⟩
      cases there.symm.trans there'
      exact unmet implemented
  · rintro (⟨D, there, declared⟩ | ⟨unmet, base, ⟨D, there, b, mem, target⟩, e, known, left⟩)
    · obtain ⟨d, registered, rfl⟩ := registered_of_consolidated there
      exact ⟨_, there, mem_leftOver_iff.mpr (.inl declared)⟩
    · obtain ⟨d, registered, rfl⟩ := registered_of_consolidated there
      refine ⟨_, there, mem_leftOver_iff.mpr (.inr ⟨?_, b, mem, base, target, e, known, left⟩)⟩
      exact fun implemented => unmet ⟨_, there, implemented⟩

/-- What is left over over the whole graph of bases. The induction is along the
order of the types: the bases of a type are final when it is finished. -/
theorem leftOver_iff_unmetWay (id : TypeId) (s : Signature) :
    (r.consolidate config).registry.LeavesOver id s ↔
      (r.consolidate config).registry.UnmetWay id s := by
  induction id using base_induction r config with
  | step id ih =>
    rw [leftOver_iff_step, unmetWay_iff_step]
    refine or_congr_right (and_congr_right fun _ => exists_congr fun base => ?_)
    exact and_congr_right fun link => ih base link

/-! ### Kinds -/

/-- What becomes of the kind of a type that leaves methods over, or does not. -/
inductive KindOutcome (leavesOver : Prop) : Kind → Kind → Prop where
  | object {before after : Bool} :
      (after = true ↔ before = true ∨ leavesOver) →
      KindOutcome leavesOver (.object before) (.object after)
  | becomesAbstract : leavesOver → KindOutcome leavesOver .plain (.object true)
  | staysPlain : ¬ leavesOver → KindOutcome leavesOver .plain .plain
  | other {k : Kind} : (∀ isAbstract, k ≠ .object isAbstract) → k ≠ .plain →
      KindOutcome leavesOver k k

theorem kindOutcome_completed (k : Kind) (left : SignatureSet) :
    KindOutcome (left ≠ []) k (k.completed !left.isEmpty) := by
  cases k with
  | object isAbstract => exact .object (by simp)
  | plain =>
    cases left with
    | nil => exact .staysPlain fun h => h rfl
    | cons => exact .becomesAbstract (List.cons_ne_nil _ _)
  | typedef | custom | enumeration | container => exact .other nofun nofun

/-- **Abstractness over the whole graph of bases.** Consolidation keeps what a
type declares. It leaves over exactly the methods for which a way along bases, of
any access, leads to a type that declares them pure virtual, past no type that
implements them. An object type is abstract if it was so or leaves methods over,
a plain type becomes an abstract object type exactly then, and no other kind
changes. -/
theorem unimplemented_iff_unmetWay (r : Registry) (config : Configuration) :
    let consolidated := (r.consolidate config).registry
    ∀ id d, r.get? id = some d →
      ∃ d', consolidated.get? id = some d' ∧
        d'.pureVirtuals = d.pureVirtuals ∧ d'.implemented = d.implemented ∧
        (∀ s, s ∈ d'.unimplemented ↔ consolidated.UnmetWay id s) ∧
        KindOutcome (d'.unimplemented ≠ []) d.kind d'.kind := by
  intro consolidated id d there
  have completed : consolidated.get? id =
      some ((r.relinked config id d).finished config consolidated.get?) :=
    consolidated_of_registered there
  refine ⟨_, completed, Descriptor.finished_pureVirtuals, Descriptor.finished_implemented, ?_, ?_⟩
  · intro s
    rw [← leftOver_iff_unmetWay]
    constructor
    · exact fun left => ⟨_, completed, left⟩
    · rintro ⟨d', there', left⟩
      cases completed.symm.trans there'
      exact left
  · rw [Descriptor.finished_unimplemented, Descriptor.finished_kind]
    exact kindOutcome_completed d.kind _

/-- `area() const`. -/
def area : Signature := ⟨"area", [], true⟩

/-- A pure virtual method that is implemented on the way from `D` over `B`, and
not on the way over `C`. -/
def shapes : Registry where
  types := [
    { name := "A", kind := .object false, pureVirtuals := [area] },
    { name := "B", kind := .object false, bases := [{ name := "A" }], implemented := [area] },
    { name := "C", kind := .plain, bases := [{ name := "A", access := .isPrivate }] },
    { name := "D", kind := .plain, bases := [{ name := "B" }, { name := "C" }] }]

/-- In `shapes`, the way over `C` leaves `area` over for `D`, which becomes
abstract. -/
theorem unimplemented_iff_unmetWay_shapes :
    (∃ d, shapes.get? ⟨3⟩ = some d ∧ d.kind = .plain) ∧
      (shapes.consolidate {}).registry.UnmetWay ⟨3⟩ area ∧
      ∃ d', (shapes.consolidate {}).registry.get? ⟨3⟩ = some d' ∧ d'.kind = .object true := by
  have computed : ((shapes.consolidate {}).registry.get? ⟨3⟩).map
      (fun d => (d.unimplemented, d.kind)) = some ([area], .object true) := by cbv
  obtain ⟨d', there, -, -, left, -⟩ := unimplemented_iff_unmetWay shapes {} ⟨3⟩ _ rfl
  rw [there, Option.map_some, Option.some.injEq, Prod.mk.injEq] at computed
  have mem : area ∈ d'.unimplemented := by
    rw [computed.1]
    exact List.mem_singleton.mpr rfl
  exact ⟨⟨_, rfl, rfl⟩, (left area).mp mem, d', there, computed.2⟩

end Registry

end Reflectory
