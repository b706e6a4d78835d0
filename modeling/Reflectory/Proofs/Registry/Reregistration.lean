/-
Registering a descriptor a second time.

A descriptor that was accepted is known from then on, and registering it again changes
nothing. There is one exception: a plain type that leaves pure virtual methods over
when it is consolidated becomes an abstract object type, and its own descriptor is
refused from then on, as one of another kind.

* `kindOutcome_after`: what becomes of the kind of a type under any operations.
* `register_again`: when a descriptor that was accepted is accepted again.
-/

import Reflectory.Proofs.Registry.Abstractness
import Reflectory.Proofs.Registry.Numbering

namespace Reflectory

namespace Registry

variable {r r' : Registry} {d e : Descriptor} {id : TypeId} {op : Operation}
  {ops : List Operation}

/-! ### Left over during operations -/

/-- One of the operations is a consolidation that finds methods which the type leaves
over. -/
def LeftOverDuring (r : Registry) (ops : List Operation) (id : TypeId) : Prop :=
  ∃ first config rest s, ops = first ++ .consolidate config :: rest ∧
    ((r.after first).consolidate config).registry.LeavesOver id s

theorem not_leftOverDuring_nil : ¬ r.LeftOverDuring [] id := by
  rintro ⟨first, config, rest, s, same, -⟩
  exact List.append_ne_nil_of_right_ne_nil first (List.cons_ne_nil _ rest) same.symm

theorem leftOverDuring_cons : r.LeftOverDuring (op :: ops) id ↔
    (∃ config s, op = .consolidate config ∧
      (r.consolidate config).registry.LeavesOver id s) ∨
    (r.perform op).LeftOverDuring ops id := by
  constructor
  · rintro ⟨first, config, rest, s, same, left⟩
    cases first with
    | nil =>
      obtain ⟨rfl, rfl⟩ := List.cons.inj same
      exact .inl ⟨config, s, rfl, left⟩
    | cons op' first =>
      obtain ⟨rfl, rfl⟩ := List.cons.inj same
      exact .inr ⟨first, config, rest, s, rfl, left⟩
  · rintro (⟨config, s, rfl, left⟩ | ⟨first, config, rest, s, rfl, left⟩)
    · exact ⟨[], config, ops, s, rfl, left⟩
    · exact ⟨op :: first, config, rest, s, rfl, left⟩

/-! ### Kinds under operations -/

theorem KindOutcome.of_iff {p q : Prop} {k k' : Kind} (outcome : KindOutcome p k k')
    (same : p ↔ q) : KindOutcome q k k' := by
  rwa [propext same] at outcome

/-- Nothing becomes of a kind if nothing is left over. -/
theorem KindOutcome.refl (k : Kind) : KindOutcome False k k := by
  cases k with
  | object => exact .object (by simp)
  | plain => exact .staysPlain id
  | typedef | custom | enumeration | container => exact .other nofun nofun

/-- What becomes of a kind in one go, and then in another. -/
theorem KindOutcome.trans {p q : Prop} {k k' k'' : Kind} (first : KindOutcome p k k')
    (second : KindOutcome q k' k'') : KindOutcome (p ∨ q) k k'' := by
  cases first with
  | object becomes =>
    cases second with
    | object becomes' => exact .object (by rw [becomes', becomes, or_assoc])
    | other ne => exact absurd rfl (ne _)
  | becomesAbstract left =>
    cases second with
    | object becomes' =>
      rw [becomes'.mpr (.inl rfl)]
      exact .becomesAbstract (.inl left)
    | other ne => exact absurd rfl (ne _)
  | staysPlain spared =>
    cases second with
    | becomesAbstract left => exact .becomesAbstract (.inr left)
    | staysPlain spared' => exact .staysPlain (not_or.mpr ⟨spared, spared'⟩)
    | other _ ne => exact absurd rfl ne
  | other ne ne' =>
    cases second with
    | object => exact absurd rfl (ne _)
    | becomesAbstract | staysPlain => exact absurd rfl ne'
    | other => exact .other ne ne'

/-- What an operation makes of a type: the name stays, and the kind follows from what a
consolidation finds left over. -/
theorem kindOutcome_perform (there : r.get? id = some d) (op : Operation) :
    ∃ e, (r.perform op).get? id = some e ∧ e.name = d.name ∧
      KindOutcome (∃ config s, op = .consolidate config ∧
        (r.consolidate config).registry.LeavesOver id s) d.kind e.kind := by
  cases op with
  | register e =>
    refine ⟨d, get?_perform_register there e, rfl, (KindOutcome.refl d.kind).of_iff ?_⟩
    simp
  | consolidate config =>
    have completed : (r.consolidate config).registry.get? id = _ :=
      consolidated_of_registered there
    refine ⟨_, completed, rfl, ?_⟩
    rw [Descriptor.finished_kind]
    refine (kindOutcome_completed d.kind _).of_iff ?_
    constructor
    · intro some_left
      obtain ⟨s, left⟩ := List.exists_mem_of_ne_nil _ some_left
      exact ⟨config, s, rfl, _, completed, left⟩
    · rintro ⟨config', s, same, e, there', left⟩
      cases same
      cases completed.symm.trans there'
      exact List.ne_nil_of_mem left

/-- What operations make of a type. -/
theorem kindOutcome_after (there : r.get? id = some d) (ops : List Operation) :
    ∃ e, (r.after ops).get? id = some e ∧ e.name = d.name ∧
      KindOutcome (r.LeftOverDuring ops id) d.kind e.kind := by
  induction ops generalizing r d with
  | nil =>
    exact ⟨d, there, rfl, (KindOutcome.refl d.kind).of_iff (by simp [not_leftOverDuring_nil])⟩
  | cons op ops ih =>
    obtain ⟨e, there', named, outcome⟩ := kindOutcome_perform there op
    obtain ⟨e', there'', named', outcome'⟩ := ih there'
    exact ⟨e', there'', named'.trans named,
      (outcome.trans outcome').of_iff leftOverDuring_cons.symm⟩

/-! ### Registering again -/

/-- A kind that agrees with what a type was is compared with what became of it. -/
theorem KindOutcome.agrees_iff {p : Prop} {k k' given : Kind} (outcome : KindOutcome p k k')
    (agrees : k.Agrees given) : k'.Agrees given ↔ ¬ (given = .plain ∧ p) := by
  obtain rfl | ⟨a, b, rfl, rfl⟩ := agrees
  · cases outcome with
    | object => simp [Kind.Agrees]
    | becomesAbstract left => simp [Kind.Agrees, left]
    | staysPlain spared => simp [Kind.Agrees, spared]
    | other ne ne' => simp [Kind.Agrees, ne']
  · cases outcome with
    | object => simp [Kind.Agrees]
    | other ne => exact absurd rfl (ne a)

/-- A plain type that leaves methods over is an abstract object type from then on. -/
theorem KindOutcome.eq_abstract {p : Prop} {k k' : Kind} (outcome : KindOutcome p k k')
    (agrees : k.Agrees .plain) (left : p) : k' = .object true := by
  obtain rfl | ⟨-, -, -, ⟨⟩⟩ := agrees
  cases outcome with
  | becomesAbstract => rfl
  | staysPlain spared => exact absurd left spared
  | other _ ne => exact absurd rfl ne

/-- **Registering again.** A descriptor was accepted after some operations, and more of
them follow. If it is plain and one of the consolidations among them finds methods that
the type leaves over, then it is refused, as the type has become an abstract object type.
In all other cases it is accepted again with its number, and nothing changes. -/
theorem register_again (before later : List Operation) (r : Registry)
    (accepted : (({} : Registry).after before).register d = .ok (id, r)) :
    let now := r.after later
    (d.kind = .plain ∧ r.LeftOverDuring later id →
      now.register d = .error (.duplicateType d.name (.object true) .plain)) ∧
    (¬ (d.kind = .plain ∧ r.LeftOverDuring later id) → now.register d = .ok (id, now)) := by
  intro now
  have built : now.Built := ((Built.empty.after before).register accepted).after later
  obtain ⟨first, there, named, agrees⟩ := exists_of_register accepted
  obtain ⟨current, there', named', outcome⟩ := kindOutcome_after there later
  have found : now.lookup d.name = some id :=
    (lookup_eq_some_iff built.distinct).mpr ⟨current, there', named'.trans named⟩
  rw [register_of_lookup found there']
  constructor
  · rintro ⟨plain, left⟩
    rw [plain] at agrees
    rw [outcome.eq_abstract agrees left, plain]
    rfl
  · intro spared
    exact if_pos (Kind.sameRegistration_iff.mpr ((outcome.agrees_iff agrees).mpr spared))

/-- A type with a pure virtual method `run()`. -/
def runnable (kind : Kind) : Descriptor :=
  (Descriptor.ofSpelled "Event" kind).addMethod
    { Method.ofSpelled "run" "void" [] with virtuality := .pureVirtual }

/-- Consolidation makes both an object type and a plain type with a pure virtual method
abstract. Only the plain one is refused from then on. -/
theorem register_again_runnable :
    (({} : Registry).after [.register (runnable (.object false)), .consolidate {}]).register
        (runnable (.object false)) =
      .ok (⟨0⟩, ({} : Registry).after [.register (runnable (.object false)), .consolidate {}]) ∧
    (({} : Registry).after [.register (runnable .plain), .consolidate {}]).register
        (runnable .plain) =
      .error (.duplicateType "Event" (.object true) .plain) := by
  have accepted (kind : Kind) : ({} : Registry).register (runnable kind) =
      .ok (⟨0⟩, ({} : Registry).after [.register (runnable kind)]) := rfl
  have left : (({} : Registry).after [.register (runnable .plain)]).LeftOverDuring
      [.consolidate {}] ⟨0⟩ := by
    have computed :
        (((({} : Registry).after [.register (runnable .plain)]).consolidate {}).registry.get?
          ⟨0⟩).map Descriptor.unimplemented = some [⟨"run", [], false⟩] := by cbv
    obtain ⟨d, there, left⟩ := Option.map_eq_some_iff.mp computed
    exact ⟨[], {}, [], _, rfl, d, there, left ▸ List.mem_singleton.mpr rfl⟩
  exact ⟨(register_again [] [.consolidate {}] _ (accepted (.object false))).2
      fun exception => Kind.noConfusion exception.1,
    (register_again [] [.consolidate {}] _ (accepted .plain)).1 ⟨rfl, left⟩⟩

/-- That a descriptor was accepted does not make it known for good. -/
theorem not_always_accepted_again :
    ¬ ∀ (before later : List Operation) (d : Descriptor) (id : TypeId) (r : Registry),
      (({} : Registry).after before).register d = .ok (id, r) →
        (r.after later).register d = .ok (id, r.after later) := by
  intro always
  have again := always [] [.consolidate {}] (runnable .plain) ⟨0⟩
    (({} : Registry).after [.register (runnable .plain)]) rfl
  have refused : (((({} : Registry).after [.register (runnable .plain)]).after
      [.consolidate {}]).register (runnable .plain)).isOk = false := by cbv
  rw [again] at refused
  exact Bool.noConfusion refused

end Registry

end Reflectory
