/-
Values of the labels of enumerations.

The labels of an enumeration are given values in turn. A label has the value of its
initialiser, in which the labels before it are known by their names, the last one where a name
is repeated; and a label without an initialiser, or with one that cannot be evaluated, has the
value that follows that of the label before it. `Evaluates` says this label by label, and for
each list of declarations there is one list of labels of which it holds. Nothing that is
declared later takes part in it.

* `evaluates_iff`: the labels that are registered are those that the rules give.
* `warns_evaluationEvents`: an initialiser that cannot be evaluated is reported once.
* `labels_evaluated_in_turn`: what is registered and reported for an enumeration.
-/

import Reflectory.Proofs.Constant.Evaluation
import Reflectory.Proofs.Registry.Offers

namespace Reflectory

open Constant (evaluate wrap)

variable {before es es' : List Enumerator} {e : Enumerator} {ds : List EnumeratorDeclaration}
  {d : EnumeratorDeclaration}

/-! ### Rules -/

/-- What names stand for after these labels: every label sets its name anew. -/
def latestValues (labels : List Enumerator) : String → Option Int64 :=
  labels.foldl (fun known e => Function.update known e.name (some e.value)) fun _ => none

/-- The value of a label that has none of its own, after these labels. -/
inductive Follows : List Enumerator → Int → Prop where
  | first : Follows [] 0
  | next {before : List Enumerator} {e : Enumerator} :
      Follows (before ++ [e]) (wrap (e.value.toInt + 1))

namespace EnumeratorDeclaration

/-- The label has an initialiser, and it cannot be evaluated after these labels. -/
def Fails (d : EnumeratorDeclaration) (before : List Enumerator) : Prop :=
  ∃ init, d.init? = some init ∧ evaluate init (latestValues before) = none

/-- The value of a label after these labels. -/
inductive HasValue (d : EnumeratorDeclaration) (before : List Enumerator) : Int → Prop where
  | own {init : String} {v : Int64} : d.init? = some init →
      evaluate init (latestValues before) = some v → HasValue d before v.toInt
  | following {z : Int} : d.init? = none ∨ d.Fails before → Follows before z →
      HasValue d before z

end EnumeratorDeclaration

/-- The labels have the declared names in the declared order, and each has the value that it
has after those before it. -/
structure Evaluates (ds : List EnumeratorDeclaration) (es : List Enumerator) : Prop where
  names : es.map Enumerator.name = ds.map EnumeratorDeclaration.name
  values : ∀ (k : Nat) (d : EnumeratorDeclaration) (e : Enumerator), ds[k]? = some d →
    es[k]? = some e → d.HasValue (es.take k) e.value.toInt

/-- The events report the declarations whose initialisers fail, each once and in their order,
with the values that their labels have instead. -/
def Warns (type : String) (ds : List EnumeratorDeclaration) (es : List Enumerator)
    (events : List Event) : Prop :=
  ∃ places : List Nat, places.Pairwise (· < ·) ∧
    (∀ k, k ∈ places ↔ ∃ d, ds[k]? = some d ∧ d.Fails (es.take k)) ∧
    List.Forall₂ (fun k event => ∃ d init e, ds[k]? = some d ∧ d.init? = some init ∧
      es[k]? = some e ∧ event = .notEvaluated type d.name init e.value) places events

/-! ### One label -/

/-- Searching the labels from the end finds what they set last. -/
theorem knownValue?_eq (labels : List Enumerator) : knownValue? labels = latestValues labels := by
  induction labels using List.reverseRecOn with
  | nil => rfl
  | append_singleton labels e ih =>
    funext name
    rw [latestValues, List.foldl_concat, ← latestValues, ← ih, Function.update_apply]
    by_cases same : e.name = name
    · simp [knownValue?, same]
    · rw [if_neg (Ne.symm same)]
      simp [knownValue?, same]

theorem follows_iff {z : Int} : Follows before z ↔ (nextValue before).toInt = z := by
  have one : (1 : Int64).toInt = 1 := by decide
  constructor
  · intro follows
    cases follows with
    | first => rfl
    | next => simp [nextValue, Int64.toInt_add, one, wrap]
  · rintro rfl
    rcases List.eq_nil_or_concat before with rfl | ⟨before, e, rfl⟩
    · exact .first
    · have value : (nextValue (before.concat e)).toInt = wrap (e.value.toInt + 1) := by
        simp [nextValue, Int64.toInt_add, one, wrap]
      rw [value, List.concat_eq_append]
      exact .next

namespace EnumeratorDeclaration

theorem ownValue?_eq_none_iff : d.ownValue? before = none ↔ d.init? = none ∨ d.Fails before := by
  unfold ownValue? Fails
  rw [knownValue?_eq]
  cases d.init? <;> simp

theorem hasValue_iff {z : Int} :
    d.HasValue before z ↔ ((d.ownValue? before).getD (nextValue before)).toInt = z := by
  constructor
  · intro value
    cases value with
    | @own init v given evaluated =>
      have own : d.ownValue? before = some v := by
        rw [ownValue?, given, Option.bind_some, knownValue?_eq, evaluated]
      rw [own, Option.getD_some]
    | following none follows =>
      rw [ownValue?_eq_none_iff.mpr none, Option.getD_none]
      exact follows_iff.mp follows
  · rintro rfl
    cases own : d.ownValue? before with
    | none => exact .following (ownValue?_eq_none_iff.mp own) (follows_iff.mpr rfl)
    | some v =>
      obtain ⟨init, given, evaluated⟩ := Option.bind_eq_some_iff.mp own
      rw [knownValue?_eq] at evaluated
      exact .own given evaluated

/-- A label is evaluated to the value that it has. -/
theorem eq_evaluated_iff :
    e = d.evaluated before ↔ e.name = d.name ∧ d.HasValue before e.value.toInt := by
  obtain ⟨name, value⟩ := e
  rw [hasValue_iff, Int64.toInt_inj, evaluated, Enumerator.mk.injEq, eq_comm (a := value)]

end EnumeratorDeclaration

/-! ### All labels -/

theorem Evaluates.length_eq (evaluates : Evaluates ds es) : es.length = ds.length := by
  simpa using congrArg List.length evaluates.names

/-- The first labels are those of the first declarations. -/
theorem Evaluates.take (evaluates : Evaluates ds es) (k : Nat) :
    Evaluates (ds.take k) (es.take k) where
  names := by rw [List.map_take, evaluates.names, List.map_take]
  values j d e declared there := by
    rw [List.getElem?_take, Option.ite_none_right_eq_some] at declared there
    obtain ⟨less, declared⟩ := declared
    obtain ⟨-, there⟩ := there
    rw [List.take_take, min_eq_left less.le]
    exact evaluates.values j d e declared there

/-- One label more has its value after all others. -/
theorem evaluates_concat_iff : Evaluates (ds ++ [d]) (es ++ [e]) ↔
    Evaluates ds es ∧ e.name = d.name ∧ d.HasValue es e.value.toInt := by
  constructor
  · intro evaluates
    have length : es.length = ds.length := by simpa using evaluates.length_eq
    have others := evaluates.take ds.length
    rw [List.take_left, ← length, List.take_left] at others
    have value := evaluates.values ds.length d e (by simp) (by simp [← length])
    rw [← length, List.take_left] at value
    refine ⟨others, ?_, value⟩
    simpa [others.names] using evaluates.names
  · rintro ⟨evaluates, name, value⟩
    have length := evaluates.length_eq
    refine ⟨by simp [evaluates.names, name], fun k d' e' declared there => ?_⟩
    rcases Nat.lt_trichotomy k ds.length with less | rfl | greater
    · rw [List.getElem?_append_left less] at declared
      rw [List.getElem?_append_left (length ▸ less)] at there
      rw [List.take_append_of_le_length (length ▸ less.le)]
      exact evaluates.values k d' e' declared there
    · obtain rfl : d = d' := by simpa using declared
      obtain rfl : e = e' := by simpa [← length] using there
      rwa [← length, List.take_left]
    · rw [List.getElem?_eq_none (by simp; omega)] at declared
      cases declared

theorem evaluateFrom_append (before : List Enumerator) (ds ds' : List EnumeratorDeclaration) :
    evaluateFrom before (ds ++ ds') = evaluateFrom (evaluateFrom before ds) ds' := by
  induction ds generalizing before with
  | nil => rfl
  | cons d ds ih => exact ih _

theorem evaluateEnumerators_concat (ds : List EnumeratorDeclaration) (d : EnumeratorDeclaration) :
    evaluateEnumerators (ds ++ [d]) =
      evaluateEnumerators ds ++ [d.evaluated (evaluateEnumerators ds)] :=
  evaluateFrom_append [] ds [d]

/-- The labels that are registered are those that the rules give, and no others. -/
theorem evaluates_iff : Evaluates ds es ↔ es = evaluateEnumerators ds := by
  induction ds using List.reverseRecOn generalizing es with
  | nil =>
    constructor
    · intro evaluates
      exact List.length_eq_zero_iff.mp evaluates.length_eq
    · rintro rfl
      exact ⟨rfl, nofun⟩
  | append_singleton ds d ih =>
    rw [evaluateEnumerators_concat]
    rcases List.eq_nil_or_concat es with rfl | ⟨es, e, rfl⟩
    · constructor
      · intro evaluates
        simpa using evaluates.length_eq
      · intro same
        simp at same
    · rw [List.concat_eq_append, evaluates_concat_iff, ih]
      constructor
      · rintro ⟨rfl, label⟩
        rw [EnumeratorDeclaration.eq_evaluated_iff.mpr label]
      · intro same
        obtain ⟨rfl, last⟩ := List.append_inj' same rfl
        exact ⟨rfl, EnumeratorDeclaration.eq_evaluated_iff.mp (List.singleton_inj.mp last)⟩

/-! ### Warnings -/

section Warnings

variable {type init : String} {events : List Event}

theorem evaluationEvents_append (type : String) (before : List Enumerator)
    (ds ds' : List EnumeratorDeclaration) :
    evaluationEvents type before (ds ++ ds') =
      evaluationEvents type before ds ++ evaluationEvents type (evaluateFrom before ds) ds' := by
  induction ds generalizing before with
  | nil => rfl
  | cons d ds ih =>
    rw [List.cons_append, evaluationEvents, evaluationEvents, evaluateFrom, ih]
    split <;> rfl

theorem evaluationEvents_of_fails (given : d.init? = some init)
    (fails : evaluate init (latestValues before) = none) :
    evaluationEvents type before [d] = [.notEvaluated type d.name init (nextValue before)] := by
  simp [evaluationEvents, EnumeratorDeclaration.ownValue?, given, knownValue?_eq, fails]

theorem evaluationEvents_of_works (works : ¬ d.Fails before) :
    evaluationEvents type before [d] = [] := by
  rw [evaluationEvents]
  split
  next given none =>
    obtain absent | fails := EnumeratorDeclaration.ownValue?_eq_none_iff.mp none
    · rw [given] at absent
      cases absent
    · exact absurd fails works
  next => rfl

/-- Where one label more is declared, the same ones fail, and maybe the last. -/
theorem fails_concat_iff (length : es.length = ds.length) (e : Enumerator) (k : Nat) :
    (∃ d', (ds ++ [d])[k]? = some d' ∧ d'.Fails ((es ++ [e]).take k)) ↔
      (∃ d', ds[k]? = some d' ∧ d'.Fails (es.take k)) ∨ k = ds.length ∧ d.Fails es := by
  rcases Nat.lt_trichotomy k ds.length with less | rfl | greater
  · rw [List.getElem?_append_left less, List.take_append_of_le_length (length ▸ less.le)]
    simp [less.ne]
  · simp [← length]
  · have outside : (ds ++ [d])[k]? = none := List.getElem?_eq_none (by simp; omega)
    rw [outside, List.getElem?_eq_none greater.le]
    simp [greater.ne']

/-- The places of the failures stay the places of those before. -/
theorem Warns.imp (warns : Warns type ds es events) (d : EnumeratorDeclaration) (e : Enumerator) :
    ∃ places : List Nat, places.Pairwise (· < ·) ∧
      (∀ k, k ∈ places ↔ ∃ d, ds[k]? = some d ∧ d.Fails (es.take k)) ∧
      List.Forall₂ (fun k event => ∃ d' init e', (ds ++ [d])[k]? = some d' ∧
        d'.init? = some init ∧ (es ++ [e])[k]? = some e' ∧
          event = .notEvaluated type d'.name init e'.value) places events := by
  obtain ⟨places, ordered, fails, reported⟩ := warns
  refine ⟨places, ordered, fails, reported.imp ?_⟩
  rintro k event ⟨d', init, e', declared, given, there, rfl⟩
  obtain ⟨inside, -⟩ := List.getElem?_eq_some_iff.mp declared
  obtain ⟨inside', -⟩ := List.getElem?_eq_some_iff.mp there
  refine ⟨d', init, e', ?_, given, ?_, rfl⟩
  · rwa [List.getElem?_append_left inside]
  · rwa [List.getElem?_append_left inside']

/-- A label whose initialiser fails is reported behind the others. -/
theorem Warns.concat_of_fails (warns : Warns type ds es events) (length : es.length = ds.length)
    (given : d.init? = some init) (fails : evaluate init (latestValues es) = none)
    (e : Enumerator) :
    Warns type (ds ++ [d]) (es ++ [e])
      (events ++ [Event.notEvaluated type d.name init e.value]) := by
  obtain ⟨places, ordered, failing, reported⟩ := warns.imp d e
  have below : ∀ k ∈ places, k < ds.length := by
    intro k mem
    obtain ⟨d', declared, -⟩ := (failing k).mp mem
    exact (List.getElem?_eq_some_iff.mp declared).1
  refine ⟨places ++ [ds.length], ?_, fun k => ?_, ?_⟩
  · rw [List.pairwise_append]
    exact ⟨ordered, List.pairwise_singleton _ _, by simpa using below⟩
  · rw [fails_concat_iff length, List.mem_append, failing, List.mem_singleton]
    simp only [show d.Fails es from ⟨init, given, fails⟩, and_true]
  · refine List.rel_append reported (.cons ?_ .nil)
    exact ⟨d, init, e, by simp, given, by simp [← length], rfl⟩

/-- Another label is not reported. -/
theorem Warns.concat_of_works (warns : Warns type ds es events) (length : es.length = ds.length)
    (works : ¬ d.Fails es) (e : Enumerator) : Warns type (ds ++ [d]) (es ++ [e]) events := by
  obtain ⟨places, ordered, failing, reported⟩ := warns.imp d e
  refine ⟨places, ordered, fun k => ?_, reported⟩
  rw [fails_concat_iff length, failing]
  simp [works]

theorem Warns.level_eq (warns : Warns type ds es events) :
    ∀ event ∈ events, event.level = .warning := by
  obtain ⟨places, -, -, reported⟩ := warns
  induction reported with
  | nil => exact List.forall_mem_nil _
  | cons first _ ih =>
    obtain ⟨d, init, e, -, -, -, rfl⟩ := first
    exact List.forall_mem_cons.mpr ⟨rfl, ih⟩

/-- What is reported are the initialisers that cannot be evaluated. -/
theorem warns_evaluationEvents (type : String) (ds : List EnumeratorDeclaration) :
    Warns type ds (evaluateEnumerators ds) (evaluationEvents type [] ds) := by
  induction ds using List.reverseRecOn with
  | nil => exact ⟨[], .nil, by simp, .nil⟩
  | append_singleton ds d ih =>
    have length : (evaluateEnumerators ds).length = ds.length :=
      (evaluates_iff.mpr rfl).length_eq
    rw [evaluateEnumerators_concat, evaluationEvents_append, ← evaluateEnumerators]
    by_cases fails : d.Fails (evaluateEnumerators ds)
    · obtain ⟨init, given, fails⟩ := fails
      have value : (d.evaluated (evaluateEnumerators ds)).value =
          nextValue (evaluateEnumerators ds) := by
        have none : d.ownValue? (evaluateEnumerators ds) = none :=
          EnumeratorDeclaration.ownValue?_eq_none_iff.mpr (.inr ⟨init, given, fails⟩)
        rw [EnumeratorDeclaration.evaluated, none, Option.getD_none]
      rw [evaluationEvents_of_fails given fails, ← value]
      exact ih.concat_of_fails length given fails _
    · rw [evaluationEvents_of_works fails, List.append_nil]
      exact ih.concat_of_works length fails _

end Warnings

/-! ### Enumerations -/

/-- **Labels are evaluated in turn.** An enumeration that a namespace or a class declares is
offered to the registry with labels that have the declared names in the declared order, each
with the value that it has after those before it: what its initialiser evaluates to, where the
last label of a name counts, and otherwise the value of the label before it plus one in 64
bits, or zero for the first. No other labels have these values, and the first labels are those
of the first declarations. Before that there is one warning for each initialiser that cannot
be evaluated, in their order, and none else. -/
theorem labels_evaluated_in_turn (config : Configuration) (b : Building) (scope : String)
    (header? : Option String) (m : MemberDeclaration) (ds : List EnumeratorDeclaration)
    (isScoped : Bool) :
    let m := { m with kind := .enumeration ds isScoped, declaredIn? := none }
    ∃ es warnings,
      (∀ es', Evaluates ds es' ↔ es' = es) ∧ (∀ k, Evaluates (ds.take k) (es.take k)) ∧
      Warns (m.qualifiedName scope) ds es warnings ∧
      (∀ event ∈ warnings, event.level = .warning) ∧
      b.addNested config scope header? m =
        (b.note warnings).register (m.nested config scope header? (.enumeration es isScoped)) := by
  intro m
  have warns := warns_evaluationEvents (m.qualifiedName scope) ds
  exact ⟨evaluateEnumerators ds, _, fun es' => evaluates_iff, (evaluates_iff.mpr rfl).take, warns,
    warns.level_eq, Building.addNested_enumeration rfl rfl⟩

example :
    (evaluateEnumerators [⟨"ON", some "0x1"⟩, ⟨"SHIFTED", some "ON << 2"⟩, ⟨"NEXT", none⟩,
      ⟨"BROKEN", some "sizeof(int)"⟩, ⟨"ON", some "0x7fffffffffffffff"⟩, ⟨"WRAPPED", none⟩,
      ⟨"LATEST", some "ON"⟩]).map (fun e => e.value.toInt) =
        [1, 4, 5, 6, 2 ^ 63 - 1, -2 ^ 63, 2 ^ 63 - 1] := by
  decide +kernel

end Reflectory
