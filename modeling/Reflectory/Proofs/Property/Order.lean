/-
The order in which properties are listed.

Properties are sorted by their anchors: the getter, or the setter where there is no
getter. No two have one anchor, because no method serves two properties. So the list goes
by getters, and by first accessors as far as getters come first: a setter, counter or
adder that is declared before the getter does not move its property to the front.

* `listed_by_getters`: the order of the list, and exactly where it differs from the order
  of first accessors.
* `not_listed_by_first_accessors`: it can differ.
-/

import Mathlib.Data.Finset.Max
import Mathlib.Data.List.Sort
import Reflectory.Proofs.Property.Conservation

namespace Reflectory

variable {policy : PropertyPolicy} {accessors : List Accessor}

namespace Fusion

/-! ### Anchors -/

/-- The accessor after which a property is sorted: its getter, or else its setter. -/
theorem Made.map_index_eq_anchor {f : Fusion} {s : Findings} (made : f.Made policy accessors s) :
    (f.members.getter <|> f.members.setter).map Accessor.index = some f.anchor := by
  cases made <;> rfl

theorem Made.anchor_mem_indices {f : Fusion} {s : Findings} (made : f.Made policy accessors s) :
    f.anchor ∈ f.indices := by
  obtain ⟨a, found, same⟩ := Option.map_eq_some_iff.mp made.map_index_eq_anchor
  refine List.mem_map.mpr ⟨a, ?_, same⟩
  obtain getter | ⟨-, setter⟩ := (Option.orElse_eq_some _ _ _).mp found
  · simp [Accessors.toList, getter]
  · simp [Accessors.toList, setter]

/-! ### First accessors -/

/-- The first accessor of one property is declared before every accessor of the other. -/
def StartsBefore (f g : Fusion) : Prop :=
  ∃ i ∈ f.indices, ∀ j ∈ g.indices, i < j

instance (f g : Fusion) : Decidable (f.StartsBefore g) :=
  inferInstanceAs (Decidable (∃ i ∈ f.indices, ∀ j ∈ g.indices, i < j))

/-- Some accessor of the property is declared before its anchor, and before every accessor
of the other one. -/
def Overtakes (g f : Fusion) : Prop :=
  ∃ i ∈ g.indices, i < g.anchor ∧ ∀ j ∈ f.indices, i < j

theorem not_overtakes_of_anchor_le {f g : Fusion} (first : ∀ i ∈ g.indices, g.anchor ≤ i) :
    ¬ g.Overtakes f := by
  rintro ⟨i, mem, before, -⟩
  exact absurd (first i mem) (Nat.not_le.mpr before)

/-- Of two properties without common methods, the one whose anchor comes first starts
first, unless the other overtakes it. -/
theorem startsBefore_iff {f g : Fusion} (anchor_mem : f.anchor ∈ f.indices)
    (anchor_lt : f.anchor < g.anchor) (apart : f.indices.Disjoint g.indices) :
    f.StartsBefore g ↔ ¬ g.Overtakes f := by
  constructor
  · rintro ⟨i, i_mem, before⟩ ⟨j, j_mem, -, before'⟩
    exact Nat.lt_asymm (before j j_mem) (before' i i_mem)
  · intro behind
    obtain ⟨i, i_mem, least⟩ :=
      f.indices.toFinset.exists_min_image id ⟨f.anchor, List.mem_toFinset.mpr anchor_mem⟩
    have least : ∀ k ∈ f.indices, i ≤ k := fun k mem => least k (List.mem_toFinset.mpr mem)
    have i_mem := List.mem_toFinset.mp i_mem
    refine ⟨i, i_mem, fun j j_mem => Nat.lt_of_not_le fun le => behind ?_⟩
    -- An accessor of the other property that comes before the first one overtakes it.
    have lt : j < i := Nat.lt_of_le_of_ne le fun same => apart i_mem (same ▸ j_mem)
    refine ⟨j, j_mem, ?_, fun k mem => Nat.lt_of_lt_of_le lt (least k mem)⟩
    exact lt.trans (Nat.lt_of_le_of_lt (least _ anchor_mem) anchor_lt)

end Fusion

/-! ### The run -/

namespace Findings

variable {s t : Findings}

/-- No method serves two properties. -/
theorem pairwise_disjoint (run : Reaches policy accessors s t)
    (apart : s.found.Pairwise fun f g => f.indices.Disjoint g.indices) :
    t.found.Pairwise fun f g => f.indices.Disjoint g.indices := by
  induction run with
  | refl => exact apart
  | tail _ next ih =>
    cases next with
    | reject _ => exact ih
    | fuse made _ =>
      refine List.pairwise_append.mpr ⟨ih, List.pairwise_singleton _ _, ?_⟩
      rintro f found g new i serves serves'
      obtain rfl := List.mem_singleton.mp new
      refine Bool.eq_false_iff.mp (made.unused_of_mem_indices serves') ?_
      exact uses_iff.mpr (List.mem_flatMap.mpr ⟨f, found, serves⟩)

end Findings

/-! ### The list -/

/-- The properties of a method list with their accessors, in the order of the list. -/
def Fusion.listed (policy : PropertyPolicy) (methods : List Method) : List Fusion :=
  (Findings.ofAccessors policy (Accessor.ofMethods policy methods)).found.mergeSort
    fun f g => f.anchor ≤ g.anchor

namespace Fusion

variable {methods : List Method} {f : Fusion}

theorem made_of_mem_listed (mem : f ∈ listed policy methods) :
    ∃ s, f.Made policy (Accessor.ofMethods policy methods) s :=
  Findings.made_of_mem_ofAccessors (List.mem_mergeSort.mp mem)

theorem pairwise_disjoint_listed (policy : PropertyPolicy) (methods : List Method) :
    (listed policy methods).Pairwise fun f g => f.indices.Disjoint g.indices := by
  have symm : ∀ {f g : Fusion}, f.indices.Disjoint g.indices → g.indices.Disjoint f.indices :=
    List.Disjoint.symm
  exact ((List.mergeSort_perm _ _).pairwise_iff symm).mpr
    (Findings.pairwise_disjoint (Findings.reaches_ofAccessors policy _) .nil)

/-- The list goes strictly by anchors. -/
theorem pairwise_anchor_lt (policy : PropertyPolicy) (methods : List Method) :
    (listed policy methods).Pairwise fun f g => f.anchor < g.anchor := by
  have sorted : (listed policy methods).Pairwise fun f g => f.anchor ≤ g.anchor :=
    List.pairwise_mergeSort' (Order.Preimage Fusion.anchor (· ≤ ·)) _
  refine (sorted.and (pairwise_disjoint_listed policy methods)).imp_of_mem ?_
  rintro f g f_mem g_mem ⟨le, apart⟩
  obtain ⟨_, f_made⟩ := made_of_mem_listed f_mem
  obtain ⟨_, g_made⟩ := made_of_mem_listed g_mem
  refine Nat.lt_of_le_of_ne le fun same => apart f_made.anchor_mem_indices ?_
  rw [same]
  exact g_made.anchor_mem_indices

/-- In a list that goes by first accessors, they stand in the order of the anchors. -/
theorem startsBefore_of_pairwise {g : Fusion}
    (ordered : (listed policy methods).Pairwise StartsBefore) (f_mem : f ∈ listed policy methods)
    (g_mem : g ∈ listed policy methods) (anchor_lt : f.anchor < g.anchor) : f.StartsBefore g := by
  refine List.Pairwise.forall_of_forall_of_flip (R := fun f g => f.anchor < g.anchor →
    f.StartsBefore g) ?_ ?_ ?_ f_mem g_mem anchor_lt
  · exact fun f _ lt => absurd lt (Nat.lt_irrefl _)
  · refine ordered.imp ?_
    exact fun starts _ => starts
  · exact (pairwise_anchor_lt policy methods).imp fun lt lt' => absurd lt' (Nat.lt_asymm lt)

end Fusion

/-- **Properties are listed by their getters.** The list is that of the properties with
their accessors, all of them methods in the places given, and goes strictly by anchors: a
property's getter, or its setter where it has no getter. Of two properties, the one listed
first also starts first, unless the other has an accessor before its own anchor and before
all accessors of the first. So the list goes by first accessors where no accessor is
declared before the anchor of its property. -/
theorem listed_by_getters (policy : PropertyPolicy) (methods : List Method) :
    let fusions := Fusion.listed policy methods
    (PropertyInference.ofMethods policy methods).properties = fusions.map Fusion.property ∧
      (∀ f ∈ fusions, f.property.ServedBy methods (f.members.map Accessor.index) ∧
        (f.members.getter <|> f.members.setter).map Accessor.index = some f.anchor) ∧
      fusions.Pairwise (fun f g => f.anchor < g.anchor) ∧
      fusions.Pairwise (fun f g => f.StartsBefore g ↔ ¬ g.Overtakes f) ∧
      ((∀ f ∈ fusions, ∀ i ∈ f.indices, f.anchor ≤ i) →
        fusions.Pairwise Fusion.StartsBefore) := by
  intro fusions
  have by_anchor := Fusion.pairwise_anchor_lt policy methods
  have starts : fusions.Pairwise fun f g => f.StartsBefore g ↔ ¬ g.Overtakes f := by
    refine (by_anchor.and (Fusion.pairwise_disjoint_listed policy methods)).imp_of_mem ?_
    rintro f g f_mem - ⟨anchor_lt, apart⟩
    obtain ⟨_, made⟩ := Fusion.made_of_mem_listed f_mem
    exact Fusion.startsBefore_iff made.anchor_mem_indices anchor_lt apart
  refine ⟨rfl, fun f mem => ?_, by_anchor, starts, fun first => ?_⟩
  · obtain ⟨_, made⟩ := Fusion.made_of_mem_listed mem
    exact ⟨made.servedBy, made.map_index_eq_anchor⟩
  · refine starts.imp_of_mem fun _ g_mem iff => iff.mpr ?_
    exact Fusion.not_overtakes_of_anchor_le (first _ g_mem)

/-- The methods of a frame: the setter of its width stands before the getter of its
height, and the getter of its width behind. -/
def frameMethods : List Method :=
  [.ofSpelled "setWidth" "void" [⟨"int", "width", none⟩],
    { Method.ofSpelled "getHeight" "int" [] with isConst := true },
    { Method.ofSpelled "getWidth" "int" [] with isConst := true }]

/-- The width of a frame has the first accessor and is listed last. -/
theorem not_listed_by_first_accessors :
    ¬ ∀ (policy : PropertyPolicy) (methods : List Method),
      (Fusion.listed policy methods).Pairwise Fusion.StartsBefore := by
  intro always
  have swapped : ∃ f ∈ (Findings.ofAccessors {} (Accessor.ofMethods {} frameMethods)).found,
      ∃ g ∈ (Findings.ofAccessors {} (Accessor.ofMethods {} frameMethods)).found,
        f.anchor < g.anchor ∧ ¬ f.StartsBefore g := by
    decide +kernel
  obtain ⟨f, f_mem, g, g_mem, lt, late⟩ := swapped
  exact late (Fusion.startsBefore_of_pairwise (always {} frameMethods)
    (List.mem_mergeSort.mpr f_mem) (List.mem_mergeSort.mpr g_mem) lt)

end Reflectory
