/-
What making directories leaves alone.

A directory is made only where nothing stands, and only where a beginning of its
path leads. So everything that stood in the tree stands there afterwards, and below
the directory itself nothing is new, unless its path goes up again.

* `madeAlong_makeDirs`: what is new in a tree in which a directory was made.
* `MadeAlong.below_eq`: below the directory, the tree is as it was.
-/

import Reflectory.Proofs.FileTree.Places

namespace Reflectory.FileTree

/-! ### The way to a directory -/

theorem parentRev_suffix (names : List String) : parentRev names <:+ names :=
  (List.dropWhile_suffix _).trans ((List.drop_suffix _ _).trans (List.dropWhile_suffix _))

/-- Names that never go up lead to the place that they spell. -/
theorem locateFrom_eq_ok {t : FileTree} {here p : Place} {names : List String}
    (down : ".." ∉ names) (leads : t.locateFrom here names = .ok p) :
    p = here ++ names.filter (· != ".") := by
  induction names generalizing here with
  | nil => simpa [locateFrom] using leads.symm
  | cons name names ih =>
    rw [List.mem_cons, not_or] at down
    rw [locateFrom] at leads
    split at leads
    next => cases leads
    next => cases leads
    next =>
      split_ifs at leads with stays up
      · simpa [stays] using ih down.2 leads
      · exact absurd up.symm down.1
      · simpa [stays] using ih down.2 leads

/-! ### What is new -/

/-- The tree has grown by nothing but directories that stand where nothing stood and
where a beginning of the names leads. -/
structure MadeAlong (names : List String) (t u : FileTree) : Prop where
  grows : Grows t u
  only : ∀ q, u.node? q = t.node? q ∨
    t.node? q = none ∧ ∃ way, way <+: names ∧ u.LeadsTo way q

namespace MadeAlong

variable {t u v : FileTree} {names : List String}

theorem refl (names : List String) (t : FileTree) : MadeAlong names t t :=
  ⟨.refl, fun _ => .inl rfl⟩

theorem mono {longer : List String} (made : MadeAlong names t u) (beginning : names <+: longer) :
    MadeAlong longer t u where
  grows := made.grows
  only q := (made.only q).imp_right fun ⟨free, way, begins, leads⟩ =>
    ⟨free, way, begins.trans beginning, leads⟩

theorem trans (first : MadeAlong names t u) (second : MadeAlong names u v) :
    MadeAlong names t v where
  grows := first.grows.trans second.grows
  only q := by
    obtain same | ⟨free, way, begins, leads⟩ := second.only q
    · obtain same' | ⟨free, way, begins, leads⟩ := first.only q
      · exact .inl (same.trans same')
      · exact .inr ⟨free, way, begins, second.grows.leadsTo leads⟩
    · obtain same' | ⟨free', -⟩ := first.only q
      · exact .inr ⟨same' ▸ free, way, begins, leads⟩
      · exact .inr ⟨free', way, begins, leads⟩

/-- What stood in the tree still stands there. -/
theorem keeps (made : MadeAlong names t u) {q : Place} {n : Node} (there : t.node? q = some n) :
    u.node? q = some n := by
  obtain same | ⟨free, -⟩ := made.only q
  · exact same.trans there
  · cases there.symm.trans free

/-- Below the place that the names lead to, the tree is as it was, if they do not go
up. -/
theorem below_eq (made : MadeAlong names t u) (down : ".." ∉ names) {p q : Place}
    (leads : u.LeadsTo names p) (below : p <+: q) (other : q ≠ p) : u.node? q = t.node? q := by
  obtain same | ⟨-, way, begins, leads'⟩ := made.only q
  · exact same
  · have p_eq : p = names.filter (· != ".") := locateFrom_eq_ok down leads.1
    have q_eq : q = way.filter (· != ".") :=
      locateFrom_eq_ok (fun up => down (begins.subset up)) leads'.1
    have above : q <+: p := by
      rw [p_eq, q_eq]
      exact begins.filter _
    exact absurd (above.eq_of_length_le below.length_le) other

end MadeAlong

/-! ### Making directories -/

theorem madeAlong_of_makeDir {t u : FileTree} {names : List String}
    (made : t.makeDir names = .ok u) : MadeAlong names t u := by
  have grows := (makeDir_ok made).1
  obtain ⟨p, leads⟩ := leadsToDir_iff.mp (makeDir_ok made).2
  unfold makeDir at made
  split at made
  next => cases made
  next p' leads' =>
    split_ifs at made with there
    obtain rfl := Except.ok.inj made
    obtain rfl : p' = p := Except.ok.inj ((grows.locateFrom_eq leads').symm.trans leads.1)
    have free : t.node? p' = none := Option.not_isSome_iff_eq_none.mp there
    have p_ne : p' ≠ [] := by
      rintro rfl
      cases free
    refine ⟨grows, fun q => ?_⟩
    rw [node?_put _ _ _ _ p_ne]
    by_cases at_p : q = p'
    · subst at_p
      exact .inr ⟨free, names, List.prefix_rfl, leads⟩
    · exact .inl (if_neg at_p)

theorem madeAlong_settle (t : FileTree) (names : List String) :
    MadeAlong names t (t.settle names).2 := by
  unfold settle
  split
  next u made => exact madeAlong_of_makeDir made
  next => exact .refl names t

theorem madeAlong_makeDirsRev (t : FileTree) (names : List String) :
    MadeAlong names.reverse t (t.makeDirsRev names).2 := by
  induction size : names.length using Nat.strongRecOn generalizing t names with
  | _ size ih =>
    cases names with
    | nil =>
      rw [makeDirsRev]
      exact .refl _ t
    | cons name rest =>
      have parent := (ih _ (size ▸ length_parentRev name rest) t _ rfl).mono
        (List.reverse_prefix.mpr (parentRev_suffix (name :: rest)))
      rw [makeDirsRev_cons]
      split
      next =>
        split
        next u made =>
          rw [made] at parent
          exact parent.trans (madeAlong_settle u _)
        next => exact parent
      next => exact madeAlong_settle t _

/-- **Making a directory adds directories on the way to it, and nothing else.** -/
theorem madeAlong_makeDirs (t : FileTree) (path : String) :
    MadeAlong (names path) t (t.makeDirs path).2 := by
  have made := t.madeAlong_makeDirsRev (names path).reverse
  rwa [List.reverse_reverse] at made

end Reflectory.FileTree
