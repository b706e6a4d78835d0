/-
Where paths lead, and what makes them lead there.

A directory that has been made is where its names lead to, and stays there while a
tree grows, that is, while only files and directories are put where no directory
stands. The path of a file in it leads to the place behind it.

* `makes_makeDirs`, `makeDirs_of_leadsTo`: a directory that was made is there, and
  one that is there is not made again.
* `locate_joinPath`: where the path of a file leads.
-/

import Reflectory.FileTree.Basic
import Reflectory.Proofs.Text.Parts

namespace Reflectory

/-! ### Names on a path -/

namespace FileTree

/-- A name that a file in a directory can have. -/
structure IsFileName (name : String) : Prop where
  nonempty : name ≠ ""
  not_here : name ≠ "."
  not_above : name ≠ ".."
  no_slash : '/' ∉ name.toList

theorem names_empty : names "" = [] := by
  simp [names, Text.splitAt]

theorem names_append (dir path : String) :
    names (dir ++ "/" ++ path) = names dir ++ names path := by
  have slash : (dir ++ "/" ++ path).toList = dir.toList ++ '/' :: path.toList := by simp
  rw [names, slash, Text.splitAt_append_cons (by decide), List.filter_append, List.map_append]
  rfl

/-- A directory's path ends before the slash that a path stands behind, whether it has one
at its end or not. -/
theorem names_joinPath (dir : String) {path : String} (relative : path.toList.head? ≠ some '/') :
    names (joinPath dir path) = names dir ++ names path := by
  unfold joinPath
  split_ifs with empty slash
  · obtain rfl : dir = "" := by simpa [relative] using empty
    rw [names_empty, List.nil_append]
  · obtain ⟨before, ends⟩ := List.getLast?_eq_some_iff.mp slash
    obtain rfl : dir = String.ofList before ++ "/" ++ "" := by
      apply String.toList_injective
      simp [ends]
    rw [names_append, names_empty, List.append_nil, String.append_empty, names_append]
  · rw [names_append]

namespace IsFileName

variable {name : String} (is_name : IsFileName name)
include is_name

theorem toList_ne_nil : name.toList ≠ [] :=
  fun empty => is_name.nonempty (String.toList_eq_nil_iff.mp empty)

theorem head?_ne : name.toList.head? ≠ some '/' :=
  fun slash => is_name.no_slash (List.mem_of_head? slash)

theorem names_eq : names name = [name] := by
  have unmarked : ∀ c ∈ name.toList, decide (c = '/') = false := by
    intro c mem
    refine decide_eq_false ?_
    rintro rfl
    exact is_name.no_slash mem
  rw [names, Text.splitAt_of_unmarked unmarked]
  simp [is_name.toList_ne_nil]

theorem names_joinPath (dir : String) : names (joinPath dir name) = names dir ++ [name] := by
  rw [FileTree.names_joinPath dir is_name.head?_ne, is_name.names_eq]

theorem steps_joinPath (dir : String) : steps (joinPath dir name) = names dir ++ [name] := by
  have no_slash : (joinPath dir name).toList.getLast? ≠ some '/' := by
    have ends : ∃ before, (joinPath dir name).toList = before ++ name.toList := by
      unfold joinPath
      split_ifs
      · exact ⟨[], rfl⟩
      · exact ⟨dir.toList, by simp⟩
      · exact ⟨dir.toList ++ ['/'], by simp⟩
    obtain ⟨before, ends⟩ := ends
    rw [ends, List.getLast?_append_of_ne_nil _ is_name.toList_ne_nil]
    exact fun slash => is_name.no_slash (List.mem_of_getLast? slash)
  rw [steps, is_name.names_joinPath, if_neg no_slash, List.append_nil]

end IsFileName

/-! ### Growing trees -/

/-- The first tree becomes the second when nodes are put where no directory stands. -/
inductive Grows : FileTree → FileTree → Prop where
  | refl {t : FileTree} : Grows t t
  | put {t u : FileTree} {p : Place} {n : Node} :
      Grows t u → u.isDir p = false → Grows t (u.put p n)

theorem Grows.trans {t u v : FileTree} (first : Grows t u) (second : Grows u v) : Grows t v := by
  induction second with
  | refl => exact first
  | put _ free ih => exact .put ih free

theorem Grows.refused_eq {t u : FileTree} (grows : Grows t u) : u.refused = t.refused := by
  induction grows with
  | refl => rfl
  | put _ _ ih => exact ih

theorem Grows.unreadable_eq {t u : FileTree} (grows : Grows t u) :
    u.unreadable = t.unreadable := by
  induction grows with
  | refl => rfl
  | put _ _ ih => exact ih

theorem isDir_root (t : FileTree) : t.isDir [] := rfl

theorem ne_root_of_isDir {t : FileTree} {p : Place} (free : t.isDir p = false) : p ≠ [] := by
  rintro rfl
  cases free

/-- Directories stay. -/
theorem Grows.isDir {t u : FileTree} (grows : Grows t u) {p : Place} (dir : t.isDir p) :
    u.isDir p := by
  induction grows with
  | refl => exact dir
  | @put u q n _ free ih =>
    have other : p ≠ q := by
      rintro rfl
      rw [ih] at free
      cases free
    rw [FileTree.isDir, node?_put _ _ _ _ (ne_root_of_isDir free), if_neg other]
    exact ih

/-- Where names lead, they lead while the tree grows. -/
theorem Grows.locateFrom_eq {t u : FileTree} (grows : Grows t u) {here p : Place}
    {names : List String} (leads : t.locateFrom here names = .ok p) :
    u.locateFrom here names = .ok p := by
  induction names generalizing here with
  | nil => exact leads
  | cons name names ih =>
    rw [locateFrom] at leads ⊢
    split at leads
    next => cases leads
    next => cases leads
    next dir =>
      have dir : u.node? here = some .dir := by
        simpa [FileTree.isDir] using grows.isDir (by simpa [FileTree.isDir] using dir)
      rw [dir]
      split_ifs at leads ⊢
      · exact ih leads
      · exact ih leads
      · exact ih leads

/-- Every place has at most one entry. -/
def Unambiguous (t : FileTree) : Prop :=
  (t.nodes.map Prod.fst).Nodup

theorem Unambiguous.put {t : FileTree} (unambiguous : t.Unambiguous) (p : Place) (n : Node) :
    (t.put p n).Unambiguous := by
  refine List.nodup_cons.mpr ⟨?_, unambiguous.sublist (List.filter_sublist.map _)⟩
  simp

theorem Grows.unambiguous {t u : FileTree} (grows : Grows t u) (unambiguous : t.Unambiguous) :
    u.Unambiguous := by
  induction grows with
  | refl => exact unambiguous
  | put _ _ ih => exact ih.put _ _

/-! ### Directories -/

/-- The names lead to a directory. -/
def LeadsTo (t : FileTree) (names : List String) (p : Place) : Prop :=
  t.locateFrom [] names = .ok p ∧ t.isDir p

theorem Grows.leadsTo {t u : FileTree} (grows : Grows t u) {names : List String} {p : Place}
    (leads : t.LeadsTo names p) : u.LeadsTo names p :=
  ⟨grows.locateFrom_eq leads.1, grows.isDir leads.2⟩

theorem leadsToDir_iff {t : FileTree} {names : List String} :
    t.leadsToDir names ↔ ∃ p, t.LeadsTo names p := by
  unfold leadsToDir LeadsTo
  cases t.locateFrom [] names <;> simp

/-- A directory that was made is where its names lead. -/
theorem makeDir_ok {t u : FileTree} {names : List String} (made : t.makeDir names = .ok u) :
    Grows t u ∧ u.leadsToDir names := by
  unfold makeDir at made
  split at made
  next => cases made
  next p leads =>
    split_ifs at made with there
    obtain rfl := Except.ok.inj made
    have free : t.isDir p = false := by
      simp only [Option.not_isSome_iff_eq_none] at there
      simp [FileTree.isDir, there]
    have grows : Grows t (t.put p .dir) := .put .refl free
    refine ⟨grows, leadsToDir_iff.mpr ⟨p, grows.locateFrom_eq leads, ?_⟩⟩
    simp [FileTree.isDir, node?_put _ _ _ _ (ne_root_of_isDir free)]

/-- Making one directory, where one that is there is as good. -/
def settle (t : FileTree) (names : List String) : Except FileError Unit × FileTree :=
  match t.makeDir names with
  | .ok t => (.ok (), t)
  | .error cause => (if t.leadsToDir names then .ok () else .error cause, t)

theorem makeDirsRev_cons (t : FileTree) (name : String) (rest : List String) :
    t.makeDirsRev (name :: rest) =
      match t.makeDir (name :: rest).reverse with
      | .error .notFound =>
        match t.makeDirsRev (parentRev (name :: rest)) with
        | (.ok (), t) => t.settle (name :: rest).reverse
        | failed => failed
      | _ => t.settle (name :: rest).reverse := by
  rw [makeDirsRev]
  rfl

/-- The tree has grown, and if it succeeded the names lead to a directory. -/
def Makes (t : FileTree) (names : List String) (result : Except FileError Unit × FileTree) : Prop :=
  Grows t result.2 ∧ (result.1 = .ok () → result.2.leadsToDir names)

theorem makes_settle (t : FileTree) (names : List String) : t.Makes names (t.settle names) := by
  unfold settle
  split
  next u made => exact ⟨(makeDir_ok made).1, fun _ => (makeDir_ok made).2⟩
  next cause _ =>
    refine ⟨.refl, fun ok => ?_⟩
    by_contra none
    rw [if_neg none] at ok
    cases ok

theorem makes_makeDirsRev (t : FileTree) (names : List String) :
    t.Makes names.reverse (t.makeDirsRev names) := by
  induction size : names.length using Nat.strongRecOn generalizing t names with
  | _ size ih =>
    cases names with
    | nil =>
      rw [makeDirsRev]
      exact ⟨.refl, fun _ => leadsToDir_iff.mpr ⟨[], rfl, t.isDir_root⟩⟩
    | cons name rest =>
      have parent := ih _ (size ▸ length_parentRev name rest) t _ rfl
      rw [makeDirsRev_cons]
      split
      next =>
        split
        next u made =>
          rw [made] at parent
          have settled := makes_settle u (name :: rest).reverse
          exact ⟨parent.1.trans settled.1, settled.2⟩
        next failed not_ok =>
          exact ⟨parent.1, fun ok => (not_ok _ (Prod.ext ok rfl)).elim⟩
      next => exact makes_settle t _

/-- Making directories lets the tree grow, and if it succeeds the path leads to one. -/
theorem makes_makeDirs (t : FileTree) (path : String) : t.Makes (names path) (t.makeDirs path) := by
  have makes := t.makes_makeDirsRev (names path).reverse
  rwa [List.reverse_reverse] at makes

/-- Where the path leads to a directory, nothing is made. -/
theorem makeDirs_of_leadsTo {t : FileTree} {path : String} {p : Place}
    (leads : t.LeadsTo (names path) p) : t.makeDirs path = (.ok (), t) := by
  have there : t.leadsToDir (names path) := leadsToDir_iff.mpr ⟨p, leads⟩
  have made : t.makeDir (names path) = .error .alreadyExists := by
    obtain ⟨leads, dir⟩ := leads
    have dir : t.node? p = some .dir := of_decide_eq_true dir
    rw [makeDir, leads]
    simp [dir]
  have settled : t.settle (names path) = (.ok (), t) := by
    rw [settle, made]
    simp [there]
  unfold makeDirs
  cases reversed : (names path).reverse with
  | nil => rw [makeDirsRev]
  | cons name rest =>
    have forth : (name :: rest).reverse = names path := by rw [← reversed, List.reverse_reverse]
    rw [makeDirsRev_cons, forth, made]
    exact settled

/-! ### Files in a directory -/

theorem locateFrom_append (t : FileTree) (here : Place) (names more : List String) :
    t.locateFrom here (names ++ more) =
      (t.locateFrom here names).bind fun p => t.locateFrom p more := by
  induction names generalizing here with
  | nil => rfl
  | cons name names ih =>
    rw [List.cons_append, locateFrom, locateFrom]
    cases t.node? here with
    | none => rfl
    | some n =>
      cases n with
      | file => rfl
      | dir =>
        simp only [ih]
        split_ifs <;> rfl

/-- The path of a file leads to the place behind its directory. -/
theorem locate_joinPath {t : FileTree} {dir name : String} {p : Place}
    (leads : t.LeadsTo (names dir) p) (is_name : IsFileName name) :
    t.locate (joinPath dir name) = .ok (p ++ [name]) := by
  have nonempty : (joinPath dir name).isEmpty = false := by
    refine Bool.eq_false_iff.mpr fun empty => ?_
    have nothing := is_name.names_joinPath dir
    rw [String.isEmpty_iff.mp empty, names_empty] at nothing
    simp at nothing
  have dir_there : t.node? p = some .dir := of_decide_eq_true leads.2
  rw [locate, nonempty, if_neg Bool.false_ne_true, is_name.steps_joinPath, locateFrom_append,
    leads.1]
  change t.locateFrom p [name] = _
  rw [locateFrom, dir_there]
  simp [locateFrom, is_name.not_here, is_name.not_above]

/-- The path of a directory leads to it, unless it is empty. -/
theorem locate_dir {t : FileTree} {dir : String} {p : Place} (leads : t.LeadsTo (names dir) p)
    (nonempty : dir ≠ "") : t.locate dir = .ok p := by
  have dir_there : t.node? p = some .dir := of_decide_eq_true leads.2
  have given : dir.isEmpty = false :=
    Bool.eq_false_iff.mpr fun empty => nonempty (String.isEmpty_iff.mp empty)
  rw [locate, given, if_neg Bool.false_ne_true, steps, locateFrom_append, leads.1]
  change t.locateFrom p _ = _
  split_ifs <;> simp [locateFrom, dir_there]

end FileTree

end Reflectory
