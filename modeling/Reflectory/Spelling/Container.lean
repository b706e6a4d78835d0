/-
Standard containers and template instantiations in type spellings.

A container is recognised by its name and by having at least as many arguments
as matter for it; further arguments, such as allocators, are ignored.
`containers` and `templateIds` list what a spelling mentions, outermost first
and each once.
-/

import Reflectory.Spelling.Scope
import Reflectory.Spelling.Template

namespace Reflectory

/-- The standard containers that have a reflector of their own. -/
inductive ContainerShape where
  | vector | list | deque | set | multiSet | map | multiMap | pair
  deriving DecidableEq, Repr

namespace ContainerShape

/-- Every shape. -/
def all : List ContainerShape :=
  [vector, list, deque, set, multiSet, map, multiMap, pair]

/-- The number of template arguments that matter. -/
def arity : ContainerShape → Nat
  | map | multiMap | pair => 2
  | _ => 1

/-- The container's qualified name. -/
def stdName : ContainerShape → String
  | vector => "std::vector"
  | list => "std::list"
  | deque => "std::deque"
  | set => "std::set"
  | multiSet => "std::multiset"
  | map => "std::map"
  | multiMap => "std::multimap"
  | pair => "std::pair"

/-- The standard header that declares the container. -/
def header : ContainerShape → String
  | vector => "vector"
  | list => "list"
  | deque => "deque"
  | set | multiSet => "set"
  | map | multiMap => "map"
  | pair => "utility"

/-- The macro that reflects the container. -/
def reflectorMacro : ContainerShape → String
  | vector => "STD_VECTOR_REFLECTOR"
  | list => "STD_LIST_REFLECTOR"
  | deque => "STD_DEQUE_REFLECTOR"
  | set => "STD_SET_REFLECTOR"
  | multiSet => "STD_MULTISET_REFLECTOR"
  | map => "STD_MAP_REFLECTOR"
  | multiMap => "STD_MULTIMAP_REFLECTOR"
  | pair => "STD_PAIR_REFLECTOR"

/-- The shape of this qualified name. -/
def ofStdName? (name : String) : Option ContainerShape :=
  all.find? fun shape => shape.stdName == name

theorem mem_all (shape : ContainerShape) : shape ∈ all := by
  cases shape <;> decide

end ContainerShape

/-- A container with the arguments that matter. -/
structure ContainerType where
  shape : ContainerShape
  args : List String
  deriving DecidableEq, Repr

namespace Spelling

open Text

/-- The canonical name of a container with these arguments. -/
def containerName (shape : ContainerShape) (args : List String) : String :=
  shape.stdName ++ "< " ++ join ", " (args.map normalize) ++ " >"

/-- The container that an instantiation is, if it is one. -/
def Instantiation.container? (inst : Instantiation) : Option ContainerType :=
  match ContainerShape.ofStdName? (String.ofList (dropGlobal inst.head.toList)) with
  | some shape =>
    if inst.args.length < shape.arity then none
    else some ⟨shape, inst.args.take shape.arity⟩
  | none => none

/-- The container that a type is, apart from qualifiers and references. -/
def stdContainer? (ty : String) : Option ContainerType :=
  (splitTemplate (valueType ty)).bind Instantiation.container?

/-- Adds a text that is not yet in the list at its end. -/
def insertNew (found : List String) (s : String) : List String :=
  if found.contains s then found else found ++ [s]

theorem mem_insertNew {found : List String} {s t : String} :
    t ∈ insertNew found s ↔ t ∈ found ∨ t = s := by
  unfold insertNew
  split
  next there =>
    have there : s ∈ found := by simpa using there
    constructor
    · exact .inl
    · rintro (mem | rfl)
      · exact mem
      · exact there
  next => simp

theorem mem_foldl_insertNew {found texts : List String} {s : String} :
    s ∈ texts.foldl insertNew found ↔ s ∈ found ∨ s ∈ texts := by
  induction texts generalizing found with
  | nil => simp
  | cons text texts ih => rw [List.foldl_cons, ih, mem_insertNew, List.mem_cons, or_assoc]

theorem nodup_insertNew {found : List String} (nodup : found.Nodup) (s : String) :
    (insertNew found s).Nodup := by
  unfold insertNew
  split
  next => exact nodup
  next fresh =>
    refine List.nodup_append.mpr ⟨nodup, by simp, ?_⟩
    rintro a mem b mem' rfl
    obtain rfl := List.mem_singleton.mp mem'
    exact fresh (by simpa using mem)

/-- Adding texts one by one makes a list without repetitions. -/
theorem nodup_foldl_insertNew (texts : List String) {found : List String}
    (nodup : found.Nodup) : (texts.foldl insertNew found).Nodup := by
  induction texts generalizing found with
  | nil => exact nodup
  | cons s texts ih => exact ih (nodup_insertNew nodup s)

/-! ### Searching inside a type -/

/-- A value, then its parts, each followed by its own parts. -/
def withParts {α : Type} (size : α → Nat) (parts : α → List α)
    (smaller : ∀ a, ∀ b ∈ parts a, size b < size a) (a : α) : List α :=
  a :: (parts a).attach.flatMap fun ⟨b, _hb⟩ => withParts size parts smaller b
termination_by size a
decreasing_by exact smaller a b _hb

/-- The arguments of the instantiation that a type is, apart from qualifiers
and references; none if it is no instantiation. -/
def valueArgs (ty : String) : List String :=
  (splitTemplate (valueType ty)).elim [] Instantiation.args

theorem ink_lt_of_mem_valueArgs (ty : String) : ∀ arg ∈ valueArgs ty, ink arg < ink ty := by
  intro arg hmem
  unfold valueArgs at hmem
  cases h : splitTemplate (valueType ty) with
  | none => simp [h] at hmem
  | some inst =>
    simp only [h, Option.elim] at hmem
    exact Nat.lt_of_lt_of_le (ink_lt_of_mem_args h hmem) (ink_valueType_le ty)

/-- The canonical name of the container that a type is, apart from qualifiers
and references. -/
def containerAt? (ty : String) : Option String :=
  (splitTemplate (valueType ty)).bind fun _ =>
    (stdContainer? (valueType ty)).map fun c => containerName c.shape c.args

/-- The containers at and inside a type, outermost first, repetitions
included. -/
def containersWithin (ty : String) : List String :=
  (withParts ink valueArgs ink_lt_of_mem_valueArgs ty).filterMap containerAt?

/-- Adds to a list the containers that a type mentions. -/
def collectContainers (ty : String) (found : List String) : List String :=
  (containersWithin ty).foldl insertNew found

/-- The type that a value spelling points to: without `*` and blanks at its
end. -/
def pointee (ty : String) : String :=
  String.ofList (dropEndWhile (fun c => c = '*' || isBlank c) ty.toList)

theorem ink_pointee_le (ty : String) : ink (pointee ty) ≤ ink ty := by
  have hsub : (dropEndWhile (fun c => c = '*' || isBlank c) ty.toList).Sublist ty.toList := by
    have := (List.dropWhile_sublist (fun c => c = '*' || isBlank c)
      (l := ty.toList.reverse)).reverse
    simpa [dropEndWhile] using this
  simpa [ink, pointee, inked] using (hsub.filter fun c => !isBlank c).length_le

/-- The arguments of the instantiation that a type is or points to; none if it
is no instantiation. -/
def pointeeArgs (ty : String) : List String :=
  (splitTemplate (pointee (valueType ty))).elim [] Instantiation.args

theorem ink_lt_of_mem_pointeeArgs (ty : String) :
    ∀ arg ∈ pointeeArgs ty, ink arg < ink ty := by
  intro arg hmem
  unfold pointeeArgs at hmem
  cases h : splitTemplate (pointee (valueType ty)) with
  | none => simp [h] at hmem
  | some inst =>
    simp only [h, Option.elim] at hmem
    exact Nat.lt_of_lt_of_le (ink_lt_of_mem_args h hmem)
      (Nat.le_trans (ink_pointee_le _) (ink_valueType_le ty))

/-- The canonical name of the instantiation that a type is or points to. -/
def templateIdAt? (ty : String) : Option String :=
  (splitTemplate (pointee (valueType ty))).map fun _ => normalize (pointee (valueType ty))

/-- The template instantiations at and inside a type, outermost first,
repetitions included, with pointers, references and qualifiers removed. -/
def templateIdsWithin (ty : String) : List String :=
  (withParts ink pointeeArgs ink_lt_of_mem_pointeeArgs ty).filterMap templateIdAt?

/-- Adds to a list the template instantiations that a type mentions. -/
def collectTemplateIds (ty : String) (found : List String) : List String :=
  (templateIdsWithin ty).foldl insertNew found

end Spelling

end Reflectory
