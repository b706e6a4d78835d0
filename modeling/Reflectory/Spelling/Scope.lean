/-
Scopes of qualified names.

The last `::` outside angle brackets divides a name into its scope and its last
segment. A name used inside a scope may mean a name of that scope or of any
scope around it; `scopedCandidates` lists what it may mean, innermost first.
-/

namespace Reflectory.Spelling

/-- The depth of angle brackets after a character; a bracket that closes nothing
is ignored. -/
def bracketDepth (depth : Nat) (c : Char) : Nat :=
  if c = '<' then depth + 1 else if c = '>' then depth - 1 else depth

/-- The characters before and after the last `::` that stands outside angle
brackets, at the given depth of brackets. -/
def splitScope : Nat → List Char → Option (List Char × List Char)
  | _, [] => none
  | 0, ':' :: ':' :: cs =>
    match splitScope 0 cs with
    | some (before, after) => some (':' :: ':' :: before, after)
    | none => some ([], cs)
  | depth, c :: cs =>
    (splitScope (bracketDepth depth c) cs).map fun (before, after) => (c :: before, after)

/-- The scope of a name, if it has one: `scene::Node::Mode` is in `scene::Node`. -/
def scope? (name : String) : Option String :=
  match splitScope 0 name.toList with
  | some (before, _) => if before.isEmpty then none else some (String.ofList before)
  | none => none

/-- The last segment of a name: `scene::Node::Mode` ends in `Mode`. -/
def lastSegment (name : String) : String :=
  match splitScope 0 name.toList with
  | some (_, after) => String.ofList after
  | none => name

theorem length_of_splitScope {depth : Nat} {cs before after : List Char}
    (h : splitScope depth cs = some (before, after)) :
    before.length + 2 + after.length = cs.length := by
  fun_induction splitScope depth cs generalizing before after with
  | case1 => simp at h
  | case2 cs b a hsplit ih =>
    obtain ⟨rfl, rfl⟩ := Prod.mk.inj (Option.some.inj h)
    have := ih hsplit
    simp only [List.length_cons]
    omega
  | case3 cs hsplit ih =>
    obtain ⟨rfl, rfl⟩ := Prod.mk.inj (Option.some.inj h)
    simp
    omega
  | case4 depth c cs _ ih =>
    obtain ⟨⟨b, a⟩, hsplit, heq⟩ := Option.map_eq_some_iff.1 h
    obtain ⟨rfl, rfl⟩ := Prod.mk.inj heq
    have := ih hsplit
    simp only [List.length_cons]
    omega

/-- A scope is shorter than the name. -/
theorem length_lt_of_scope? {name scope : String} (h : scope? name = some scope) :
    scope.toList.length < name.toList.length := by
  unfold scope? at h
  split at h
  · rename_i before after hsplit
    split at h
    · simp at h
    · obtain rfl := Option.some.inj h
      have := length_of_splitScope hsplit
      simp only [String.toList_ofList]
      omega
  · simp at h

/-- A scope and all scopes around it, innermost first. -/
def scopesFrom (scope : String) : List String :=
  scope :: match _h : scope? scope with
    | some outer => scopesFrom outer
    | none => []
termination_by scope.toList.length
decreasing_by exact length_lt_of_scope? _h

/-- Without leading `::`. -/
def dropGlobal : List Char → List Char
  | ':' :: ':' :: cs => dropGlobal cs
  | cs => cs

/-- The names that `name` may stand for inside a scope, innermost scope first
and the name by itself last. -/
def scopedCandidates (scope : Option String) (name : String) : List String :=
  let name := String.ofList (dropGlobal name.toList)
  (scope.elim [] scopesFrom).map (· ++ "::" ++ name) ++ [name]

end Reflectory.Spelling
