/-
The containers that are found in a type are those that it mentions.

What a type mentions is said by its tokens. Brackets are balanced (`Balanced`), the
arguments of an instantiation stand between the commas outside all inner brackets
(`Arguments`), and a type mentions itself and, where it is an instantiation, whatever its
arguments mention (`Inside`). Types are looked at without qualifiers and references
(`bare`), or behind pointers too (`target`).

* `mem_collectContainers_iff`: found is what a type mentions without passing a pointer.
* `Mentions.target`, `mentions_bare_of_target`: that is all that it mentions, unless an
  instantiation stands behind a pointer.

Splitting counts angle brackets only, so this is about types in which no comma stands
directly between parentheses; and it reads the arguments again from their spelling, which
gives back their tokens where colons stand in pairs.
-/

import Mathlib.Data.List.DropRight
import Reflectory.Proofs.Spelling.Mentions

namespace Reflectory.Spelling

/-! ### Balanced brackets -/

/-- Whether the token is a bracket of one of the two sorts that are balanced. -/
def Token.isBracket : Token → Bool
  | .mark '<' | .mark '>' | .mark '(' | .mark ')' => true
  | _ => false

/-- Tokens in which angle brackets and parentheses are balanced. Commas may stand outside
all of these brackets if `commas` holds, directly between angle brackets always, and
directly between parentheses outside all angle brackets, where `deep` is false, or if
`loose` holds. -/
inductive Balanced (loose : Bool) : Bool → Bool → List Token → Prop where
  | nil {deep commas : Bool} : Balanced loose deep commas []
  | cons {deep commas : Bool} {t : Token} {ts : List Token} (plain : t.isBracket = false)
      (comma : t = .mark ',' → commas) (rest : Balanced loose deep commas ts) :
      Balanced loose deep commas (t :: ts)
  | angles {deep commas : Bool} {ts us : List Token} (inner : Balanced loose true true ts)
      (rest : Balanced loose deep commas us) :
      Balanced loose deep commas (.mark '<' :: (ts ++ .mark '>' :: us))
  | parens {deep commas : Bool} {ts us : List Token}
      (inner : Balanced loose deep (!deep || loose) ts) (rest : Balanced loose deep commas us) :
      Balanced loose deep commas (.mark '(' :: (ts ++ .mark ')' :: us))

/-- The tokens between the angle brackets of an instantiation and the arguments that they
make up, none of which is an empty one at the end. -/
inductive Arguments (loose : Bool) : List Token → List (List Token) → Prop where
  | nil : Arguments loose [] []
  | last {arg : List Token} (balanced : Balanced loose true false arg) (nonempty : arg ≠ []) :
      Arguments loose arg [arg]
  | cons {arg body : List Token} {args : List (List Token)}
      (balanced : Balanced loose true false arg) (rest : Arguments loose body args) :
      Arguments loose (arg ++ .mark ',' :: body) (arg :: args)

/-- Tokens that are one instantiation, with its head and its arguments. -/
def Instantiates (loose : Bool) (ts : List Token) (head : List Char) (args : List (List Token)) :
    Prop :=
  ∃ body, ts = .word head :: .mark '<' :: (body ++ [.mark '>']) ∧ Arguments loose body args

namespace Balanced

variable {loose deep commas : Bool} {ts us : List Token}

theorem append (left : Balanced loose deep commas ts) (right : Balanced loose deep commas us) :
    Balanced loose deep commas (ts ++ us) := by
  induction left with
  | nil => exact right
  | cons plain comma _ ih => exact .cons plain comma (ih right)
  | angles inner _ _ ih =>
    rw [List.cons_append, List.append_assoc, List.cons_append]
    exact .angles inner (ih right)
  | parens inner _ _ ih =>
    rw [List.cons_append, List.append_assoc, List.cons_append]
    exact .parens inner (ih right)

/-- More commas may be allowed. -/
theorem mono {loose' deep' commas' : Bool} (balanced : Balanced loose deep commas ts)
    (looser : loose → loose') (flatter : deep' → deep) (more : commas → commas') :
    Balanced loose' deep' commas' ts := by
  induction balanced generalizing deep' commas' with
  | nil => exact .nil
  | cons plain comma _ ih => exact .cons plain (fun same => more (comma same)) (ih flatter more)
  | angles _ _ ih ih' => exact .angles (ih id id) (ih' flatter more)
  | parens _ _ ih ih' =>
    refine .parens (ih flatter ?_) (ih' flatter more)
    simp only [Bool.or_eq_true, Bool.not_eq_true']
    refine Or.imp (fun shallow => Bool.eq_false_iff.mpr fun deeper => ?_) looser
    simp [flatter deeper] at shallow

theorem of_word {w : List Char} (balanced : Balanced loose deep commas (.word w :: ts)) :
    Balanced loose deep commas ts := by
  cases balanced with
  | cons _ _ rest => exact rest

theorem of_open (balanced : Balanced loose deep commas (.mark '<' :: ts)) :
    ∃ inner us, ts = inner ++ .mark '>' :: us ∧ Balanced loose true true inner ∧
      Balanced loose deep commas us := by
  cases balanced with
  | cons plain => cases plain
  | @angles _ _ inner us balanced rest => exact ⟨inner, us, rfl, balanced, rest⟩

/-- Tokens between angle brackets are the tokens of some arguments. -/
theorem exists_arguments (balanced : Balanced loose deep commas ts) (inside : deep)
    (allowed : commas) : ∃ args, Arguments loose ts args := by
  -- What closes its brackets becomes part of the first argument.
  have prepend {pre body : List Token} {args : List (List Token)}
      (first : Balanced loose true false pre) (nonempty : pre ≠ [])
      (rest : Arguments loose body args) : ∃ args, Arguments loose (pre ++ body) args := by
    cases rest with
    | nil => exact ⟨[pre], by simpa using .last first nonempty⟩
    | last balanced _ => exact ⟨_, .last (first.append balanced) (by simp [nonempty])⟩
    | @cons arg body args balanced rest =>
      rw [← List.append_assoc]
      exact ⟨(pre ++ arg) :: args, .cons (first.append balanced) rest⟩
  induction balanced with
  | nil => exact ⟨[], .nil⟩
  | @cons deep commas t ts plain _ _ ih =>
    obtain ⟨args, rest⟩ := ih inside allowed
    by_cases comma : t = .mark ','
    · exact ⟨[] :: args, comma ▸ .cons .nil rest⟩
    · exact prepend (.cons plain (fun same => absurd same comma) .nil) (List.cons_ne_nil _ _) rest
  | angles balanced _ _ ih =>
    obtain ⟨args, rest⟩ := ih inside allowed
    simpa using prepend (.angles balanced .nil) (List.cons_ne_nil _ _) rest
  | parens balanced _ _ ih =>
    obtain ⟨args, rest⟩ := ih inside allowed
    obtain rfl := inside
    simpa using prepend (.parens balanced .nil) (List.cons_ne_nil _ _) rest

end Balanced

theorem Arguments.mono {loose loose' : Bool} {body : List Token} {args : List (List Token)}
    (arguments : Arguments loose body args) (looser : loose → loose') :
    Arguments loose' body args := by
  induction arguments with
  | nil => exact .nil
  | last balanced nonempty => exact .last (balanced.mono looser id id) nonempty
  | cons balanced _ ih => exact .cons (balanced.mono looser id id) ih

theorem Arguments.balanced {loose : Bool} {body : List Token} {args : List (List Token)}
    (arguments : Arguments loose body args) : ∀ arg ∈ args, Balanced loose true false arg := by
  induction arguments with
  | nil => nofun
  | last balanced => simpa using balanced
  | cons balanced _ ih => exact List.forall_mem_cons.mpr ⟨balanced, ih⟩

/-! ### Splitting by counting -/

/-- The depth of brackets after a token, where parentheses may count too. -/
def depthInside (parens : Bool) (depth : Nat) : Token → Nat
  | .mark '<' => depth + 1
  | .mark '>' => depth - 1
  | .mark '(' => if parens then depth + 1 else depth
  | .mark ')' => if parens then depth - 1 else depth
  | _ => depth

/-- Arguments read as `splitArgs` reads them, but parentheses may count too. -/
def splitInside (parens : Bool) : Nat → List Token → List Token → Option (List (List Token))
  | _, current, [] => some (if current.isEmpty then [] else [current])
  | depth, current, t :: ts =>
    if t == .mark ',' && depth == 0 then (splitInside parens 0 [] ts).map (current :: ·)
    else if t == .mark '>' && depth == 0 then none
    else splitInside parens (depthInside parens depth t) (current ++ [t]) ts

theorem splitInside_false (depth : Nat) (current ts : List Token) :
    splitInside false depth current ts = splitArgs depth current ts := by
  have same (depth : Nat) (t : Token) : depthInside false depth t = depthAfter depth t := by
    unfold depthInside depthAfter
    split <;> simp_all
  fun_induction splitArgs depth current ts with
  | case1 => rfl
  | case2 depth current t ts comma ih => rw [splitInside, if_pos comma, ih]
  | case3 depth current t ts no_comma closes => rw [splitInside, if_neg no_comma, if_pos closes]
  | case4 depth current t ts no_comma open_ ih =>
    rw [splitInside, if_neg no_comma, if_neg open_, same, ih]

theorem depthInside_of_plain {t : Token} (plain : t.isBracket = false) (parens : Bool)
    (depth : Nat) : depthInside parens depth t = depth := by
  unfold Token.isBracket at plain
  unfold depthInside
  split at plain <;> simp_all

variable {loose parens deep commas : Bool}

theorem splitInside_cons {depth : Nat} {t : Token} (comma : t = .mark ',' → depth ≠ 0)
    (bracket : t = .mark '>' → depth ≠ 0) (current ts : List Token) :
    splitInside parens depth current (t :: ts) =
      splitInside parens (depthInside parens depth t) (current ++ [t]) ts := by
  rw [splitInside, if_neg, if_neg]
  · simpa using bracket
  · simpa using comma

/-- Balanced tokens are passed over, where their commas are not those of the arguments. -/
theorem Balanced.splitInside_append {ts : List Token} (balanced : Balanced loose true commas ts)
    (counted : loose → parens) {depth : Nat} (inside : commas → depth ≠ 0)
    (current rest : List Token) :
    splitInside parens depth current (ts ++ rest) =
      splitInside parens depth (current ++ ts) rest := by
  generalize within : true = deep at balanced
  induction balanced generalizing depth current rest with
  | nil => simp
  | @cons deep commas t ts plain comma _ ih =>
    have no_bracket : t ≠ .mark '>' := by
      rintro rfl
      cases plain
    rw [List.cons_append, splitInside_cons (fun same => inside (comma same)) (absurd · no_bracket),
      depthInside_of_plain plain, ih inside _ _ within]
    simp
  | angles _ _ ih ih' =>
    have deeper : depthInside parens depth (.mark '<') ≠ 0 := Nat.succ_ne_zero depth
    have outside : depthInside parens (depthInside parens depth (.mark '<')) (.mark '>') = depth :=
      rfl
    rw [List.cons_append, List.append_assoc, List.cons_append,
      splitInside_cons (t := .mark '<') nofun nofun, ih (fun _ => deeper) _ _ rfl,
      splitInside_cons (t := .mark '>') nofun fun _ => deeper, outside, ih' inside _ _ within]
    simp
  | @parens deep commas _ _ _ _ ih ih' =>
    have counts : (!deep || loose) → depthInside parens depth (.mark '(') ≠ 0 := by
      rw [← within]
      exact fun holds => by simp [depthInside, counted holds]
    have outside :
        depthInside parens (depthInside parens depth (.mark '(')) (.mark ')') = depth := by
      cases parens <;> rfl
    rw [List.cons_append, List.append_assoc, List.cons_append,
      splitInside_cons (t := .mark '(') nofun nofun, ih counts _ _ within,
      splitInside_cons (t := .mark ')') nofun nofun, outside, ih' inside _ _ within]
    simp

namespace Arguments

variable {body : List Token} {args : List (List Token)}

/-- Splitting gives the arguments. -/
theorem splitInside_eq (arguments : Arguments loose body args) (parens : Bool)
    (counted : loose → parens) :
    splitInside parens 0 [] body = some args := by
  induction arguments with
  | nil => rfl
  | @last arg balanced nonempty =>
    have passed : splitInside parens 0 [] (arg ++ []) = splitInside parens 0 ([] ++ arg) [] :=
      balanced.splitInside_append counted nofun [] []
    rw [List.append_nil, List.nil_append] at passed
    rw [passed, splitInside, if_neg (by simpa using nonempty)]
  | cons balanced _ ih =>
    rw [balanced.splitInside_append counted nofun, List.nil_append, splitInside, ih]
    simp

/-- No arguments go on behind a bracket that closes the instantiation. -/
theorem splitInside_close (arguments : Arguments loose body args) (parens : Bool)
    (counted : loose → parens) (rest : List Token) :
    splitInside parens 0 [] (body ++ .mark '>' :: rest) = none := by
  induction arguments with
  | nil => simp [splitInside]
  | last balanced _ =>
    rw [balanced.splitInside_append counted nofun, splitInside]
    simp
  | cons balanced _ ih =>
    rw [List.append_assoc, balanced.splitInside_append counted nofun, List.cons_append,
      splitInside, ih]
    simp

end Arguments

/-- An instantiation is split into its arguments. -/
theorem Instantiates.splitTokens_eq {ts : List Token} {head : List Char} {args : List (List Token)}
    (instantiates : Instantiates false ts head args) : splitTokens ts = some (head, args) := by
  obtain ⟨body, rfl, arguments⟩ := instantiates
  have closed : (body ++ [Token.mark '>']).getLast? = some (.mark '>') := List.getLast?_concat
  rw [splitTokens, if_pos closed, List.dropLast_concat, ← splitInside_false,
    arguments.splitInside_eq false id]
  rfl

namespace Balanced

variable {ts : List Token} {head : List Char} {args : List (List Token)}

/-- What is split is an instantiation. -/
theorem instantiates_of_splitTokens (balanced : Balanced false deep commas ts)
    (split : splitTokens ts = some (head, args)) : Instantiates false ts head args := by
  unfold splitTokens at split
  split at split
  next head' tail =>
    split at split
    case isFalse => cases split
    obtain ⟨args', split, same⟩ := Option.map_eq_some_iff.mp split
    cases same
    obtain ⟨body, us, rfl, inner, -⟩ := balanced.of_word.of_open
    obtain ⟨args', arguments⟩ := inner.exists_arguments rfl rfl
    rw [← splitInside_false] at split
    obtain rfl | ⟨us, u, rfl⟩ := List.eq_nil_or_concat us
    · rw [List.dropLast_concat, arguments.splitInside_eq false id] at split
      obtain rfl := Option.some.inj split
      exact ⟨body, rfl, arguments⟩
    · -- The first bracket would be closed before the end.
      have closed := arguments.splitInside_close false id us
      rw [List.concat_eq_append, ← List.cons_append, ← List.append_assoc, List.dropLast_concat,
        closed] at split
      cases split
  next => cases split

/-- Where no comma stands directly between parentheses, none does in the arguments. -/
theorem instantiates (balanced : Balanced false deep commas ts)
    (instantiates : Instantiates true ts head args) : Instantiates false ts head args := by
  obtain ⟨body, rfl, arguments⟩ := instantiates
  obtain ⟨inner, us, same, balanced, -⟩ := balanced.of_word.of_open
  obtain ⟨args', arguments'⟩ := balanced.exists_arguments rfl rfl
  have split := arguments.splitInside_eq true fun _ => rfl
  obtain rfl : body = inner := by
    obtain rfl | ⟨us, u, rfl⟩ := List.eq_nil_or_concat us
    · exact List.append_cancel_right same
    · rw [List.concat_eq_append, ← List.cons_append, ← List.append_assoc] at same
      obtain ⟨rfl, -⟩ := List.append_inj' same rfl
      rw [arguments'.splitInside_close true nofun] at split
      cases split
  obtain rfl := Option.some.inj (split.symm.trans (arguments'.splitInside_eq true nofun))
  exact ⟨body, rfl, arguments'⟩

end Balanced

/-! ### Qualifiers -/

theorem isQualifier_of_isBracket {t : Token} (bracket : t.isBracket) : isQualifier t = false := by
  unfold Token.isBracket at bracket
  split at bracket
  case h_5 => cases bracket
  all_goals decide +kernel

theorem depthAfter_of_plain {t : Token} (plain : t.isBracket = false) (depth : Nat) :
    depthAfter depth t = depth := by
  unfold Token.isBracket at plain
  unfold depthAfter
  split at plain <;> simp_all

theorem dropQualifiers_cons {t : Token} (kept : isQualifier t = false) (depth : Nat)
    (ts : List Token) :
    dropQualifiers depth (t :: ts) = t :: dropQualifiers (depthAfter depth t) ts := by
  simp [dropQualifiers, kept]

/-- Leaving qualifiers out a second time changes nothing. -/
theorem dropQualifiers_dropQualifiers (depth : Nat) (ts : List Token) :
    dropQualifiers depth (dropQualifiers depth ts) = dropQualifiers depth ts := by
  fun_induction dropQualifiers depth ts with
  | case1 => rfl
  | case2 depth t ts rest dropped ih =>
    have plain : t.isBracket = false := by
      rw [Bool.eq_false_iff]
      intro bracket
      simp [isQualifier_of_isBracket bracket] at dropped
    simpa only [rest, depthAfter_of_plain plain] using ih
  | case3 depth t ts rest kept ih => rw [dropQualifiers, if_neg kept, ih]

namespace Balanced

variable {ts us : List Token}

/-- Behind balanced tokens the depth is the one before them. -/
theorem dropQualifiers_append (balanced : Balanced loose deep commas ts) (depth : Nat)
    (rest : List Token) :
    dropQualifiers depth (ts ++ rest) = dropQualifiers depth ts ++ dropQualifiers depth rest := by
  induction balanced generalizing depth rest with
  | nil => rfl
  | cons plain _ _ ih =>
    simp only [List.cons_append, dropQualifiers, depthAfter_of_plain plain, ih]
    split <;> rfl
  | angles _ _ ih ih' =>
    rw [List.cons_append, List.append_assoc, List.cons_append,
      dropQualifiers_cons (t := .mark '<') rfl, dropQualifiers_cons (t := .mark '<') rfl, ih, ih,
      dropQualifiers_cons (t := .mark '>') rfl, dropQualifiers_cons (t := .mark '>') rfl]
    simp [depthAfter, ih']
  | parens _ _ ih ih' =>
    rw [List.cons_append, List.append_assoc, List.cons_append,
      dropQualifiers_cons (t := .mark '(') rfl, dropQualifiers_cons (t := .mark '(') rfl, ih, ih,
      dropQualifiers_cons (t := .mark ')') rfl, dropQualifiers_cons (t := .mark ')') rfl]
    simp [depthAfter, ih']

/-- Without qualifiers, brackets are still balanced. -/
theorem dropQualifiers (balanced : Balanced loose deep commas ts) (depth : Nat) :
    Balanced loose deep commas (dropQualifiers depth ts) := by
  induction balanced generalizing depth with
  | nil => exact .nil
  | cons plain comma _ ih =>
    rw [Spelling.dropQualifiers]
    split
    · exact ih _
    · exact .cons plain comma (ih _)
  | angles inner _ ih ih' =>
    rw [dropQualifiers_cons (t := .mark '<') rfl, inner.dropQualifiers_append,
      dropQualifiers_cons (t := .mark '>') rfl]
    exact .angles (ih _) (ih' _)
  | parens inner _ ih ih' =>
    rw [dropQualifiers_cons (t := .mark '(') rfl, inner.dropQualifiers_append,
      dropQualifiers_cons (t := .mark ')') rfl]
    exact .parens (ih _) (ih' _)

end Balanced

/-! ### What a type mentions -/

/-- The tokens of a type without qualifiers and references. -/
def bare (ts : List Token) : List Token :=
  dropQualifiers 0 ts

/-- The tokens of what a type is or points to, without qualifiers and references. -/
def target (ts : List Token) : List Token :=
  (bare ts).rdropWhile (· == .mark '*')

/-- The types inside a type: the type itself and the types inside the arguments, if it is an
instantiation as far as `peel` looks at it. -/
inductive Inside (peel : List Token → List Token) (ts : List Token) : List Token → Prop where
  | self : Inside peel ts ts
  | argument {us arg : List Token} {head : List Char} {args : List (List Token)}
      (inside : Inside peel ts us) (instantiates : Instantiates true (peel us) head args)
      (mem : arg ∈ args) : Inside peel ts arg

/-- Tokens that are the instantiation of a standard container; `args` are the arguments
that matter. -/
def IsContainer (ts : List Token) (shape : ContainerShape) (args : List (List Token)) : Prop :=
  ∃ head all, Instantiates true ts head all ∧ String.ofList (dropGlobal head) = shape.stdName ∧
    shape.arity ≤ all.length ∧ args = all.take shape.arity

/-- Whether a container of this name stands inside a type. -/
def Mentions (peel : List Token → List Token) (ts : List Token) (name : String) : Prop :=
  ∃ us shape args, Inside peel ts us ∧ IsContainer (peel us) shape args ∧
    name = containerName shape (args.map render)

/-- Whether an instantiation stands behind a pointer inside a type. -/
def PointsToInstantiation (ts : List Token) : Prop :=
  ∃ us head args, Inside target ts us ∧ Instantiates true (target us) head args ∧
    target us ≠ bare us

section Pointers

variable {ts us : List Token} {head : List Char} {args : List (List Token)} {name : String}

/-- An instantiation is no pointer. -/
theorem Instantiates.target_eq (instantiates : Instantiates true (bare us) head args) :
    target us = bare us := by
  obtain ⟨body, same, -⟩ := instantiates
  rw [target, same, ← List.cons_append, ← List.cons_append]
  exact List.rdropWhile_concat_neg _ _ _ (by decide)

theorem Inside.target (inside : Inside bare ts us) : Inside target ts us := by
  induction inside with
  | self => exact .self
  | argument _ instantiates mem ih =>
    exact .argument ih (instantiates.target_eq ▸ instantiates) mem

/-- What is mentioned without a pointer is mentioned. -/
theorem Mentions.target (mentions : Mentions bare ts name) : Mentions target ts name := by
  obtain ⟨us, shape, args, inside, container, rfl⟩ := mentions
  have same : Spelling.target us = bare us := by
    obtain ⟨head, all, instantiates, -⟩ := container
    exact instantiates.target_eq
  exact ⟨us, shape, args, inside.target, same ▸ container, rfl⟩

/-- Without pointers to instantiations, types inside stand behind no pointer. -/
theorem Inside.bare (free : ¬ PointsToInstantiation ts) (inside : Inside Spelling.target ts us) :
    Inside bare ts us := by
  induction inside with
  | self => exact .self
  | @argument us _ head args inside instantiates mem ih =>
    have same : Spelling.target us = Spelling.bare us := by
      by_contra other
      exact free ⟨us, head, args, inside, instantiates, other⟩
    exact .argument ih (same ▸ instantiates) mem

/-- Without pointers to instantiations, what is mentioned is mentioned without a pointer. -/
theorem mentions_bare_of_target (free : ¬ PointsToInstantiation ts)
    (mentions : Mentions Spelling.target ts name) : Mentions bare ts name := by
  obtain ⟨us, shape, args, inside, container, rfl⟩ := mentions
  have same : Spelling.target us = bare us := by
    by_contra other
    obtain ⟨head, all, instantiates, -⟩ := container
    exact free ⟨us, head, all, inside, instantiates, other⟩
  exact ⟨us, shape, args, inside.bare free, same ▸ container, rfl⟩

end Pointers

/-! ### What is found in a type -/

/-- Joined arguments are split again, unless the last is empty. -/
theorem splitArgs_joined_of_nonempty {args : List (List Token)} (separable : Separable args)
    (last : args.getLast? ≠ some []) : splitArgs 0 [] (joined args) = some args := by
  induction separable with
  | @single _ arg opened =>
    have nonempty : arg.isEmpty = false := by simpa using last
    rw [joined, ← List.append_nil arg, opened.splitArgs_append, splitArgs, nonempty]
    simp
  | cons opened separable ih =>
    have last := List.getLast?_cons_of_ne_nil separable.ne_nil ▸ last
    rw [joined_cons separable.ne_nil, opened.splitArgs_append, splitArgs, ih last]
    simp

/-- A type whose arguments are split as they are written: brackets are balanced, no comma
stands directly between parentheses inside angle brackets, and colons stand in pairs. -/
structure Regular (type : String) : Prop where
  balanced : Balanced false false true (tokenize type)
  paired : PairedColons type

theorem ofStdName?_eq_some_iff {name : String} {shape : ContainerShape} :
    ContainerShape.ofStdName? name = some shape ↔ name = shape.stdName := by
  constructor
  · intro found
    have same := List.find?_some found
    exact (eq_of_beq same).symm
  · rintro rfl
    cases shape <;> decide +kernel

/-- A container is recognised by its name and the number of its arguments. -/
theorem container?_eq_some_iff {inst : Instantiation} {c : ContainerType} :
    inst.container? = some c ↔ String.ofList (dropGlobal inst.head.toList) = c.shape.stdName ∧
      c.shape.arity ≤ inst.args.length ∧ c.args = inst.args.take c.shape.arity := by
  obtain ⟨shape, args⟩ := c
  rw [← ofStdName?_eq_some_iff, Instantiation.container?]
  cases ContainerShape.ofStdName? (String.ofList (dropGlobal inst.head.toList)) with
  | none => simp
  | some shape' =>
    dsimp only
    split
    · rename_i few
      constructor
      · intro absurd
        cases absurd
      · rintro ⟨⟨⟩, enough, -⟩
        omega
    · rename_i enough
      simp only [Option.some.injEq, ContainerType.mk.injEq]
      constructor
      · rintro ⟨rfl, rfl⟩
        exact ⟨rfl, Nat.le_of_not_lt enough, rfl⟩
      · rintro ⟨rfl, -, rfl⟩
        exact ⟨rfl, rfl⟩

namespace Regular

variable {type : String}

theorem bare (regular : Regular type) : Balanced false false true (bare (tokenize type)) :=
  regular.balanced.dropQualifiers 0

/-- The instantiation that a type is has the tokens of its arguments. -/
theorem splitTemplate_valueType (regular : Regular type) {inst : Instantiation} :
    splitTemplate (valueType type) = some inst ↔ ∃ head args,
      Instantiates true (Spelling.bare (tokenize type)) head args ∧
        inst = ⟨String.ofList head, args.map render⟩ := by
  rw [splitTemplate, regular.paired.tokenize_valueType, Option.map_eq_some_iff]
  constructor
  · rintro ⟨⟨head, args⟩, split, rfl⟩
    have instantiates := regular.bare.instantiates_of_splitTokens split
    obtain ⟨body, same, arguments⟩ := instantiates
    exact ⟨head, args, ⟨body, same, arguments.mono fun _ => rfl⟩, rfl⟩
  · rintro ⟨head, args, instantiates, rfl⟩
    exact ⟨(head, args), (regular.bare.instantiates instantiates).splitTokens_eq, rfl⟩

theorem readable_arguments (regular : Regular type) {head : List Char} {args : List (List Token)}
    (instantiates : Instantiates true (Spelling.bare (tokenize type)) head args) :
    (∀ arg ∈ args, Readable arg) ∧ (args = [] ∨ Separable args) :=
  (regular.paired.readable.sublist (dropQualifiers_sublist 0 _)).of_splitTokens
    (regular.bare.instantiates instantiates).splitTokens_eq

/-- Arguments of an instantiation are regular again, and keep their tokens. -/
theorem argument (regular : Regular type) {head : List Char} {args : List (List Token)}
    (instantiates : Instantiates true (Spelling.bare (tokenize type)) head args)
    {arg : List Token} (mem : arg ∈ args) : Regular (render arg) ∧ tokenize (render arg) = arg := by
  have readable : Readable arg := (regular.readable_arguments instantiates).1 arg mem
  have tokens : tokenize (render arg) = arg := tokenize_render readable
  obtain ⟨body, -, arguments⟩ := regular.bare.instantiates instantiates
  refine ⟨⟨?_, readable.paired⟩, tokens⟩
  rw [tokens]
  exact (arguments.balanced arg mem).mono nofun nofun nofun

/-- The container that a type is has the name of its tokens. -/
theorem containerAt?_eq_some_iff (regular : Regular type) {name : String} :
    containerAt? type = some name ↔ ∃ shape args,
      IsContainer (Spelling.bare (tokenize type)) shape args ∧
        name = containerName shape (args.map render) := by
  have again : tokenize (valueType (valueType type)) = tokenize (valueType type) := by
    rw [regular.paired.valueType.tokenize_valueType, regular.paired.tokenize_valueType,
      dropQualifiers_dropQualifiers]
  rw [containerAt?, stdContainer?]
  have split_again :
      splitTemplate (valueType (valueType type)) = splitTemplate (valueType type) := by
    rw [splitTemplate, again, splitTemplate]
  rw [split_again, Option.bind_eq_some_iff]
  simp only [Option.map_eq_some_iff, Option.bind_eq_some_iff, container?_eq_some_iff]
  constructor
  · rintro ⟨-, -, c, ⟨inst, split, known, enough, taken⟩, rfl⟩
    obtain ⟨head, all, instantiates, rfl⟩ := regular.splitTemplate_valueType.mp split
    refine ⟨c.shape, all.take c.shape.arity, ⟨head, all, instantiates, ?_, ?_, rfl⟩, ?_⟩
    · simpa using known
    · simpa using enough
    · rw [taken, List.map_take]
  · rintro ⟨shape, _, ⟨head, all, instantiates, known, enough, rfl⟩, rfl⟩
    have split := regular.splitTemplate_valueType.mpr ⟨head, all, instantiates, rfl⟩
    refine ⟨_, split, ⟨shape, (all.take shape.arity).map render⟩, ⟨_, split, ?_, ?_, ?_⟩, rfl⟩
    · simpa using known
    · simpa using enough
    · rw [List.map_take]

end Regular

theorem mem_withParts_self {α : Type} {size : α → Nat} {parts : α → List α}
    {smaller : ∀ a, ∀ b ∈ parts a, size b < size a} (a : α) :
    a ∈ withParts size parts smaller a := by
  rw [withParts]
  exact List.mem_cons_self

/-- The parts of a value inside another one are inside it too. -/
theorem mem_withParts_of_mem_parts {α : Type} {size : α → Nat} {parts : α → List α}
    {smaller : ∀ a, ∀ b ∈ parts a, size b < size a} {a b c : α}
    (mem : b ∈ withParts size parts smaller a) (part : c ∈ parts b) :
    c ∈ withParts size parts smaller a := by
  induction a using withParts.induct size parts smaller with
  | case1 a ih =>
    rw [withParts, List.mem_cons, List.mem_flatMap] at mem ⊢
    obtain rfl | ⟨⟨d, mem_parts⟩, attached, mem⟩ := mem
    · exact .inr ⟨⟨c, part⟩, List.mem_attach _ _, mem_withParts_self c⟩
    · exact .inr ⟨⟨d, mem_parts⟩, attached, ih d mem_parts mem⟩

namespace Regular

variable {type : String}

/-- The texts inside a type are spellings of the types inside it. -/
theorem inside_of_mem_withParts (regular : Regular type) :
    ∀ part ∈ withParts ink valueArgs ink_lt_of_mem_valueArgs type,
      Regular part ∧ Inside Spelling.bare (tokenize type) (tokenize part) := by
  refine forall_mem_withParts (p := fun part =>
    Regular part ∧ Inside Spelling.bare (tokenize type) (tokenize part)) ?_ ⟨regular, .self⟩
  rintro part ⟨regular, inside⟩ arg mem
  unfold valueArgs at mem
  cases split : splitTemplate (valueType part) with
  | none =>
    rw [split] at mem
    cases mem
  | some inst =>
    obtain ⟨head, args, instantiates, rfl⟩ := regular.splitTemplate_valueType.mp split
    rw [split] at mem
    obtain ⟨arg, listed, rfl⟩ := List.mem_map.mp mem
    obtain ⟨regular, tokens⟩ := regular.argument instantiates listed
    exact ⟨regular, tokens.symm ▸ inside.argument instantiates listed⟩

/-- Each type inside is spelled by a text inside. -/
theorem exists_of_inside (regular : Regular type) {us : List Token}
    (inside : Inside Spelling.bare (tokenize type) us) :
    ∃ part ∈ withParts ink valueArgs ink_lt_of_mem_valueArgs type,
      Regular part ∧ tokenize part = us := by
  induction inside with
  | self => exact ⟨type, mem_withParts_self type, regular, rfl⟩
  | argument _ instantiates mem ih =>
    obtain ⟨part, within, regular, rfl⟩ := ih
    obtain ⟨regular', tokens⟩ := regular.argument instantiates mem
    refine ⟨_, mem_withParts_of_mem_parts within ?_, regular', tokens⟩
    rw [valueArgs, regular.splitTemplate_valueType.mpr ⟨_, _, instantiates, rfl⟩]
    exact List.mem_map_of_mem mem

/-- **Found is what is mentioned** without passing a pointer. -/
theorem mem_collectContainers_iff (regular : Regular type) {name : String} :
    name ∈ collectContainers type [] ↔ Mentions Spelling.bare (tokenize type) name := by
  rw [collectContainers, mem_foldl_insertNew, or_iff_right List.not_mem_nil, containersWithin,
    List.mem_filterMap]
  constructor
  · rintro ⟨part, within, named⟩
    obtain ⟨regular, inside⟩ := regular.inside_of_mem_withParts part within
    obtain ⟨shape, args, container, rfl⟩ := regular.containerAt?_eq_some_iff.mp named
    exact ⟨_, shape, args, inside, container, rfl⟩
  · rintro ⟨us, shape, args, inside, container, rfl⟩
    obtain ⟨part, within, regular, rfl⟩ := regular.exists_of_inside inside
    exact ⟨part, within, regular.containerAt?_eq_some_iff.mpr ⟨shape, args, container, rfl⟩⟩

/-- The container is read back from its name, unless its last argument is empty. -/
theorem name_of_isContainer (regular : Regular type) {us : List Token} {shape : ContainerShape}
    {args : List (List Token)} (inside : Inside Spelling.bare (tokenize type) us)
    (container : IsContainer (Spelling.bare us) shape args) (last : args.getLast? ≠ some []) :
    normalize (containerName shape (args.map render)) = containerName shape (args.map render) ∧
      stdContainer? (containerName shape (args.map render)) = some ⟨shape, args.map render⟩ := by
  obtain ⟨part, -, regular, rfl⟩ := regular.exists_of_inside inside
  obtain ⟨head, all, instantiates, -, enough, rfl⟩ := container
  obtain ⟨readable, separable⟩ := regular.readable_arguments instantiates
  have readable : ∀ arg ∈ all.take shape.arity, Readable arg :=
    fun arg mem => readable arg (List.mem_of_mem_take mem)
  have separable := separable_take_arity enough separable
  refine ⟨normalize_containerName shape readable separable last, ?_⟩
  rw [stdContainer?, splitTemplate_containerName readable separable,
    splitArgs_joined_of_nonempty separable last]
  refine container?_eq_some_iff.mpr ⟨?_, ?_, ?_⟩
  · exact ofStdName?_eq_some_iff.mp (ofStdName?_stdName shape)
  · simp [enough]
  · simp [List.take_take]

end Regular

/-! ### Where less or something else is found -/

/-- A container that stands behind a pointer is mentioned, but not found. -/
theorem not_found_behind_pointers :
    ¬ ∀ type, Balanced true false true (tokenize type) → ∀ name,
      name ∈ collectContainers type [] ↔ Mentions target (tokenize type) name := by
  intro all
  have tokens : tokenize "std::vector<int> *" =
      [.word "std::vector".toList, .mark '<', .word "int".toList, .mark '>', .mark '*'] := by
    decide +kernel
  have int : Balanced true true false [.word "int".toList] := .cons rfl nofun .nil
  have balanced : Balanced true false true (tokenize "std::vector<int> *") := by
    rw [tokens]
    exact .cons rfl nofun (.angles (int.mono id id nofun) (.cons rfl nofun .nil))
  have pointee : target (tokenize "std::vector<int> *") =
      [.word "std::vector".toList, .mark '<', .word "int".toList, .mark '>'] := by
    rw [tokens]
    decide +kernel
  have container : IsContainer (target (tokenize "std::vector<int> *")) .vector
      [[.word "int".toList]] := by
    rw [pointee]
    exact ⟨_, _, ⟨_, rfl, .last int (List.cons_ne_nil _ _)⟩, by decide +kernel, by decide, rfl⟩
  have found := (all _ balanced "std::vector< int >").mpr
    ⟨_, .vector, _, .self, container, by decide +kernel⟩
  exact absurd found (by decide +kernel)

/-- The tokens of `int (int, int)`. -/
def functionOfTwo : List Token :=
  .word "int".toList :: .mark '(' ::
    ([.word "int".toList, .mark ',', .word "int".toList] ++ [.mark ')'])

/-- A comma between parentheses separates no arguments, but the tokens are split there: a
container is found under another name. -/
theorem split_between_parentheses : ∃ type name, Balanced true false true (tokenize type) ∧
    Mentions bare (tokenize type) name ∧ name ∉ collectContainers type [] := by
  have tokens : tokenize "std::map<int (int, int), X>" =
      Token.word "std::map".toList :: Token.mark '<' ::
        (functionOfTwo ++ Token.mark ',' :: [Token.word "X".toList] ++ [Token.mark '>']) := by
    decide +kernel
  have function : Balanced true true false functionOfTwo := by
    have inner : Balanced true true true [.word "int".toList, .mark ',', .word "int".toList] :=
      .cons rfl nofun (.cons rfl (fun _ => rfl) (.cons rfl nofun .nil))
    exact .cons rfl nofun (.parens inner .nil)
  have x : Balanced true true false [.word "X".toList] := .cons rfl nofun .nil
  refine ⟨"std::map<int (int, int), X>", "std::map< int(int, int), X >", ?_, ?_, by decide +kernel⟩
  · have rest : Balanced true true true (.mark ',' :: [.word "X".toList]) :=
      .cons rfl (fun _ => rfl) (x.mono id id nofun)
    rw [tokens]
    exact .cons rfl nofun (.angles ((function.mono id id nofun).append rest) .nil)
  · have container : IsContainer (bare (tokenize "std::map<int (int, int), X>")) .map
        [functionOfTwo, [.word "X".toList]] := by
      have same : bare (tokenize "std::map<int (int, int), X>") =
          tokenize "std::map<int (int, int), X>" := by
        decide +kernel
      rw [same, tokens]
      exact ⟨_, _, ⟨_, rfl, .cons function (.last x (List.cons_ne_nil _ _))⟩, by decide +kernel,
        by decide, rfl⟩
    exact ⟨_, .map, _, .self, container, by decide +kernel⟩

/-- The tokens of `: :std::vector<int>`. -/
def spacedColons : List Token :=
  [.mark ':', .mark ':', .word "std::vector".toList, .mark '<', .word "int".toList, .mark '>']

/-- Where single colons stand, the spelling of an argument has other tokens than the
argument: a container is found that is none in the type. -/
theorem found_where_colons_stand_alone : ∃ type name, Balanced false false true (tokenize type) ∧
    name ∈ collectContainers type [] ∧ ¬ Mentions target (tokenize type) name := by
  have tokens : tokenize "X<: :std::vector<int>>" =
      Token.word "X".toList :: Token.mark '<' :: (spacedColons ++ [Token.mark '>']) := by
    decide +kernel
  have balanced : Balanced false false true (tokenize "X<: :std::vector<int>>") := by
    have int : Balanced false true true [.word "int".toList] := .cons rfl nofun .nil
    have argument : Balanced false true true spacedColons :=
      .cons rfl nofun (.cons rfl nofun (.cons rfl nofun (.angles int .nil)))
    rw [tokens]
    exact .cons rfl nofun (.angles argument .nil)
  have whole {head : List Char} {args : List (List Token)}
      (instantiates : Instantiates true (target (tokenize "X<: :std::vector<int>>")) head args) :
      ("X".toList, [spacedColons]) = (head, args) := by
    have same : target (tokenize "X<: :std::vector<int>>") = tokenize "X<: :std::vector<int>>" := by
      decide +kernel
    have split : splitTokens (tokenize "X<: :std::vector<int>>") =
        some ("X".toList, [spacedColons]) := by
      decide +kernel
    rw [same] at instantiates
    exact Option.some.inj (split.symm.trans (balanced.instantiates instantiates).splitTokens_eq)
  -- The only argument begins with a colon, so it is no instantiation.
  have argument {head : List Char} {args : List (List Token)} :
      ¬ Instantiates true (target spacedColons) head args := by
    rintro ⟨body, same, -⟩
    have first : (target spacedColons).head? = some (.mark ':') := by decide +kernel
    rw [same] at first
    cases first
  have only {us : List Token} (inside : Inside target (tokenize "X<: :std::vector<int>>") us) :
      us = tokenize "X<: :std::vector<int>>" ∨ us = spacedColons := by
    induction inside with
    | self => exact .inl rfl
    | argument _ instantiates mem ih =>
      obtain rfl | rfl := ih
      · cases whole instantiates
        exact .inr (List.mem_singleton.mp mem)
      · exact absurd instantiates argument
  refine ⟨_, "std::vector< int >", balanced, by decide +kernel, ?_⟩
  rintro ⟨us, shape, args, inside, ⟨head, all, instantiates, known, -⟩, -⟩
  obtain rfl | rfl := only inside
  · cases whole instantiates
    cases shape <;> exact absurd known (by decide +kernel)
  · exact argument instantiates

end Reflectory.Spelling
