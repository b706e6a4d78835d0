/-
The names of what a type mentions are canonical.

A type mentions containers and instantiations, and each is named from tokens of the
type: an instantiation by the tokens themselves, a container by its standard name with
the arguments that matter. Where colons stand in pairs only, these names are read back
as the tokens they were written from, so they are canonical.

* `normalize_of_mem_templateIds`: the names of instantiations.
* `normalize_of_mem_containers`: the names of containers.
-/

import Mathlib.Logic.Basic
import Reflectory.Proofs.Spelling.Canonical
import Reflectory.Spelling.Container

namespace Reflectory.Spelling

open Text

/-! ### Spellings without single colons -/

/-- Colons stand in pairs only. -/
def PairedColons (text : String) : Prop :=
  .mark ':' ∉ tokenize text

instance (text : String) : Decidable (PairedColons text) :=
  inferInstanceAs (Decidable (_ ∉ _))

/-- Tokens that are read back from their canonical spelling. -/
def Readable (ts : List Token) : Prop :=
  ∀ t ∈ ts, t.Legible ∧ t ≠ .mark ':'

theorem Readable.sublist {ts us : List Token} (readable : Readable us) (sub : ts.Sublist us) :
    Readable ts :=
  fun t mem => readable t (sub.subset mem)

theorem PairedColons.readable {text : String} (paired : PairedColons text) :
    Readable (tokenize text) := by
  refine fun t mem => ⟨legible_tokenize text t mem, ?_⟩
  rintro rfl
  exact paired mem

theorem Readable.paired {ts : List Token} (readable : Readable ts) : PairedColons (render ts) := by
  intro mem
  rw [tokenize_render readable] at mem
  exact (readable _ mem).2 rfl

theorem Readable.normalize_render {ts : List Token} (readable : Readable ts) :
    normalize (render ts) = render ts := by
  rw [normalize, tokenize_render readable]

theorem PairedColons.tokenize_valueType {text : String} (paired : PairedColons text) :
    tokenize (valueType text) = dropQualifiers 0 (tokenize text) :=
  tokenize_render (paired.readable.sublist (dropQualifiers_sublist 0 _))

theorem PairedColons.valueType {text : String} (paired : PairedColons text) :
    PairedColons (valueType text) :=
  (paired.readable.sublist (dropQualifiers_sublist 0 _)).paired

/-- Reading stops at what belongs to no word, and goes on behind it. -/
theorem scan_append {cs : List Char} (pending ds : List Char) (ends : EndsWord ds) :
    scan pending (cs ++ ds) = scan pending cs ++ scan [] ds := by
  fun_induction scan pending cs with
  | case1 pending => exact scan_of_endsWord ends pending
  | case2 pending cs ih => rw [← ih, List.cons_append, List.cons_append, scan]
  | case3 pending c cs not_pair letter ih =>
    rw [← ih, List.cons_append, scan, if_pos letter]
    rintro _ rfl
    simp [isNameChar_colon] at letter
  | case4 pending c cs not_pair letter ih =>
    rw [List.cons_append, scan, if_neg letter, ih]
    · simp only [List.append_assoc]
    · rintro ds' rfl same
      cases cs with
      | nil =>
        rw [List.nil_append] at same
        exact (ends ':' (by rw [same]; rfl)).2 rfl
      | cons c cs =>
        obtain ⟨rfl, -⟩ := List.cons.inj same
        exact not_pair cs rfl rfl

/-- A single colon stays one, whatever without colons comes behind. -/
theorem colon_mem_scan_append {cs ds : List Char} (no_colon : ':' ∉ ds) {pending : List Char}
    (mem : .mark ':' ∈ scan pending cs) : .mark ':' ∈ scan pending (cs ++ ds) := by
  have not_flushed (pending : List Char) : .mark ':' ∉ flush pending := by
    cases pending <;> simp [flush]
  fun_induction scan pending cs with
  | case1 pending => exact absurd mem (not_flushed pending)
  | case2 pending cs ih =>
    rw [List.cons_append, List.cons_append, scan]
    exact ih mem
  | case3 pending c cs not_pair letter ih =>
    rw [List.cons_append, scan, if_pos letter]
    · exact ih mem
    · rintro _ rfl
      simp [isNameChar_colon] at letter
  | case4 pending c cs not_pair letter ih =>
    rw [List.cons_append, scan, if_neg letter]
    · rw [List.mem_append] at mem ⊢
      exact mem.imp_right ih
    · rintro ds' rfl same
      cases cs with
      | nil =>
        obtain rfl : ds = ':' :: ds' := same
        exact no_colon List.mem_cons_self
      | cons c cs =>
        obtain ⟨rfl, -⟩ := List.cons.inj same
        exact not_pair cs rfl rfl

theorem PairedColons.pointee {text : String} (paired : PairedColons text) :
    PairedColons (pointee text) := by
  intro mem
  obtain ⟨cut, marks, split⟩ :=
    exists_eq_dropEndWhile_append (fun c => c = '*' || isBlank c) text.toList
  have no_colon : ':' ∉ cut := fun mem => absurd (marks _ mem) (by decide)
  refine paired ?_
  rw [Spelling.pointee, tokenize, String.toList_ofList] at mem
  rw [tokenize, split]
  exact colon_mem_scan_append no_colon mem

/-! ### Arguments -/

/-- Tokens of an argument that leave brackets open to this depth, after each of them no
closing bracket or comma of the instantiation itself. -/
inductive Opened : Nat → List Token → Prop where
  | nil : Opened 0 []
  | snoc {depth : Nat} {ts : List Token} {t : Token} :
      Opened depth ts → (depth = 0 → t ≠ .mark ',' ∧ t ≠ .mark '>') →
      Opened (depthAfter depth t) (ts ++ [t])

/-- Arguments of which all but the last close the brackets that they open. -/
inductive Separable : List (List Token) → Prop where
  | single {depth : Nat} {arg : List Token} : Opened depth arg → Separable [arg]
  | cons {arg : List Token} {args : List (List Token)} :
      Opened 0 arg → Separable args → Separable (arg :: args)

theorem separable_splitArgs {depth : Nat} {current ts : List Token} {args : List (List Token)}
    (opened : Opened depth current) (split : splitArgs depth current ts = some args) :
    args = [] ∨ Separable args := by
  fun_induction splitArgs depth current ts generalizing args with
  | case1 depth current =>
    obtain rfl := Option.some.inj split
    split
    · exact .inl rfl
    · exact .inr (.single opened)
  | case2 depth current t ts comma ih =>
    obtain ⟨rest, split_rest, rfl⟩ := Option.map_eq_some_iff.mp split
    obtain ⟨-, rfl⟩ : t = .mark ',' ∧ depth = 0 := by simpa using comma
    obtain rfl | separable := ih .nil split_rest
    · exact .inr (.single opened)
    · exact .inr (.cons opened separable)
  | case3 => cases split
  | case4 depth current t ts no_comma no_bracket ih =>
    refine ih (opened.snoc fun outside => ?_) split
    rw [outside] at no_comma no_bracket
    exact ⟨by simpa using no_comma, by simpa using no_bracket⟩

theorem Separable.take {args : List (List Token)} (separable : Separable args) (n : Nat) :
    Separable (args.take (n + 1)) := by
  induction separable generalizing n with
  | single opened => simpa using .single opened
  | cons opened _ ih =>
    cases n with
    | zero => simpa using .single opened
    | succ n => exact .cons opened (ih n)

/-- Splitting goes on after tokens of an argument. -/
theorem Opened.splitArgs_append {depth : Nat} {ts : List Token} (opened : Opened depth ts)
    (rest : List Token) : splitArgs 0 [] (ts ++ rest) = splitArgs depth ts rest := by
  induction opened generalizing rest with
  | nil => rfl
  | @snoc depth ts t _ inside ih =>
    rw [List.append_assoc, ih, List.singleton_append, splitArgs, if_neg, if_neg]
    · simpa using fun bracket outside => (inside outside).2 bracket
    · simpa using fun comma outside => (inside outside).1 comma

/-- All tokens of an argument stand in brackets. -/
theorem Opened.dropQualifiers_append {depth : Nat} {ts : List Token} (opened : Opened depth ts)
    (rest : List Token) :
    dropQualifiers 1 (ts ++ rest) = ts ++ dropQualifiers (depth + 1) rest := by
  induction opened generalizing rest with
  | nil => rfl
  | @snoc depth ts t _ inside ih =>
    have within : depthAfter (depth + 1) t = depthAfter depth t + 1 := by
      unfold depthAfter
      split
      next => rfl
      next =>
        have : depth ≠ 0 := fun outside => (inside outside).2 rfl
        omega
      next => rfl
    rw [List.append_assoc, ih, List.singleton_append, dropQualifiers, within]
    simp

/-- An argument that closes its brackets ends in no comma and no opening bracket. -/
theorem Opened.getLast {ts : List Token} (opened : Opened 0 ts) :
    ∀ t ∈ ts.getLast?, t ≠ .mark '<' ∧ t ≠ .mark ',' := by
  generalize closed : 0 = depth at opened
  cases opened with
  | nil => nofun
  | @snoc depth ts t _ inside =>
    intro u last
    rw [List.getLast?_append, List.getLast?_singleton] at last
    obtain rfl : t = u := by simpa using last
    constructor
    · rintro rfl
      simp [depthAfter] at closed
    · rintro rfl
      exact (inside closed.symm).1 rfl

/-! ### Names of containers -/

/-- The tokens of arguments with commas between them. -/
def joined : List (List Token) → List Token
  | [] => []
  | [arg] => arg
  | arg :: args => arg ++ .mark ',' :: joined args

/-- The tokens of a container with these arguments. -/
def containerTokens (shape : ContainerShape) (args : List (List Token)) : List Token :=
  .word shape.stdName.toList :: .mark '<' :: (joined args ++ [.mark '>'])

theorem joined_cons {arg : List Token} {args : List (List Token)} (more : args ≠ []) :
    joined (arg :: args) = arg ++ .mark ',' :: joined args := by
  cases args with
  | nil => exact absurd rfl more
  | cons => rfl

theorem join_render_cons {arg : List Token} {args : List (List Token)} (more : args ≠ []) :
    (join ", " ((arg :: args).map render)).toList =
      renderChars arg ++ ',' :: ' ' :: (join ", " (args.map render)).toList := by
  cases args with
  | nil => exact absurd rfl more
  | cons => simp [join, render]

theorem mem_joined {args : List (List Token)} {t : Token} (mem : t ∈ joined args) :
    t = .mark ',' ∨ ∃ arg ∈ args, t ∈ arg := by
  fun_induction joined args with
  | case1 => cases mem
  | case2 arg => exact .inr ⟨arg, List.mem_singleton.mpr rfl, mem⟩
  | case3 arg args _ ih =>
    rw [List.mem_append, List.mem_cons] at mem
    obtain mem | rfl | mem := mem
    · exact .inr ⟨arg, List.mem_cons_self, mem⟩
    · exact .inl rfl
    · exact (ih mem).imp_right fun ⟨arg, mem_args, mem⟩ =>
        ⟨arg, List.mem_cons_of_mem _ mem_args, mem⟩

/-- The joined text of arguments has their tokens. -/
theorem scan_joined {args : List (List Token)} (readable : ∀ arg ∈ args, Readable arg)
    {ds : List Char} (ends : EndsWord ds) :
    scan [] ((join ", " (args.map render)).toList ++ ds) = joined args ++ scan [] ds := by
  have scan_arg (arg : List Token) (readable : Readable arg) {ds : List Char}
      (ends : EndsWord ds) : scan [] (renderChars arg ++ ds) = arg ++ scan [] ds := by
    rw [scan_append _ _ ends, ← String.toList_ofList (l := renderChars arg), ← render, ← tokenize,
      tokenize_render readable]
  induction args with
  | nil => rfl
  | cons arg args ih =>
    obtain ⟨first, rest⟩ := List.forall_mem_cons.mp readable
    obtain rfl | more := eq_or_ne args []
    · simpa [join, joined, render] using scan_arg arg first ends
    · have comma : EndsWord (',' :: ' ' :: ((join ", " (args.map render)).toList ++ ds)) := by
        rintro c ⟨rfl⟩
        exact ⟨by decide +kernel, by decide⟩
      rw [join_render_cons more, List.append_assoc, List.cons_append, List.cons_append,
        scan_arg arg first comma, scan_mark ⟨by decide +kernel, by decide⟩ (by decide),
        scan_space, ih rest, joined_cons more, List.append_assoc, List.cons_append]

/-- The text behind tokens follows the last of them. -/
theorem renderAfter_append (left : Token) (ts us : List Token) :
    renderAfter left (ts ++ us) = renderAfter left ts ++ renderAfter (ts.getLastD left) us := by
  induction ts generalizing left with
  | nil => rfl
  | cons t ts ih =>
    rw [List.cons_append, renderAfter, ih, renderAfter, List.getLastD_cons]
    simp only [List.append_assoc]

theorem Separable.ne_nil {args : List (List Token)} (separable : Separable args) : args ≠ [] := by
  cases separable <;> exact List.cons_ne_nil _ _

theorem Separable.of_cons {arg : List Token} {args : List (List Token)}
    (separable : Separable (arg :: args)) (more : args ≠ []) : Opened 0 arg ∧ Separable args := by
  cases separable with
  | single => exact absurd rfl more
  | cons opened separable => exact ⟨opened, separable⟩

theorem spaced_of_opens {left t : Token} (opens : left = .mark '<' ∨ left = .mark ',') :
    spaced left t := by
  obtain rfl | rfl := opens <;> simp [spaced]

/-- The first token behind an opening bracket or a comma stands behind a space. -/
theorem renderAfter_opens {left : Token} (opens : left = .mark '<' ∨ left = .mark ',')
    (t : Token) (ts us : List Token) : renderAfter left (t :: ts ++ us) =
      ' ' :: (renderChars (t :: ts) ++ renderAfter (ts.getLastD t) us) := by
  rw [List.cons_append, renderAfter, if_pos (spaced_of_opens opens), renderAfter_append,
    renderChars]
  simp

theorem renderAfter_bracket (left : Token) : renderAfter left [.mark '>'] = [' ', '>'] := by
  simp [renderAfter, spaced, Token.text]

theorem renderAfter_comma {left : Token} (ne : left ≠ .mark '<' ∧ left ≠ .mark ',')
    (ts : List Token) : renderAfter left (.mark ',' :: ts) = ',' :: renderAfter (.mark ',') ts := by
  have close : spaced left (.mark ',') = false := by
    cases left <;> simp_all [spaced, Token.isIndirection]
  rw [renderAfter, close]
  rfl

/-- The canonical text of joined arguments is the joined text of them. -/
theorem renderAfter_joined {args : List (List Token)} (separable : Separable args)
    (last : args.getLast? ≠ some []) {left : Token}
    (opens : left = .mark '<' ∨ left = .mark ',') :
    renderAfter left (joined args ++ [Token.mark '>']) =
      ' ' :: ((join ", " (args.map render)).toList ++ [' ', '>']) := by
  induction separable generalizing left with
  | @single _ arg opened =>
    cases arg with
    | nil => exact absurd rfl last
    | cons t ts =>
      rw [joined, renderAfter_opens opens, renderAfter_bracket]
      simp [join, render]
  | @cons arg args opened separable ih =>
    have more := separable.ne_nil
    have last : args.getLast? ≠ some [] := by
      rwa [List.getLast?_cons_of_ne_nil more] at last
    have rest := ih last (.inr rfl)
    rw [joined_cons more, join_render_cons more, List.append_assoc, List.cons_append]
    cases arg with
    | nil =>
      rw [List.nil_append, renderAfter, if_pos (spaced_of_opens opens), rest]
      simp [renderChars, Token.text]
    | cons t ts =>
      have ends : (ts.getLastD t) ≠ .mark '<' ∧ (ts.getLastD t) ≠ .mark ',' := by
        refine opened.getLast _ ?_
        rw [List.getLast?_cons, List.getLastD_eq_getLast?, Option.mem_some_iff]
      rw [renderAfter_opens opens, renderAfter_comma ends, rest]
      simp

theorem tokenize_stdName (shape : ContainerShape) :
    tokenize shape.stdName = [.word shape.stdName.toList] := by
  cases shape <;> decide +kernel

theorem toList_containerName (shape : ContainerShape) {args : List (List Token)}
    (readable : ∀ arg ∈ args, Readable arg) :
    (containerName shape (args.map render)).toList =
      shape.stdName.toList ++
        '<' :: ' ' :: ((join ", " (args.map render)).toList ++ [' ', '>']) := by
  have canonical : (args.map render).map normalize = args.map render := by
    rw [List.map_map]
    exact List.map_congr_left fun arg mem => (readable arg mem).normalize_render
  rw [containerName, canonical]
  simp

theorem tokenize_containerName (shape : ContainerShape) {args : List (List Token)}
    (readable : ∀ arg ∈ args, Readable arg) :
    tokenize (containerName shape (args.map render)) = containerTokens shape args := by
  have bracket : EndsWord
      ('<' :: ' ' :: ((join ", " (args.map render)).toList ++ [' ', '>'])) := by
    rintro c ⟨rfl⟩
    exact ⟨by decide +kernel, by decide⟩
  have space : EndsWord [' ', '>'] := by
    rintro c ⟨rfl⟩
    exact ⟨isNameChar_space, by decide⟩
  rw [tokenize, toList_containerName shape readable, scan_append _ _ bracket, ← tokenize,
    tokenize_stdName, scan_mark ⟨by decide +kernel, by decide⟩ (by decide), scan_space,
    scan_joined readable space, scan_space, scan_mark ⟨by decide +kernel, by decide⟩ (by decide)]
  rfl

/-- The name of a container is canonical, unless its last argument is empty. -/
theorem normalize_containerName (shape : ContainerShape) {args : List (List Token)}
    (readable : ∀ arg ∈ args, Readable arg) (separable : Separable args)
    (last : args.getLast? ≠ some []) :
    normalize (containerName shape (args.map render)) = containerName shape (args.map render) := by
  have head : spaced (.word shape.stdName.toList) (.mark '<') = false := rfl
  rw [normalize, tokenize_containerName shape readable, containerTokens, render, renderChars,
    renderAfter, head, renderAfter_joined separable last (.inl rfl),
    ← String.ofList_toList (s := containerName _ _),
    toList_containerName shape readable]
  rfl

/-- An empty last argument is left out when the name is read again. -/
theorem splitArgs_joined {args : List (List Token)} (separable : Separable (args ++ [[]])) :
    splitArgs 0 [] (joined (args ++ [[]])) = some args := by
  induction args with
  | nil => rfl
  | cons arg args ih =>
    rw [List.cons_append] at separable ⊢
    have more : args ++ [[]] ≠ [] := List.append_ne_nil_of_right_ne_nil _ (List.cons_ne_nil _ _)
    obtain ⟨opened, separable⟩ := separable.of_cons more
    rw [joined_cons more, opened.splitArgs_append, splitArgs, ih separable]
    simp

theorem dropQualifiers_joined {args : List (List Token)} (separable : Separable args)
    (rest : List Token) : ∃ depth, dropQualifiers 1 (joined args ++ rest) =
      joined args ++ dropQualifiers (depth + 1) rest := by
  induction separable with
  | @single depth arg opened => exact ⟨depth, opened.dropQualifiers_append rest⟩
  | @cons arg args opened separable ih =>
    obtain ⟨depth, same⟩ := ih
    refine ⟨depth, ?_⟩
    rw [joined_cons separable.ne_nil, List.append_assoc, opened.dropQualifiers_append,
      List.cons_append, dropQualifiers]
    simp [depthAfter, same]

theorem colon_notMem_containerTokens {shape : ContainerShape} {args : List (List Token)}
    (readable : ∀ arg ∈ args, Readable arg) : .mark ':' ∉ containerTokens shape args := by
  rw [containerTokens]
  intro mem
  obtain mem | mem : Token.mark ':' ∈ joined args ∨ Token.mark ':' ∈ [Token.mark '>'] := by
    simpa using mem
  · obtain comma | ⟨arg, mem_args, mem⟩ := mem_joined mem
    · cases comma
    · exact (readable arg mem_args _ mem).2 rfl
  · simp at mem

theorem splitTokens_containerTokens (shape : ContainerShape) (args : List (List Token)) :
    splitTokens (containerTokens shape args) =
      (splitArgs 0 [] (joined args)).map fun args => (shape.stdName.toList, args) := by
  simp [containerTokens, splitTokens]

/-- A name is split into the arguments that it was made of. -/
theorem splitTemplate_containerName {shape : ContainerShape} {args : List (List Token)}
    (readable : ∀ arg ∈ args, Readable arg) (separable : Separable args) :
    splitTemplate (valueType (containerName shape (args.map render))) =
      (splitArgs 0 [] (joined args)).map fun args => ⟨shape.stdName, args.map render⟩ := by
  have tokens := tokenize_containerName shape readable
  have paired : PairedColons (containerName shape (args.map render)) := by
    rw [PairedColons, tokens]
    exact colon_notMem_containerTokens readable
  have value : dropQualifiers 0 (containerTokens shape args) = containerTokens shape args := by
    obtain ⟨depth, same⟩ := dropQualifiers_joined separable [.mark '>']
    have name : isQualifier (.word shape.stdName.toList) = false := by
      cases shape <;> decide +kernel
    have bracket : isQualifier (.mark '>') = false := by decide +kernel
    simp [containerTokens, dropQualifiers, depthAfter, name, same, bracket]
  rw [splitTemplate, paired.tokenize_valueType, tokens, value, splitTokens_containerTokens]
  simp [Function.comp_def]

theorem ofStdName?_stdName (shape : ContainerShape) :
    ContainerShape.ofStdName? (String.ofList (dropGlobal shape.stdName.toList)) = some shape := by
  cases shape <;> decide +kernel

/-- A name with an empty last argument is none of a container. -/
theorem stdContainer?_containerName {shape : ContainerShape} {args : List (List Token)}
    (readable : ∀ arg ∈ args, Readable arg) (separable : Separable args)
    (count : args.length = shape.arity) (last : args.getLast? = some []) :
    stdContainer? (containerName shape (args.map render)) = none := by
  obtain ⟨before, rfl⟩ := List.getLast?_eq_some_iff.mp last
  have fewer : (before.map render).length < shape.arity := by
    simp [← count]
  rw [stdContainer?, splitTemplate_containerName readable separable, splitArgs_joined separable,
    Option.map_some, Option.bind_some, Instantiation.container?, ofStdName?_stdName]
  exact if_pos fewer

/-! ### What a type mentions -/

/-- What holds of a value and passes on to parts holds of all values inside it. -/
theorem forall_mem_withParts {α : Type} {size : α → Nat} {parts : α → List α}
    {smaller : ∀ a, ∀ b ∈ parts a, size b < size a} {p : α → Prop}
    (passes : ∀ a, p a → ∀ b ∈ parts a, p b) {a : α} (holds : p a) :
    ∀ b ∈ withParts size parts smaller a, p b := by
  induction a using withParts.induct size parts smaller with
  | case1 a ih =>
    intro b mem
    rw [withParts, List.mem_cons, List.mem_flatMap] at mem
    obtain rfl | ⟨⟨part, mem_parts⟩, -, mem⟩ := mem
    · exact holds
    · exact ih part mem_parts (passes a holds part mem_parts) b mem

/-- Arguments that are split from tokens can be read back and split again. -/
theorem Readable.of_splitTokens {ts : List Token} {head : List Char} {args : List (List Token)}
    (readable : Readable ts) (split : splitTokens ts = some (head, args)) :
    (∀ arg ∈ args, Readable arg) ∧ (args = [] ∨ Separable args) := by
  unfold splitTokens at split
  split at split
  next name body =>
    split at split
    case isFalse => cases split
    obtain ⟨args, split, same⟩ := Option.map_eq_some_iff.mp split
    cases same
    refine ⟨fun arg mem => ?_, separable_splitArgs .nil split⟩
    refine readable.sublist ((sublist_of_mem_splitArgs split mem).trans ?_)
    exact (List.dropLast_sublist body).trans
      ((List.sublist_cons_self _ body).trans (List.sublist_cons_self _ _))
  next => cases split

/-- The arguments of an instantiation as its tokens. -/
theorem exists_of_splitTemplate {text : String} {inst : Instantiation}
    (paired : PairedColons text) (split : splitTemplate text = some inst) :
    ∃ args, inst.args = args.map render ∧ (∀ arg ∈ args, Readable arg) ∧
      (args = [] ∨ Separable args) := by
  obtain ⟨⟨head, args⟩, tokens, rfl⟩ := Option.map_eq_some_iff.mp split
  exact ⟨args, rfl, paired.readable.of_splitTokens tokens⟩

theorem PairedColons.args {text : String} {inst : Instantiation} (paired : PairedColons text)
    (split : splitTemplate text = some inst) : ∀ arg ∈ inst.args, PairedColons arg := by
  obtain ⟨args, same, readable, -⟩ := exists_of_splitTemplate paired split
  rw [same, List.forall_mem_map]
  exact fun arg mem => (readable arg mem).paired

theorem PairedColons.valueArgs {text : String} (paired : PairedColons text) :
    ∀ arg ∈ valueArgs text, PairedColons arg := by
  unfold Spelling.valueArgs
  cases split : splitTemplate (Spelling.valueType text) with
  | none => nofun
  | some inst => exact paired.valueType.args split

theorem PairedColons.pointeeArgs {text : String} (paired : PairedColons text) :
    ∀ arg ∈ pointeeArgs text, PairedColons arg := by
  unfold Spelling.pointeeArgs
  cases split : splitTemplate (Spelling.pointee (Spelling.valueType text)) with
  | none => nofun
  | some inst => exact paired.valueType.pointee.args split

theorem exists_of_container? {inst : Instantiation} {c : ContainerType}
    (found : inst.container? = some c) : ∃ shape : ContainerShape, shape.arity ≤ inst.args.length ∧
      c = ⟨shape, inst.args.take shape.arity⟩ := by
  unfold Instantiation.container? at found
  split at found
  next shape _ =>
    split at found
    next => cases found
    next enough => exact ⟨shape, Nat.le_of_not_lt enough, (Option.some.inj found).symm⟩
  next => cases found

theorem separable_take_arity {shape : ContainerShape} {args : List (List Token)}
    (enough : shape.arity ≤ args.length) (separable : args = [] ∨ Separable args) :
    Separable (args.take shape.arity) := by
  obtain ⟨n, arity⟩ : ∃ n, shape.arity = n + 1 := by cases shape <;> exact ⟨_, rfl⟩
  obtain rfl | separable := separable
  · simp [arity] at enough
  · exact arity ▸ separable.take n

/-- The instantiations that a type mentions have canonical names. -/
theorem normalize_of_mem_templateIds {type s : String} (paired : PairedColons type)
    (mem : s ∈ collectTemplateIds type []) : normalize s = s := by
  rw [collectTemplateIds, mem_foldl_insertNew, or_iff_right List.not_mem_nil, templateIdsWithin,
    List.mem_filterMap] at mem
  obtain ⟨part, inside, named⟩ := mem
  have paired := forall_mem_withParts (p := PairedColons) (fun _ => PairedColons.pointeeArgs)
    paired part inside
  obtain ⟨inst, -, rfl⟩ := Option.map_eq_some_iff.mp named
  rw [normalize, tokenize_normalize paired.valueType.pointee, normalize]

/-- The containers that a type mentions have canonical names. -/
theorem normalize_of_mem_containers {type s : String} {container : ContainerType}
    (paired : PairedColons type) (mem : s ∈ collectContainers type [])
    (found : stdContainer? s = some container) : normalize s = s := by
  rw [collectContainers, mem_foldl_insertNew, or_iff_right List.not_mem_nil, containersWithin,
    List.mem_filterMap] at mem
  obtain ⟨part, inside, named⟩ := mem
  have paired := forall_mem_withParts (p := PairedColons) (fun _ => PairedColons.valueArgs)
    paired part inside
  obtain ⟨-, -, named⟩ := Option.bind_eq_some_iff.mp named
  obtain ⟨c, is_container, rfl⟩ := Option.map_eq_some_iff.mp named
  obtain ⟨inst, split, is_container⟩ := Option.bind_eq_some_iff.mp is_container
  obtain ⟨args, same, readable, separable⟩ :=
    exists_of_splitTemplate paired.valueType.valueType split
  obtain ⟨shape, enough, rfl⟩ := exists_of_container? is_container
  rw [same] at enough found ⊢
  rw [List.length_map] at enough
  rw [← List.map_take] at found ⊢
  have readable : ∀ arg ∈ args.take shape.arity, Readable arg :=
    fun arg mem => readable arg (List.mem_of_mem_take mem)
  have separable := separable_take_arity enough separable
  refine normalize_containerName shape readable separable fun last => ?_
  rw [stdContainer?_containerName readable separable (List.length_take_of_le enough) last] at found
  cases found

end Reflectory.Spelling
