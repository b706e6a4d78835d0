/-
Names of containers are read back.

A name is written from the canonical spellings of its arguments and read by counting
brackets. An argument that closes the brackets it opens, and has its commas between them,
cannot be cut in a wrong place; and behind it no bracket is open, so the name ends where it
did when it was written, and qualifiers around it are seen to stand outside.

* `IsArgument`: the texts that can be arguments.
* `containers_read_back`: container and arguments are read back from the name, whatever
  qualifiers stand around it and whatever arguments follow those that matter.
-/

import Reflectory.Proofs.Spelling.ValueTypes

namespace Reflectory.Spelling

/-! ### Arguments -/

/-- A text that can be an argument by itself: it has tokens, its colons stand in pairs, no
bracket closes and no comma stands where none of its brackets is open, and none is open at
its end. -/
structure IsArgument (text : String) : Prop where
  nonempty : tokenize text ≠ []
  paired : PairedColons text
  enclosed : ∀ before t after, tokenize text = before ++ t :: after →
    t = .mark '>' ∨ t = .mark ',' → IsEnclosed before
  closed : ¬ IsEnclosed (tokenize text)

instance (text : String) : Decidable (IsArgument text) :=
  decidable_of_iff (tokenize text ≠ [] ∧ PairedColons text ∧
      (∀ place ∈ (tokenize text).inits.zip (tokenize text),
        place.2 = .mark '>' ∨ place.2 = .mark ',' → IsEnclosed place.1) ∧
      ¬ IsEnclosed (tokenize text)) <| by
    rw [← forall_splits_iff (p := fun before t =>
      t = .mark '>' ∨ t = .mark ',' → IsEnclosed before)]
    exact ⟨fun ⟨nonempty, paired, enclosed, closed⟩ => ⟨nonempty, paired, enclosed, closed⟩,
      fun ⟨nonempty, paired, enclosed, closed⟩ => ⟨nonempty, paired, enclosed, closed⟩⟩

/-- Where brackets and commas stand inside brackets, the tokens can be those of an argument
that has begun. -/
theorem opened_of_enclosed {ts : List Token}
    (enclosed : ∀ before t after, ts = before ++ t :: after →
      t = .mark '>' ∨ t = .mark ',' → IsEnclosed before) : Opened (depthOf ts) ts := by
  induction ts using List.reverseRecOn with
  | nil => exact .nil
  | append_singleton ts t ih =>
    have opened := ih fun before u after split => enclosed before u (after ++ [t]) (by simp [split])
    rw [depthOf_concat]
    refine opened.snoc fun outside => ?_
    have free : ¬ IsEnclosed ts := by simp [isEnclosed_iff, outside]
    exact ⟨fun comma => free (enclosed ts t [] rfl (.inr comma)),
      fun bracket => free (enclosed ts t [] rfl (.inl bracket))⟩

theorem IsArgument.opened {text : String} (argument : IsArgument text) :
    Opened 0 (tokenize text) := by
  have closed : depthOf (tokenize text) = 0 := by
    simpa [isEnclosed_iff] using argument.closed
  exact closed ▸ opened_of_enclosed argument.enclosed

section

variable {args : List (List Token)}

theorem separable_of_closed (more : args ≠ []) (closed : ∀ arg ∈ args, Opened 0 arg) :
    Separable args := by
  induction args with
  | nil => exact absurd rfl more
  | cons arg args ih =>
    obtain ⟨first, others⟩ := List.forall_mem_cons.mp closed
    obtain rfl | more := eq_or_ne args []
    · exact .single first
    · exact .cons first (ih more others)

/-- Behind closed arguments the bracket of the instantiation is the only open one. -/
theorem dropQualifiers_joined_of_closed (closed : ∀ arg ∈ args, Opened 0 arg) (rest : List Token) :
    dropQualifiers 1 (joined args ++ rest) = joined args ++ dropQualifiers 1 rest := by
  induction args with
  | nil => rfl
  | cons arg args ih =>
    obtain ⟨first, others⟩ := List.forall_mem_cons.mp closed
    obtain rfl | more := eq_or_ne args []
    · exact first.dropQualifiers_append rest
    · rw [joined_cons more, List.append_assoc, first.dropQualifiers_append, List.cons_append,
        dropQualifiers_cons (t := .mark ',') rfl]
      simp [depthAfter, ih others]

/-! ### Qualifiers around a name -/

theorem dropQualifiers_append_of_qualifiers {before : List Token}
    (qualifiers : ∀ t ∈ before, isQualifier t) (ts : List Token) :
    dropQualifiers 0 (before ++ ts) = dropQualifiers 0 ts := by
  induction before with
  | nil => rfl
  | cons t before ih =>
    obtain ⟨first, others⟩ := List.forall_mem_cons.mp qualifiers
    simp [dropQualifiers, depthAfter_of_isQualifier first, first, ih others]

/-- Qualifiers around the name of a container are left out of its value spelling. -/
theorem dropQualifiers_containerTokens (shape : ContainerShape)
    (closed : ∀ arg ∈ args, Opened 0 arg) {before behind : List Token}
    (qualifiers : ∀ t ∈ before ++ behind, isQualifier t) :
    dropQualifiers 0 (before ++ containerTokens shape args ++ behind) =
      containerTokens shape args := by
  obtain ⟨left, right⟩ := List.forall_mem_append.mp qualifiers
  have name : isQualifier (.word shape.stdName.toList) = false := by
    cases shape <;> decide +kernel
  have nothing : dropQualifiers 0 behind = [] := by
    simpa [dropQualifiers] using dropQualifiers_append_of_qualifiers right []
  rw [List.append_assoc, dropQualifiers_append_of_qualifiers left, containerTokens,
    List.cons_append, List.cons_append, List.append_assoc, dropQualifiers_cons name,
    dropQualifiers_cons (t := .mark '<') rfl]
  simp only [depthAfter, dropQualifiers_joined_of_closed closed, List.singleton_append,
    dropQualifiers_cons (t := .mark '>') rfl, nothing]

/-- A container is read off its tokens with qualifiers around them. -/
theorem stdContainer?_of_tokens {shape : ContainerShape} {more : List (List Token)}
    (readable : ∀ arg ∈ args ++ more, Readable arg) (closed : ∀ arg ∈ args ++ more, Opened 0 arg)
    (nonempty : ∀ arg ∈ args ++ more, arg ≠ []) (count : args.length = shape.arity)
    {text : String} {before behind : List Token}
    (qualifiers : ∀ t ∈ before ++ behind, isQualifier t)
    (tokens : tokenize text = before ++ containerTokens shape (args ++ more) ++ behind) :
    stdContainer? text = some ⟨shape, args.map render⟩ := by
  have some_args : args ++ more ≠ [] := by
    rintro none
    have : shape.arity = 0 := by rw [← count, (List.append_eq_nil_iff.mp none).1, List.length_nil]
    cases shape <;> cases this
  have separable : Separable (args ++ more) := separable_of_closed some_args closed
  have last : (args ++ more).getLast? ≠ some [] := fun empty =>
    nonempty [] (List.mem_of_getLast? empty) rfl
  have paired : PairedColons text := by
    rw [PairedColons, tokens, List.mem_append, List.mem_append, or_right_comm, ← List.mem_append]
    rintro (mem | mem)
    · exact absurd (qualifiers _ mem) (by decide)
    · exact colon_notMem_containerTokens readable mem
  have split : splitTemplate (valueType text) =
      some ⟨shape.stdName, (args ++ more).map render⟩ := by
    rw [splitTemplate, paired.tokenize_valueType, tokens,
      dropQualifiers_containerTokens shape closed qualifiers, splitTokens_containerTokens,
      splitArgs_joined_of_nonempty separable last]
    simp
  rw [stdContainer?, split]
  refine container?_eq_some_iff.mpr ⟨?_, ?_, ?_⟩
  · exact ofStdName?_eq_some_iff.mp (ofStdName?_stdName shape)
  · simp [count]
  · simp [← count]

end

/-! ### Names -/

/-- What can stand around the name of a type. -/
def surroundings : List Token :=
  [.word "const".toList, .word "volatile".toList, .mark '&']

/-- A space ends a text that is read by itself. -/
theorem tokenize_spaced (s t : String) : tokenize (s ++ " " ++ t) = tokenize s ++ tokenize t := by
  have ends : EndsWord (' ' :: t.toList) := by
    rintro c ⟨rfl⟩
    exact ⟨isNameChar_space, by decide⟩
  have characters : (s ++ " " ++ t).toList = s.toList ++ ' ' :: t.toList := by simp
  rw [tokenize, characters, scan_append [] _ ends, scan_space]
  rfl

section

variable {shape : ContainerShape} {args more : List String}

/-- A name has the tokens of its arguments. -/
theorem tokenize_containerName_of_arguments (shape : ContainerShape)
    (arguments : ∀ arg ∈ args, IsArgument arg) :
    tokenize (containerName shape args) = containerTokens shape (args.map tokenize) := by
  have readable : ∀ arg ∈ args.map tokenize, Readable arg :=
    List.forall_mem_map.mpr fun arg mem => (arguments arg mem).paired.readable
  have spelled :
      containerName shape args = containerName shape ((args.map tokenize).map render) := by
    have canonical : ((args.map tokenize).map render).map normalize = args.map normalize := by
      simp only [List.map_map]
      refine List.map_congr_left fun arg mem => ?_
      simp only [Function.comp_apply]
      rw [(arguments arg mem).paired.readable.normalize_render, normalize]
    rw [containerName, containerName, canonical]
  rw [spelled, tokenize_containerName shape readable]

/-- A container is read back from its name, whatever stands around it. -/
theorem stdContainer?_of_surrounded (count : args.length = shape.arity)
    (arguments : ∀ arg ∈ args ++ more, IsArgument arg) {text : String} {before behind : List Token}
    (around : ∀ t ∈ before ++ behind, t ∈ surroundings)
    (tokens : tokenize text = before ++ tokenize (containerName shape (args ++ more)) ++ behind) :
    stdContainer? text = some ⟨shape, args.map normalize⟩ := by
  rw [tokenize_containerName_of_arguments shape arguments, List.map_append] at tokens
  have arguments : ∀ arg ∈ args.map tokenize ++ more.map tokenize,
      Readable arg ∧ Opened 0 arg ∧ arg ≠ [] := by
    rw [← List.map_append, List.forall_mem_map]
    intro arg mem
    have argument := arguments arg mem
    exact ⟨argument.paired.readable, argument.opened, argument.nonempty⟩
  have qualifiers : ∀ t ∈ surroundings, isQualifier t := by decide
  have read := stdContainer?_of_tokens (fun arg mem => (arguments arg mem).1)
    (fun arg mem => (arguments arg mem).2.1) (fun arg mem => (arguments arg mem).2.2)
    (by rw [List.length_map, count]) (fun t mem => qualifiers t (around t mem)) tokens
  rw [read, List.map_map]
  rfl

/-- **Names of containers are read back.** Arguments of the right number, each of which is
one by itself, come back from the name in their canonical spelling. So they do with
`const`, `volatile` and references around the name, and with further arguments of this form
behind those that matter. -/
theorem containers_read_back (count : args.length = shape.arity)
    (arguments : ∀ arg ∈ args ++ more, IsArgument arg) :
    stdContainer? (containerName shape args) = some ⟨shape, args.map normalize⟩ ∧
    (∀ before behind : String, (∀ t ∈ tokenize before ++ tokenize behind, t ∈ surroundings) →
      stdContainer? (before ++ " " ++ containerName shape (args ++ more) ++ " " ++ behind) =
        some ⟨shape, args.map normalize⟩) ∧
    ∀ text before behind, (∀ t ∈ before ++ behind, t ∈ surroundings) →
      tokenize text = before ++ tokenize (containerName shape (args ++ more)) ++ behind →
        stdContainer? text = some ⟨shape, args.map normalize⟩ := by
  refine ⟨?_, fun before behind around => ?_, fun text before behind around tokens => ?_⟩
  · have those : ∀ arg ∈ args ++ [], IsArgument arg := fun arg mem =>
      arguments arg (List.mem_append_left _ (by simpa using mem))
    have alone : tokenize (containerName shape args) =
        [] ++ tokenize (containerName shape (args ++ [])) ++ [] := by simp
    exact stdContainer?_of_surrounded count those (by simp) alone
  · exact stdContainer?_of_surrounded count arguments around (by simp only [tokenize_spaced])
  · exact stdContainer?_of_surrounded count arguments around tokens

end

/-- A map with a comparator, whose second argument is itself an instantiation with
qualifiers inside, comes back from behind a reference. -/
theorem containers_read_back_nested :
    stdContainer? ("const" ++ " " ++ containerName .map ["std::string",
      "std::pair<const Node*,int(*)(int)>", "std::less<>"] ++ " " ++ "volatile&") =
        some ⟨.map, ["std::string", "std::pair< const Node *, int( *)(int) >"]⟩ := by
  have arguments : ∀ arg ∈ ["std::string", "std::pair<const Node*,int(*)(int)>"] ++ ["std::less<>"],
      IsArgument arg := by decide +kernel
  have count : ["std::string", "std::pair<const Node*,int(*)(int)>"].length =
      ContainerShape.map.arity := rfl
  have read := (containers_read_back count arguments).2.1 "const" "volatile&" (by decide +kernel)
  rw [List.cons_append, List.cons_append, List.nil_append] at read
  rw [read]
  decide +kernel

end Reflectory.Spelling
