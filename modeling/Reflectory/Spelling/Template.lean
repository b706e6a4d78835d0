/-
Template instantiations.

`splitTemplate` takes `head< a, b >` apart into its head and its arguments,
which it does only when the closing bracket of the head is the last token. An
argument has less ink than the whole (`ink_lt_of_mem_args`), so functions that
descend into arguments end.
-/

import Reflectory.Spelling.Basic

namespace Reflectory.Spelling

open Text

/-- A template name with the spellings of its arguments. -/
structure Instantiation where
  head : String
  args : List String
  deriving DecidableEq, Repr

/-- The token lists between the commas outside inner brackets, after the tokens
of an argument that has begun; none if a bracket closes that was not opened. A
last argument without tokens is left out. -/
def splitArgs : Nat → List Token → List Token → Option (List (List Token))
  | _, current, [] => some (if current.isEmpty then [] else [current])
  | depth, current, t :: ts =>
    if t == .mark ',' && depth == 0 then (splitArgs 0 [] ts).map (current :: ·)
    else if t == .mark '>' && depth == 0 then none
    else splitArgs (depthAfter depth t) (current ++ [t]) ts

/-- The head and the argument tokens of a token list that is one
instantiation. -/
def splitTokens : List Token → Option (List Char × List (List Token))
  | .word head :: .mark '<' :: ts =>
    if ts.getLast? = some (.mark '>') then
      (splitArgs 0 [] ts.dropLast).map fun args => (head, args)
    else none
  | _ => none

/-- The parts of a type that is one template instantiation. -/
def splitTemplate (ty : String) : Option Instantiation :=
  (splitTokens (tokenize ty)).map fun (head, args) => ⟨String.ofList head, args.map render⟩

/-- The tokens outside all angle brackets, the brackets left out too. -/
def topLevel : Nat → List Token → List Token
  | _, [] => []
  | depth, t :: ts =>
    let rest := topLevel (depthAfter depth t) ts
    if t == .mark '<' || t == .mark '>' || depth != 0 then rest else t :: rest

/-- A name without its template arguments: `a::B< int >::C` becomes `a::B::C`. -/
def stripTemplateArgs (name : String) : String :=
  String.ofList (letters (topLevel 0 (tokenize name)))

/-! ### Arguments are smaller -/

theorem sublist_of_mem_splitArgs {depth : Nat} {current ts : List Token}
    {args : List (List Token)} (h : splitArgs depth current ts = some args)
    {arg : List Token} (hmem : arg ∈ args) : arg.Sublist (current ++ ts) := by
  fun_induction splitArgs depth current ts generalizing args with
  | case1 depth current =>
    obtain rfl := Option.some.inj h
    split at hmem <;> simp_all
  | case2 depth current t ts hcomma ih =>
    obtain ⟨rest, hrest, rfl⟩ := Option.map_eq_some_iff.1 h
    rcases List.mem_cons.1 hmem with rfl | hmem
    · exact List.sublist_append_left _ _
    · exact (ih hrest hmem).trans
        ((List.sublist_cons_self t ts).trans (List.sublist_append_right _ _))
  | case3 => simp at h
  | case4 depth current t ts _ _ ih => simpa using ih h hmem

theorem ink_lt_of_mem_splitTokens {ts : List Token} {head : List Char}
    {args : List (List Token)} (h : splitTokens ts = some (head, args))
    {arg : List Token} (hmem : arg ∈ args) :
    (inked (letters arg)).length < (inked (letters ts)).length := by
  unfold splitTokens at h
  split at h
  · rename_i w body
    split at h
    · obtain ⟨args', hargs, heq⟩ := Option.map_eq_some_iff.1 h
      obtain ⟨-, rfl⟩ := Prod.mk.inj heq
      have hsub : arg.Sublist body := by
        have := sublist_of_mem_splitArgs hargs hmem
        exact this.trans (by simpa using List.dropLast_sublist body)
      have hle := ((letters_sublist hsub).filter fun c => !isBlank c).length_le
      have hbracket : inked ['<'] = ['<'] := rfl
      simp only [letters_cons, inked_append, Token.text, hbracket, List.length_append,
        List.length_singleton]
      have : (inked (letters arg)).length ≤ (inked (letters body)).length := hle
      omega
    · simp at h
  · simp at h

/-- An argument has less ink than the instantiation. -/
theorem ink_lt_of_mem_args {ty : String} {inst : Instantiation}
    (h : splitTemplate ty = some inst) {arg : String} (hmem : arg ∈ inst.args) :
    ink arg < ink ty := by
  obtain ⟨⟨head, args⟩, hsplit, rfl⟩ := Option.map_eq_some_iff.1 h
  obtain ⟨ts, hts, rfl⟩ := List.mem_map.1 hmem
  rw [ink_render, ← inked_letters_tokenize]
  exact ink_lt_of_mem_splitTokens hsplit hts

end Reflectory.Spelling
