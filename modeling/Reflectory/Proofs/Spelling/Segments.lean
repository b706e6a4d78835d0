/-
Qualified names as segments.

A qualified name has segments with `::` between them. A mark inside angle brackets belongs
to a segment, so a name is taken apart from behind by counting brackets. Where each segment
closes the brackets that it opens, the scopes around a name are its first segments.

* `scopesFrom_join`: a scope and the scopes around it.
* `scopedCandidates_join`: what a spelling may stand for inside a scope.
* `exists_append_stripTemplateArgs`: what the beginning of a name keeps when its template
  arguments are left out.
-/

import Mathlib
import Reflectory.Proofs.Spelling.Canonical
import Reflectory.Spelling.Scope

namespace Reflectory

namespace Text

theorem join_cons {sep text : String} {texts : List String} (more : texts ≠ []) :
    join sep (text :: texts) = text ++ sep ++ join sep texts := by
  cases texts with
  | nil => exact absurd rfl more
  | cons => rfl

theorem join_concat {sep : String} {texts : List String} (some_texts : texts ≠ []) (text : String) :
    join sep (texts ++ [text]) = join sep texts ++ sep ++ text := by
  induction texts with
  | nil => exact absurd rfl some_texts
  | cons first texts ih =>
    obtain rfl | more := eq_or_ne texts []
    · rfl
    · rw [List.cons_append, join_cons (by simp), join_cons more, ih more]
      simp only [String.append_assoc]

end Text

namespace Spelling

open Text

/-! ### Segments -/

/-- A segment of a qualified name: it is not empty, it closes the angle brackets that it
opens and no others, and colons stand inside of them only. -/
structure IsScopePart (text : String) : Prop where
  nonempty : text ≠ ""
  opened : ∀ part, part <+: text.toList → part.count '>' ≤ part.count '<'
  closed : text.toList.count '<' = text.toList.count '>'
  inside : ∀ part, part ++ [':'] <+: text.toList → part.count '>' < part.count '<'

instance (text : String) : Decidable (IsScopePart text) :=
  decidable_of_iff (text ≠ "" ∧ (∀ part ∈ text.toList.inits, part.count '>' ≤ part.count '<' ∧
      (part ++ [':'] <+: text.toList → part.count '>' < part.count '<')) ∧
      text.toList.count '<' = text.toList.count '>') <| by
    constructor
    · rintro ⟨nonempty, parts, closed⟩
      refine ⟨nonempty, fun part pre => (parts part ((List.mem_inits _ _).mpr pre)).1, closed, ?_⟩
      intro part pre
      have shorter : part <+: text.toList := (List.prefix_append _ _).trans pre
      exact (parts part ((List.mem_inits _ _).mpr shorter)).2 pre
    · rintro ⟨nonempty, opened, closed, inside⟩
      exact ⟨nonempty, fun part mem => ⟨opened part ((List.mem_inits _ _).mp mem), inside part⟩,
        closed⟩

/-- Characters that close no bracket from before them leave as many more open as they open
and do not close. -/
theorem foldl_bracketDepth {cs : List Char} (depth : Nat)
    (opened : ∀ part, part <+: cs → part.count '>' ≤ part.count '<') :
    cs.foldl bracketDepth depth + cs.count '>' = depth + cs.count '<' := by
  induction cs using List.reverseRecOn with
  | nil => rfl
  | append_singleton cs c ih =>
    have before := ih fun part pre => opened part (pre.trans (List.prefix_append _ _))
    have whole := opened (cs ++ [c]) List.prefix_rfl
    simp only [List.foldl_append, List.foldl_cons, List.foldl_nil, List.count_append,
      List.count_singleton, bracketDepth, beq_iff_eq] at whole ⊢
    split_ifs at whole ⊢ <;> simp_all <;> omega

/-- A name is divided behind characters that have colons inside of brackets only. -/
theorem splitScope_append {depth : Nat} {cs : List Char}
    (inside : ∀ part : List Char, part ++ [':'] <+: cs → part.foldl bracketDepth depth ≠ 0)
    (ds : List Char) :
    splitScope depth (cs ++ ds) =
      (splitScope (cs.foldl bracketDepth depth) ds).map fun (before, after) =>
        (cs ++ before, after) := by
  induction cs generalizing depth with
  | nil => simp
  | cons c cs ih =>
    have first : c = ':' → depth ≠ 0 := by
      rintro rfl
      exact inside [] ⟨cs, rfl⟩
    have others : ∀ part : List Char, part ++ [':'] <+: cs →
        part.foldl bracketDepth (bracketDepth depth c) ≠ 0 :=
      fun part pre => inside (c :: part) (List.cons_prefix_cons.mpr ⟨rfl, pre⟩)
    rw [List.cons_append, splitScope, ih others, Option.map_map]
    · rfl
    · rintro _ rfl rfl
      exact absurd rfl (first rfl)

namespace IsScopePart

variable {text : String}

/-- Behind a segment all brackets are closed. -/
theorem splitScope_append (segment : IsScopePart text) (ds : List Char) :
    splitScope 0 (text.toList ++ ds) =
      (splitScope 0 ds).map fun (before, after) => (text.toList ++ before, after) := by
  have depth : text.toList.foldl bracketDepth 0 = 0 := by
    have balance := foldl_bracketDepth 0 segment.opened
    have := segment.closed
    omega
  rw [Spelling.splitScope_append ?_ ds, depth]
  intro part pre
  have shorter : part <+: text.toList := (List.prefix_append _ _).trans pre
  have balance := foldl_bracketDepth 0 fun piece sub => segment.opened piece (sub.trans shorter)
  have := segment.inside part pre
  omega

theorem splitScope_eq_none (segment : IsScopePart text) : splitScope 0 text.toList = none := by
  simpa [splitScope] using segment.splitScope_append []

end IsScopePart

section

variable {segments : List String} (all : ∀ s ∈ segments, IsScopePart s)

include all

theorem join_ne_empty (some_segments : segments ≠ []) : join "::" segments ≠ "" := by
  cases segments with
  | nil => exact absurd rfl some_segments
  | cons first segments =>
    have nonempty := (all first List.mem_cons_self).nonempty
    obtain rfl | more := eq_or_ne segments []
    · exact nonempty
    · rw [join_cons more]
      simp

/-- The last segment is divided from the others. -/
theorem splitScope_join {last : String} (segment : IsScopePart last)
    (some_segments : segments ≠ []) :
    splitScope 0 (join "::" (segments ++ [last])).toList =
      some ((join "::" segments).toList, last.toList) := by
  induction segments with
  | nil => exact absurd rfl some_segments
  | cons first segments ih =>
    obtain ⟨here, others⟩ := List.forall_mem_cons.mp all
    have divided : (join "::" (first :: (segments ++ [last]))).toList =
        first.toList ++ ':' :: ':' :: (join "::" (segments ++ [last])).toList := by
      rw [join_cons (by simp)]
      simp
    rw [List.cons_append, divided, here.splitScope_append, splitScope]
    obtain rfl | more := eq_or_ne segments []
    · simp [join, segment.splitScope_eq_none]
    · rw [ih others more, join_cons more]
      simp

/-- The scope of a name are the segments before the last. -/
theorem scope?_join {last : String} (segment : IsScopePart last) :
    scope? (join "::" (segments ++ [last])) =
      if segments = [] then none else some (join "::" segments) := by
  split_ifs with none
  · rw [none, List.nil_append, join, scope?, segment.splitScope_eq_none]
  · have nonempty := join_ne_empty all none
    rw [scope?, splitScope_join all segment none]
    simp [nonempty]

/-- A scope and the scopes around it are what it begins with, segment by segment. -/
theorem scopesFrom_join (some_segments : segments ≠ []) :
    scopesFrom (join "::" segments) =
      (List.range segments.length).reverse.map fun k => join "::" (segments.take (k + 1)) := by
  induction segments using List.reverseRecOn with
  | nil => exact absurd rfl some_segments
  | append_singleton segments last ih =>
    obtain ⟨others, segment⟩ := List.forall_mem_append.mp all
    have segment := segment last (List.mem_singleton.mpr rfl)
    have shorter : (List.range segments.length).reverse.map
          (fun k => join "::" ((segments ++ [last]).take (k + 1))) =
        (List.range segments.length).reverse.map fun k => join "::" (segments.take (k + 1)) := by
      refine List.map_congr_left fun k mem => ?_
      have less : k < segments.length := by simpa using mem
      rw [List.take_append_of_le_length less]
    rw [List.length_append, List.length_singleton, List.range_succ, List.reverse_concat,
      List.map_cons, shorter, scopesFrom]
    congr 1
    · rw [List.take_of_length_le (by simp)]
    · have scope := scope?_join others segment
      split
      next outer found =>
        rw [found] at scope
        split_ifs at scope with none
        obtain rfl := Option.some.inj scope
        exact ih others none
      next found =>
        rw [found] at scope
        split_ifs at scope with none
        simp [none]

end

/-! ### Names inside scopes -/

/-- A spelling without leading `::`. -/
def localName (spelling : String) : String :=
  String.ofList (dropGlobal spelling.toList)

theorem scopedCandidates_eq (scope spelling : String) :
    scopedCandidates (some scope) spelling =
      (scopesFrom scope).map (· ++ "::" ++ localName spelling) ++ [localName spelling] :=
  rfl

/-- A spelling may stand behind any number of the first segments of a scope, the more the
better. -/
theorem scopedCandidates_join {segments : List String} (all : ∀ s ∈ segments, IsScopePart s)
    (some_segments : segments ≠ []) (spelling : String) :
    scopedCandidates (some (join "::" segments)) spelling =
      (List.range (segments.length + 1)).reverse.map fun k =>
        join "::" (segments.take k ++ [localName spelling]) := by
  rw [scopedCandidates_eq, scopesFrom_join all some_segments, List.range_succ_eq_map,
    List.reverse_cons, List.map_append, ← List.map_reverse, List.map_map, List.map_map]
  refine congrArg (· ++ _) (List.map_congr_left fun k _ => ?_)
  have taken : segments.take (k + 1) ≠ [] := by simpa using some_segments
  rw [Function.comp_apply, Function.comp_apply, join_concat taken]

/-! ### How names begin -/

theorem localName_eq_self {name : String} (relative : ¬ [':', ':'] <+: name.toList) :
    localName name = name := by
  have kept : dropGlobal name.toList = name.toList := by
    rw [dropGlobal]
    intro cs split
    exact relative ⟨cs, split.symm⟩
  rw [localName, kept, String.ofList_toList]

theorem length_dropGlobal_le (cs : List Char) : (dropGlobal cs).length ≤ cs.length := by
  fun_induction dropGlobal cs with
  | case1 cs ih =>
    rw [List.length_cons, List.length_cons]
    omega
  | case2 => exact le_rfl

theorem not_prefix_dropGlobal (cs : List Char) : ¬ [':', ':'] <+: dropGlobal cs := by
  fun_induction dropGlobal cs with
  | case1 cs ih => exact ih
  | case2 cs other =>
    rintro ⟨ds, rfl⟩
    exact other ds rfl

/-- What is left out in front are pairs of colons, whatever comes behind. -/
theorem exists_append_dropGlobal (cs : List Char) :
    ∃ pairs, IsWord pairs ∧ cs = pairs ++ dropGlobal cs ∧
      ∀ ds, dropGlobal (pairs ++ ds) = dropGlobal ds := by
  fun_induction dropGlobal cs with
  | case1 cs ih =>
    obtain ⟨pairs, word, split, passed⟩ := ih
    refine ⟨':' :: ':' :: pairs, .scope word, ?_, fun ds => ?_⟩
    · rw [List.cons_append, List.cons_append, ← split]
    · rw [List.cons_append, List.cons_append, dropGlobal, passed]
  | case2 cs => exact ⟨[], .nil, rfl, fun _ => rfl⟩

theorem flush_of_ne_nil {pending : List Char} (some_pending : pending ≠ []) :
    flush pending = [.word pending] :=
  if_neg (by simpa using some_pending)

/-- The first token begins with what is pending. -/
theorem exists_scan_eq_cons {pending : List Char} (some_pending : pending ≠ []) (cs : List Char) :
    ∃ more ts, scan pending cs = .word (pending ++ more) :: ts := by
  fun_induction scan pending cs with
  | case1 pending => exact ⟨[], [], by rw [flush_of_ne_nil some_pending, List.append_nil]⟩
  | case2 pending cs ih =>
    obtain ⟨more, ts, scanned⟩ := ih (by simp)
    exact ⟨':' :: ':' :: more, ts, by simpa using scanned⟩
  | case3 pending c cs _ letter ih =>
    obtain ⟨more, ts, scanned⟩ := ih (by simp)
    exact ⟨c :: more, ts, by simpa using scanned⟩
  | case4 pending c cs _ letter ih =>
    refine ⟨[], (if isBlank c then [] else [Token.mark c]) ++ scan [] cs, ?_⟩
    rw [flush_of_ne_nil some_pending, List.append_nil]
    rfl

/-- The tokens have no other characters than the text. -/
theorem letters_scan_sublist (pending cs : List Char) :
    (letters (scan pending cs)).Sublist (pending ++ cs) := by
  fun_induction scan pending cs with
  | case1 pending => simp [letters_flush]
  | case2 pending cs ih => simpa using ih
  | case3 pending c cs _ letter ih => simpa using ih
  | case4 pending c cs _ letter ih =>
    rw [letters_append, letters_append, letters_flush, List.append_assoc]
    refine (List.Sublist.refl pending).append ?_
    split_ifs
    · exact ih.cons c
    · exact ih.cons_cons c

theorem topLevel_sublist (depth : Nat) (ts : List Token) : (topLevel depth ts).Sublist ts := by
  induction ts generalizing depth with
  | nil => exact .slnil
  | cons t ts ih =>
    rw [topLevel]
    split_ifs
    · exact (ih _).cons t
    · exact (ih _).cons_cons t

/-- Without template arguments, a name that begins with a word begins with it still, and is
no longer than before. -/
theorem exists_append_stripTemplateArgs {name : String} {word rest : List Char}
    (is_word : IsWord word) (nonempty : word ≠ []) (begins : name.toList = word ++ rest) :
    ∃ rest', (stripTemplateArgs name).toList = word ++ rest' ∧ rest'.length ≤ rest.length := by
  obtain ⟨more, ts, scanned⟩ := exists_scan_eq_cons nonempty rest
  have tokens : tokenize name = .word (word ++ more) :: ts := by
    rw [tokenize, begins, scan_word_append is_word, List.nil_append, scanned]
  have kept : topLevel 0 (tokenize name) = .word (word ++ more) :: topLevel 0 ts := by
    simp [tokens, topLevel, depthAfter]
  have stripped : (stripTemplateArgs name).toList = word ++ (more ++ letters (topLevel 0 ts)) := by
    rw [stripTemplateArgs, String.toList_ofList, kept, letters_cons, Token.text,
      List.append_assoc]
  refine ⟨_, stripped, ?_⟩
  have shorter : (letters (topLevel 0 (tokenize name))).length ≤ name.toList.length := by
    have sub := (letters_sublist (topLevel_sublist 0 (tokenize name))).trans
      (letters_scan_sublist [] name.toList)
    simpa using sub.length_le
  rw [kept, letters_cons, begins] at shorter
  simp only [Token.text, List.length_append] at shorter ⊢
  omega

end Spelling

end Reflectory
