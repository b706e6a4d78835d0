/-
What the encoding of a type tells of it.

An encoding has a part for every word and for most marks of a spelling, low lines between
them, and nothing for what closes a bracket or separates arguments. A name has more parts
than one where it has low lines or scopes. Names that the encoding tells from each other and
from all else are a vocabulary. Over one, an encoding determines the tokens that have a code,
and where brackets close at the end only, these determine the spelling.

* `tidy_append_inj`, `behindLines_inj`: encodings are found again between double low lines.
* `mangle_eq_iff`: what an encoding determines.
* `tokenize_eq_of_isLaidOut`: where that is the whole type.
-/

import Reflectory.Proofs.Text.Parts
import Reflectory.Spelling.Derived

namespace Reflectory.Spelling

open Text

/-- Lists are found again in what they begin, if each ends where the other does. -/
theorem append_inj_of_ends {α : Type} {xs ys us vs : List α}
    (ends : ∀ ds, ys = xs ++ ds → us = ds ++ vs → ds = [])
    (ends' : ∀ ds, xs = ys ++ ds → vs = ds ++ us → ds = [])
    (same : xs ++ us = ys ++ vs) : xs = ys ∧ us = vs := by
  obtain ⟨ds, rfl, rfl⟩ | ⟨ds, rfl, rfl⟩ := List.append_eq_append_iff.mp same
  · obtain rfl := ends ds rfl rfl
    simp
  · obtain rfl := ends' ds rfl rfl
    simp

/-! ### Texts between double low lines -/

/-- Neither a low line at an end nor two side by side. -/
def IsTidy (cs : List Char) : Prop :=
  cs ≠ [] → [] ∉ splitAt (· = '_') cs

/-- Nothing, or a double low line and more. -/
def EndsPart (cs : List Char) : Prop :=
  cs = [] ∨ ['_', '_'] <+: cs

/-- A tidy text begins with something else than a low line. -/
theorem IsTidy.head_ne {c : Char} {cs : List Char} (tidy : IsTidy (c :: cs)) : c ≠ '_' := by
  rintro rfl
  exact tidy (List.cons_ne_nil _ _) (by simp [splitAt])

/-- A tidy text holds nothing of a part that ends behind it. -/
theorem IsTidy.eq_nil {xs ds us : List Char} (tidy : IsTidy (xs ++ ds))
    (ends : EndsPart (ds ++ us)) : ds = [] := by
  match ds, tidy, ends with
  | [], _, _ => rfl
  | [c], tidy, .inr ⟨rest, begins⟩ =>
    obtain rfl : '_' = c := (List.cons.inj begins).1
    refine absurd ?_ (tidy (by simp))
    rw [splitAt_append_cons (by decide)]
    simp [splitAt]
  | c :: d :: ds, tidy, .inr ⟨rest, begins⟩ =>
    obtain ⟨rfl, more⟩ := List.cons.inj begins
    obtain rfl : '_' = d := (List.cons.inj more).1
    refine absurd ?_ (tidy (by simp))
    rw [splitAt_append_cons (by decide)]
    simp [splitAt]
  | c :: ds, _, .inl empty => cases empty

/-- Tidy texts end where a double low line begins. -/
theorem tidy_append_inj {xs ys us vs : List Char} (tidy : IsTidy xs) (tidy' : IsTidy ys)
    (ends : EndsPart us) (ends' : EndsPart vs) (same : xs ++ us = ys ++ vs) :
    xs = ys ∧ us = vs := by
  refine append_inj_of_ends ?_ ?_ same
  · rintro ds rfl rfl
    exact tidy'.eq_nil ends
  · rintro ds rfl rfl
    exact tidy.eq_nil ends'

/-- The number of low lines that a text begins with. -/
def leadingLines (cs : List Char) : Nat :=
  (cs.takeWhile (· = '_')).length

/-- Nothing, or low lines in even number and something else. -/
def EndsName (cs : List Char) : Prop :=
  EndsPart cs ∧ Even (leadingLines cs)

/-- A name without double low lines holds nothing of what follows it. -/
theorem EndsName.eq_nil {xs ds us : List Char} (single : ¬ ['_', '_'] <:+: xs ++ ds)
    (ends : EndsName us) (ends' : EndsName (ds ++ us)) : ds = [] := by
  match ds, single, ends' with
  | [], _, _ => rfl
  | [c], _, ⟨.inr ⟨rest, begins⟩, even⟩ =>
    -- One low line more would make their number odd.
    obtain rfl : '_' = c := (List.cons.inj begins).1
    have odd : leadingLines ('_' :: us) = leadingLines us + 1 := by simp [leadingLines]
    rw [List.singleton_append, odd, Nat.even_add_one] at even
    exact absurd ends.2 even
  | c :: d :: ds, single, ⟨.inr ⟨rest, begins⟩, _⟩ =>
    obtain ⟨rfl, more⟩ := List.cons.inj begins
    obtain rfl : '_' = d := (List.cons.inj more).1
    exact absurd ⟨xs, ds, by simp⟩ single
  | c :: ds, _, ⟨.inl empty, _⟩ => cases empty

/-- Names without double low lines end where an even number of low lines begins. -/
theorem name_append_inj {xs ys us vs : List Char} (single : ¬ ['_', '_'] <:+: xs)
    (single' : ¬ ['_', '_'] <:+: ys) (ends : EndsName us) (ends' : EndsName vs)
    (same : xs ++ us = ys ++ vs) : xs = ys ∧ us = vs := by
  refine append_inj_of_ends ?_ ?_ same
  · rintro ds rfl rfl
    exact ends'.eq_nil single' ends
  · rintro ds rfl rfl
    exact ends.eq_nil single ends'

/-- The texts, each behind a double low line. -/
def behindLines (texts : List (List Char)) : List Char :=
  texts.flatMap fun text => '_' :: '_' :: text

theorem endsPart_behindLines (texts : List (List Char)) : EndsPart (behindLines texts) := by
  cases texts with
  | nil => exact .inl rfl
  | cons text texts => exact .inr ⟨text ++ behindLines texts, by simp [behindLines]⟩

theorem endsName_behindLines {texts : List (List Char)} (tidy : ∀ text ∈ texts, IsTidy text) :
    EndsName (behindLines texts) := by
  refine ⟨endsPart_behindLines texts, ?_⟩
  induction texts with
  | nil => decide
  | cons text texts ih =>
    obtain ⟨first, others⟩ := List.forall_mem_cons.mp tidy
    have two : leadingLines (behindLines (text :: texts)) =
        leadingLines (text ++ behindLines texts) + 2 := by
      simp [leadingLines, behindLines]
    rw [two, Nat.even_add]
    refine iff_of_true ?_ even_two
    cases text with
    | nil => exact ih others
    | cons c cs => simp [leadingLines, first.head_ne]

/-- Tidy texts behind double low lines are found again. -/
theorem behindLines_inj {texts texts' : List (List Char)} (tidy : ∀ text ∈ texts, IsTidy text)
    (tidy' : ∀ text ∈ texts', IsTidy text) (same : behindLines texts = behindLines texts') :
    texts = texts' := by
  induction texts generalizing texts' with
  | nil =>
    cases texts' with
    | nil => rfl
    | cons => simp [behindLines] at same
  | cons text texts ih =>
    cases texts' with
    | nil => simp [behindLines] at same
    | cons text' texts' =>
      obtain ⟨first, others⟩ := List.forall_mem_cons.mp tidy
      obtain ⟨first', others'⟩ := List.forall_mem_cons.mp tidy'
      have same : text ++ behindLines texts = text' ++ behindLines texts' := by
        simpa [behindLines] using same
      obtain ⟨rfl, rest⟩ := tidy_append_inj first first' (endsPart_behindLines texts)
        (endsPart_behindLines texts') same
      rw [ih others others' rest]

/-! ### Parts of an encoding -/

/-- The tokens of a type that have a code. -/
def codedTokens (ty : String) : List Token :=
  (tokenize ty).filter fun t => (mangleToken t).isSome

theorem mangle_eq_join (ty : String) :
    mangle ty = join "_" ((codedTokens ty).filterMap mangleToken) := by
  rw [mangle, codedTokens, List.filterMap_filter]
  refine congrArg (join "_") (List.filterMap_congr fun t _ => ?_)
  cases code : mangleToken t <;> simp

/-- The parts that a token contributes to an encoding. -/
def codeParts (t : Token) : List (List Char) :=
  (mangleToken t).elim [] fun code => splitAt (· = '_') code.toList

theorem filterMap_mangleToken_eq_nil {ty : String} :
    (codedTokens ty).filterMap mangleToken = [] ↔ codedTokens ty = [] := by
  refine ⟨fun none => ?_, fun none => by rw [none]; rfl⟩
  rw [List.filterMap_eq_nil_iff] at none
  refine List.eq_nil_iff_forall_not_mem.mpr fun t mem => ?_
  have coded := (List.mem_filter.mp mem).2
  rw [none t mem] at coded
  cases coded

/-- An encoding has the parts of the tokens with codes. -/
theorem splitAt_mangle {ty : String} (coded : codedTokens ty ≠ []) :
    splitAt (· = '_') (mangle ty).toList = (codedTokens ty).flatMap codeParts := by
  have low_line : String.singleton '_' = "_" := rfl
  rw [mangle_eq_join, ← low_line, splitAt_join (mt filterMap_mangleToken_eq_nil.mp coded),
    List.filterMap_eq_flatMap_toList, List.flatMap_assoc]
  refine List.flatMap_congr fun t _ => ?_
  unfold codeParts
  cases mangleToken t <;> simp

/-! ### Vocabularies -/

/-- The keywords that other words follow in a type. -/
def leadingKeywords : List String :=
  ["const", "volatile", "signed", "unsigned", "short", "long", "class", "struct", "enum",
    "typename"]

/-- The words that are no names. -/
def keywords : List String :=
  leadingKeywords ++ ["void", "bool", "char", "int", "float", "double"]

/-- The tokens with a code that is not made from a name. -/
def fixedTokens : List Token :=
  (keywords.map fun k => .word k.toList) ++ ['*', '&', '<', '[', '('].map .mark

/-- The parts that stand for such a token, or at the end of an identifier for a method
that is const. -/
def reserved : List (List Char) :=
  "const".toList :: fixedTokens.flatMap codeParts

/-- Names that an encoding tells from each other and from all else. -/
structure Vocabulary where
  IsName : List Char → Prop
  /-- No low line at an end, and no two side by side. -/
  tidy : ∀ w, IsName w → [] ∉ codeParts (.word w)
  unreserved : ∀ w, IsName w → ∀ part ∈ codeParts (.word w), part ∉ reserved
  injective : ∀ w w', IsName w → IsName w' →
    mangleToken (.word w) = mangleToken (.word w') → w = w'

theorem codeParts_fixed :
    ∀ t ∈ fixedTokens, [] ∉ codeParts t ∧ "const".toList ∉ codeParts t ∧
      ∃ part ∈ reserved, codeParts t = [part] := by
  decide +kernel

theorem eq_of_codeParts_fixed :
    ∀ t ∈ fixedTokens, ∀ t' ∈ fixedTokens, codeParts t = codeParts t' → t = t' := by
  decide +kernel

namespace Vocabulary

variable (V : Vocabulary)

/-- A token with a code: one with a code of its own, or a name. -/
def IsCoded (t : Token) : Prop :=
  t ∈ fixedTokens ∨ ∃ w, t = .word w ∧ V.IsName w

/-- Whether a name can be split off the front of what it begins. -/
def IsFirm (t : Token) : Prop :=
  ∀ w, V.IsName w → ∀ us vs, codeParts t ++ us = codeParts (.word w) ++ vs → t = .word w

/-- Of two names side by side, the first is firm. -/
def Apart (ts : List Token) : Prop :=
  ts.IsChain fun left right => left ∈ fixedTokens ∨ right ∈ fixedTokens ∨ V.IsFirm left

/-- The words of the type are keywords and names, and it is clear where names end. -/
structure Tells (ty : String) : Prop where
  coded : ∀ t ∈ codedTokens ty, V.IsCoded t
  apart : V.Apart (codedTokens ty)

variable {V} {t t' : Token} {ts ts' : List Token} {ty ty' : String}

namespace IsCoded

/-- No part is empty or stands for a const method, and there is one. -/
theorem parts (coded : V.IsCoded t) :
    [] ∉ codeParts t ∧ "const".toList ∉ codeParts t ∧ codeParts t ≠ [] := by
  obtain fixed | ⟨w, rfl, name⟩ := coded
  · obtain ⟨no_nil, no_const, part, -, parts⟩ := codeParts_fixed t fixed
    exact ⟨no_nil, no_const, by simp [parts]⟩
  · exact ⟨V.tidy w name, fun part => V.unreserved w name _ part List.mem_cons_self,
      splitAt_ne_nil _ _⟩

/-- What begins with a reserved part is no name. -/
theorem fixed (coded : V.IsCoded t) {part : List Char} (is_reserved : part ∈ reserved)
    {us vs : List (List Char)} (same : part :: us = codeParts t ++ vs) : t ∈ fixedTokens := by
  obtain fixed | ⟨w, rfl, name⟩ := coded
  · exact fixed
  · have nonempty : codeParts (.word w) ≠ [] := splitAt_ne_nil _ _
    obtain ⟨first, more, parts⟩ := List.exists_cons_of_ne_nil nonempty
    have first_mem : first ∈ codeParts (.word w) := parts ▸ List.mem_cons_self
    rw [parts] at same
    rw [(List.cons.inj same).1] at is_reserved
    exact absurd is_reserved (V.unreserved w name first first_mem)

end IsCoded

/-! ### Reading an encoding -/

/-- Runs of parts that are not reserved end where a reserved one begins. -/
theorem append_inj_of_reserved {xs ys us vs : List (List Char)}
    (unreserved : ∀ part ∈ xs, part ∉ reserved) (unreserved' : ∀ part ∈ ys, part ∉ reserved)
    (ends : ∀ part ∈ us.head?, part ∈ reserved) (ends' : ∀ part ∈ vs.head?, part ∈ reserved)
    (same : xs ++ us = ys ++ vs) : xs = ys := by
  refine (append_inj_of_ends ?_ ?_ same).1
  · rintro (_ | ⟨d, ds⟩) rfl rfl
    · rfl
    · exact absurd (ends d rfl) (unreserved' d (by simp))
  · rintro (_ | ⟨d, ds⟩) rfl rfl
    · rfl
    · exact absurd (ends' d rfl) (unreserved d (by simp))

/-- What follows a name begins with a reserved part. -/
theorem head?_reserved (fixed : ∀ t ∈ ts.head?, t ∈ fixedTokens) :
    ∀ part ∈ (ts.flatMap codeParts).head?, part ∈ reserved := by
  cases ts with
  | nil => simp
  | cons t ts =>
    obtain ⟨-, -, first, is_reserved, parts⟩ := codeParts_fixed t (fixed t rfl)
    intro part mem
    obtain rfl : first = part := by simpa [parts] using mem
    exact is_reserved

/-- Names are equal whose parts begin the same, if both are firm or followed by what is no
name. -/
theorem name_eq {w w' : List Char} (name : V.IsName w) (name' : V.IsName w')
    (next : V.IsFirm (.word w) ∨ ∀ u ∈ ts.head?, u ∈ fixedTokens)
    (next' : V.IsFirm (.word w') ∨ ∀ u ∈ ts'.head?, u ∈ fixedTokens)
    (same : codeParts (.word w) ++ ts.flatMap codeParts =
      codeParts (.word w') ++ ts'.flatMap codeParts) : Token.word w = .word w' := by
  obtain firm | next := next
  · exact firm w' name' _ _ same
  obtain firm | next' := next'
  · exact (firm w name _ _ same.symm).symm
  have parts := append_inj_of_reserved (V.unreserved w name) (V.unreserved w' name')
    (head?_reserved next) (head?_reserved next') same
  have code : String.toList _ = String.toList _ := splitAt_injective '_' parts
  rw [V.injective w w' name name' (congrArg some (String.toList_injective code))]

theorem Apart.next (apart : V.Apart (t :: ts)) (other : t ∉ fixedTokens) :
    V.IsFirm t ∨ ∀ u ∈ ts.head?, u ∈ fixedTokens := by
  by_cases firm : V.IsFirm t
  · exact .inl firm
  · right
    intro u mem
    exact ((apart.rel_head? mem).resolve_left other).resolve_right firm

/-- The first token is read off the parts. -/
theorem cons_inj_of_codeParts (coded : ∀ u ∈ t :: ts, V.IsCoded u)
    (coded' : ∀ u ∈ t' :: ts', V.IsCoded u) (apart : V.Apart (t :: ts))
    (apart' : V.Apart (t' :: ts'))
    (same : codeParts t ++ ts.flatMap codeParts = codeParts t' ++ ts'.flatMap codeParts) :
    t = t' ∧ ts.flatMap codeParts = ts'.flatMap codeParts := by
  have first := coded t List.mem_cons_self
  have first' := coded' t' List.mem_cons_self
  suffices t = t' by
    subst this
    exact ⟨rfl, List.append_cancel_left same⟩
  -- A token that is no name has a reserved part, so both are names or neither is.
  by_cases fixed : t ∈ fixedTokens
  · obtain ⟨-, -, part, is_reserved, parts⟩ := codeParts_fixed t fixed
    have fixed' := first'.fixed is_reserved (parts ▸ same)
    obtain ⟨-, -, part', -, parts'⟩ := codeParts_fixed t' fixed'
    rw [parts, parts'] at same
    refine eq_of_codeParts_fixed t fixed t' fixed' ?_
    rw [parts, parts', (List.cons.inj same).1]
  · have fixed' : t' ∉ fixedTokens := by
      intro fixed'
      obtain ⟨-, -, part', is_reserved, parts'⟩ := codeParts_fixed t' fixed'
      exact fixed (first.fixed is_reserved (parts' ▸ same.symm))
    obtain ⟨w, rfl, name⟩ := first.resolve_left fixed
    obtain ⟨w', rfl, name'⟩ := first'.resolve_left fixed'
    exact name_eq name name' (apart.next fixed) (apart'.next fixed') same

/-- Tokens with codes are read off their parts. -/
theorem eq_of_flatMap_codeParts (coded : ∀ t ∈ ts, V.IsCoded t) (coded' : ∀ t ∈ ts', V.IsCoded t)
    (apart : V.Apart ts) (apart' : V.Apart ts')
    (same : ts.flatMap codeParts = ts'.flatMap codeParts) : ts = ts' := by
  induction ts generalizing ts' with
  | nil =>
    cases ts' with
    | nil => rfl
    | cons t' ts' =>
      have silent : codeParts t' = [] := (List.append_eq_nil_iff.mp same.symm).1
      exact absurd silent (coded' t' List.mem_cons_self).parts.2.2
  | cons t ts ih =>
    cases ts' with
    | nil =>
      have silent : codeParts t = [] := (List.append_eq_nil_iff.mp same).1
      exact absurd silent (coded t List.mem_cons_self).parts.2.2
    | cons t' ts' =>
      obtain ⟨rfl, rest⟩ := cons_inj_of_codeParts coded coded' apart apart' same
      rw [ih (fun u mem => coded u (.tail _ mem)) (fun u mem => coded' u (.tail _ mem))
        apart.tail apart'.tail rest]

namespace Tells

/-- No part of the encoding is empty or stands for a const method. -/
theorem parts (tells : V.Tells ty) :
    [] ∉ (codedTokens ty).flatMap codeParts ∧
      "const".toList ∉ (codedTokens ty).flatMap codeParts := by
  constructor
  · intro mem
    obtain ⟨t, t_mem, part⟩ := List.mem_flatMap.mp mem
    exact (tells.coded t t_mem).parts.1 part
  · intro mem
    obtain ⟨t, t_mem, part⟩ := List.mem_flatMap.mp mem
    exact (tells.coded t t_mem).parts.2.1 part

theorem mangle_eq_empty (tells : V.Tells ty) : mangle ty = "" ↔ codedTokens ty = [] := by
  constructor
  · intro empty
    by_contra coded
    have parts := splitAt_mangle coded
    rw [empty] at parts
    exact tells.parts.1 (parts ▸ List.mem_cons_self)
  · intro none
    rw [mangle_eq_join, none]
    rfl

theorem tidy_mangle (tells : V.Tells ty) : IsTidy (mangle ty).toList := by
  intro nonempty
  have coded : codedTokens ty ≠ [] := by
    intro none
    rw [tells.mangle_eq_empty.mpr none] at nonempty
    exact nonempty rfl
  rw [splitAt_mangle coded]
  exact tells.parts.1

/-- An encoding never is what stands for a const method. -/
theorem mangle_ne_const (tells : V.Tells ty) : mangle ty ≠ "const" := by
  intro const
  have coded : codedTokens ty ≠ [] := by
    rw [Ne, ← tells.mangle_eq_empty, const]
    decide
  have parts := splitAt_mangle coded
  rw [const] at parts
  exact tells.parts.2 (parts ▸ by decide)

/-- **What an encoding determines**: the tokens with codes. -/
theorem mangle_eq_iff (tells : V.Tells ty) (tells' : V.Tells ty') :
    mangle ty = mangle ty' ↔ codedTokens ty = codedTokens ty' := by
  constructor
  · intro same
    by_cases coded : codedTokens ty = []
    · rw [coded, tells'.mangle_eq_empty.mp (same ▸ tells.mangle_eq_empty.mpr coded)]
    · have coded' : codedTokens ty' ≠ [] := by
        rwa [Ne, ← tells'.mangle_eq_empty, ← same, tells.mangle_eq_empty]
      refine eq_of_flatMap_codeParts tells.coded tells'.coded tells.apart tells'.apart ?_
      rw [← splitAt_mangle coded, same, splitAt_mangle coded']
  · intro same
    rw [mangle_eq_join, same, mangle_eq_join]

end Tells

end Vocabulary

/-! ### Qualified names -/

/-- A segment of a qualified name that is nothing else and has no low line. -/
def IsSegment (s : List Char) : Prop :=
  s ≠ [] ∧ '_' ∉ s ∧ ':' ∉ s ∧ s ∉ reserved ∧ s ∉ keywords.map String.toList

instance (s : List Char) : Decidable (IsSegment s) :=
  inferInstanceAs (Decidable (_ ∧ _))

/-- The segments with `::` between them. -/
def qualifiedName (segments : List (List Char)) : List Char :=
  [':', ':'].intercalate segments

theorem flattenScopes_append {s : List Char} (no_colon : ':' ∉ s) (cs : List Char) :
    flattenScopes (s ++ cs) = s ++ flattenScopes cs := by
  induction s with
  | nil => rfl
  | cons c s ih =>
    obtain ⟨other, no_colon⟩ := List.ne_and_not_mem_of_not_mem_cons no_colon
    rw [List.cons_append, flattenScopes.eq_def]
    simp [other.symm, ih no_colon]

/-- The segments are found again between low lines. -/
theorem splitAt_flattenScopes {segments : List (List Char)} (nonempty : segments ≠ [])
    (each : ∀ s ∈ segments, IsSegment s) :
    splitAt (· = '_') (flattenScopes (qualifiedName segments)) = segments := by
  induction segments with
  | nil => exact absurd rfl nonempty
  | cons s segments ih =>
    obtain ⟨⟨-, no_line, no_colon, -⟩, others⟩ := List.forall_mem_cons.mp each
    have whole : splitAt (· = '_') s = [s] :=
      splitAt_of_unmarked fun c mem => decide_eq_false (ne_of_mem_of_not_mem mem no_line)
    cases segments with
    | nil =>
      have single : flattenScopes (qualifiedName [s]) = s := by
        simpa [qualifiedName, flattenScopes] using flattenScopes_append no_colon []
      rw [single, whole]
    | cons second rest =>
      have first : qualifiedName (s :: second :: rest) =
          s ++ ':' :: ':' :: qualifiedName (second :: rest) := by
        simp [qualifiedName, List.intercalate, List.intersperse]
      rw [first, flattenScopes_append no_colon, flattenScopes, splitAt_append_cons (by decide),
        whole, ih (List.cons_ne_nil _ _) others]
      rfl

/-- The code of a qualified name has its segments as parts. -/
theorem codeParts_qualifiedName {segments : List (List Char)} (nonempty : segments ≠ [])
    (each : ∀ s ∈ segments, IsSegment s) :
    codeParts (.word (qualifiedName segments)) = segments := by
  have parts := splitAt_flattenScopes nonempty each
  have no_keyword : ∀ k ∈ keywords, flattenScopes k.toList = k.toList ∧
      splitAt (· = '_') k.toList = [k.toList] := by
    decide +kernel
  have other : ∀ k ∈ keywords, qualifiedName segments ≠ k.toList := by
    intro k mem same
    rw [same, (no_keyword k mem).1, (no_keyword k mem).2] at parts
    exact (each k.toList (parts ▸ List.mem_cons_self)).2.2.2.2 (List.mem_map_of_mem mem)
  have not_global : dropGlobal (qualifiedName segments) = qualifiedName segments := by
    obtain ⟨s, rest, rfl⟩ := List.exists_cons_of_ne_nil nonempty
    obtain ⟨nonempty, -, no_colon, -⟩ := each s List.mem_cons_self
    obtain ⟨c, cs, rfl⟩ := List.exists_cons_of_ne_nil nonempty
    have first : ∃ more, qualifiedName ((c :: cs) :: rest) = c :: more := by
      cases rest <;> simp [qualifiedName, List.intercalate, List.intersperse]
    obtain ⟨more, first⟩ := first
    rw [first, dropGlobal.eq_def]
    simp [(List.ne_and_not_mem_of_not_mem_cons no_colon).1.symm]
  rw [codeParts, mangleToken, if_neg (other "const" (by decide)),
    if_neg (other "volatile" (by decide)), not_global, Option.elim_some, String.toList_ofList,
    parts]

/-- The segments of a qualified name. -/
def IsPath (path : List (List Char)) : Prop :=
  path ≠ [] ∧ ∀ s ∈ path, IsSegment s

instance (path : List (List Char)) : Decidable (IsPath path) :=
  inferInstanceAs (Decidable (_ ∧ _))

namespace Vocabulary

/-- **The names without low lines are a vocabulary**, those aside that have a keyword or a
code as a segment, and so are any of them. -/
def ofPaths (P : List (List Char) → Prop) (are_paths : ∀ path, P path → IsPath path) :
    Vocabulary where
  IsName w := ∃ path, P path ∧ qualifiedName path = w
  tidy := by
    rintro w ⟨path, named, rfl⟩
    obtain ⟨nonempty, each⟩ := are_paths path named
    rw [codeParts_qualifiedName nonempty each]
    exact fun mem => (each [] mem).1 rfl
  unreserved := by
    rintro w ⟨path, named, rfl⟩ part mem
    obtain ⟨nonempty, each⟩ := are_paths path named
    rw [codeParts_qualifiedName nonempty each] at mem
    exact (each part mem).2.2.2.1
  injective := by
    rintro w w' ⟨path, named, rfl⟩ ⟨path', named', rfl⟩ same
    obtain ⟨nonempty, each⟩ := are_paths path named
    obtain ⟨nonempty', each'⟩ := are_paths path' named'
    have parts : codeParts (.word (qualifiedName path)) =
        codeParts (.word (qualifiedName path')) := by
      rw [codeParts, same, codeParts]
    rw [codeParts_qualifiedName nonempty each, codeParts_qualifiedName nonempty' each'] at parts
    rw [parts]

variable {paths : List (List (List Char))} {are_paths : ∀ path ∈ paths, IsPath path}

/-- No name of the list begins with the parts of the token, or is what they begin with,
unless it is the token. -/
def IsFirmAmong (paths : List (List (List Char))) (t : Token) : Prop :=
  ∀ path ∈ paths, codeParts t <+: path ∨ path <+: codeParts t → t = .word (qualifiedName path)

instance (t : Token) : Decidable (IsFirmAmong paths t) :=
  inferInstanceAs (Decidable (∀ path ∈ paths, _ → _))

theorem IsFirmAmong.isFirm {t : Token} (firm : IsFirmAmong paths t) :
    (ofPaths (· ∈ paths) are_paths).IsFirm t := by
  rintro w ⟨path, mem, rfl⟩ us vs same
  obtain ⟨nonempty, each⟩ := are_paths path mem
  rw [codeParts_qualifiedName nonempty each] at same
  exact firm path mem
    (List.prefix_or_prefix_of_prefix (List.prefix_append _ us) (same ▸ List.prefix_append _ vs))

/-- `Tells` for the names of a list. -/
structure TellsAmong (paths : List (List (List Char))) (ty : String) : Prop where
  coded : ∀ t ∈ codedTokens ty, t ∈ fixedTokens ∨ ∃ path ∈ paths, t = .word (qualifiedName path)
  apart : (codedTokens ty).IsChain fun left right =>
    left ∈ fixedTokens ∨ right ∈ fixedTokens ∨ IsFirmAmong paths left

instance (ty : String) : Decidable (TellsAmong paths ty) :=
  decidable_of_iff (_ ∧ _) ⟨fun ⟨coded, apart⟩ => ⟨coded, apart⟩,
    fun tells => ⟨tells.coded, tells.apart⟩⟩

theorem TellsAmong.tells {ty : String} (among : TellsAmong paths ty) :
    (ofPaths (· ∈ paths) are_paths).Tells ty where
  coded t mem :=
    (among.coded t mem).imp_right fun ⟨path, named, word⟩ => ⟨_, word, path, named, rfl⟩
  apart := among.apart.imp fun _ _ => Or.imp_right (Or.imp_right IsFirmAmong.isFirm)

end Vocabulary

/-! ### Types that their encodings determine -/

/-- What closes a bracket. -/
def closing? : Token → Option Token
  | .mark '<' => some (.mark '>')
  | .mark '[' => some (.mark ']')
  | .mark '(' => some (.mark ')')
  | _ => none

/-- Whether a template argument can end with the token. -/
def endsArgument : Token → Bool
  | .word w => w ∉ leadingKeywords.map String.toList
  | .mark c => c = '*'

/-- The tokens with a comma wherever an argument ends and a word follows, once a template
is open. -/
def withCommas : Bool → List Token → List Token
  | _, [] => []
  | within, t :: ts =>
    let comma := within && endsArgument t && ts.head?.any fun u => u matches .word _
    t :: (if comma then [.mark ','] else []) ++ withCommas (within || t = .mark '<') ts

/-- A spelling with these codes: commas wherever they may be, and all brackets closed at
the end, before references. -/
def layOut (ts : List Token) : List Token :=
  let front := ts.takeWhile (· ≠ .mark '&')
  withCommas false front ++ (front.filterMap closing?).reverse ++
    ts.dropWhile (· ≠ .mark '&')

/-- Whether the type is spelled as its codes are laid out. -/
def IsLaidOut (ty : String) : Prop :=
  layOut (codedTokens ty) = tokenize ty

instance (ty : String) : Decidable (IsLaidOut ty) :=
  inferInstanceAs (Decidable (_ = _))

/-- A type that is spelled as it is laid out is known by its codes. -/
theorem tokenize_eq_of_isLaidOut {ty ty' : String} (laid_out : IsLaidOut ty)
    (laid_out' : IsLaidOut ty') (same : codedTokens ty = codedTokens ty') :
    tokenize ty = tokenize ty' := by
  rw [← laid_out, same, laid_out']

example : IsLaidOut "const std::map< std::string, Ref< const osg::Node * > > &" := by
  decide +kernel

end Reflectory.Spelling
