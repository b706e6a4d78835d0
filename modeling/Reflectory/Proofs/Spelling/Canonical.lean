/-
The canonical spelling keeps the tokens.

Reading makes words of name characters and pairs of colons, and marks of
everything else that is no blank. A single colon is the only mark that can turn
into something else when a space before or behind it goes away, so a token list
without it is read back from its canonical spelling as it was written.

* `normalize_canonical`: normalizing changes blanks only, and without single
  colons it changes no tokens, so nothing that is computed from the tokens can
  tell a spelling from its canonical one.
-/

import Reflectory.Spelling.Derived
import Reflectory.Spelling.Template

namespace Reflectory.Spelling

open Text

/-! ### Tokens that can be read -/

/-- The characters that make a word. -/
inductive IsWord : List Char → Prop where
  | nil : IsWord []
  | name {c : Char} {cs : List Char} : isNameChar c → IsWord cs → IsWord (c :: cs)
  | scope {cs : List Char} : IsWord cs → IsWord (':' :: ':' :: cs)

/-- A token as reading makes them. -/
def Token.Legible : Token → Prop
  | word cs => cs ≠ [] ∧ IsWord cs
  | mark c => isNameChar c = false ∧ isBlank c = false

theorem isNameChar_colon : isNameChar ':' = false := by decide +kernel

theorem isNameChar_space : isNameChar ' ' = false := by decide +kernel

theorem isBlank_space : isBlank ' ' := by decide

theorem IsWord.append {xs ys : List Char} (left : IsWord xs) (right : IsWord ys) :
    IsWord (xs ++ ys) := by
  induction left with
  | nil => exact right
  | name letter _ ih => exact .name letter ih
  | scope _ ih => exact .scope ih

theorem legible_flush {pending : List Char} (word : IsWord pending) :
    ∀ t ∈ flush pending, t.Legible := by
  intro t mem
  match pending, word with
  | [], _ => cases mem
  | c :: cs, word =>
    obtain rfl : t = .word (c :: cs) := List.mem_singleton.mp mem
    exact ⟨List.cons_ne_nil c cs, word⟩

theorem legible_scan {pending cs : List Char} (word : IsWord pending) :
    ∀ t ∈ scan pending cs, t.Legible := by
  fun_induction scan pending cs with
  | case1 pending => exact legible_flush word
  | case2 pending cs ih => exact ih (word.append (.scope .nil))
  | case3 pending c cs _ letter ih => exact ih (word.append (.name letter .nil))
  | case4 pending c cs _ letter ih =>
    intro t mem
    rw [List.mem_append, List.mem_append] at mem
    obtain (mem | mem) | mem := mem
    · exact legible_flush word t mem
    · split at mem
      next => cases mem
      next blank =>
        obtain rfl : t = .mark c := List.mem_singleton.mp mem
        exact ⟨Bool.eq_false_iff.mpr letter, Bool.eq_false_iff.mpr blank⟩
    · exact ih .nil t mem

theorem legible_tokenize (s : String) : ∀ t ∈ tokenize s, t.Legible :=
  legible_scan .nil

/-! ### Blanks that are written -/

/-- A character that is neither a blank nor part of names stands for itself in a text. -/
theorem Token.Legible.notMem_text {t : Token} (legible : t.Legible) {c : Char}
    (blank : isBlank c) (other : isNameChar c = false) : c ∉ t.text := by
  cases t with
  | mark d =>
    intro mem
    obtain ⟨-, not_blank⟩ := legible
    rw [List.mem_singleton.mp mem, not_blank] at blank
    cases blank
  | word cs =>
    have colon : c ≠ ':' := by
      rintro rfl
      exact absurd blank (by decide)
    obtain ⟨-, word⟩ := legible
    rw [Token.text]
    induction word with
    | nil => exact List.not_mem_nil
    | @name d cs letter _ ih =>
      have ne : c ≠ d := by
        rintro rfl
        exact Bool.false_ne_true (other.symm.trans letter)
      exact List.not_mem_cons_of_ne_of_not_mem ne ih
    | scope _ ih => simp [colon, ih]

theorem mem_renderAfter {left : Token} {ts : List Token} {c : Char}
    (mem : c ∈ renderAfter left ts) : c = ' ' ∨ ∃ t ∈ ts, c ∈ t.text := by
  induction ts generalizing left with
  | nil => cases mem
  | cons t ts ih =>
    rw [renderAfter, List.mem_append, List.mem_append] at mem
    obtain (space | text) | rest := mem
    · split at space
      · exact .inl (List.mem_singleton.mp space)
      · cases space
    · exact .inr ⟨t, List.mem_cons_self, text⟩
    · exact (ih rest).imp_right fun ⟨u, mem, text⟩ => ⟨u, List.mem_cons_of_mem _ mem, text⟩

/-- Spaces are the only blanks of canonical spellings. -/
theorem notMem_normalize {c : Char} (blank : isBlank c) (other : isNameChar c = false)
    (no_space : c ≠ ' ') (text : String) : c ∉ (normalize text).toList := by
  have legible := legible_tokenize text
  rw [normalize, render, String.toList_ofList]
  cases tokens : tokenize text with
  | nil => exact List.not_mem_nil
  | cons t ts =>
    rw [tokens] at legible
    rw [renderChars, List.mem_append]
    rintro (mem | mem)
    · exact (legible t List.mem_cons_self).notMem_text blank other mem
    · obtain ⟨u, u_mem, mem⟩ := (mem_renderAfter mem).resolve_left no_space
      exact (legible u (List.mem_cons_of_mem _ u_mem)).notMem_text blank other mem

/-! ### Reading what was written -/

/-- Where no word can go on. -/
def EndsWord (cs : List Char) : Prop :=
  ∀ c ∈ cs.head?, isNameChar c = false ∧ c ≠ ':'

/-- A character that belongs to no word. -/
theorem scan_cons_of_ends {c : Char} (letter : isNameChar c = false) (colon : c ≠ ':')
    (pending cs : List Char) :
    scan pending (c :: cs) =
      flush pending ++ (if isBlank c then [] else [.mark c]) ++ scan [] cs := by
  rw [scan, if_neg (by simp [letter])]
  rintro _ rfl
  exact absurd rfl colon

theorem scan_of_endsWord {cs : List Char} (ends : EndsWord cs) (pending : List Char) :
    scan pending cs = flush pending ++ scan [] cs := by
  cases cs with
  | nil => simp [scan, flush]
  | cons c cs =>
    obtain ⟨letter, colon⟩ := ends c rfl
    rw [scan_cons_of_ends letter colon, scan_cons_of_ends letter colon]
    simp [flush]

/-- The characters of a word are added to what is pending. -/
theorem scan_word_append {word : List Char} (is_word : IsWord word) (pending cs : List Char) :
    scan pending (word ++ cs) = scan (pending ++ word) cs := by
  induction is_word generalizing pending with
  | nil => rw [List.nil_append, List.append_nil]
  | @name c word letter _ ih =>
    have colon : c ≠ ':' := by
      rintro rfl
      simp [isNameChar_colon] at letter
    rw [List.cons_append, scan, if_pos letter, ih, List.append_assoc, List.singleton_append]
    rintro _ rfl
    exact absurd rfl colon
  | @scope word _ ih =>
    rw [List.cons_append, List.cons_append, scan, ih, List.append_assoc]
    rfl

/-- A mark stands for itself, whatever follows. -/
theorem scan_mark {c : Char} (legible : (Token.mark c).Legible) (colon : Token.mark c ≠ .mark ':')
    (cs : List Char) : scan [] (c :: cs) = .mark c :: scan [] cs := by
  obtain ⟨letter, blank⟩ := legible
  have colon : c ≠ ':' := fun eq => colon (congrArg Token.mark eq)
  rw [scan_cons_of_ends letter colon, if_neg (Bool.eq_false_iff.mp blank)]
  rfl

theorem scan_space (cs : List Char) : scan [] (' ' :: cs) = scan [] cs := by
  rw [scan_cons_of_ends isNameChar_space (by decide), if_pos isBlank_space]
  rfl

/-- What is written behind a word starts with a space or with a mark. -/
theorem endsWord_renderAfter {word : List Char} {ts : List Token}
    (plain : ∀ t ∈ ts, t.Legible ∧ t ≠ .mark ':') : EndsWord (renderAfter (.word word) ts) := by
  cases ts with
  | nil => rintro c ⟨⟩
  | cons t ts =>
    by_cases space : spaced (.word word) t
    · rw [renderAfter, if_pos space]
      rintro c ⟨rfl⟩
      exact ⟨isNameChar_space, by decide⟩
    · cases t with
      | word cs => exact absurd (by simp [spaced, Token.isIndirection]) space
      | mark c =>
        obtain ⟨legible, colon⟩ := plain _ List.mem_cons_self
        rw [renderAfter, if_neg space]
        rintro _ ⟨rfl⟩
        exact ⟨legible.1, fun eq => colon (congrArg Token.mark eq)⟩

/-- A token is read off the front: a word ends where the next token is written. -/
theorem scan_text_append {left : Token} {ts : List Token}
    (plain : ∀ t ∈ left :: ts, t.Legible ∧ t ≠ .mark ':') :
    scan [] (left.text ++ renderAfter left ts) = left :: scan [] (renderAfter left ts) := by
  rw [List.forall_mem_cons] at plain
  obtain ⟨⟨legible, colon⟩, plain⟩ := plain
  cases left with
  | mark c => exact scan_mark legible colon _
  | word cs =>
    obtain ⟨nonempty, word⟩ := legible
    have flushed : flush cs = [.word cs] := if_neg (by simpa using nonempty)
    rw [Token.text, scan_word_append word, List.nil_append,
      scan_of_endsWord (endsWord_renderAfter plain), flushed, List.singleton_append]

theorem scan_renderAfter {left : Token} {ts : List Token}
    (plain : ∀ t ∈ left :: ts, t.Legible ∧ t ≠ .mark ':') :
    scan [] (renderAfter left ts) = ts := by
  induction ts generalizing left with
  | nil => rfl
  | cons t ts ih =>
    have plain := (List.forall_mem_cons.mp plain).2
    have read : scan [] (t.text ++ renderAfter t ts) = t :: ts := by
      rw [scan_text_append plain, ih plain]
    rw [renderAfter, List.append_assoc]
    split
    · rw [List.singleton_append, scan_space, read]
    · exact read

/-- Tokens without single colons are read back from their canonical spelling. -/
theorem tokenize_render {ts : List Token} (plain : ∀ t ∈ ts, t.Legible ∧ t ≠ .mark ':') :
    tokenize (render ts) = ts := by
  rw [tokenize, render, String.toList_ofList]
  cases ts with
  | nil => rfl
  | cons t ts => rw [renderChars, scan_text_append plain, scan_renderAfter plain]

/-! ### Normalizing -/

theorem inked_normalize (text : String) : inked (normalize text).toList = inked text.toList := by
  rw [normalize, render, String.toList_ofList, inked_renderChars, tokenize, inked_letters_scan]
  rfl

theorem tokenize_normalize {text : String} (no_colon : .mark ':' ∉ tokenize text) :
    tokenize (normalize text) = tokenize text := by
  refine tokenize_render fun t mem => ⟨legible_tokenize text t mem, ?_⟩
  rintro rfl
  exact no_colon mem

/-- **Normalizing is canonical.** It changes blanks only. A spelling whose tokens have
no single colon keeps its tokens, so normalizing it again changes nothing, it shares
its canonical spelling with exactly the spellings of the same tokens, and its value
spelling, its template arguments, its direction, its name without arguments and its
identifier are those of its canonical spelling. -/
theorem normalize_canonical (text : String) :
    inked (normalize text).toList = inked text.toList ∧
    (.mark ':' ∉ tokenize text →
      tokenize (normalize text) = tokenize text ∧
      normalize (normalize text) = normalize text ∧
      (∀ other, .mark ':' ∉ tokenize other →
        (normalize text = normalize other ↔ tokenize text = tokenize other)) ∧
      valueType (normalize text) = valueType text ∧
      splitTemplate (normalize text) = splitTemplate text ∧
      isInOut (normalize text) = isInOut text ∧
      stripTemplateArgs (normalize text) = stripTemplateArgs text ∧
      mangle (normalize text) = mangle text) := by
  refine ⟨inked_normalize text, fun no_colon => ?_⟩
  have same : tokenize (normalize text) = tokenize text := tokenize_normalize no_colon
  refine ⟨same, ?_, ?_, ?_, ?_, ?_, ?_, ?_⟩
  · rw [normalize, same, normalize]
  · intro other other_no_colon
    constructor
    · intro eq
      rw [← same, eq, tokenize_normalize other_no_colon]
    · intro eq
      rw [normalize, eq, normalize]
  · rw [valueType, same, valueType]
  · rw [splitTemplate, same, splitTemplate]
  · rw [isInOut, same, isInOut]
  · rw [stripTemplateArgs, same, stripTemplateArgs]
  · rw [mangle, same, mangle]

/-- A nested template that is written without spaces, and the same with some. -/
theorem normalize_canonical_nested :
    .mark ':' ∉ tokenize "std::vector<osg::ref_ptr<const T>>&" ∧
    normalize "std::vector<osg::ref_ptr<const T>>&" =
      normalize "std::vector <osg::ref_ptr <const T> > &" := by
  have no_colon : .mark ':' ∉ tokenize "std::vector<osg::ref_ptr<const T>>&" := by decide +kernel
  refine ⟨no_colon, ?_⟩
  have iff := ((normalize_canonical "std::vector<osg::ref_ptr<const T>>&").2 no_colon).2.2.1
    "std::vector <osg::ref_ptr <const T> > &" (by decide +kernel)
  exact iff.mpr (by decide +kernel)

/-- Single colons may come to stand together, and are a pair then. -/
example : tokenize (normalize "a : : b") ≠ tokenize "a : : b" := by decide +kernel

end Reflectory.Spelling
