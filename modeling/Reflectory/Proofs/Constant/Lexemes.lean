/-
How the characters of a constant expression make its lexemes.

`Spells` says which lexemes a text is made of, without saying how to find them:
marks and words in a row, with any blanks before, between and after them, and
every word as long as it can be. A word that begins with a decimal digit has to
be an integer, any other is a name.

* `lex_eq_some_iff`: the lexemes of a text are those that it spells.
-/

import Reflectory.Proofs.Constant.Integer

namespace Reflectory

namespace Constant

open Text

/-! ### Texts and their lexemes -/

/-- The lexemes that are no words, with their characters. -/
def marks : List (List Char × Lexeme) :=
  [(['('], .opening), ([')'], .closing), (['*'], .symbol .times), (['+'], .symbol .plus),
    (['-'], .symbol .minus), (['<', '<'], .symbol .shiftLeft), (['>', '>'], .symbol .shiftRight),
    (['&'], .symbol .bitAnd), (['^'], .symbol .bitXor), (['|'], .symbol .bitOr),
    (['~'], .symbol .complement)]

/-- What a word is. -/
inductive IsWord : List Char → Lexeme → Prop where
  | literal {c : Char} {cs : List Char} {n : Nat} :
      c.isDigit → IsInteger (c :: cs) n → n < 2 ^ 64 → IsWord (c :: cs) (.literal n)
  | name {c : Char} {cs : List Char} :
      c.isDigit = false → IsWord (c :: cs) (.name (String.ofList (c :: cs)))

theorem IsWord.eq_cons {w : List Char} {t : Lexeme} (word : IsWord w t) : ∃ c cs, w = c :: cs := by
  cases word with
  | literal => exact ⟨_, _, rfl⟩
  | name => exact ⟨_, _, rfl⟩

/-- What the lexemes of a text are. -/
inductive Spells : List Char → List Lexeme → Prop where
  | nil : Spells [] []
  | blank {c : Char} {cs : List Char} {ts : List Lexeme} :
      isBlank c → Spells cs ts → Spells (c :: cs) ts
  | mark {m cs : List Char} {t : Lexeme} {ts : List Lexeme} :
      (m, t) ∈ marks → Spells cs ts → Spells (m ++ cs) (t :: ts)
  /-- A word goes on as far as it can. -/
  | word {w cs : List Char} {t : Lexeme} {ts : List Lexeme} :
      (∀ c ∈ w, isWordChar c) → (∀ c ∈ cs.head?, isWordChar c = false) → IsWord w t →
      Spells cs ts → Spells (w ++ cs) (t :: ts)

theorem isWordChar_of_isBlank {c : Char} (blank : isBlank c) : isWordChar c = false := by
  have low : c ≠ '_' := by rintro rfl; exact absurd blank (by decide)
  have colon : c ≠ ':' := by rintro rfl; exact absurd blank (by decide)
  simp [isWordChar, isAlphanumeric_of_isBlank blank, low, colon]

theorem ofWord?_eq_some_iff {w : List Char} {t : Lexeme} : ofWord? w = some t ↔ IsWord w t := by
  cases w with
  | nil => exact ⟨nofun, nofun⟩
  | cons c cs =>
    rw [ofWord?]
    split_ifs with digit
    · rw [Option.map_eq_some_iff]
      constructor
      · rintro ⟨n, literal, rfl⟩
        obtain ⟨integer, bound⟩ := literal?_eq_some_iff.mp literal
        exact .literal digit integer bound
      · rintro (⟨-, integer, bound⟩ | name)
        · exact ⟨_, literal?_eq_some_iff.mpr ⟨integer, bound⟩, rfl⟩
        · rw [digit] at name
          cases name
    · rw [Option.some.injEq]
      constructor
      · rintro rfl
        exact .name (by simpa using digit)
      · rintro (⟨literal, -, -⟩ | name)
        · exact absurd literal digit
        · rfl

/-- A mark begins with a character that belongs to no word and is no blank. -/
theorem mark_begins {m : List Char} {t : Lexeme} (mem : (m, t) ∈ marks) :
    ∃ c m', m = c :: m' ∧ isWordChar c = false ∧ isBlank c = false := by
  have all : ∀ a ∈ marks, a.1.head?.any fun c => !isWordChar c && !isBlank c := by decide
  have begins := all _ mem
  cases m with
  | nil => cases begins
  | cons c m => exact ⟨c, m, rfl, by simpa using begins⟩

/-- No mark begins with another one. -/
theorem mark_unique {m m' : List Char} {t t' : Lexeme} {cs cs' : List Char}
    (mem : (m, t) ∈ marks) (mem' : (m', t') ∈ marks) (same : m ++ cs = m' ++ cs') :
    m = m' ∧ t = t' := by
  have all : ∀ a ∈ marks, ∀ b ∈ marks, a.1.isPrefixOf b.1 → a = b := by decide
  have one : m <+: m' ∨ m' <+: m :=
    List.prefix_or_prefix_of_prefix (List.prefix_append m cs) (same ▸ List.prefix_append m' cs')
  rcases one with first | first
  · exact Prod.mk.inj (all _ mem _ mem' (List.isPrefixOf_iff_prefix.mpr first))
  · obtain ⟨rfl, rfl⟩ := Prod.mk.inj (all _ mem' _ mem (List.isPrefixOf_iff_prefix.mpr first))
    exact ⟨rfl, rfl⟩

/-- How a text begins that spells lexemes, with the class of its first character. -/
inductive Begins (c : Char) (cs : List Char) (ts : List Lexeme) : Prop where
  | blank : isBlank c → isWordChar c = false → Spells cs ts → Begins c cs ts
  | mark {m rest : List Char} {t : Lexeme} {ts' : List Lexeme} :
      isBlank c = false → isWordChar c = false → (m, t) ∈ marks →
      c :: cs = m ++ rest → ts = t :: ts' → Spells rest ts' → Begins c cs ts
  | word {w rest : List Char} {t : Lexeme} {ts' : List Lexeme} :
      isBlank c = false → isWordChar c → (∀ d ∈ w, isWordChar d) →
      (∀ d ∈ rest.head?, isWordChar d = false) → IsWord w t →
      c :: cs = w ++ rest → ts = t :: ts' → Spells rest ts' → Begins c cs ts

theorem Spells.begins {c : Char} {cs : List Char} {ts : List Lexeme}
    (spells : Spells (c :: cs) ts) : Begins c cs ts := by
  generalize same : c :: cs = text at spells
  cases spells with
  | nil => cases same
  | blank blank spells =>
    cases same
    exact .blank blank (isWordChar_of_isBlank blank) spells
  | mark mem spells =>
    obtain ⟨d, m', rfl, outside, ink⟩ := mark_begins mem
    obtain rfl := (List.cons.inj same).1
    exact .mark ink outside mem same rfl spells
  | word all ends word spells =>
    obtain ⟨d, w', rfl⟩ := word.eq_cons
    obtain rfl := (List.cons.inj same).1
    have inside : isWordChar c := all c List.mem_cons_self
    have ink : isBlank c = false := by
      refine Bool.eq_false_iff.mpr fun blank => ?_
      rw [isWordChar_of_isBlank blank] at inside
      cases inside
    exact .word ink inside all ends word same rfl spells

/-! ### Finding the lexemes -/

theorem flush_eq_some_iff {pending : List Char} {rest ts : List Lexeme} :
    flush pending rest = some ts ↔
      (pending = [] ∧ ts = rest) ∨ ∃ t, IsWord pending t ∧ ts = t :: rest := by
  unfold flush
  cases pending with
  | nil =>
    have no_word : ∀ t, ¬ IsWord [] t := nofun
    simp [no_word, eq_comm]
  | cons c cs =>
    have pending : (c :: cs).isEmpty = false := rfl
    rw [pending, if_neg Bool.false_ne_true, Option.map_eq_some_iff]
    simp only [ofWord?_eq_some_iff, List.cons_ne_nil, false_and, false_or]
    exact exists_congr fun t => and_congr_right fun _ => eq_comm

/-- A text spells its first word first. -/
theorem spells_append_iff {w cs : List Char} {ts : List Lexeme} (all : ∀ c ∈ w, isWordChar c)
    (ends : ∀ c ∈ cs.head?, isWordChar c = false) :
    Spells (w ++ cs) ts ↔ ∃ rest, Spells cs rest ∧ flush w rest = some ts := by
  simp only [flush_eq_some_iff]
  constructor
  · intro spells
    cases w with
    | nil => exact ⟨ts, spells, .inl ⟨rfl, rfl⟩⟩
    | cons c w =>
      have inside : isWordChar c := all c List.mem_cons_self
      cases spells.begins with
      | blank _ outside => exact absurd inside (by simp [outside])
      | mark _ outside => exact absurd inside (by simp [outside])
      | @word w' rest t ts' _ _ all' ends' word same listed spells =>
        obtain ⟨first, behind⟩ := takeWhile_append_of_head all ends
        obtain ⟨first', behind'⟩ := takeWhile_append_of_head all' ends'
        change c :: w ++ cs = w' ++ rest at same
        rw [same] at first behind
        obtain rfl := first.symm.trans first'
        obtain rfl := behind.symm.trans behind'
        exact ⟨ts', spells, .inr ⟨t, word, listed⟩⟩
  · rintro ⟨rest, spells, ⟨rfl, rfl⟩ | ⟨t, word, rfl⟩⟩
    · exact spells
    · exact .word all ends word spells

/-- A blank at the beginning counts for nothing. -/
theorem spells_blank_iff {c : Char} {cs : List Char} {ts : List Lexeme} (blank : isBlank c) :
    Spells (c :: cs) ts ↔ Spells cs ts := by
  refine ⟨fun spells => ?_, .blank blank⟩
  cases spells.begins with
  | blank _ _ spells => exact spells
  | mark ink => exact absurd blank (by simp [ink])
  | word ink => exact absurd blank (by simp [ink])

/-- A mark at the beginning is the first lexeme. -/
theorem spells_mark_iff {m cs : List Char} {t : Lexeme} {ts : List Lexeme}
    (mem : (m, t) ∈ marks) :
    Spells (m ++ cs) ts ↔ ∃ rest, Spells cs rest ∧ ts = t :: rest := by
  constructor
  · intro spells
    obtain ⟨c, m', rfl, outside, ink⟩ := mark_begins mem
    cases spells.begins with
    | blank blank => exact absurd blank (by simp [ink])
    | @mark m rest t' ts' _ _ mem' same listed spells =>
      change c :: m' ++ cs = m ++ rest at same
      obtain ⟨rfl, rfl⟩ := mark_unique mem mem' same
      obtain rfl := List.append_cancel_left same
      exact ⟨ts', spells, listed⟩
    | word _ inside => exact absurd inside (by simp [outside])
  · rintro ⟨rest, spells, rfl⟩
    exact .mark mem spells

/-- Anything else begins no lexeme. -/
theorem not_spells {c : Char} {cs : List Char} {ts : List Lexeme} (outside : isWordChar c = false)
    (ink : isBlank c = false) (unmarked : ∀ m t, (m, t) ∈ marks → ¬ m <+: c :: cs) :
    ¬ Spells (c :: cs) ts := by
  intro spells
  cases spells.begins with
  | blank blank => exact absurd blank (by simp [ink])
  | mark _ _ mem same => exact unmarked _ _ mem (same ▸ List.prefix_append _ _)
  | word _ inside => exact absurd inside (by simp [outside])

theorem single?_eq_some_iff {c : Char} {t : Lexeme} :
    single? c = some t ↔ ([c], t) ∈ marks := by
  unfold single?
  split <;> simp_all [marks, eq_comm]

/-- Where the pending characters end, they are the first word. -/
theorem bind_flush_eq_some_iff {pending cs : List Char} {ts : List Lexeme}
    {lexemes : Option (List Lexeme)} (all : ∀ c ∈ pending, isWordChar c)
    (ends : ∀ c ∈ cs.head?, isWordChar c = false)
    (found : ∀ rest, lexemes = some rest ↔ Spells cs rest) :
    lexemes.bind (flush pending) = some ts ↔ Spells (pending ++ cs) ts := by
  rw [spells_append_iff all ends, Option.bind_eq_some_iff]
  simp only [found]

/-- So they are where a mark follows. -/
theorem bind_flush_mark_eq_some_iff {pending m cs : List Char} {t : Lexeme} {ts : List Lexeme}
    {lexemes : Option (List Lexeme)} (all : ∀ c ∈ pending, isWordChar c) (mem : (m, t) ∈ marks)
    (found : ∀ rest, lexemes = some rest ↔ Spells cs rest) :
    (lexemes.bind fun rest => flush pending (t :: rest)) = some ts ↔
      Spells (pending ++ (m ++ cs)) ts := by
  have ends : ∀ c ∈ (m ++ cs).head?, isWordChar c = false := by
    obtain ⟨c, m', rfl, outside, -⟩ := mark_begins mem
    simpa using outside
  have found' : ∀ rest, lexemes.map (t :: ·) = some rest ↔ Spells (m ++ cs) rest := by
    intro rest
    rw [spells_mark_iff mem, Option.map_eq_some_iff]
    simp only [found, eq_comm]
  rw [← bind_flush_eq_some_iff all ends found', Option.bind_map]
  rfl

/-- Going through the characters finds the lexemes that they spell. -/
theorem lexFrom_eq_some_iff {pending cs : List Char} (all : ∀ c ∈ pending, isWordChar c)
    (ts : List Lexeme) : lexFrom pending cs = some ts ↔ Spells (pending ++ cs) ts := by
  have none : ∀ c ∈ ([] : List Char), isWordChar c := nofun
  fun_induction lexFrom pending cs generalizing ts with
  | case1 pending =>
    have nothing : ∀ rest, some [] = some rest ↔ Spells [] rest := by
      intro rest
      rw [Option.some.injEq]
      refine ⟨fun same => same ▸ .nil, fun spells => ?_⟩
      generalize same : ([] : List Char) = text at spells
      cases spells with
      | nil => rfl
      | blank => cases same
      | mark mem =>
        obtain ⟨c, m, rfl, -⟩ := mark_begins mem
        cases same
      | word _ _ word =>
        obtain ⟨c, w, rfl⟩ := word.eq_cons
        cases same
    exact bind_flush_eq_some_iff all (by simp) nothing
  | case2 pending cs ih =>
    exact bind_flush_mark_eq_some_iff (m := ['<', '<']) all (by decide) (ih none)
  | case3 pending cs ih =>
    exact bind_flush_mark_eq_some_iff (m := ['>', '>']) all (by decide) (ih none)
  | case4 pending c cs _ _ inside ih =>
    have all' : ∀ d ∈ pending ++ [c], isWordChar d := by
      simpa [or_imp, forall_and, inside] using all
    have longer := ih all' ts
    rwa [List.append_assoc] at longer
  | case5 pending c cs _ _ outside blank ih =>
    refine bind_flush_eq_some_iff all (by simpa using outside) fun rest => ?_
    rw [spells_blank_iff blank]
    exact ih none rest
  | case6 pending c cs left right outside ink ih =>
    rw [Bool.not_eq_true] at outside ink
    cases mark : single? c with
    | some t =>
      exact bind_flush_mark_eq_some_iff (m := [c]) all (single?_eq_some_iff.mp mark) (ih none)
    | none =>
      have unmarked : ∀ m t, (m, t) ∈ marks → ¬ m <+: c :: cs := by
        rintro m t mem ⟨rest, same⟩
        have kinds : ∀ a ∈ marks, a.1.length = 1 ∨ a.1 = ['<', '<'] ∨ a.1 = ['>', '>'] := by decide
        rcases kinds _ mem with one | shift | shift
        · obtain ⟨d, rfl⟩ := List.length_eq_one_iff.mp one
          obtain rfl := (List.cons.inj same).1
          exact Option.some_ne_none t ((single?_eq_some_iff.mpr mem).symm.trans mark)
        · obtain rfl : m = _ := shift
          exact left rest (List.cons.inj same).1.symm (List.cons.inj same).2.symm
        · obtain rfl : m = _ := shift
          exact right rest (List.cons.inj same).1.symm (List.cons.inj same).2.symm
      rw [Option.bind_none, spells_append_iff all (by simpa using outside)]
      simp [not_spells outside ink unmarked]

/-- The lexemes of a text are those that it spells. -/
theorem lex_eq_some_iff {text : String} {ts : List Lexeme} :
    lex text = some ts ↔ Spells text.toList ts := by
  have none : ∀ c ∈ ([] : List Char), isWordChar c := nofun
  exact lexFrom_eq_some_iff none ts

end Constant

end Reflectory
