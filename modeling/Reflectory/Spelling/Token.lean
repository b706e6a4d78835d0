/-
Tokens of type spellings.

A word is a maximal run of letters, digits, low lines and `::`; every other
character that is no blank is a token of its own. `tokenize` reads a spelling,
`render` writes the canonical spelling of a token list: one space between
words, before `*` and `&`, inside angle brackets and after commas, and none
anywhere else. Blanks in the input have no other effect than to end a word, so
the characters of the tokens are those of the input without its blanks
(`inked_letters_scan`).
-/

import Reflectory.Text.CharClass

namespace Reflectory.Spelling

open Text

/-- A word, such as `scene::Node` or `const`, or a single other character. -/
inductive Token where
  | word (text : List Char)
  | mark (c : Char)
  deriving DecidableEq, Repr

namespace Token

/-- The characters of a token. -/
def text : Token → List Char
  | word cs => cs
  | mark c => [c]

/-- Whether the token is this word. -/
def isWord (t : Token) (s : String) : Bool :=
  t == word s.toList

/-- Whether the token is `*` or `&`. -/
def isIndirection : Token → Bool
  | mark '*' | mark '&' => true
  | _ => false

/-- Whether the token is a word that starts with `::`. -/
def isGlobal : Token → Bool
  | word (':' :: ':' :: _) => true
  | _ => false

end Token

/-- Characters of words, besides `::`. -/
def isNameChar (c : Char) : Bool :=
  isAlphanumeric c || c = '_'

/-! ### Reading -/

/-- The pending characters as a word, if there are any. -/
def flush (pending : List Char) : List Token :=
  if pending.isEmpty then [] else [.word pending]

/-- The tokens of the characters, after the characters of a word that may go
on. -/
def scan : List Char → List Char → List Token
  | pending, [] => flush pending
  | pending, ':' :: ':' :: cs => scan (pending ++ [':', ':']) cs
  | pending, c :: cs =>
    if isNameChar c then scan (pending ++ [c]) cs
    else flush pending ++ (if isBlank c then [] else [.mark c]) ++ scan [] cs

/-- The tokens of a type spelling. -/
def tokenize (s : String) : List Token :=
  scan [] s.toList

/-! ### Writing -/

/-- Whether a space stands between two neighbouring tokens. -/
def spaced (left right : Token) : Bool :=
  left == .mark '<' || left == .mark ',' || right == .mark '>' ||
    if right.isIndirection then !left.isIndirection
    else
      match left, right with
      | .word _, .word _ => true
      | .mark '>', .word _ => !right.isGlobal
      | .mark _, .word _ => left.isIndirection
      | _, _ => false

/-- The canonical characters of the tokens that follow `left`. -/
def renderAfter : Token → List Token → List Char
  | _, [] => []
  | left, t :: ts =>
    (if spaced left t then [' '] else []) ++ t.text ++ renderAfter t ts

/-- The canonical characters of a token list. -/
def renderChars : List Token → List Char
  | [] => []
  | t :: ts => t.text ++ renderAfter t ts

/-- The canonical spelling of a token list. -/
def render (ts : List Token) : String :=
  String.ofList (renderChars ts)

/-! ### Ink

The ink of a text is what is left without its blanks. Reading and writing keep
it, and cutting tokens away never adds to it, so functions that take a spelling
apart and read the parts again end. -/

/-- The characters of all tokens, with nothing between them. -/
def letters (ts : List Token) : List Char :=
  ts.flatMap Token.text

/-- The characters that are no blanks. -/
def inked (cs : List Char) : List Char :=
  cs.filter fun c => !isBlank c

/-- The number of characters of a text that are no blanks. -/
def ink (s : String) : Nat :=
  (inked s.toList).length

@[simp] theorem inked_append (xs ys : List Char) : inked (xs ++ ys) = inked xs ++ inked ys := by
  simp [inked]

theorem letters_append (xs ys : List Token) :
    letters (xs ++ ys) = letters xs ++ letters ys := by
  simp [letters]

@[simp] theorem letters_cons (t : Token) (ts : List Token) :
    letters (t :: ts) = t.text ++ letters ts := by
  simp [letters]

theorem letters_flush (pending : List Char) : letters (flush pending) = pending := by
  cases pending <;> simp [letters, flush, Token.text]

/-- A text and its tokens have the same characters, blanks apart. -/
theorem inked_letters_scan (pending cs : List Char) :
    inked (letters (scan pending cs)) = inked pending ++ inked cs := by
  fun_induction scan pending cs with
  | case1 pending => simp [letters_flush, inked]
  | case2 pending cs ih =>
    rw [ih, ← inked_append, List.append_assoc, inked_append]
    rfl
  | case3 pending c cs _ hc ih =>
    rw [ih, ← inked_append, List.append_assoc, inked_append]
    rfl
  | case4 pending c cs _ hc ih =>
    rw [letters_append, letters_append, letters_flush, inked_append, inked_append, ih,
      List.append_assoc]
    by_cases hb : isBlank c <;> simp [hb, inked, letters, Token.text]

theorem inked_renderAfter (left : Token) (ts : List Token) :
    inked (renderAfter left ts) = inked (letters ts) := by
  fun_induction renderAfter left ts with
  | case1 => rfl
  | case2 left t ts ih =>
    have hspace : inked (if spaced left t then [' '] else []) = [] := by
      split <;> rfl
    rw [inked_append, inked_append, hspace, ih, letters_cons, inked_append]
    rfl

/-- Writing tokens adds blanks only. -/
theorem inked_renderChars (ts : List Token) : inked (renderChars ts) = inked (letters ts) := by
  cases ts with
  | nil => rfl
  | cons t ts => simp [renderChars, inked_renderAfter]

theorem ink_render (ts : List Token) : ink (render ts) = (inked (letters ts)).length := by
  simp [ink, render, inked_renderChars]

theorem inked_letters_tokenize (s : String) : (inked (letters (tokenize s))).length = ink s := by
  rw [tokenize, inked_letters_scan]
  rfl

theorem letters_sublist {xs ys : List Token} (h : xs.Sublist ys) :
    (letters xs).Sublist (letters ys) := by
  induction h with
  | slnil => exact .refl _
  | cons t _ ih => exact ih.trans (List.sublist_append_right _ _)
  | cons_cons t _ ih => exact ih.append_left _

/-- Leaving tokens out adds no ink. -/
theorem ink_render_le_of_sublist {xs ys : List Token} (h : xs.Sublist ys) :
    ink (render xs) ≤ (inked (letters ys)).length := by
  rw [ink_render]
  exact ((letters_sublist h).filter _).length_le

end Reflectory.Spelling
