/-
Cutting texts: blanks or other characters off the ends, a fixed text off the
front, one text for another, one text at the places where a character stands.

Everything is a function on the list of characters; the versions on `String`
only convert.
-/

import Reflectory.Text.CharClass

namespace Reflectory.Text

/-- Drops the characters of a class from the end. -/
def dropEndWhile (p : Char → Bool) (cs : List Char) : List Char :=
  (cs.reverse.dropWhile p).reverse

/-- What is dropped from the end belongs to the class. -/
theorem exists_eq_dropEndWhile_append (p : Char → Bool) (cs : List Char) :
    ∃ suffix, (∀ c ∈ suffix, p c) ∧ cs = dropEndWhile p cs ++ suffix := by
  refine ⟨(cs.reverse.takeWhile p).reverse, fun c mem => ?_, ?_⟩
  · exact List.all_eq_true.mp List.all_takeWhile c (List.mem_reverse.mp mem)
  · rw [dropEndWhile, ← List.reverse_append, List.takeWhile_append_dropWhile, List.reverse_reverse]

theorem dropEndWhile_append {p : Char → Bool} {body suffix : List Char}
    (dropped : ∀ c ∈ suffix, p c) (kept : ∀ c ∈ body.getLast?, p c = false) :
    dropEndWhile p (body ++ suffix) = body := by
  rw [dropEndWhile, List.reverse_append,
    List.dropWhile_append_of_pos fun c mem => dropped c (List.mem_reverse.mp mem)]
  rw [← List.head?_reverse] at kept
  cases back : body.reverse with
  | nil => simpa using back.symm
  | cons c cs =>
    rw [back] at kept
    rw [List.dropWhile_cons_of_neg (by simp [kept c rfl]), ← back, List.reverse_reverse]

/-- The first elements of a class, up to one that is not of it. -/
theorem takeWhile_append_of_head {α : Type} {p : α → Bool} {w cs : List α} (all : ∀ c ∈ w, p c)
    (ends : ∀ c ∈ cs.head?, p c = false) :
    (w ++ cs).takeWhile p = w ∧ (w ++ cs).dropWhile p = cs := by
  rw [List.takeWhile_append_of_pos all, List.dropWhile_append_of_pos all]
  cases cs with
  | nil => simp
  | cons c cs => simp [ends c rfl]

/-- Drops the characters of a class from both ends. -/
def trimWhile (p : Char → Bool) (cs : List Char) : List Char :=
  dropEndWhile p (cs.dropWhile p)

/-- Without blanks at both ends. -/
def trim (s : String) : String :=
  String.ofList (trimWhile isBlank s.toList)

/-- Without blanks at the end. -/
def trimEnd (s : String) : String :=
  String.ofList (dropEndWhile isBlank s.toList)

/-- What follows `pre`, if the list starts with it. -/
def after? {α : Type} [BEq α] : List α → List α → Option (List α)
  | [], cs => some cs
  | _ :: _, [] => none
  | p :: pre, c :: cs => if p == c then after? pre cs else none

theorem after?_eq_some_iff {α : Type} [BEq α] [LawfulBEq α] {pre cs rest : List α} :
    after? pre cs = some rest ↔ cs = pre ++ rest := by
  induction pre generalizing cs with
  | nil => simp [after?, eq_comm]
  | cons p pre ih =>
    cases cs with
    | nil => simp [after?]
    | cons c cs =>
      by_cases same : p = c
      · simp [after?, same, ih]
      · simp [after?, same, Ne.symm same]

/-- What follows `pre`, if the text starts with it. -/
def stripPrefix? (pre s : String) : Option String :=
  (after? pre.toList s.toList).map String.ofList

/-- What precedes `post`, if the text ends with it. -/
def stripSuffix? (post s : String) : Option String :=
  (after? post.toList.reverse s.toList.reverse).map fun cs => String.ofList cs.reverse

/-- What follows the last occurrence of `mark`. -/
def afterLast? {α : Type} [BEq α] (mark : List α) : List α → Option (List α)
  | [] => after? mark []
  | c :: cs => afterLast? mark cs <|> after? mark (c :: cs)

/-- What precedes the last occurrence of `mark`. -/
def beforeLast? {α : Type} [BEq α] (mark : List α) : List α → Option (List α)
  | [] => (after? mark []).map fun _ => []
  | c :: cs =>
    ((beforeLast? mark cs).map (c :: ·)) <|> (after? mark (c :: cs)).map fun _ => []

/-- The characters with every occurrence of the nonempty list `old`, taken from
the left, replaced; `skip` characters of an occurrence are still to be passed. -/
def replaceFrom (old new : List Char) : Nat → List Char → List Char
  | _, [] => []
  | skip + 1, _ :: cs => replaceFrom old new skip cs
  | 0, c :: cs =>
    if old.isPrefixOf (c :: cs) then new ++ replaceFrom old new (old.length - 1) cs
    else c :: replaceFrom old new 0 cs

/-- The text with every occurrence of the nonempty `old`, taken from the left,
replaced by `new`. -/
def replaceAll (old new s : String) : String :=
  String.ofList (replaceFrom old.toList new.toList 0 s.toList)

/-- The parts between the places where a character of the class stands. -/
def splitAt (p : Char → Bool) : List Char → List (List Char)
  | [] => [[]]
  | c :: cs =>
    if p c then [] :: splitAt p cs
    else
      match splitAt p cs with
      | [] => [[c]]
      | part :: parts => (c :: part) :: parts

/-- The texts one after another with `sep` between them. -/
def join (sep : String) : List String → String
  | [] => ""
  | [s] => s
  | s :: rest => s ++ sep ++ join sep rest

/-- The texts, each ended by a newline. -/
def unlines (lines : List String) : String :=
  String.join (lines.map (· ++ "\n"))

end Reflectory.Text
