/-
Patterns and what they match.

A pattern relates positions of a text: `Pattern.reach` gives the positions that
it can lead to from a set of positions. A text matches if any of its positions
leads anywhere (`Pattern.matchesIn`); a pattern that is to match the whole text
says so by its own anchors.

Sequences, choices and repetitions are built by `ofSet`, `sequence`, `choices`
and `repetition`, which keep patterns small: neighbouring literals are one,
sequences and choices are flat, choices between characters are sets.
-/

import Reflectory.Pattern.Class.Shorthand

namespace Reflectory.Pattern

/-- Conditions on a position that take no character. -/
inductive Anchor where
  | textStart
  | textEnd
  /-- After a line feed or at the start; with `crlf`, carriage returns end lines
  too. -/
  | lineStart (crlf : Bool)
  | lineEnd (crlf : Bool)
  /-- Between a character of a word and another one. -/
  | wordBoundary (ascii : Bool)
  | notWordBoundary (ascii : Bool)
  | wordStart (ascii : Bool)
  | wordEnd (ascii : Bool)
  /-- Before the position there is no character of a word. -/
  | wordStartHalf (ascii : Bool)
  | wordEndHalf (ascii : Bool)
  deriving DecidableEq, Repr

/-- Whether the condition holds between two characters of a text. -/
def Anchor.holds (a : Anchor) (before after : Option Char) : Bool :=
  let inWord (ascii : Bool) (c : Option Char) : Bool :=
    c.any (if ascii then asciiWordChars else wordChars).has
  match a with
  | textStart => before.isNone
  | textEnd => after.isNone
  | lineStart false => before.isNone || before == some '\n'
  | lineStart true =>
    before.isNone || before == some '\n' || (before == some '\r' && after != some '\n')
  | lineEnd false => after.isNone || after == some '\n'
  | lineEnd true =>
    after.isNone || after == some '\r' || (after == some '\n' && before != some '\r')
  | wordBoundary ascii => inWord ascii before != inWord ascii after
  | notWordBoundary ascii => inWord ascii before == inWord ascii after
  | wordStart ascii => !inWord ascii before && inWord ascii after
  | wordEnd ascii => inWord ascii before && !inWord ascii after
  | wordStartHalf ascii => !inWord ascii before
  | wordEndHalf ascii => !inWord ascii after

end Pattern

/-- A pattern on texts. -/
inductive Pattern where
  | empty
  /-- Characters one after another. -/
  | literal (cs : List Char)
  /-- A character of a set; `ascii` says that it was written where only ASCII
  characters count. -/
  | set (ascii : Bool) (s : Pattern.CharSet)
  | anchor (a : Pattern.Anchor)
  /-- From `least` repetitions on, up to `most` if that is given. -/
  | repeated (least : Nat) (most? : Option Nat) (greedy : Bool) (p : Pattern)
  /-- A group with a number of its own. -/
  | capture (number : Nat) (p : Pattern)
  | concat (ps : List Pattern)
  | choice (ps : List Pattern)

namespace Pattern

/-! ### Matching -/

/-- The positions of both lists, each once. -/
def joinPositions (xs ys : List Nat) : List Nat :=
  xs ++ ys.filter fun y => !xs.contains y

/-- Takes exactly `n` steps; ends early where a step leads nowhere new. -/
def steps (next : List Nat → List Nat) : Nat → List Nat → List Nat
  | 0, at_ => at_
  | n + 1, at_ =>
    let reached := next at_
    if reached = at_ then at_ else steps next n reached

/-- Takes up to `n` steps, and keeps every position met on the way. -/
def stepsUpTo (next : List Nat → List Nat) : Nat → List Nat → List Nat → List Nat
  | 0, met, _ => met
  | n + 1, met, at_ =>
    let new := (next at_).filter fun i => !met.contains i
    if new.isEmpty then met else stepsUpTo next n (joinPositions met new) new

/-- The positions after one more character, where it is in the set. -/
def advance (text : List Char) (accepts : Char → Bool) (at_ : List Nat) : List Nat :=
  (at_.filter fun i => text[i]?.any accepts).map (· + 1)

mutual

/-- The positions that the pattern leads to from the given ones. -/
def reach (text : List Char) : Pattern → List Nat → List Nat
  | empty, at_ => at_
  | literal cs, at_ => cs.foldl (fun at_ c => advance text (· = c) at_) at_
  | set _ s, at_ => advance text s.has at_
  | anchor a, at_ =>
    at_.filter fun i => a.holds (if i = 0 then none else text[i - 1]?) text[i]?
  | repeated least most? _ p, at_ =>
    let met := steps (p.reach text) least at_
    let more := match most? with
      | some most => most - least
      | none => text.length + 1
    stepsUpTo (p.reach text) more met met
  | capture _ p, at_ => p.reach text at_
  | concat ps, at_ => reachAll text ps at_
  | choice ps, at_ => reachAny text ps at_

/-- The positions that the patterns lead to one after another. -/
def reachAll (text : List Char) : List Pattern → List Nat → List Nat
  | [], at_ => at_
  | p :: ps, at_ => reachAll text ps (p.reach text at_)

/-- The positions that any of the patterns leads to. -/
def reachAny (text : List Char) : List Pattern → List Nat → List Nat
  | [], _ => []
  | p :: ps, at_ => joinPositions (p.reach text at_) (reachAny text ps at_)

end

/-- Whether the pattern matches anywhere in the text. -/
def matchesIn (p : Pattern) (text : String) : Bool :=
  !(p.reach text.toList (List.range (text.toList.length + 1))).isEmpty

/-! ### Comparing -/

mutual

/-- Whether two patterns are the same. -/
def same : Pattern → Pattern → Bool
  | empty, empty => true
  | literal cs, literal ds => cs = ds
  | set a s, set b t => a = b && s = t
  | anchor a, anchor b => a = b
  | repeated l m g p, repeated l' m' g' q => l = l' && m = m' && g = g' && p.same q
  | capture n p, capture k q => n = k && p.same q
  | concat ps, concat qs | choice ps, choice qs => sameAll ps qs
  | _, _ => false

/-- Whether two lists of patterns are the same. -/
def sameAll : List Pattern → List Pattern → Bool
  | [], [] => true
  | p :: ps, q :: qs => p.same q && sameAll ps qs
  | _, _ => false

end

/-- The length of the longest beginning that two lists have in common. -/
def commonLength : List Pattern → List Pattern → Nat
  | p :: ps, q :: qs => if p.same q then commonLength ps qs + 1 else 0
  | _, _ => 0

/-! ### Lengths of matches -/

mutual

/-- Whether every match is empty. -/
def onlyEmpty : Pattern → Bool
  | empty | anchor _ => true
  | literal cs => cs.isEmpty
  | set _ _ => false
  | repeated _ most? _ p => most?.isSome && p.onlyEmpty
  | capture _ p => p.onlyEmpty
  | concat ps => allOnlyEmpty ps
  | choice ps => allOnlyEmpty ps

/-- Whether every match of every pattern is empty. -/
def allOnlyEmpty : List Pattern → Bool
  | [] => true
  | p :: ps => p.onlyEmpty && allOnlyEmpty ps

end

mutual

/-- The length of the shortest match. A part that nothing matches has none. -/
def leastLength? : Pattern → Option Nat
  | empty | anchor _ => some 0
  | literal cs => some cs.length
  | set _ s => if s.intervals.isEmpty then none else some 1
  | repeated least _ _ p => p.leastLength?.map (least * ·)
  | capture _ p => p.leastLength?
  | concat ps => (leastLengths? ps).map List.sum
  | choice ps => (leastLengths? ps).bind List.min?

/-- The lengths of the shortest matches, if all patterns have one. -/
def leastLengths? : List Pattern → Option (List Nat)
  | [] => some []
  | p :: ps => p.leastLength?.bind fun n => (leastLengths? ps).map (n :: ·)

end

/-! ### Building patterns -/

/-- The pattern that nothing matches. -/
def nothing : Pattern :=
  set true .empty

/-- A character of a set: a literal if there is just one. -/
def ofSet (ascii : Bool) (s : CharSet) : Pattern :=
  match s.single? with
  | some c => literal [c]
  | none => if s.intervals.isEmpty then nothing else set ascii s

/-- Puts a literal in front of a sequence. -/
def consLiteral (cs : List Char) : List Pattern → List Pattern
  | literal ds :: ps => literal (cs ++ ds) :: ps
  | ps => literal cs :: ps

/-- Joins neighbouring literals, and drops the empty pattern. -/
def joinLiterals : List Pattern → List Pattern
  | [] => []
  | empty :: ps => joinLiterals ps
  | literal cs :: ps => consLiteral cs (joinLiterals ps)
  | p :: ps => p :: joinLiterals ps

/-- The parts of a sequence. -/
def parts : Pattern → List Pattern
  | concat ps => ps
  | p => [p]

/-- Patterns one after another. -/
def sequence (ps : List Pattern) : Pattern :=
  match joinLiterals (ps.flatMap parts) with
  | [] => empty
  | [p] => p
  | ps => concat ps

/-- A repetition. What only matches the empty text is repeated once at most. -/
def repetition (least : Nat) (most? : Option Nat) (greedy : Bool) (p : Pattern) : Pattern :=
  let least := if p.onlyEmpty then min least 1 else least
  let most? := if p.onlyEmpty then some (min (most?.getD 1) 1) else most?
  if least = 0 && most? = some 0 then empty
  else if least = 1 && most? = some 1 then p
  else repeated least most? greedy p

/-- The alternatives of a choice. -/
def alternatives : Pattern → List Pattern
  | choice ps => ps
  | p => [p]

/-- The character of a literal that has just one. -/
def singleLiteral? : Pattern → Option Char
  | literal [c] => some c
  | _ => none

/-- The set of a pattern that is one. -/
def set? : Pattern → Option CharSet
  | set _ s => some s
  | _ => none

/-- The parts of a sequence that has more than one. -/
def concat? : Pattern → Option (List Pattern)
  | concat ps => some ps
  | _ => none

/-- A choice that is made smaller where all alternatives are characters, or all
are sets. -/
def choiceOfSets (ps : List Pattern) : Pattern :=
  match ps.flatMap alternatives with
  | [] => nothing
  | [p] => p
  | ps =>
    match ps.mapM singleLiteral?, ps.mapM set? with
    | some cs, _ => ofSet false (.unions (cs.map .single))
    | none, some sets => ofSet false (.unions sets)
    | none, none => choice ps

/-- A choice. If all alternatives are sequences that begin in the same way, the
common beginning comes before the choice. -/
def choices (ps : List Pattern) : Pattern :=
  match choiceOfSets ps with
  | choice ps =>
    match ps.mapM concat? with
    | some (first :: others) =>
      match (others.map (commonLength first)).foldl min first.length with
      | 0 => choice ps
      | n =>
        let rests := (first :: others).map fun parts => sequence (parts.drop n)
        sequence (first.take n ++ [choiceOfSets rests])
    | _ => choice ps
  | p => p

end Pattern

end Reflectory
