/-
How much room the automaton of a pattern takes.

A pattern is carried out by an automaton on bytes. `Part.ofPattern` says what it
is made of: states whose number is known, characters beyond ASCII, and
repetitions, which are written out. There is one automaton for reading forward,
with states where groups begin and end, and one for reading backward.

A set of characters beyond ASCII takes a path for each of its sequences of
bytes, and the paths share states. Forward, states are shared that lead to the
same states in the same ways; backward, those that are reached in the same way.
Shared states are looked for in a table with a fixed number of places, where a
later state takes the place of an earlier one; so the room of a set depends on
how many states there were before.
-/

import Reflectory.Pattern.Basic
import Reflectory.Pattern.Bytes
import Reflectory.Pattern.Trie
import Std.Data.HashMap

namespace Reflectory.Pattern

/-! ### Tables of shared states -/

/-- A way from a state: a range of bytes, and the state that it leads to. -/
structure Way where
  range : ByteRange
  target : Nat
  deriving DecidableEq

/-- Mixes a number into another one. -/
def mix (h : UInt64) (n : Nat) : UInt64 :=
  (h ^^^ n.toUInt64) * 1099511628211

/-- What numbers are mixed into. -/
def mixStart : UInt64 := 14695981039346656037

/-- The states made so far, and those that can be found again, by their places. -/
structure Sharing (κ : Type) where
  room : Room
  slots : Std.HashMap Nat (κ × Nat) := {}

namespace Sharing

variable {κ : Type}

/-- Makes a state at a place; its list takes some room. -/
def make (s : Sharing κ) (key : κ) (slot lists : Nat) : Nat × Sharing κ :=
  (s.room.states, ⟨s.room.add ⟨1, lists⟩, s.slots.insert slot (key, s.room.states)⟩)

/-- The state that something describes: the one at its place, or a new one. -/
def state [DecidableEq κ] (s : Sharing κ) (key : κ) (slot lists : Nat) : Nat × Sharing κ :=
  match s.slots[slot]? with
  | some (other, found) => if other = key then (found, s) else s.make key slot lists
  | none => s.make key slot lists

end Sharing

/-! ### Characters, reading forward -/

/-- The state of these ways, which has 10,000 places in its table. -/
def Sharing.stateOfWays (s : Sharing (List Way)) (ways : List Way) :
    Nat × Sharing (List Way) :=
  let add (h : UInt64) (w : Way) : UInt64 := mix (mix (mix h w.range.first) w.range.last) w.target
  s.state ways (ways.foldl add mixStart % 10000).toNat (Room.ways ways.length)

/-- A state that is still being made: its ways, and a last range of bytes whose
target is not known. -/
structure OpenState where
  ways : List Way := []
  last? : Option ByteRange := none

/-- All ways, once the target of the last one is known. -/
def OpenState.waysTo (o : OpenState) (target : Nat) : List Way :=
  match o.last? with
  | some range => o.ways ++ [⟨range, target⟩]
  | none => o.ways

/-- Makes the states of a path from its end; `target` is where the path ends. -/
def finish (target : Nat) :
    List OpenState → Sharing (List Way) → Nat × Sharing (List Way)
  | [], s => (target, s)
  | o :: os, s =>
    let (next, s) := finish target os s
    s.stateOfWays (o.waysTo next)

/-- Adds a sequence of bytes: what it has in common with the path of the sequence
before stays open, the rest of that path is made. -/
def addSequence (target : Nat) :
    List OpenState → List ByteRange → Sharing (List Way) → List OpenState × Sharing (List Way)
  | o :: os, r :: rs, s =>
    if o.last? = some r then
      let (os, s) := addSequence target os rs s
      (o :: os, s)
    else
      let (next, s) := finish target os s
      (⟨o.waysTo next, some r⟩ :: rs.map fun r => { last? := some r }, s)
  | _, rs, s => (rs.map fun r => { last? := some r }, s)

/-- The room with a set of characters added, reading forward: its end, and the
states of its sequences. -/
def charactersForward (sequences : List (List ByteRange)) (room : Room) : Room :=
  let target := room.states
  let start : List OpenState × Sharing (List Way) := ([{}], { room := room.add ⟨1, 0⟩ })
  let (path, s) := sequences.foldl (fun (path, s) rs => addSequence target path rs s) start
  (finish target path s).2.room

/-! ### Characters, reading backward -/

/-- The state that a way leads from, which has 1,000 places in its table. -/
def Sharing.stateBefore (s : Sharing Way) (w : Way) : Nat × Sharing Way :=
  let h := mix (mix (mix mixStart w.target) w.range.first) w.range.last
  s.state w (h % 1000).toNat 0

/-- The room with a set of characters added, reading backward: a state with an
alternative for each sequence, an end, and the states of the sequences. -/
def charactersBackward (sequences : List (List ByteRange)) (room : Room) : Room :=
  let target := room.states + 1
  let lists := Room.alternatives sequences.length
  let start : Sharing Way := { room := room.add ⟨2, lists⟩ }
  let add (s : Sharing Way) (rs : List ByteRange) : Sharing Way :=
    (rs.foldl (fun (next, s) r => s.stateBefore ⟨r, next⟩) (target, s)).2
  (sequences.foldl add start).room

/-! ### Parts -/

/-- What an automaton is made of. -/
inductive Part where
  /-- States whose room is known. -/
  | fixed (room : Room)
  /-- Characters beyond ASCII, by their sequences of bytes. -/
  | characters (sequences : List (List ByteRange))
  | row (parts : List Part)
  | times (n : Nat) (part : Part)

namespace Part

/-- Parts one after another. -/
def cons : Part → Part → Part
  | fixed r, fixed s => fixed (r.add s)
  | fixed r, row (fixed s :: parts) => row (fixed (r.add s) :: parts)
  | p, row parts => row (p :: parts)
  | p, q => row [p, q]

/-- Several parts one after another. -/
def ofList (parts : List Part) : Part :=
  parts.foldr cons (fixed {})

/-- A part that is there `n` times. -/
def copies (n : Nat) : Part → Part
  | fixed r => fixed (r.times n)
  | p => times n p

/-- So many states without lists. -/
def states (n : Nat) : Part :=
  fixed ⟨n, 0⟩

/-- A state with a list of so many alternatives. -/
def choosing (n : Nat) : Part :=
  fixed ⟨1, Room.alternatives n⟩

/-- The bytes of a literal. -/
def bytes (cs : List Char) : List Nat :=
  cs.flatMap fun c => utf8 c.toNat

/-- The bytes of a pattern that is a literal. -/
def bytes? : Pattern → Option (List Nat)
  | literal cs => some (bytes cs)
  | _ => none

/-- A repetition: the least number of copies, and one that may be left out for each
further copy, or one that may be run through again. -/
def repetition (least : Nat) (most? : Option Nat) (takesSome : Bool) (part : Part) : Part :=
  match least, most? with
  | 0, some 1 => ofList [choosing 2, part, states 1]
  | 0, none =>
    if takesSome then ofList [choosing 2, part]
    else ofList [part, choosing 2, choosing 2, states 1]
  | _, none => ofList [copies least part, choosing 2]
  | _, some most =>
    if least = most then copies least part
    else
      ofList [if least = 0 then states 1 else copies least part, states 1,
        copies (most - least) (ofList [choosing 2, part])]

/-- A choice between parts: behind the second one come a state with the
alternatives, and the end. -/
def alternatives : List Part → Part
  | p :: q :: rest => ofList (p :: q :: choosing (rest.length + 2) :: states 1 :: rest)
  | parts => ofList parts

mutual

/-- What the automaton of a pattern is made of. -/
def ofPattern (backward : Bool) : Pattern → Part
  | empty | anchor _ => states 1
  | literal cs => states (bytes cs).length
  | set _ s =>
    if s.isAscii then fixed ⟨2, Room.ways s.intervals.length⟩
    else characters s.byteSequences
  | repeated least most? _ p =>
    repetition least most? (p.leastLength?.any (0 < ·)) (ofPattern backward p)
  | capture _ p =>
    if backward then ofPattern backward p
    else ofList [states 1, ofPattern backward p, states 1]
  | concat ps =>
    let parts := ofPatterns backward ps
    ofList (if backward then parts.reverse else parts)
  | choice ps =>
    match ps.mapM bytes? with
    | some literals =>
      let ordered := if backward then literals.map List.reverse else literals
      fixed ((Trie.ofLiterals ordered).room.add ⟨1, 0⟩)
    | none => alternatives (ofPatterns backward ps)

/-- What the automata of some patterns are made of. -/
def ofPatterns (backward : Bool) : List Pattern → List Part
  | [] => []
  | p :: ps => ofPattern backward p :: ofPatterns backward ps

end

/-- Takes room `n` times, while there is any. -/
def takeTimes (take : Room → Option Room) : Nat → Room → Option Room
  | 0, r => some r
  | n + 1, r => (take r).bind (takeTimes take n)

mutual

/-- The room with a part added, unless there is too little. -/
def room? (backward : Bool) : Part → Room → Option Room
  | fixed s, r => (r.add s).checked
  | characters sequences, r =>
    (if backward then charactersBackward sequences r else charactersForward sequences r).checked
  | row parts, r => roomOfAll? backward parts r
  | times n part, r => takeTimes (room? backward part) n r

/-- The room with several parts added, unless there is too little. -/
def roomOfAll? (backward : Bool) : List Part → Room → Option Room
  | [], r => some r
  | p :: ps, r => (room? backward p r).bind (roomOfAll? backward ps)

end

end Part

/-! ### Whole automata -/

mutual

/-- Whether the pattern only matches where `a` holds: at the beginning of every
match or, backward, at its end. What is only in a choice counts in all
alternatives only. -/
def isBoundBy (backward : Bool) (a : Anchor) : Pattern → Bool
  | empty | literal _ | set _ _ => false
  | anchor b => b = a
  | repeated least _ _ p => 0 < least && p.isBoundBy backward a
  | capture _ p => p.isBoundBy backward a
  | concat ps => concatIsBoundBy backward a ps
  | choice ps => choiceIsBoundBy backward a ps

/-- Whether one of the parts of a sequence is bound, and nothing between it and the
beginning, or the end, takes a character. -/
def concatIsBoundBy (backward : Bool) (a : Anchor) : List Pattern → Bool
  | [] => false
  | p :: ps =>
    if backward then
      concatIsBoundBy backward a ps || (allOnlyEmpty ps && p.isBoundBy backward a)
    else p.isBoundBy backward a || (p.onlyEmpty && concatIsBoundBy backward a ps)

/-- Whether all alternatives are bound. -/
def choiceIsBoundBy (backward : Bool) (a : Anchor) : List Pattern → Bool
  | [] => true
  | p :: ps => p.isBoundBy backward a && choiceIsBoundBy backward a ps

end

/-- What the whole automaton is made of. Unless the pattern is bound to where the
text begins or, backward, where it ends, a loop passes what is in front. -/
def wholePart (backward : Bool) (p : Pattern) : Part :=
  let bound := p.isBoundBy backward (if backward then .textEnd else .textStart)
  let front := if bound then Part.states 1
    else Part.fixed ⟨3, Room.alternatives 2 + Room.ways 1⟩
  Part.ofList [front, Part.ofPattern backward (.capture 0 p), Part.states 1]

/-- Whether there is room for both automata of a pattern. -/
def hasRoom (p : Pattern) : Bool :=
  [false, true].all fun backward => ((wholePart backward p).room? backward {}).isSome

end Reflectory.Pattern
