/-
Choices between literals, read byte by byte from their common beginnings.

Where a literal ends its place is closed: the ways that were there before come
first, and later literals begin a new list of ways. `Trie.room` is the room that
the states for all places take.
-/

import Reflectory.Pattern.Room

namespace Reflectory.Pattern

/-- A place in a choice between literals, with the ways to further places. -/
inductive Trie where
  | node (closed : List (List (Nat × Trie))) (ways : List (Nat × Trie))

namespace Trie

/-- The lists of ways that were closed. -/
def closed : Trie → List (List (Nat × Trie))
  | node closed _ => closed

/-- The ways that were not closed. -/
def ways : Trie → List (Nat × Trie)
  | node _ ways => ways

/-- The place where all literals begin. -/
def start : Trie := node [] []

/-- Whether nothing leads away from a place. -/
def isLeaf (t : Trie) : Bool :=
  t.ways.isEmpty && t.closed.all List.isEmpty

/-- Closes the place where a literal ends, unless it is closed and a leaf. -/
def close (t : Trie) : Trie :=
  if t.isLeaf && !t.closed.isEmpty then t else node (t.closed ++ [t.ways]) []

/-- Adds a literal by its bytes. -/
def insert : List Nat → Trie → Trie
  | [], t => t.close
  | b :: bs, t =>
    match t.ways.find? fun way => way.1 = b with
    | some (_, u) =>
      let u := insert bs u
      node t.closed (t.ways.map fun way => if way.1 = b then (b, u) else way)
    | none => node t.closed (t.ways ++ [(b, insert bs start)])

/-- The choice between some literals. -/
def ofLiterals (literals : List (List Nat)) : Trie :=
  literals.foldl (fun t bytes => insert bytes t) start

/-- The room of the state of a list of ways, if there are any. A single way is part of
its state. -/
def listRoom : List (Nat × Trie) → Room
  | [] => {}
  | [_] => ⟨1, 0⟩
  | ways => ⟨1, Room.ways ways.length⟩

/-- The room of a place itself: a state for each list of ways, and one that leads to
them and, between them, to the end. -/
def ownRoom (t : Trie) : Room :=
  if t.isLeaf then {}
  else
    let lists := (t.closed ++ [t.ways]).foldr (fun ways r => (listRoom ways).add r) {}
    lists.add ⟨1, Room.alternatives (lists.states + t.closed.length)⟩

mutual

/-- The room of a place and of all places behind it. -/
def room : Trie → Room
  | node closed ways => ((node closed ways).ownRoom.add (closedRoom closed)).add (waysRoom ways)

/-- The room of the places behind some lists of ways. -/
def closedRoom : List (List (Nat × Trie)) → Room
  | [] => {}
  | ways :: rest => (waysRoom ways).add (closedRoom rest)

/-- The room of the places behind some ways. -/
def waysRoom : List (Nat × Trie) → Room
  | [] => {}
  | (_, t) :: rest => t.room.add (waysRoom rest)

end

end Trie

end Reflectory.Pattern
