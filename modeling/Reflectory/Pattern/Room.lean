/-
The room that an automaton takes.

An automaton is made of states, all of one size, and of lists that some states
have: ways to other states by ranges of bytes, and alternatives.
-/

namespace Reflectory.Pattern

/-- What an automaton takes: its states, and the bytes of their lists. -/
structure Room where
  states : Nat := 0
  lists : Nat := 0
  deriving DecidableEq, Repr

namespace Room

/-- The bytes of a state. -/
def stateSize : Nat := 32

/-- The bytes of a list of so many ways. -/
def ways (n : Nat) : Nat := 8 * n

/-- The bytes of a list of so many alternatives. -/
def alternatives (n : Nat) : Nat := 4 * n

/-- All bytes taken. -/
def total (r : Room) : Nat :=
  stateSize * r.states + r.lists

/-- The most bytes that an automaton may take. -/
def most : Nat := 10 * 1024 * 1024

/-- The room, unless it is more than an automaton may take. -/
def checked (r : Room) : Option Room :=
  if r.total ≤ most then some r else none

/-- The room of two parts. -/
def add (r s : Room) : Room :=
  ⟨r.states + s.states, r.lists + s.lists⟩

/-- The room of a part that is there `n` times. -/
def times (n : Nat) (r : Room) : Room :=
  ⟨n * r.states, n * r.lists⟩

end Room

end Reflectory.Pattern
