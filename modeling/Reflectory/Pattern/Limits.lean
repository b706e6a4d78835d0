/-
Which texts are patterns.

A text has to be readable and to mean something; besides, it may not be nested
too deeply, and the automata that carry it out may not take too much room.
-/

import Reflectory.Pattern.Automaton
import Reflectory.Pattern.Meaning
import Reflectory.Pattern.Reader

namespace Reflectory.Pattern

/-- The greatest depth of a pattern. -/
def mostNesting : Nat := 250

/-- The pattern that a text writes down. -/
def read? (text : String) : Option Pattern :=
  (Tree.read? text).bind fun tree =>
    if tree.nesting ≤ mostNesting then
      (tree.meaning? {}).bind fun (_, p) => if p.hasRoom then some p else none
    else none

end Reflectory.Pattern
