/-
Patterns as they are written.

A tree has one node for each thing that a pattern's text spells out; flags are
items among others, and take effect where they stand (`Reflectory.Pattern.Meaning`
gives a tree its meaning). `Tree.nesting` is the depth of a tree, which is
limited.
-/

import Reflectory.Pattern.Class.Shorthand

namespace Reflectory.Pattern

/-! ### Parts of trees -/

/-- What letters in front of a group, or between brackets of their own, switch on
and off. -/
inductive Flag where
  | ignoreCase
  | multiLine
  | dotMatchesAll
  | lazyFirst
  | unicode
  | crlf
  | verbose
  deriving DecidableEq, Repr

/-- The flag of a letter. -/
def Flag.ofLetter? : Char → Option Flag
  | 'i' => some ignoreCase
  | 'm' => some multiLine
  | 's' => some dotMatchesAll
  | 'U' => some lazyFirst
  | 'u' => some unicode
  | 'R' => some crlf
  | 'x' => some verbose
  | _ => none

/-- A flag, and whether it is set or cleared. -/
structure FlagChange where
  flag : Flag
  value : Bool
  deriving DecidableEq, Repr

/-- A property of characters: its name, with a value or without. -/
structure PropertyText where
  name : String
  value? : Option String
  negated : Bool
  deriving DecidableEq, Repr

/-- Conditions on a position that take no character. -/
inductive AnchorText where
  | caret
  | dollar
  | textStart
  | textEnd
  | wordBoundary
  | notWordBoundary
  | wordStart
  | wordEnd
  | wordStartHalf
  | wordEndHalf
  deriving DecidableEq, Repr

/-- The operators between the parts of a set. -/
inductive SetOperator where
  | intersection
  | difference
  | symmetricDifference
  deriving DecidableEq, Repr

/-- What stands inside brackets. -/
inductive SetTree where
  | literal (c : Char)
  | range (first last : Char)
  /-- An ASCII class, which is written by its name. -/
  | ascii (set : CharSet) (negated : Bool)
  | property (p : PropertyText)
  | shorthand (k : Shorthand) (negated : Bool)
  | bracketed (negated : Bool) (body : SetTree)
  | union (items : List SetTree)
  | operation (op : SetOperator) (left right : SetTree)

/-- A pattern as it is written. -/
inductive Tree where
  | empty
  /-- Flags for the rest of the group around them. -/
  | flags (changes : List FlagChange)
  /-- A character that stands for itself; `isByte` says that it is written by two
  hexadecimal digits. -/
  | literal (c : Char) (isByte : Bool)
  | dot
  | anchor (a : AnchorText)
  | property (p : PropertyText)
  | shorthand (k : Shorthand) (negated : Bool)
  | bracketed (negated : Bool) (body : SetTree)
  /-- From `least` repetitions on, up to `most` if that is given. -/
  | repeated (least : Nat) (most? : Option Nat) (greedy : Bool) (body : Tree)
  /-- A group with a number of its own. -/
  | capture (number : Nat) (body : Tree)
  /-- A group without a number, with flags for what is in it. -/
  | group (changes : List FlagChange) (body : Tree)
  | concat (items : List Tree)
  | choice (items : List Tree)

/-- The union of the items of a set; a single item is no union. -/
def SetTree.ofItems : List SetTree → SetTree
  | [item] => item
  | items => .union items

/-- Items one after another; a single item is no sequence. -/
def Tree.ofItems : List Tree → Tree
  | [] => .empty
  | [item] => item
  | items => .concat items

/-- A choice between alternatives; a single one is no choice. -/
def Tree.ofAlternatives : List Tree → Tree
  | [item] => item
  | items => .choice items

/-! ### Depth -/

mutual

/-- The depth of a set: brackets, operators and unions count. -/
def SetTree.nesting : SetTree → Nat
  | .literal _ | .range _ _ | .ascii _ _ | .property _ | .shorthand _ _ => 0
  | .bracketed _ body => body.nesting + 1
  | .union [] => 0
  | .union (item :: items) => SetTree.nestings (item :: items) + 1
  | .operation _ left right => max left.nesting right.nesting + 1

/-- The greatest depth of some items. -/
def SetTree.nestings : List SetTree → Nat
  | [] => 0
  | item :: items => max item.nesting (SetTree.nestings items)

end

mutual

/-- The depth of a pattern: groups, repetitions, sequences, choices and what
counts in sets. -/
def Tree.nesting : Tree → Nat
  | .empty | .flags _ | .literal _ _ | .dot | .anchor _ | .property _ | .shorthand _ _ => 0
  | .bracketed _ body => body.nesting + 1
  | .repeated _ _ _ body | .capture _ body | .group _ body => body.nesting + 1
  | .concat items | .choice items => Tree.nestings items + 1

/-- The greatest depth of some items. -/
def Tree.nestings : List Tree → Nat
  | [] => 0
  | item :: items => max item.nesting (Tree.nestings items)

end

end Reflectory.Pattern
