/-
What a written pattern means.

Flags take effect from where they stand to the end of the group around them,
across its alternatives. Without the `unicode` flag only ASCII characters have
classes and case variants, and nothing may be negated, since a complement
reaches beyond ASCII. Case variants are added to a set before it is negated,
and to the operands of an operator before it is applied.
-/

import Reflectory.Pattern.Basic
import Reflectory.Pattern.Class.CaseFolding
import Reflectory.Pattern.Class.Name
import Reflectory.Pattern.Tree

namespace Reflectory.Pattern

/-- How a part of a pattern is understood. -/
structure Flags where
  ignoreCase : Bool := false
  multiLine : Bool := false
  dotMatchesAll : Bool := false
  lazyFirst : Bool := false
  unicode : Bool := true
  crlf : Bool := false
  deriving DecidableEq, Repr

namespace Flags

/-- Sets or clears a flag. Whether blanks are ignored matters to reading only. -/
def set (f : Flags) (change : FlagChange) : Flags :=
  match change.flag with
  | .ignoreCase => { f with ignoreCase := change.value }
  | .multiLine => { f with multiLine := change.value }
  | .dotMatchesAll => { f with dotMatchesAll := change.value }
  | .lazyFirst => { f with lazyFirst := change.value }
  | .unicode => { f with unicode := change.value }
  | .crlf => { f with crlf := change.value }
  | .verbose => f

/-- Makes several changes. -/
def setAll (f : Flags) (changes : List FlagChange) : Flags :=
  changes.foldl set f

/-! ### Sets -/

/-- The set, with all case variants if case is ignored. -/
def fold (f : Flags) (s : CharSet) : CharSet :=
  if !f.ignoreCase then s
  else if f.unicode then s.anyCase
  else s.anyAsciiCase

/-- The set or its complement. -/
def complement? (f : Flags) (negated : Bool) (s : CharSet) : Option CharSet :=
  if !negated then some s
  else if f.unicode then some s.complement
  else none

/-- The set with its case variants, or the complement of that. -/
def foldAndComplement? (f : Flags) (negated : Bool) (s : CharSet) : Option CharSet :=
  f.complement? negated (f.fold s)

/-- The set of a property. -/
def property? (f : Flags) (p : PropertyText) : Option CharSet :=
  let set? := match p.value? with
    | some value => CharSet.ofPropertyValue? p.name value
    | none => CharSet.ofProperty? p.name
  if f.unicode then set?.bind (f.foldAndComplement? p.negated) else none

/-- The set of a class that a letter stands for; it has all case variants. -/
def shorthand? (f : Flags) (k : Shorthand) (negated : Bool) : Option CharSet :=
  f.complement? negated (if f.unicode then k.wide else k.ascii)

/-- Whether a character may be in a set. -/
def allows (f : Flags) (c : Char) : Bool :=
  f.unicode || c.toNat < 128

end Flags

/-- What an operator makes of two sets. -/
def SetOperator.apply : SetOperator → CharSet → CharSet → CharSet
  | intersection => .intersection
  | difference => .difference
  | symmetricDifference => .symmetricDifference

mutual

/-- The set that is written inside brackets. -/
def SetTree.meaning? (f : Flags) : SetTree → Option CharSet
  | .literal c => if f.allows c then some (.single c) else none
  | .range first last => if f.allows last then some (.range first last) else none
  | .ascii s negated => f.foldAndComplement? negated s
  | .property p => f.property? p
  | .shorthand k negated => f.shorthand? k negated
  | .bracketed negated body => (body.meaning? f).bind (f.foldAndComplement? negated)
  | .union items => SetTree.unionMeaning? f items
  | .operation op left right =>
    (left.meaning? f).bind fun a =>
      (right.meaning? f).map fun b => op.apply (f.fold a) (f.fold b)

/-- The union of the sets of some items. -/
def SetTree.unionMeaning? (f : Flags) : List SetTree → Option CharSet
  | [] => some .empty
  | item :: items =>
    (item.meaning? f).bind fun a => (SetTree.unionMeaning? f items).map a.union

end

/-! ### Patterns -/

/-- The anchor that is meant. -/
def AnchorText.meaning (f : Flags) : AnchorText → Anchor
  | caret => if f.multiLine then .lineStart f.crlf else .textStart
  | dollar => if f.multiLine then .lineEnd f.crlf else .textEnd
  | textStart => .textStart
  | textEnd => .textEnd
  | wordBoundary => .wordBoundary (!f.unicode)
  | notWordBoundary => .notWordBoundary (!f.unicode)
  | wordStart => .wordStart (!f.unicode)
  | wordEnd => .wordEnd (!f.unicode)
  | wordStartHalf => .wordStartHalf (!f.unicode)
  | wordEndHalf => .wordEndHalf (!f.unicode)

/-- A character that stands for itself, in any case if case is ignored. -/
def Flags.character (f : Flags) (c : Char) : Pattern :=
  ofSet (!f.unicode) (f.fold (.single c))

/-- Any character that does not end a line, or any character at all. -/
def Flags.dot (f : Flags) : Pattern :=
  if f.dotMatchesAll then ofSet false .everything
  else if f.crlf then ofSet false (CharSet.unions [.single '\n', .single '\r']).complement
  else ofSet false (CharSet.single '\n').complement

mutual

/-- The pattern that a tree means, and the flags behind it. -/
def Tree.meaning? (f : Flags) : Tree → Option (Flags × Pattern)
  | .empty => some (f, .empty)
  | .flags changes => some (f.setAll changes, .empty)
  | .literal c isByte =>
    if !f.unicode && isByte && 128 ≤ c.toNat then none else some (f, f.character c)
  | .dot => if f.unicode then some (f, f.dot) else none
  | .anchor a => some (f, .anchor (a.meaning f))
  | .property p => (f.property? p).map fun s => (f, ofSet false s)
  | .shorthand k negated => (f.shorthand? k negated).map fun s => (f, ofSet (!f.unicode) s)
  | .bracketed negated body =>
    ((body.meaning? f).bind (f.foldAndComplement? negated)).map fun s =>
      (f, ofSet (!f.unicode) s)
  | .repeated least most? greedy body =>
    (body.meaning? f).map fun (f, p) => (f, repetition least most? (greedy != f.lazyFirst) p)
  | .capture number body => (body.meaning? f).map fun (_, p) => (f, .capture number p)
  | .group changes body => (body.meaning? (f.setAll changes)).map fun (_, p) => (f, p)
  | .concat items => (Tree.meanings? f items).map fun (f, ps) => (f, sequence ps)
  | .choice items => (Tree.meanings? f items).map fun (f, ps) => (f, choices ps)

/-- The patterns that trees mean one after another, and the flags behind them. -/
def Tree.meanings? (f : Flags) : List Tree → Option (Flags × List Pattern)
  | [] => some (f, [])
  | item :: items =>
    (item.meaning? f).bind fun (f, p) =>
      (Tree.meanings? f items).map fun (f, ps) => (f, p :: ps)

end

end Reflectory.Pattern
