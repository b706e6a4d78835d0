/-
Sets of characters.

A set is the ascending list of its intervals of code points; intervals that
overlap or follow one another are one. The operations keep this form, so two
sets with the same intervals are the same value, and the number of intervals
says how much room a set takes. `CharSet.has` gives a set its meaning.
-/

import Reflectory.Text.CodePoints

namespace Reflectory.Pattern

open Text

/-- The code points from `first` to `last`. -/
structure Interval where
  first : Nat
  last : Nat
  deriving DecidableEq, Repr

/-- The interval between two code points, whichever is the smaller one. -/
def Interval.between (a b : Nat) : Interval :=
  ⟨min a b, max a b⟩

/-- A set of characters. -/
structure CharSet where
  intervals : List Interval
  deriving DecidableEq, Repr

namespace CharSet

/-- The greatest code point. -/
def greatest : Nat := 0x10FFFF

/-- The code point of the next character: surrogates are passed over. -/
def next (n : Nat) : Nat :=
  if n = 0xD7FF then 0xE000 else n + 1

/-- The code point of the character before: surrogates are passed over. -/
def previous (n : Nat) : Nat :=
  if n = 0xE000 then 0xD7FF else n - 1

/-- Whether a character is in the set. -/
def has (s : CharSet) (c : Char) : Bool :=
  s.intervals.any fun i => i.first ≤ c.toNat && c.toNat ≤ i.last

/-- The empty set. -/
def empty : CharSet := ⟨[]⟩

/-- The set of all characters. -/
def everything : CharSet := ⟨[⟨0, greatest⟩]⟩

/-- The characters from `first` to `last`. -/
def range (first last : Char) : CharSet :=
  ⟨[⟨first.toNat, last.toNat⟩]⟩

/-- The set of one character. -/
def single (c : Char) : CharSet :=
  range c c

/-! ### Building sets -/

/-- An ascending list with the intervals joined that overlap or follow one
another. -/
def joined : List Interval → List Interval
  | i :: j :: rest =>
    if j.first ≤ i.last + 1 then joined (⟨i.first, max i.last j.last⟩ :: rest)
    else i :: joined (j :: rest)
  | short => short
termination_by l => l.length

/-- The order of intervals by their beginnings. -/
def earlier (i j : Interval) : Bool :=
  i.first ≤ j.first

/-- The set that intervals in any order make up. -/
def ofIntervals (l : List Interval) : CharSet :=
  ⟨joined (l.mergeSort earlier)⟩

/-- The intervals of a run. -/
def ofRun (r : Run) : List Interval :=
  if r.step = 1 then [⟨r.first, r.last⟩]
  else
    (List.range ((r.last - r.first) / r.step + 1)).map fun k =>
      ⟨r.first + k * r.step, r.first + k * r.step⟩

/-- The set of a table. -/
def ofCodePoints (table : CodePoints) : CharSet :=
  ofIntervals (table.flatMap ofRun)

/-- What is in either set. -/
def union (a b : CharSet) : CharSet :=
  ⟨joined (List.merge a.intervals b.intervals earlier)⟩

/-- What is in any of the sets. -/
def unions (sets : List CharSet) : CharSet :=
  sets.foldl union empty

/-! ### Complements and differences -/

/-- The gaps between the intervals. Where two intervals meet at the surrogates
no character is between them, and the two characters themselves are taken. -/
def gaps : List Interval → List Interval
  | i :: j :: rest => .between (next i.last) (previous j.first) :: gaps (j :: rest)
  | _ => []

/-- What is not in the set. -/
def complement (s : CharSet) : CharSet :=
  match s.intervals.head?, s.intervals.getLast? with
  | some i, some j =>
    ⟨(if 0 < i.first then [⟨0, previous i.first⟩] else []) ++ gaps s.intervals ++
      (if j.last < greatest then [⟨next j.last, greatest⟩] else [])⟩
  | _, _ => everything

/-- The common parts of two ascending lists. -/
def meet : List Interval → List Interval → List Interval
  | i :: is, j :: js =>
    let first := max i.first j.first
    let last := min i.last j.last
    let rest := if i.last < j.last then meet is (j :: js) else meet (i :: is) js
    if first ≤ last then ⟨first, last⟩ :: rest else rest
  | _, _ => []
termination_by is js => is.length + js.length

/-- What is in both sets. -/
def intersection (a b : CharSet) : CharSet :=
  ⟨meet a.intervals b.intervals⟩

/-- The first ascending list without what is in the second one. -/
def without : List Interval → List Interval → List Interval
  | i :: is, j :: js =>
    if j.last < i.first then without (i :: is) js
    else if i.last < j.first then i :: without is (j :: js)
    else
      (if i.first < j.first then [.between i.first (previous j.first)] else []) ++
        if j.last < i.last then without (.between (next j.last) i.last :: is) js
        else without is (j :: js)
  | is, _ => is
termination_by is js => is.length + js.length

/-- What is in the first set only. -/
def difference (a b : CharSet) : CharSet :=
  ⟨without a.intervals b.intervals⟩

/-- What is in one of the sets only. -/
def symmetricDifference (a b : CharSet) : CharSet :=
  (a.union b).difference (a.intersection b)

/-! ### Questions about sets -/

/-- The only character of a set that has just one. -/
def single? (s : CharSet) : Option Char :=
  match s.intervals with
  | [i] => if i.first = i.last then some (Char.ofNat i.first) else none
  | _ => none

/-- Whether all characters of the set are ASCII characters. -/
def isAscii (s : CharSet) : Bool :=
  s.intervals.all fun i => i.last < 128

end CharSet

end Reflectory.Pattern
