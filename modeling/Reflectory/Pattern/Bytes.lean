/-
Sets of characters as sequences of bytes.

In UTF-8 a character is one to four bytes. `byteSequences` divides an interval of
code points so that each part is written by one sequence of byte ranges: all
characters whose bytes lie in the ranges, one by one.
-/

import Reflectory.Pattern.CharSet

namespace Reflectory.Pattern

/-- The bytes of a code point. -/
def utf8 (n : Nat) : List Nat :=
  if n < 0x80 then [n]
  else if n < 0x800 then [0xC0 + n / 64, 0x80 + n % 64]
  else if n < 0x10000 then [0xE0 + n / 4096, 0x80 + n / 64 % 64, 0x80 + n % 64]
  else [0xF0 + n / 262144, 0x80 + n / 4096 % 64, 0x80 + n / 64 % 64, 0x80 + n % 64]

/-- The bytes from `first` to `last`. -/
structure ByteRange where
  first : Nat
  last : Nat
  deriving DecidableEq, Repr

/-- Where the first part of an interval ends, if it has to be divided: before the
surrogates; where the number of bytes changes; and where the last `k` bytes
would not go through all their values, at the beginning first. -/
def division? (i : Interval) : Option Nat :=
  if i.first < 0xE000 && 0xD7FF < i.last then some 0xD7FF
  else
    match [0x7F, 0x7FF, 0xFFFF].find? fun most => i.first ≤ most && most < i.last with
    | some most => some most
    | none =>
      if i.last < 0x80 then none
      else
        [64, 4096, 262144].findSome? fun block =>
          if i.first / block = i.last / block then none
          else if i.first % block != 0 then some ((i.first / block + 1) * block - 1)
          else if i.last % block != block - 1 then some (i.last / block * block - 1)
          else none

theorem lt_next (n : Nat) : n < CharSet.next n := by
  unfold CharSet.next
  split <;> omega

/-- The sequences of byte ranges that write the characters of an interval, in
ascending order. -/
def byteSequences (i : Interval) : List (List ByteRange) :=
  match division? i with
  | none => [List.zipWith ByteRange.mk (utf8 i.first) (utf8 i.last)]
  | some n =>
    if _ : i.first ≤ n ∧ n < i.last then
      byteSequences ⟨i.first, n⟩ ++ byteSequences ⟨CharSet.next n, i.last⟩
    else []
termination_by i.last - i.first
decreasing_by
  · omega
  · have := lt_next n
    omega

/-- The sequences of byte ranges that write the characters of a set. -/
def CharSet.byteSequences (s : CharSet) : List (List ByteRange) :=
  s.intervals.flatMap Pattern.byteSequences

end Reflectory.Pattern
