/-
Classes with short forms: digits, blanks and characters of words, each in a wide
form and in one that has ASCII characters only, and the ASCII classes that are
named inside brackets.
-/

import Reflectory.Pattern.Class.BinaryProperty

namespace Reflectory.Pattern

open Text

/-- The classes that a letter stands for. -/
inductive Shorthand where
  | digit
  | blank
  | word
  deriving DecidableEq, Repr

namespace Shorthand

/-- All characters of the class: decimal digits; blanks; alphabetic characters,
marks, digits, connectors and the two joiners. -/
def wide : Shorthand → CharSet
  | digit => Category.numberDecimal.set
  | blank => .ofCodePoints BinaryProperty.whiteSpaceTable
  | word =>
    .unions [BinaryProperty.alphabeticSet, Category.sets Category.marks,
      Category.numberDecimal.set, Category.punctuationConnector.set,
      .ofCodePoints BinaryProperty.joinControlTable]

/-- The ASCII characters of the class. -/
def ascii : Shorthand → CharSet
  | digit => .range '0' '9'
  | blank => .unions [.range '\t' '\x0d', .single ' ']
  | word => .unions [.range '0' '9', .range 'A' 'Z', .single '_', .range 'a' 'z']

end Shorthand

/-- The characters of words. -/
def wordChars : CharSet :=
  Shorthand.word.wide

/-- The ASCII characters of words. -/
def asciiWordChars : CharSet :=
  Shorthand.word.ascii

/-- The set of an ASCII class by its name between `[:` and `:]`. -/
def asciiClass? : String → Option CharSet
  | "alnum" => some (.unions [.range '0' '9', .range 'A' 'Z', .range 'a' 'z'])
  | "alpha" => some (.unions [.range 'A' 'Z', .range 'a' 'z'])
  | "ascii" => some (.range '\x00' '\x7f')
  | "blank" => some (.unions [.single '\t', .single ' '])
  | "cntrl" => some (.unions [.range '\x00' '\x1f', .single '\x7f'])
  | "digit" => some (.range '0' '9')
  | "graph" => some (.range '!' '~')
  | "lower" => some (.range 'a' 'z')
  | "print" => some (.range ' ' '~')
  | "punct" =>
    some (.unions [.range '!' '/', .range ':' '@', .range '[' '\x60', .range '\x7b' '~'])
  | "space" => some Shorthand.blank.ascii
  | "upper" => some (.range 'A' 'Z')
  | "word" => some Shorthand.word.ascii
  | "xdigit" => some (.unions [.range '0' '9', .range 'A' 'F', .range 'a' 'f'])
  | _ => none

end Reflectory.Pattern
