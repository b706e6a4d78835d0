/-
Reading TOML documents.

A document is a sequence of lines: assignments, headers in single or double
brackets, comments and blank lines. Texts come in four forms, on one line or on
several, with escapes or without. Line ends inside a text of several lines are
line feeds, however they are written.
-/

import Reflectory.Text.Trim
import Reflectory.Toml.Value

namespace Reflectory.Toml

open Text

/-! ### Blanks, comments and line ends -/

/-- Spaces and tabs. -/
def isGap (c : Char) : Bool :=
  c = ' ' || c = '\t'

/-- Without spaces and tabs in front. -/
def skipGap (cs : List Char) : List Char :=
  cs.dropWhile isGap

/-- Characters that may stand in comments and between quotes: no control
characters but the tab. -/
def isPrintable (c : Char) : Bool :=
  c = '\t' || (' ' ≤ c && c != '\x7f')

/-- The rest after a line end. -/
def newline? : List Char → Option (List Char)
  | '\n' :: cs => some cs
  | '\r' :: '\n' :: cs => some cs
  | _ => none

/-- The rest after a comment, if one begins here. -/
def skipComment : List Char → List Char
  | '#' :: cs => cs.dropWhile isPrintable
  | cs => cs

/-- The rest after what may follow a statement on its line, the line end
included. -/
def endOfLine? (cs : List Char) : Option (List Char) :=
  match skipComment (skipGap cs) with
  | [] => some []
  | cs => newline? cs

/-- Passes blanks, line ends and comments inside an array. -/
def skipLines : Nat → List Char → List Char
  | 0, cs => cs
  | fuel + 1, cs =>
    let cs := skipGap cs
    match cs with
    | '#' :: _ =>
      match newline? (skipComment cs) with
      | some rest => skipLines fuel rest
      | none => cs
    | _ =>
      match newline? cs with
      | some rest => skipLines fuel rest
      | none => cs

/-! ### Texts -/

/-- The number of hexadecimal digits. -/
def hexadecimal? (digits : List Char) : Option Nat :=
  digits.foldlM (fun n c =>
    if c.isDigit then some (16 * n + (c.toNat - '0'.toNat))
    else if 'a' ≤ c ∧ c ≤ 'f' then some (16 * n + (c.toNat - 'a'.toNat + 10))
    else if 'A' ≤ c ∧ c ≤ 'F' then some (16 * n + (c.toNat - 'A'.toNat + 10))
    else none) 0

/-- The character with a number of `n` hexadecimal digits. -/
def unicodeEscape? (n : Nat) (cs : List Char) : Option (Char × List Char) :=
  let digits := cs.take n
  if digits.length < n then none
  else
    (hexadecimal? digits).bind fun code =>
      if code < 0xD800 ∨ (0xDFFF < code ∧ code < 0x110000) then some (Char.ofNat code, cs.drop n)
      else none

/-- The character of an escape, after its backslash. -/
def escape? : List Char → Option (Char × List Char)
  | 'b' :: cs => some ('\x08', cs)
  | 't' :: cs => some ('\t', cs)
  | 'n' :: cs => some ('\n', cs)
  | 'f' :: cs => some ('\x0c', cs)
  | 'r' :: cs => some ('\r', cs)
  | '"' :: cs => some ('"', cs)
  | '\\' :: cs => some ('\\', cs)
  | 'u' :: cs => unicodeEscape? 4 cs
  | 'U' :: cs => unicodeEscape? 8 cs
  | _ => none

/-- The rest of a text in double quotes, after the characters read so far. -/
def basicText? : Nat → List Char → List Char → Option (String × List Char)
  | 0, _, _ => none
  | fuel + 1, read, cs =>
    match cs with
    | '"' :: rest => some (String.ofList read, rest)
    | '\\' :: rest => (escape? rest).bind fun (c, rest) => basicText? fuel (read ++ [c]) rest
    | c :: rest => if isPrintable c then basicText? fuel (read ++ [c]) rest else none
    | [] => none

/-- A text in single quotes, after the first one. -/
def literalText? (cs : List Char) : Option (String × List Char) :=
  let inside := cs.takeWhile fun c => c != '\'' && isPrintable c
  match cs.drop inside.length with
  | '\'' :: rest => some (String.ofList inside, rest)
  | _ => none

/-- The quotes at the end of a text of several lines: of up to five quotes the
last three close it, and those before belong to it. -/
def closingQuotes? (q : Char) (cs : List Char) : Option (Nat × List Char) :=
  let run := (cs.takeWhile (· = q)).length
  if run < 3 then none else some (min run 5 - 3, cs.drop (min run 5))

/-- The rest of a text of several lines in the quotes `q`, after the characters
read so far; backslashes begin escapes in double quotes only. -/
def longText? (q : Char) : Nat → List Char → List Char → Option (String × List Char)
  | 0, _, _ => none
  | fuel + 1, read, cs =>
    match closingQuotes? q cs with
    | some (kept, rest) => some (String.ofList (read ++ List.replicate kept q), rest)
    | none =>
      match newline? cs with
      | some rest => longText? q fuel (read ++ ['\n']) rest
      | none =>
        match cs with
        | [] => none
        | '\\' :: rest =>
          if q = '\'' then longText? q fuel (read ++ ['\\']) rest
          else
            match newline? (skipGap rest) with
            | some _ =>
              let blank (c : Char) : Bool := isGap c || c = '\n'
              longText? q fuel read (passBlankLines (rest.length + 1) blank rest)
            | none => (escape? rest).bind fun (c, rest) => longText? q fuel (read ++ [c]) rest
        | c :: rest => if isPrintable c then longText? q fuel (read ++ [c]) rest else none
where
  /-- Passes blanks and line ends. -/
  passBlankLines : Nat → (Char → Bool) → List Char → List Char
    | 0, _, cs => cs
    | fuel + 1, blank, cs =>
      match newline? cs with
      | some rest => passBlankLines fuel blank rest
      | none =>
        match cs with
        | c :: rest => if blank c then passBlankLines fuel blank rest else c :: rest
        | [] => []

/-- A text of any form. -/
def text? (cs : List Char) : Option (String × List Char) :=
  let fuel := cs.length + 1
  match cs with
  | '"' :: '"' :: '"' :: rest => longText? '"' fuel [] ((newline? rest).getD rest)
  | '\'' :: '\'' :: '\'' :: rest => longText? '\'' fuel [] ((newline? rest).getD rest)
  | '"' :: rest => basicText? fuel [] rest
  | '\'' :: rest => literalText? rest
  | _ => none

/-! ### Keys -/

/-- Characters of keys without quotes. -/
def isBareKeyChar (c : Char) : Bool :=
  c.isAlphanum || c = '_' || c = '-'

/-- One part of a key. -/
def simpleKey? (cs : List Char) : Option (String × List Char) :=
  match cs with
  | '"' :: rest => basicText? (cs.length + 1) [] rest
  | '\'' :: rest => literalText? rest
  | _ =>
    let key := cs.takeWhile isBareKeyChar
    if key.isEmpty then none else some (String.ofList key, cs.drop key.length)

/-- The parts of a dotted key, with blanks around it passed. -/
def keyParts? : Nat → List Char → Option (List String × List Char)
  | 0, _ => none
  | fuel + 1, cs =>
    (simpleKey? (skipGap cs)).bind fun (part, rest) =>
      match skipGap rest with
      | '.' :: rest => (keyParts? fuel rest).map fun (parts, rest) => (part :: parts, rest)
      | rest => some ([part], rest)

/-- The greatest depth of values in values, and of keys. -/
def mostNesting : Nat := 79

/-- A dotted key of a depth that is allowed. -/
def key? (cs : List Char) : Option (List String × List Char) :=
  (keyParts? (cs.length + 1) cs).filter fun (parts, _) => parts.length ≤ mostNesting

/-! ### Numbers, truth values and dates -/

/-- Whether the list is digits of a kind with single low lines between them. -/
def areDigits (isDigit : Char → Bool) (cs : List Char) : Bool :=
  (splitAt (· = '_') cs).all fun part => !part.isEmpty && part.all isDigit

/-- Whether the list is a decimal number without a leading zero. -/
def isPlainDecimal (cs : List Char) : Bool :=
  areDigits Char.isDigit cs && (cs.length = 1 || cs.head? != some '0')

/-- Without a sign. -/
def withoutSign : List Char → List Char
  | '+' :: cs | '-' :: cs => cs
  | cs => cs

/-- The number that digits of a base stand for. -/
def magnitude (base : Nat) (cs : List Char) : Nat :=
  cs.foldl (fun n c =>
    if c = '_' then n
    else if c.isDigit then base * n + (c.toNat - '0'.toNat)
    else base * n + (c.toLower.toNat - 'a'.toNat + 10)) 0

/-- The first number that is too great for a signed integer of 64 bits. -/
def wordLimit : Nat :=
  UInt64.size / 2

/-- Whether the text is an integer of 64 bits. -/
def isInteger (cs : List Char) : Bool :=
  let isHexadecimal (c : Char) : Bool := c.isDigit || ('a' ≤ c.toLower && c.toLower ≤ 'f')
  match cs with
  | '0' :: 'x' :: ds => areDigits isHexadecimal ds && magnitude 16 ds < wordLimit
  | '0' :: 'o' :: ds => areDigits (fun c => '0' ≤ c && c ≤ '7') ds && magnitude 8 ds < wordLimit
  | '0' :: 'b' :: ds => areDigits (fun c => c = '0' || c = '1') ds && magnitude 2 ds < wordLimit
  | _ =>
    let ds := withoutSign cs
    let limit := if cs.head? = some '-' then wordLimit else wordLimit - 1
    isPlainDecimal ds && magnitude 10 ds ≤ limit

/-- The digits of a number with a fraction or an exponent, without their mark, and
the power of ten that they are to be multiplied by. -/
def floatParts? (cs : List Char) : Option (List Char × Int) :=
  let isPart (c : Char) : Bool := c.isDigit || c = '_'
  let exponent? (cs : List Char) : Option Int :=
    let ds := withoutSign cs
    if areDigits Char.isDigit ds then
      some (if cs.head? = some '-' then -(magnitude 10 ds : Int) else magnitude 10 ds)
    else none
  let whole := cs.takeWhile isPart
  if !isPlainDecimal whole then none
  else
    match cs.drop whole.length with
    | '.' :: rest =>
      let fraction := rest.takeWhile isPart
      let places : Int := (fraction.filter Char.isDigit).length
      if !areDigits Char.isDigit fraction then none
      else
        match rest.drop fraction.length with
        | [] => some (whole ++ fraction, -places)
        | 'e' :: rest | 'E' :: rest =>
          (exponent? rest).map fun e => (whole ++ fraction, e - places)
        | _ => none
    | 'e' :: rest | 'E' :: rest => (exponent? rest).map fun e => (whole, e)
    | _ => none

/-- The first number that a float of 64 bits cannot stand for: half a unit above the
greatest one. -/
def floatLimit : Nat :=
  Nat.pow 2 1024 - Nat.pow 2 970

/-- Whether `n` times a power of ten is too great for a float. A number with 309
digits before its mark has to be looked at; one with more is too great. -/
def overflows (n : Nat) (e : Int) : Bool :=
  if n = 0 then false
  else
    let places := (Nat.toDigits 10 n).length + e
    if places = 309 then
      if 0 ≤ e then floatLimit ≤ n * Nat.pow 10 e.toNat
      else floatLimit * Nat.pow 10 (-e).toNat ≤ n
    else 309 < places

/-- Whether the text is a number with a fraction or an exponent, or one of the
two special numbers. A number may be too great only if it is negative. -/
def isFloat (cs : List Char) : Bool :=
  let ds := withoutSign cs
  if ds = "inf".toList || ds = "nan".toList then true
  else
    match floatParts? ds with
    | some (digits, e) => cs.head? = some '-' || !overflows (magnitude 10 digits) e
    | none => false

/-- The number written by the digits, if there are exactly `n` of them. -/
def digitGroup? (n : Nat) (cs : List Char) : Option Nat :=
  if cs.length = n && cs.all Char.isDigit then some (magnitude 10 cs) else none

/-- The days of a month. -/
def daysIn (year month : Nat) : Nat :=
  if month = 2 then
    if year % 4 = 0 && (year % 100 != 0 || year % 400 = 0) then 29 else 28
  else if month = 4 || month = 6 || month = 9 || month = 11 then 30
  else 31

/-- Whether the text is a date. -/
def isDate (cs : List Char) : Bool :=
  match (splitAt (· = '-') cs) with
  | [y, m, d] =>
    match digitGroup? 4 y, digitGroup? 2 m, digitGroup? 2 d with
    | some y, some m, some d => 1 ≤ m && m ≤ 12 && 1 ≤ d && d ≤ daysIn y m
    | _, _, _ => false
  | _ => false

/-- Whether the text is a time of day. -/
def isTime (cs : List Char) : Bool :=
  match splitAt (· = ':') cs with
  | [h, m, s] =>
    match digitGroup? 2 h, digitGroup? 2 m, digitGroup? 2 (s.take 2) with
    | some h, some m, some second =>
      h ≤ 23 && m ≤ 59 && second ≤ 60 &&
        match s.drop 2 with
        | [] => true
        | '.' :: fraction => !fraction.isEmpty && fraction.all Char.isDigit
        | _ => false
    | _, _, _ => false
  | _ => false

/-- Whether the text is a time of day with or without a distance from universal
time. -/
def isOffsetTime (cs : List Char) : Bool :=
  let offsetOk (cs : List Char) : Bool :=
    match splitAt (· = ':') cs with
    | [h, m] =>
      match digitGroup? 2 h, digitGroup? 2 m with
      | some h, some m => h ≤ 23 && m ≤ 59
      | _, _ => false
    | _ => false
  let time := cs.takeWhile fun c => c != 'Z' && c != 'z' && c != '+' && c != '-'
  isTime time &&
    match cs.drop time.length with
    | [] | ['Z'] | ['z'] => true
    | '+' :: rest | '-' :: rest => offsetOk rest
    | _ => false

/-- Whether the text is a date, a time or both. -/
def isDateTime (cs : List Char) : Bool :=
  isDate cs || isTime cs ||
    (isDate (cs.take 10) &&
      match cs.drop 10 with
      | 'T' :: rest | 't' :: rest | ' ' :: rest => isOffsetTime rest
      | _ => false)

/-- The distance from universal time in its canonical form; none at all is
positive. -/
def canonicalOffset : List Char → List Char
  | ['z'] => ['Z']
  | '-' :: rest => if rest = "00:00".toList then '+' :: rest else '-' :: rest
  | cs => cs

/-- A time in its canonical form: nine digits of a fraction count, and zeros at its
end do not. -/
def canonicalTime (cs : List Char) : List Char :=
  let fraction := match cs.drop 8 with
    | '.' :: rest => rest.takeWhile Char.isDigit
    | _ => []
  let kept := ((fraction.take 9).reverse.dropWhile (· = '0')).reverse
  let offset := cs.drop (if fraction.isEmpty then 8 else 9 + fraction.length)
  cs.take 8 ++ (if kept.isEmpty then [] else '.' :: kept) ++ canonicalOffset offset

/-- A date, a time or both in canonical form. -/
def canonicalMoment (cs : List Char) : List Char :=
  if isTime cs then canonicalTime cs
  else
    match cs.drop 10 with
    | _ :: time => cs.take 10 ++ 'T' :: canonicalTime time
    | [] => cs

/-- Characters of values that are no texts, arrays or tables. -/
def isScalarChar (c : Char) : Bool :=
  c.isAlphanum || c = '+' || c = '-' || c = '.' || c = ':' || c = '_'

/-- A value that is no text, array or table, and the rest after it. -/
def scalar? (cs : List Char) : Option (Value × List Char) :=
  let first := cs.takeWhile isScalarChar
  let rest := cs.drop first.length
  let long := match rest with
    | ' ' :: after =>
      let time := after.takeWhile isScalarChar
      if isDate first && time.head?.any Char.isDigit then first ++ ' ' :: time else first
    | _ => first
  if isDateTime long then
    some (.moment (String.ofList (canonicalMoment long)), cs.drop long.length)
  else if long = "true".toList || long = "false".toList || isInteger long || isFloat long then
    some (.scalar, cs.drop long.length)
  else none

/-! ### Values -/

mutual

/-- A value, which has so many levels left for values in it. -/
def value? : Nat → Nat → List Char → Option (Value × List Char)
  | 0, _, _ => none
  | fuel + 1, levels, cs =>
    match levels, cs with
    | 0, '[' :: _ | 0, '{' :: _ => none
    | levels + 1, '[' :: rest =>
      (items? fuel levels [] rest).map fun (items, rest) => (.array items, rest)
    | levels + 1, '{' :: rest =>
      match skipGap rest with
      | '}' :: rest => some (.table .inlined [], rest)
      | _ => (pairs? fuel levels [] rest).map fun (es, rest) => (.table .inlined es, rest)
    | _, '"' :: _ | _, '\'' :: _ => (text? cs).map fun (s, rest) => (.text s, rest)
    | _, cs => scalar? cs

/-- The rest of an array, after the items read so far. -/
def items? : Nat → Nat → List Value → List Char → Option (List Value × List Char)
  | 0, _, _, _ => none
  | fuel + 1, levels, items, cs =>
    match skipLines (cs.length + 1) cs with
    | ']' :: rest => some (items, rest)
    | cs =>
      (value? fuel levels cs).bind fun (v, rest) =>
        match skipLines (rest.length + 1) rest with
        | ',' :: rest => items? fuel levels (items ++ [v]) rest
        | ']' :: rest => some (items ++ [v], rest)
        | _ => none

/-- The rest of an inline table that has another pair. -/
def pairs? : Nat → Nat → Entries → List Char → Option (Entries × List Char)
  | 0, _, _, _ => none
  | fuel + 1, levels, es, cs =>
    (key? cs).bind fun (path, rest) =>
      match rest with
      | '=' :: rest =>
        (value? fuel levels (skipGap rest)).bind fun (v, rest) =>
          (es.assign path.dropLast (path.getLast?.getD "") v).bind fun es =>
            match skipGap rest with
            | ',' :: rest => pairs? fuel levels es rest
            | '}' :: rest => some (es, rest)
            | _ => none
      | _ => none

end

/-! ### Documents -/

/-- A document that is being read, with the path of the last header. -/
structure Draft where
  root : Entries := []
  path : List String := []

/-- Adds a header, after its first bracket. -/
def Draft.header? (d : Draft) (cs : List Char) : Option (Draft × List Char) :=
  let double := cs.head? = some '['
  let cs := if double then cs.drop 1 else cs
  (key? cs).bind fun (path, rest) =>
    let key := path.getLast?.getD ""
    let close := if double then [']', ']'] else [']']
    (after? close rest).bind fun rest =>
      let add := if double then Entries.openElement key else Entries.openTable key
      (d.root.within path.dropLast add).map fun root => ({ root, path }, rest)

/-- Adds an assignment. -/
def Draft.assignment? (d : Draft) (cs : List Char) : Option (Draft × List Char) :=
  (key? cs).bind fun (path, rest) =>
    match rest with
    | '=' :: rest =>
      (value? (rest.length + 1) mostNesting (skipGap rest)).bind fun (v, rest) =>
        let add (es : Entries) := es.assign path.dropLast (path.getLast?.getD "") v
        (d.root.within d.path add).map fun root => ({ d with root }, rest)
    | _ => none

/-- Adds the statements of all lines. -/
def Draft.lines? : Nat → Draft → List Char → Option Draft
  | 0, _, _ => none
  | fuel + 1, d, cs =>
    match skipGap cs with
    | [] => some d
    | '[' :: rest =>
      (d.header? rest).bind fun (d, rest) => (endOfLine? rest).bind (lines? fuel d)
    | '#' :: rest => (endOfLine? ('#' :: rest)).bind (lines? fuel d)
    | cs =>
      match newline? cs with
      | some rest => lines? fuel d rest
      | none =>
        (d.assignment? cs).bind fun (d, rest) => (endOfLine? rest).bind (lines? fuel d)

/-- The entries of a document; a byte order mark in front is passed. -/
def read? (text : String) : Option Entries :=
  let cs := match text.toList with
    | '\ufeff' :: cs => cs
    | cs => cs
  (Draft.lines? (cs.length + 1) {} cs).map Draft.root

end Reflectory.Toml
