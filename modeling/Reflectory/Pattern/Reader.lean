/-
Reading patterns: from a text to a tree.

The text has alternatives, repetitions with `* + ? {m,n}`, groups with or
without names and flags, sets in brackets with `&& -- ~~` between them, the
classes `\d \s \w` and `\p{…}`, and anchors. References back to a group and
conditions on the text around a match do not belong to it.

In verbose texts blanks and comments are ignored: between items, and inside
escapes, counts and the names of properties as well. `pass` goes past them;
where it is not called, they count.
-/

import Reflectory.Pattern.Tree
import Reflectory.Text.Trim

namespace Reflectory.Pattern

open Text

/-! ### Blanks and comments -/

/-- Without the blanks and comments in front; `inComment` says that the text
begins inside a comment. -/
def passBlanks (inComment : Bool) : List Char → List Char
  | [] => []
  | c :: cs =>
    if inComment then passBlanks (c != '\n') cs
    else if isBlank c then passBlanks false cs
    else if c = '#' then passBlanks true cs
    else c :: cs

/-- Without the blanks and comments in front, where they are ignored. -/
def pass (verbose : Bool) (cs : List Char) : List Char :=
  if verbose then passBlanks false cs else cs

theorem length_passBlanks (inComment : Bool) (cs : List Char) :
    (passBlanks inComment cs).length ≤ cs.length := by
  induction cs generalizing inComment with
  | nil => simp [passBlanks]
  | cons c cs ih =>
    have hnext (b : Bool) : (passBlanks b cs).length ≤ (c :: cs).length :=
      Nat.le_succ_of_le (ih b)
    unfold passBlanks
    split
    · exact hnext _
    · split
      · exact hnext _
      · split
        · exact hnext _
        · exact Nat.le_refl _

theorem length_pass (verbose : Bool) (cs : List Char) : (pass verbose cs).length ≤ cs.length := by
  unfold pass
  split
  · exact length_passBlanks false cs
  · exact Nat.le_refl _

/-- The characters in front that belong, and the rest. What is ignored between
them is passed. -/
def takeShown (verbose : Bool) (belongs : Char → Bool) : List Char → List Char × List Char
  | [] => ([], [])
  | c :: cs =>
    if belongs c then
      let (taken, rest) := takeShown verbose belongs (pass verbose cs)
      (c :: taken, rest)
    else ([], c :: cs)
termination_by cs => cs.length
decreasing_by exact Nat.lt_succ_of_le (length_pass verbose cs)

/-- The character that a hyphen in a set is followed by. Blanks are passed, and
so is the sign of a comment, but not the comment. -/
def peekShown (verbose : Bool) (cs : List Char) : Option Char :=
  if verbose then
    match cs.dropWhile isBlank with
    | '#' :: more => (more.dropWhile isBlank).head?
    | shown => shown.head?
  else cs.head?

/-! ### Numbers -/

/-- Whether a character is a hexadecimal digit. -/
def isHexadecimal (c : Char) : Bool :=
  c.isDigit || ('a' ≤ c && c ≤ 'f') || ('A' ≤ c && c ≤ 'F')

/-- The number written by hexadecimal digits. -/
def hexadecimal (digits : List Char) : Nat :=
  digits.foldl (fun n c =>
    if c.isDigit then 16 * n + (c.toNat - '0'.toNat)
    else 16 * n + (c.toLower.toNat - 'a'.toNat + 10)) 0

/-- The character with this number, if it is one. -/
def character? (n : Nat) : Option Char :=
  if n < 0xD800 ∨ (0xDFFF < n ∧ n < 0x110000) then some (Char.ofNat n) else none

/-- Exactly `n` hexadecimal digits. -/
def hexadecimalDigits? (verbose : Bool) : Nat → List Char → Option (List Char × List Char)
  | 0, cs => some ([], cs)
  | _ + 1, [] => none
  | n + 1, c :: cs =>
    if isHexadecimal c then
      (hexadecimalDigits? verbose n (pass verbose cs)).map fun (digits, rest) =>
        (c :: digits, rest)
    else none

/-- The character of a hexadecimal escape with `n` digits or with braces, and
whether it has braces. -/
def readHexadecimal? (verbose : Bool) (n : Nat) (cs : List Char) :
    Option (Char × Bool × List Char) :=
  match pass verbose cs with
  | '{' :: cs =>
    match takeShown verbose (· != '}') (pass verbose cs) with
    | (digits, '}' :: rest) =>
      if digits.isEmpty || !digits.all isHexadecimal then none
      else (character? (hexadecimal digits)).map fun c => (c, true, pass verbose rest)
    | _ => none
  | cs =>
    (hexadecimalDigits? verbose n cs).bind fun (digits, rest) =>
      (character? (hexadecimal digits)).map fun c => (c, false, rest)

/-- The number that digits write in a count, if there are any and it has at most
32 bits; and what follows them and blanks. -/
def readDecimal (verbose : Bool) (cs : List Char) : Option Nat × List Char :=
  let (digits, rest) := takeShown verbose Char.isDigit (cs.dropWhile isBlank)
  let n := digits.foldl (fun n c => 10 * n + (c.toNat - '0'.toNat)) 0
  (if digits.isEmpty || UInt32.size ≤ n then none else some n, (takeShown verbose isBlank rest).2)

/-! ### Repetitions -/

/-- How often a repetition goes on, and whether it prefers to. -/
structure Count where
  least : Nat
  most? : Option Nat
  greedy : Bool := true

/-- The numbers of a count in braces, after the opening one. -/
def readBraces? (verbose : Bool) (cs : List Char) : Option (Count × List Char) :=
  match readDecimal verbose (pass verbose cs) with
  | (some n, '}' :: rest) => some ({ least := n, most? := some n }, rest)
  | (some n, ',' :: cs) =>
    match pass verbose cs with
    | '}' :: rest => some ({ least := n, most? := none }, rest)
    | cs =>
      match readDecimal verbose cs with
      | (some m, '}' :: rest) =>
        if n ≤ m then some ({ least := n, most? := some m }, rest) else none
      | _ => none
  | _ => none

/-- The repetition that this character begins, unless it is no repetition. A
question mark behind it makes it lazy; after a brace it may stand apart. -/
def readCount? (verbose : Bool) (c : Char) (cs : List Char) :
    Option (Option (Count × List Char)) :=
  let lazily (count : Count) : List Char → Count × List Char
    | '?' :: rest => ({ count with greedy := false }, rest)
    | rest => (count, rest)
  match c with
  | '?' => some (some (lazily { least := 0, most? := some 1 } cs))
  | '*' => some (some (lazily { least := 0, most? := none } cs))
  | '+' => some (some (lazily { least := 1, most? := none } cs))
  | '{' =>
    some ((readBraces? verbose cs).map fun (count, rest) => lazily count (pass verbose rest))
  | _ => none

/-! ### Escapes -/

/-- What a single character or an escape stands for. -/
inductive Atom where
  | literal (c : Char) (isByte : Bool)
  | property (p : PropertyText)
  | shorthand (k : Shorthand) (negated : Bool)
  | anchor (a : AnchorText)

/-- The text before and after the first occurrence of a separator. -/
def divideAt? (sep : List Char) : List Char → Option (List Char × List Char)
  | [] => none
  | c :: cs =>
    match after? sep (c :: cs) with
    | some rest => some ([], rest)
    | none => (divideAt? sep cs).map fun (before, rest) => (c :: before, rest)

/-- The property written between braces. An unequal sign negates it; a colon goes
before an equals sign. -/
def propertyText (negated : Bool) (cs : List Char) : PropertyText :=
  match divideAt? ['!', '='] cs with
  | some (name, value) => ⟨String.ofList name, some (String.ofList value), !negated⟩
  | none =>
    match divideAt? [':'] cs <|> divideAt? ['='] cs with
    | some (name, value) => ⟨String.ofList name, some (String.ofList value), negated⟩
    | none => ⟨String.ofList cs, none, negated⟩

/-- A property, after the letter that announces it. -/
def readProperty? (verbose negated : Bool) (cs : List Char) : Option (Atom × List Char) :=
  match pass verbose cs with
  | [] | '\\' :: _ => none
  | '{' :: cs =>
    match takeShown verbose (· != '}') (pass verbose cs) with
    | (inside, '}' :: rest) => some (.property (propertyText negated inside), rest)
    | _ => none
  | c :: cs => some (.property ⟨String.singleton c, none, negated⟩, pass verbose cs)

/-- The boundary after `\b`: a name in braces picks a special one, anything else
in braces is left for a repetition. -/
def readBoundary? (verbose : Bool) (cs : List Char) : Option (AnchorText × List Char) :=
  let isNameChar (c : Char) : Bool := c.isAlpha || c = '-'
  match cs with
  | '{' :: inside =>
    match takeShown verbose isNameChar (pass verbose inside) with
    | ([], []) => none
    | ([], _) => some (.wordBoundary, cs)
    | (name, '}' :: rest) =>
      match String.ofList name with
      | "start" => some (.wordStart, rest)
      | "end" => some (.wordEnd, rest)
      | "start-half" => some (.wordStartHalf, rest)
      | "end-half" => some (.wordEndHalf, rest)
      | _ => none
    | _ => none
  | _ => some (.wordBoundary, cs)

/-- Whether a backslash before this character makes it stand for itself: any
ASCII character but letters, digits, `<` and `>`. -/
def isEscapable (c : Char) : Bool :=
  c.toNat < 128 && !c.isAlphanum && c != '<' && c != '>'

/-- What an escape stands for, after its backslash. -/
def readEscape? (verbose : Bool) : List Char → Option (Atom × List Char)
  | [] => none
  | c :: cs =>
    let literal (c : Char) : Option (Atom × List Char) := some (.literal c false, cs)
    let anchor (a : AnchorText) : Option (Atom × List Char) := some (.anchor a, cs)
    let shorthand (k : Shorthand) : Option (Atom × List Char) :=
      some (.shorthand k c.isUpper, cs)
    let hexadecimal (n : Nat) : Option (Atom × List Char) :=
      (readHexadecimal? verbose n cs).map fun (c, braces, rest) =>
        (.literal c (n = 2 && !braces), rest)
    match c with
    | 'x' => hexadecimal 2
    | 'u' => hexadecimal 4
    | 'U' => hexadecimal 8
    | 'p' | 'P' => readProperty? verbose c.isUpper cs
    | 'd' | 'D' => shorthand .digit
    | 's' | 'S' => shorthand .blank
    | 'w' | 'W' => shorthand .word
    | 'a' => literal '\x07'
    | 'f' => literal '\x0c'
    | 't' => literal '\t'
    | 'n' => literal '\n'
    | 'r' => literal '\r'
    | 'v' => literal '\x0b'
    | 'A' => anchor .textStart
    | 'z' => anchor .textEnd
    | 'b' => (readBoundary? verbose cs).map fun (a, rest) => (.anchor a, rest)
    | 'B' => anchor .notWordBoundary
    | '<' => anchor .wordStart
    | '>' => anchor .wordEnd
    | _ => if isEscapable c then literal c else none

/-- The tree of an atom. -/
def Atom.toTree : Atom → Tree
  | literal c isByte => .literal c isByte
  | property p => .property p
  | shorthand k negated => .shorthand k negated
  | anchor a => .anchor a

/-- The item of a set that an atom is; anchors are none. -/
def Atom.toSetTree? : Atom → Option SetTree
  | literal c _ => some (.literal c)
  | property p => some (.property p)
  | shorthand k negated => some (.shorthand k negated)
  | anchor _ => none

/-! ### Sets in brackets -/

/-- The operator that begins here. -/
def setOperator? : List Char → Option (SetOperator × List Char)
  | '&' :: '&' :: cs => some (.intersection, cs)
  | '-' :: '-' :: cs => some (.difference, cs)
  | '~' :: '~' :: cs => some (.symmetricDifference, cs)
  | _ => none

/-- A set that is being read: the part before the last operator, and the items
after it, the last one first. -/
structure OpenSet where
  left? : Option (SetTree × SetOperator) := none
  items : List SetTree := []

/-- Adds an item. -/
def OpenSet.add (s : OpenSet) (item : SetTree) : OpenSet :=
  { s with items := item :: s.items }

/-- The set read so far; operators are applied from the left. -/
def OpenSet.value (s : OpenSet) : SetTree :=
  let right := SetTree.ofItems s.items.reverse
  match s.left? with
  | none => right
  | some (left, op) => .operation op left right

/-- The class that is written as `[:name:]`, after its bracket. -/
def readAsciiClass? : List Char → Option (SetTree × List Char)
  | ':' :: cs =>
    let negated := cs.head? = some '^'
    let cs := if negated then cs.drop 1 else cs
    match cs.dropWhile (· != ':') with
    | ':' :: ']' :: rest =>
      (asciiClass? (String.ofList (cs.takeWhile (· != ':')))).map fun set =>
        (.ascii set negated, rest)
    | _ => none
  | _ => none

/-- One character or escape inside brackets. -/
def readSetAtom? (verbose : Bool) : List Char → Option (Atom × List Char)
  | [] => none
  | '\\' :: cs => readEscape? verbose cs
  | c :: cs => some (.literal c false, cs)

/-- A character, a range or a class inside brackets. A hyphen before the end of
the set or before another hyphen makes no range. -/
def readSetItem? (verbose : Bool) (cs : List Char) : Option (SetTree × List Char) :=
  (readSetAtom? verbose cs).bind fun (first, rest) =>
    let alone (rest : List Char) : Option (SetTree × List Char) :=
      first.toSetTree?.map fun item => (item, rest)
    match pass verbose rest with
    | [] => none
    | '-' :: after =>
      match peekShown verbose after with
      | some ']' | some '-' => alone ('-' :: after)
      | _ =>
        match first, readSetAtom? verbose (pass verbose after) with
        | .literal a _, some (.literal b _, rest) =>
          if a ≤ b then some (.range a b, rest) else none
        | _, _ => none
    | rest => alone rest

/-- The beginning of a set, after its bracket: hyphens, or a closing bracket, that
stand for themselves. -/
def readSetStart (verbose : Bool) (cs : List Char) : OpenSet × List Char :=
  match takeShown verbose (· = '-') cs with
  | ([], ']' :: rest) => ({ items := [.literal ']'] }, pass verbose rest)
  | (hyphens, rest) => ({ items := hyphens.map .literal }, rest)

mutual

/-- The set whose opening bracket has been passed: whether it is negated, and what
is in it. -/
def readSet? : Nat → Bool → List Char → Option (Bool × SetTree × List Char)
  | 0, _, _ => none
  | fuel + 1, verbose, cs =>
    let cs := pass verbose cs
    let negated := cs.head? = some '^'
    let cs := if negated then pass verbose (cs.drop 1) else cs
    let (start, cs) := readSetStart verbose cs
    (readSetRest? fuel verbose start cs).map fun (body, rest) => (negated, body, rest)

/-- The rest of a set up to its closing bracket. -/
def readSetRest? : Nat → Bool → OpenSet → List Char → Option (SetTree × List Char)
  | 0, _, _, _ => none
  | fuel + 1, verbose, s, cs =>
    match pass verbose cs with
    | [] => none
    | ']' :: cs => some (s.value, cs)
    | '[' :: cs =>
      match readAsciiClass? cs with
      | some (item, rest) => readSetRest? fuel verbose (s.add item) rest
      | none =>
        (readSet? fuel verbose cs).bind fun (negated, body, rest) =>
          readSetRest? fuel verbose (s.add (.bracketed negated body)) rest
    | cs =>
      match setOperator? cs with
      | some (op, rest) => readSetRest? fuel verbose { left? := some (s.value, op) } rest
      | none =>
        (readSetItem? verbose cs).bind fun (item, rest) =>
          readSetRest? fuel verbose (s.add item) rest

end

/-! ### Groups -/

/-- The flags written before `:` or `)`, that character, and what follows. No flag
is given twice, and a hyphen is followed by one. -/
def readFlags? (cleared : Bool) (given : List Char) (changes : List FlagChange) :
    List Char → Option (List FlagChange × Char × List Char)
  | [] => none
  | c :: cs =>
    if c = ':' || c = ')' then
      if given.head? = some '-' || (c = ')' && given.isEmpty) then none
      else some (changes.reverse, c, cs)
    else if given.contains c then none
    else if c = '-' then readFlags? true (c :: given) changes cs
    else
      (Flag.ofLetter? c).bind fun flag =>
        readFlags? cleared (c :: given) (⟨flag, !cleared⟩ :: changes) cs

/-- Whether blanks are ignored after some changes. -/
def verboseAfter (changes : List FlagChange) (verbose : Bool) : Bool :=
  match changes.find? fun change => change.flag = .verbose with
  | some change => change.value
  | none => verbose

/-- The name of a group and what follows its `>`; it has to be new. -/
def readGroupName? (names : List (List Char)) (cs : List Char) :
    Option (List Char × List Char) :=
  let first (c : Char) : Bool := c = '_' || isAlphabetic c
  let later (c : Char) : Bool := c = '_' || c = '.' || c = '[' || c = ']' || isAlphanumeric c
  let name := cs.takeWhile (· != '>')
  match name, cs.dropWhile (· != '>') with
  | c :: more, '>' :: rest =>
    if first c && more.all later && !names.contains name then some (name, rest) else none
  | _, _ => none

/-- How a group begins: flags for the rest of the group around it, a group with a
number, or one without. -/
inductive GroupStart where
  | flags (changes : List FlagChange)
  | numbered (name? : Option (List Char))
  | plain (changes : List FlagChange)

/-- The beginning of a group, after its bracket. -/
def readGroupStart? (verbose : Bool) (names : List (List Char)) (cs : List Char) :
    Option (GroupStart × List Char) :=
  match pass verbose cs with
  | '?' :: '=' :: _ | '?' :: '!' :: _ | '?' :: '<' :: '=' :: _ | '?' :: '<' :: '!' :: _ => none
  | '?' :: 'P' :: '<' :: cs | '?' :: '<' :: cs =>
    (readGroupName? names cs).map fun (name, rest) => (.numbered (some name), rest)
  | '?' :: cs =>
    (readFlags? false [] [] cs).map fun (changes, c, rest) =>
      (if c = ')' then .flags changes else .plain changes, rest)
  | cs => some (.numbered none, cs)

/-- A group that is being read: the alternatives before the last bar and the items
after it, the last ones first, the names given to groups so far, and their
number. -/
structure OpenGroup where
  alternatives : List Tree := []
  items : List Tree := []
  names : List (List Char) := []
  groups : Nat := 0

namespace OpenGroup

/-- Adds an item. -/
def add (g : OpenGroup) (item : Tree) : OpenGroup :=
  { g with items := item :: g.items }

/-- Ends an alternative. -/
def endAlternative (g : OpenGroup) : OpenGroup :=
  { g with alternatives := .ofItems g.items.reverse :: g.alternatives, items := [] }

/-- The group read so far. -/
def value (g : OpenGroup) : Tree :=
  .ofAlternatives g.endAlternative.alternatives.reverse

/-- Repeats the last item; there has to be one, and flags are none. -/
def repeat? (g : OpenGroup) (count : Count) : Option OpenGroup :=
  match g.items with
  | [] | .flags _ :: _ => none
  | item :: items =>
    some { g with items := .repeated count.least count.most? count.greedy item :: items }

/-- A group inside this one, with what is known so far. -/
def inner (g : OpenGroup) (name? : Option (List Char)) (groups : Nat) : OpenGroup :=
  { names := name?.toList ++ g.names, groups }

/-- Adds a group that has been read inside this one. -/
def close (g inner : OpenGroup) (item : Tree) : OpenGroup :=
  { g with items := item :: g.items, names := inner.names, groups := inner.groups }

end OpenGroup

/-- The tree of a character outside brackets that begins nothing longer. -/
def plainTree : Char → Tree
  | '.' => .dot
  | '^' => .anchor .caret
  | '$' => .anchor .dollar
  | c => .literal c false

/-- Reads a group up to its closing bracket or the end of the text; gives the
group and the rest with the bracket. -/
def readGroup? : Nat → Bool → OpenGroup → List Char → Option (OpenGroup × List Char)
  | 0, _, _, _ => none
  | fuel + 1, verbose, g, cs =>
    match pass verbose cs with
    | [] => some (g, [])
    | ')' :: cs => some (g, ')' :: cs)
    | '|' :: cs => readGroup? fuel verbose g.endAlternative cs
    | '(' :: cs =>
      (readGroupStart? verbose g.names cs).bind fun (start, rest) =>
        match start with
        | .flags changes =>
          readGroup? fuel (verboseAfter changes verbose) (g.add (.flags changes)) rest
        | .numbered name? =>
          (readGroup? fuel verbose (g.inner name? (g.groups + 1)) rest).bind fun (inner, rest) =>
            match rest with
            | ')' :: rest =>
              let item : Tree := .capture (g.groups + 1) inner.value
              readGroup? fuel verbose (g.close inner item) rest
            | _ => none
        | .plain changes =>
          (readGroup? fuel (verboseAfter changes verbose) (g.inner none g.groups) rest).bind
            fun (inner, rest) =>
              match rest with
              | ')' :: rest =>
                readGroup? fuel verbose (g.close inner (.group changes inner.value)) rest
              | _ => none
    | '[' :: cs =>
      (readSet? fuel verbose cs).bind fun (negated, body, rest) =>
        readGroup? fuel verbose (g.add (.bracketed negated body)) rest
    | '\\' :: cs =>
      (readEscape? verbose cs).bind fun (atom, rest) =>
        readGroup? fuel verbose (g.add atom.toTree) rest
    | c :: cs =>
      match readCount? verbose c cs with
      | some none => none
      | some (some (count, rest)) =>
        (g.repeat? count).bind fun g => readGroup? fuel verbose g rest
      | none => readGroup? fuel verbose (g.add (plainTree c)) cs

/-- The tree that a text writes down. Every step takes a character, and a bracket
takes two steps. -/
def Tree.read? (text : String) : Option Tree :=
  match readGroup? (2 * text.toList.length + 2) false {} text.toList with
  | some (g, []) => some g.value
  | _ => none

end Reflectory.Pattern
