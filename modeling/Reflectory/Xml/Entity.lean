/-
References to characters.

Text and attribute values may name a character, `&lt;`, or number it, `&#60;` or
`&#x3c;`. `expand` puts the characters in the place of the references; a text in
which an ampersand does not begin a reference to a character has no expansion.
-/

namespace Reflectory.Xml

/-- The value of a digit. -/
def digitValue? (base : Nat) (c : Char) : Option Nat :=
  let value? :=
    if c.isDigit then some (c.toNat - '0'.toNat)
    else if 'a' ≤ c ∧ c ≤ 'f' then some (c.toNat - 'a'.toNat + 10)
    else if 'A' ≤ c ∧ c ≤ 'F' then some (c.toNat - 'A'.toNat + 10)
    else none
  value?.filter (· < base)

/-- The number that a nonempty list of digits stands for. -/
def number? (base : Nat) (digits : List Char) : Option Nat :=
  if digits.isEmpty then none
  else digits.foldlM (fun n c => (digitValue? base c).map (base * n + ·)) 0

/-- The character with this number; zero is the number of none. -/
def numbered? (n : Nat) : Option Char :=
  if h : n.isValidChar then if n = 0 then none else some (Char.ofNatAux n h) else none

/-- The character that is referred to by what stands between `&` and `;`. -/
def reference? : List Char → Option Char
  | '#' :: 'x' :: digits => (number? 16 digits).bind numbered?
  | '#' :: digits => (number? 10 digits).bind numbered?
  | name =>
    match String.ofList name with
    | "amp" => some '&'
    | "lt" => some '<'
    | "gt" => some '>'
    | "quot" => some '"'
    | "apos" => some '\''
    | _ => none

/-- The characters with references expanded, inside a reference whose first
characters are given, or outside. -/
def expandFrom : Option (List Char) → List Char → Option (List Char)
  | none, [] => some []
  | some _, [] => none
  | none, '&' :: cs => expandFrom (some []) cs
  | none, c :: cs => (expandFrom none cs).map (c :: ·)
  | some name, ';' :: cs => (reference? name).bind fun c => (expandFrom none cs).map (c :: ·)
  | some _, '&' :: _ => none
  | some name, c :: cs => expandFrom (some (name ++ [c])) cs

/-- The characters with references expanded. -/
def expand (cs : List Char) : Option (List Char) :=
  if cs.contains '&' then expandFrom none cs else some cs

end Reflectory.Xml
