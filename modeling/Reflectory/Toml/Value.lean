/-
Values of TOML documents, and how statements build a document up.

A document is a table that headers and assignments add to. What may be added
where depends on how a table came to be: one with a header is closed to dotted
keys from outside, one made by a dotted key is closed to headers, an inline one
is closed to everything, and no key is assigned twice.
-/

namespace Reflectory.Toml

/-- How a table came to be. -/
inductive Origin where
  /-- As part of the path in a header. -/
  | implied
  /-- By a header of its own, or as the document. -/
  | header
  /-- By a dotted key. -/
  | dotted
  /-- Written between braces. -/
  | inlined
  deriving DecidableEq, Repr

/-- A value of a document. Numbers and truth values are told apart from all else
only. -/
inductive Value where
  | text (s : String)
  | scalar
  /-- A date, a time or both, by its canonical text. -/
  | moment (text : String)
  | array (items : List Value)
  | table (origin : Origin) (entries : List (String × Value))
  /-- The tables of headers in double brackets. -/
  | tables (elements : List (List (String × Value)))

/-- The entries of a table, in the order of their keys' first occurrence. -/
abbrev Entries := List (String × Value)

namespace Entries

/-- The value of a key. -/
def get? (es : Entries) (key : String) : Option Value :=
  (es.find? fun e => e.1 == key).map Prod.snd

/-- Gives a key a value. -/
def set : Entries → String → Value → Entries
  | [], key, v => [(key, v)]
  | e :: es, key, v => if e.1 == key then (key, v) :: es else e :: set es key v

/-- Changes the table that a path leads to, as headers do: missing tables are
made, and a list of tables stands for its last element. -/
def within (es : Entries) (path : List String) (f : Entries → Option Entries) : Option Entries :=
  match path with
  | [] => f es
  | key :: path =>
    match es.get? key with
    | none => (within [] path f).map fun inner => es.set key (.table .implied inner)
    | some (.table origin inner) =>
      if origin = .inlined then none
      else (within inner path f).map fun inner => es.set key (.table origin inner)
    | some (.tables elements) =>
      (within (elements.getLast?.getD []) path f).map fun inner =>
        es.set key (.tables (elements.dropLast ++ [inner]))
    | some _ => none

/-- Opens the table of a header with this last key. -/
def openTable (key : String) (es : Entries) : Option Entries :=
  match es.get? key with
  | none => some (es.set key (.table .header []))
  | some (.table .implied inner) => some (es.set key (.table .header inner))
  | some _ => none

/-- Opens one more table under the last key of a header in double brackets. -/
def openElement (key : String) (es : Entries) : Option Entries :=
  match es.get? key with
  | none => some (es.set key (.tables [[]]))
  | some (.tables elements) => some (es.set key (.tables (elements ++ [[]])))
  | some _ => none

/-- Assigns a value to a dotted key. Tables on the way that are missing are
made; only those that dotted keys have made may be added to. -/
def assign (es : Entries) (path : List String) (key : String) (v : Value) : Option Entries :=
  match path with
  | [] => if (es.get? key).isSome then none else some (es.set key v)
  | first :: path =>
    match es.get? first with
    | none => (assign [] path key v).map fun inner => es.set first (.table .dotted inner)
    | some (.table origin inner) =>
      if origin = .dotted || (origin = .implied && !path.isEmpty) then
        (assign inner path key v).map fun inner => es.set first (.table origin inner)
      else none
    | some _ => none

end Entries

end Reflectory.Toml
