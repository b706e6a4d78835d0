/-
Changes: how the files of a run differ from those that were there before it.

Paths are relative to the directory that is written to. A file that the run
produces is added or modified; a file that was there and is not produced counts
as removed, though it stays where it is.
-/

import Reflectory.FileTree.Basic

namespace Reflectory

open Text

/-- The paths of changed files, each list in order. -/
structure ChangeReport where
  added : List String := []
  modified : List String := []
  removed : List String := []
  deriving DecidableEq, Repr

namespace ChangeReport

/-- A file as it counts in a comparison: one that cannot be read counts as empty, and so as
modified when it gets a text. -/
def asRead (f : String × Except FileError Bytes) : String × Bytes :=
  (f.1, f.2.toOption.getD #[])

/-- The contents of the file with this path. -/
def contents? (files : List (String × Bytes)) (path : String) : Option Bytes :=
  (files.find? fun f => f.1 == path).map Prod.snd

/-- The changes from the files that were there to the files of a run. -/
def between (before after : List (String × Bytes)) : ChangeReport :=
  let sorted (paths : List String) := paths.mergeSort fun a b => a ≤ b
  let isNew (f : String × Bytes) : Bool := (contents? before f.1).isNone
  let isOther (f : String × Bytes) : Bool := (contents? before f.1).any (· != f.2)
  { added := sorted ((after.filter isNew).map Prod.fst)
    modified := sorted ((after.filter isOther).map Prod.fst)
    removed := sorted ((before.map Prod.fst).filter fun path => (contents? after path).isNone) }

/-- Whether nothing has changed. -/
def isEmpty (c : ChangeReport) : Bool :=
  c.added.isEmpty && c.modified.isEmpty && c.removed.isEmpty

/-- One line for every change: a letter and the path. -/
def listing (c : ChangeReport) : String :=
  unlines <|
    c.added.map ("A " ++ ·) ++ c.modified.map ("M " ++ ·) ++ c.removed.map ("R " ++ ·)

/-- The lines for paths to which the same has happened. -/
def sectionLines (what : String) (paths : List String) : List String :=
  if paths.isEmpty then []
  else
    ["", "* " ++ toString paths.length ++ " files " ++ what] ++ paths.map ("    " ++ ·)

/-- The summary of the changes. -/
def summary (c : ChangeReport) : String :=
  unlines <|
    if c.isEmpty then ["", "* no files changed"]
    else
      sectionLines "added" c.added ++ sectionLines "modified" c.modified ++
        sectionLines "removed" c.removed

end ChangeReport

end Reflectory
