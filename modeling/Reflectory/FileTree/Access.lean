/-
Access to files: the operations that a run needs of the place it works in.

Runs are written for any monad that offers them. A `FileTree` as state offers
them all, so what a run does to files is a function from trees to trees.
-/

import Reflectory.FileTree.Basic

namespace Reflectory

/-- The file operations of a run. -/
class FileAccess (m : Type → Type) where
  /-- The contents of a file. -/
  read : String → m (Except FileError Bytes)
  /-- Writes a file, over an older one if there is one. -/
  write : String → Bytes → m (Except FileError Unit)
  /-- Makes a directory and all on the way to it. -/
  makeDirs : String → m (Except FileError Unit)
  /-- Whether a path denotes a file. -/
  isFile : String → m Bool
  /-- The files below a directory, each with its path from there and with what
  reading it gives, in the order of these paths. -/
  filesBelow : String → m (Except FileError (List (String × Except FileError Bytes)))

/-- The text that a file holds. -/
def decodeText (contents : Except FileError Bytes) : Except FileError String :=
  contents.bind fun bytes =>
    match String.fromUTF8? ⟨bytes⟩ with
    | some text => .ok text
    | none => .error .notUtf8

/-- Reads a file as text. -/
def readText {m : Type → Type} [Functor m] [FileAccess m] (path : String) :
    m (Except FileError String) :=
  decodeText <$> FileAccess.read path

/-- A tree as state. -/
abbrev OnTree := StateM FileTree

instance : FileAccess OnTree where
  read path := fun t => (t.read path, t)
  write path contents := fun t =>
    match t.write path contents with
    | .ok t => (.ok (), t)
    | .error cause => (.error cause, t)
  makeDirs path := fun t => t.makeDirs path
  isFile path := fun t => (t.isFile path, t)
  filesBelow path := fun t => (t.filesBelow path, t)

end Reflectory
