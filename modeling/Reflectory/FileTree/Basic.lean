/-
Trees of files and directories.

A tree says what stands at each place below its root, which is also the current
directory. Operations take paths as texts and fail for the causes for which a
file system fails; what they do to a tree is seen through `FileTree.node?`. A
tree can refuse that files at certain places are written, or that they are read.
-/

import Reflectory.FileTree.Error

namespace Reflectory

/-- The contents of a file. -/
abbrev Bytes := Array UInt8

/-- The contents of a file that holds a text. -/
def textBytes (text : String) : Bytes :=
  text.toUTF8.data

/-- A place in a tree: the names on the way from the root. -/
abbrev Place := List String

/-- What stands at a place. -/
inductive Node where
  | file (contents : Bytes)
  | dir
  deriving DecidableEq

/-- Files and directories by place; the root is always a directory. -/
structure FileTree where
  nodes : List (Place × Node) := []
  /-- Where no file can be written. -/
  refused : List Place := []
  /-- Where no file can be read. -/
  unreadable : List Place := []
  deriving DecidableEq

namespace FileTree

/-- What stands at a place, if anything. -/
def node? (t : FileTree) (p : Place) : Option Node :=
  if p.isEmpty then some .dir else (t.nodes.find? fun e => e.1 == p).map Prod.snd

/-- Whether a directory stands at a place. -/
def isDir (t : FileTree) (p : Place) : Bool :=
  t.node? p = some .dir

/-- The tree with a node at a place, whatever stood there. -/
def put (t : FileTree) (p : Place) (n : Node) : FileTree :=
  { t with nodes := (p, n) :: t.nodes.filter fun e => e.1 != p }

/-- The tree without what stands at a place and below it. -/
def remove (t : FileTree) (p : Place) : FileTree :=
  { t with nodes := t.nodes.filter fun e => !p.isPrefixOf e.1 }

theorem find?_filter_ne (p q : Place) (h : q ≠ p) (nodes : List (Place × Node)) :
    (nodes.filter fun e => e.1 != p).find? (fun e => e.1 == q) =
      nodes.find? fun e => e.1 == q := by
  induction nodes with
  | nil => rfl
  | cons e nodes ih =>
    by_cases hp : e.1 = p
    · simp [hp, ih, Ne.symm h]
    · by_cases hq : e.1 = q <;> simp [hp, hq, ih, h]

theorem node?_put (t : FileTree) (p q : Place) (n : Node) (hp : p ≠ []) :
    (t.put p n).node? q = if q = p then some n else t.node? q := by
  unfold node? put
  by_cases hq : q = p
  · simp [hq, hp]
  · simp [hq, Ne.symm hq, find?_filter_ne p q hq]

/-! ### Paths -/

/-- The names that a path is made of. -/
def names (path : String) : List String :=
  ((Text.splitAt (· = '/') path.toList).filter fun cs => !cs.isEmpty).map String.ofList

/-- The names on the way to what a path denotes; a slash at the end asks for a
directory. -/
def steps (path : String) : List String :=
  names path ++ if path.toList.getLast? = some '/' then ["."] else []

/-- The place that names lead to from a place. Every name but the last has to
lead to something that stands there, and further ones only lead on from
directories. -/
def locateFrom (t : FileTree) (here : Place) : List String → Except FileError Place
  | [] => .ok here
  | name :: rest =>
    match t.node? here with
    | none => .error .notFound
    | some (.file _) => .error .notDirectory
    | some .dir =>
      if name = "." then t.locateFrom here rest
      else if name = ".." then t.locateFrom here.dropLast rest
      else t.locateFrom (here ++ [name]) rest

/-- The place that a path denotes. -/
def locate (t : FileTree) (path : String) : Except FileError Place :=
  if path.isEmpty then .error .notFound else t.locateFrom [] (steps path)

/-! ### Reading -/

/-- What reading a file with these contents gives that stands at a place. -/
def readAt (t : FileTree) (p : Place) (contents : Bytes) : Except FileError Bytes :=
  if p ∈ t.unreadable then .error .refused else .ok contents

/-- The contents of a file. -/
def read (t : FileTree) (path : String) : Except FileError Bytes :=
  match t.locate path with
  | .error cause => .error cause
  | .ok p =>
    match t.node? p with
    | some (.file contents) => t.readAt p contents
    | some .dir => .error .isDirectory
    | none => .error .notFound

/-- Whether a path denotes a file. -/
def isFile (t : FileTree) (path : String) : Bool :=
  match t.locate path with
  | .error _ => false
  | .ok p => t.node? p matches some (.file _)

/-- What stands below a place: the path from there, the place and the node, ordered
by path. -/
def below (t : FileTree) (p : Place) : List (String × Place × Node) :=
  let entries := t.nodes.filterMap fun (q, n) =>
    match Text.after? p q with
    | none | some [] => none
    | some names => some (Text.join "/" names, q, n)
  entries.mergeSort fun a b => a.1 ≤ b.1

/-- The files below a directory, each with its path from there and with what reading
it gives, ordered by path. -/
def filesBelow (t : FileTree) (path : String) :
    Except FileError (List (String × Except FileError Bytes)) :=
  match t.locate path with
  | .error cause => .error cause
  | .ok p =>
    match t.node? p with
    | none => .error .notFound
    | some (.file _) => .error .notDirectory
    | some .dir =>
      .ok <| (t.below p).filterMap fun (name, q, n) =>
        match n with
        | .file contents => some (name, t.readAt q contents)
        | .dir => none

/-! ### Writing -/

/-- Writes a file, over an older one if there is one. -/
def write (t : FileTree) (path : String) (contents : Bytes) : Except FileError FileTree :=
  match t.locate path with
  | .error cause => .error cause
  | .ok p =>
    if t.isDir p then .error .isDirectory
    else if p ∈ t.refused then .error .refused
    else .ok (t.put p (.file contents))

/-- Makes one directory; the names before the last have to lead to one. -/
def makeDir (t : FileTree) (names : List String) : Except FileError FileTree :=
  match t.locateFrom [] names with
  | .error cause => .error cause
  | .ok p => if (t.node? p).isSome then .error .alreadyExists else .ok (t.put p .dir)

/-- Whether names lead to a directory. -/
def leadsToDir (t : FileTree) (names : List String) : Bool :=
  match t.locateFrom [] names with
  | .ok p => t.isDir p
  | .error _ => false

/-- The directory that a directory stands in, both given by their names from the
last to the first; a dot stands for the directory before it. -/
def parentRev (names : List String) : List String :=
  ((names.dropWhile (· = ".")).drop 1).dropWhile (· = ".")

theorem length_parentRev (name : String) (names : List String) :
    (parentRev (name :: names)).length < (name :: names).length := by
  have hsub : (parentRev (name :: names)).length ≤
      (((name :: names).dropWhile (· = ".")).drop 1).length :=
    (List.dropWhile_sublist _).length_le
  have hall : ((name :: names).dropWhile (· = ".")).length ≤ (name :: names).length :=
    (List.dropWhile_sublist _).length_le
  simp only [List.length_drop, List.length_cons] at *
  omega

/-- Makes a directory, given by its names from the last to the first, after the
directories on the way to it. What has been made stays, even if it is not all. -/
def makeDirsRev (t : FileTree) : List String → Except FileError Unit × FileTree
  | [] => (.ok (), t)
  | name :: rest =>
    let names := (name :: rest).reverse
    let settle (t : FileTree) : Except FileError Unit × FileTree :=
      match t.makeDir names with
      | .ok t => (.ok (), t)
      | .error cause => (if t.leadsToDir names then .ok () else .error cause, t)
    match t.makeDir names with
    | .error .notFound =>
      match t.makeDirsRev (parentRev (name :: rest)) with
      | (.ok (), t) => settle t
      | failed => failed
    | _ => settle t
termination_by names => names.length
decreasing_by exact length_parentRev name rest

/-- Makes the directory that a path denotes and all on the way to it. -/
def makeDirs (t : FileTree) (path : String) : Except FileError Unit × FileTree :=
  t.makeDirsRev (names path).reverse

end FileTree

end Reflectory
