/-
The command line program on real files.
-/

import Reflectory.Program

namespace Reflectory

/-- The cause that a failed file operation is reported with. -/
def FileError.ofIO : IO.Error → FileError
  | .noFileOrDirectory .. => .notFound
  | .permissionDenied .. => .refused
  | .alreadyExists .. => .alreadyExists
  | .inappropriateType _ code _ => if code = 21 then .isDirectory else .notDirectory
  | e => .other (toString e)

/-- Runs a file operation; a failure is a result. -/
def attempt {α : Type} (action : IO α) : IO (Except FileError α) := do
  match ← action.toBaseIO with
  | .ok a => return .ok a
  | .error e => return .error (.ofIO e)

/-- The entry that a path denotes, as seen from the current directory. -/
def entryAt (path : String) : IO.FS.DirEntry where
  root := "."
  fileName := path

/-- Whether a path denotes a directory. -/
def isDirectory (path : String) : IO Bool :=
  (entryAt path).path.isDir

/-- Makes the directories that these names lead through, from a directory, where
nothing stands in their places; in the last place only a directory may stand. -/
def makeDirsFrom (dir : String) : List String → IO Unit
  | [] => pure ()
  | name :: names => do
    let dir := joinPath dir name
    let isThere ← if names.isEmpty then isDirectory dir else (entryAt dir).path.pathExists
    unless isThere do IO.FS.createDir dir
    makeDirsFrom dir names

/-- The files below a directory, each with its path from where the search began and
with what reading it gives. -/
partial def filesUnder (dir fromTop : String) :
    IO (List (String × Except FileError Bytes)) := do
  let mut found := []
  for entry in ← (entryAt dir).path.readDir do
    let path := joinPath dir entry.fileName
    let name := joinPath fromTop entry.fileName
    if ← isDirectory path then found := found ++ (← filesUnder path name)
    else found := found ++ [(name, ← attempt (ByteArray.data <$> IO.FS.readBinFile path))]
  return found

instance : FileAccess IO where
  read path := attempt (ByteArray.data <$> IO.FS.readBinFile path)
  write path contents := attempt (IO.FS.writeBinFile path ⟨contents⟩)
  makeDirs path :=
    attempt (makeDirsFrom (if path.startsWith "/" then "/" else "") (FileTree.names path))
  isFile path := return (← (entryAt path).path.pathExists) && !(← isDirectory path)
  filesBelow path := do
    if path.isEmpty then return .error .notFound
    let files ← attempt (filesUnder path "")
    return files.map fun files => files.mergeSort fun a b => a.1 ≤ b.1

/-- How the program is called. -/
def usage : String :=
  "Usage: genwrapper -d path_to_src [doxy_dir] [-t template]\n" ++
    "       genwrapper [-c config_file]... [-v level] [-m] [-l] [doxy_dir] output_dir\n"

end Reflectory

open Reflectory in
/-- Reads the command line and does what it asks for. -/
def main (args : List String) : IO UInt32 := do
  match CommandLine.ofWords args with
  | .error .help | .error .version =>
    IO.print usage
    return 0
  | .error _ =>
    IO.eprint usage
    return 2
  | .ok line =>
    let tempDir := (← IO.getEnv "TMPDIR").getD "/tmp"
    let result ← Program.run line tempDir
    IO.print result.output
    IO.eprint result.errors
    return result.code.toUInt32
