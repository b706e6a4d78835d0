/-
Generation: the units of a registry are written to a directory.

A file that already has its text is not written again. A file that cannot be
written is a failure that is reported, and the run goes on; only a directory that
cannot be made, or not be scanned for changes, stops it. Files that are not produced
are left alone. If asked for, the changes are listed in a file of their own, which is
itself never listed.
-/

import Reflectory.FileTree.Access
import Reflectory.Generation.Changes
import Reflectory.Generation.Units

namespace Reflectory

/-- What a run is asked to write besides the units and their manifest. -/
structure GenerationOptions where
  makefile : Bool := false
  /-- Compare with the files that are there, and list the changes. -/
  listChanges : Bool := false
  deriving DecidableEq, Repr

/-- Why nothing is generated. -/
inductive GenerationError where
  | directory (path : String) (cause : FileError)
  | scan (path : String) (cause : FileError)
  deriving DecidableEq, Repr

/-- The text of a cause. -/
def GenerationError.message : GenerationError → String
  | directory path cause =>
    "could not create output directory `" ++ path ++ "`: " ++ cause.message
  | scan path cause =>
    "could not scan output directory `" ++ path ++ "`: " ++ cause.scanMessage path

/-- A file that could not be written. -/
structure WriteFailure where
  path : String
  cause : FileError
  deriving DecidableEq, Repr

/-- What a run has done. -/
structure GenerationReport where
  dir : String
  units : List UnitFile
  failures : List WriteFailure
  changes? : Option ChangeReport
  statistics : Statistics
  deriving DecidableEq, Repr

/-- Whether every file was written. -/
def GenerationReport.isSuccess (r : GenerationReport) : Bool :=
  r.failures.isEmpty

/-- A run with its events. -/
structure Generation where
  result : Except GenerationError GenerationReport
  events : List Event

namespace Generation

/-! ### Files -/

/-- The name of the list of units. -/
def manifestName : String :=
  "wrappers.manifest"

/-- The name of the makefile. -/
def makefileName : String :=
  "GNUmakefile"

/-- The name of the list of changes. -/
def changesName : String :=
  "genwrapper.changes"

/-- The files that a run produces, in the order in which it writes them. -/
def products (units : List UnitFile) (options : GenerationOptions) : List (String × Bytes) :=
  let texts := units.map (fun u => (u.file, u.contents)) ++
    [(manifestName, UnitFile.manifest units)] ++
    if options.makefile then [(makefileName, UnitFile.makefile units)] else []
  texts.map fun (name, text) => (name, textBytes text)

/-! ### Writing -/

/-- What became of a file: whether it was written, or why it could not be. -/
structure Outcome where
  path : String
  written : Except FileError Bool

namespace Outcome

/-- What is said of a file. -/
def event? (o : Outcome) : Option Event :=
  match o.written with
  | .ok true => some (.written o.path)
  | .ok false => none
  | .error cause => some (.notWritten o.path cause)

/-- The failure, if the file could not be written. -/
def failure? (o : Outcome) : Option WriteFailure :=
  match o.written with
  | .ok _ => none
  | .error cause => some ⟨o.path, cause⟩

/-- Whether the file was written. -/
def isWritten (o : Outcome) : Bool :=
  o.written matches .ok true

end Outcome

variable {m : Type → Type} [Monad m] [FileAccess m]

/-- Writes a file, whatever it holds. -/
def overwrite (path : String) (contents : Bytes) : m Outcome := do
  match ← FileAccess.write path contents with
  | .ok () => return ⟨path, .ok true⟩
  | .error cause => return ⟨path, .error cause⟩

/-- Writes a file unless it already has these contents. -/
def writeIfChanged (path : String) (contents : Bytes) : m Outcome := do
  match ← FileAccess.read path with
  | .ok current => if current = contents then return ⟨path, .ok false⟩ else overwrite path contents
  | .error _ => overwrite path contents

/-- The files below a directory that changes are listed of; none if they are not. -/
def snapshot (options : GenerationOptions) (dir : String) :
    m (Except FileError (List (String × Bytes))) := do
  if options.listChanges then
    return (← FileAccess.filesBelow dir).map fun files =>
      (files.filter fun f => f.1 != changesName).map ChangeReport.asRead
  else return .ok []

/-- Writes the files of a run into a directory that is there and held these files
before. -/
def writeAll (r : Registry) (config : Configuration) (options : GenerationOptions)
    (dir : String) (before : List (String × Bytes)) : m Generation := do
  let units := UnitFile.ofRegistry r config
  let files := products units options
  let outcomes ← files.mapM fun (name, contents) => writeIfChanged (joinPath dir name) contents
  let changes := ChangeReport.between before files
  let listed ←
    if options.listChanges then
      pure [← overwrite (joinPath dir changesName) (textBytes changes.listing)]
    else pure []
  let written := (outcomes.filter Outcome.isWritten).length
  return {
    result := .ok {
      dir
      units
      failures := (outcomes ++ listed).filterMap Outcome.failure?
      changes? := if options.listChanges then some changes else none
      statistics := .ofRegistry r }
    events :=
      UnitFile.events r config ++ outcomes.filterMap Outcome.event? ++
        [.generated units.length written dir] ++
        listed.filterMap fun o => o.failure?.map fun f => .notWritten f.path f.cause }

/-- Generates the units of a registry below an output directory. -/
def run (r : Registry) (config : Configuration) (options : GenerationOptions)
    (outputDir : String) : m Generation := do
  let dir := joinPath outputDir config.outputSubpath
  let generation ←
    match ← FileAccess.makeDirs dir with
    | .error cause => pure ⟨.error (.directory dir cause), []⟩
    | .ok () =>
      match ← snapshot options dir with
      | .error cause => pure ⟨.error (.scan dir cause), []⟩
      | .ok before => writeAll r config options dir before
  return { generation with events := .generating :: generation.events }

end Generation

end Reflectory
