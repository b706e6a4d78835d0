/-
The program: what a command line does, and what is said about it.

In the first mode a template is filled in and printed. In the second the
configuration is read, the export is turned into a registry, the registry is
consolidated, and its units are generated; the summary goes to the output, all
diagnostics to the errors.
-/

import Reflectory.CommandLine
import Reflectory.Declaration.Export
import Reflectory.Doxyfile
import Reflectory.Generation.Basic
import Reflectory.Registry.Building
import Reflectory.Registry.Consolidation

namespace Reflectory

/-- What a run leaves behind besides files. -/
structure RunResult where
  code : Nat
  output : String := ""
  errors : String := ""
  deriving DecidableEq, Repr

namespace Program

/-! ### Causes of failure -/

/-- The file that is read where no configuration is named. -/
def configName : String :=
  "genwrapper.conf"

/-- Why a run fails as a whole. -/
inductive Failure where
  /-- The directories do not fit the mode. -/
  | arguments
  | template (path : String)
  | configuration (cause : ConfigError)
  | index (cause : IndexError)
  | generation (cause : GenerationError)
  deriving DecidableEq, Repr

/-- The text of a cause; the cause of a failed file operation is repeated at the
end. -/
def Failure.message : Failure → String
  | arguments => "invalid arguments"
  | template path => "could not open " ++ path
  | configuration cause =>
    match cause with
    | .file _ inner => cause.message ++ ": " ++ inner.message
    | .parse _ | .pattern _ => cause.message
  | index cause =>
    match cause with
    | .file _ inner => cause.message ++ ": " ++ inner.message
    | _ => cause.message
  | generation cause =>
    match cause with
    | .directory _ inner => cause.message ++ ": " ++ inner.message
    | .scan path inner =>
      cause.message ++ ": " ++ inner.scanMessage path ++ ": " ++ inner.message

/-! ### Texts -/

/-- A diagnostic in the log: the word for its level, five columns wide, and its
message. -/
def logLine (r : Report) : String :=
  let word := r.level.logName?.getD ""
  String.ofList (List.replicate (5 - word.length) ' ') ++ word ++ " " ++ r.message

/-- The log of events. -/
def log (threshold : Level) (events : List Event) : String :=
  Text.unlines ((reported threshold events).map logLine)

/-- A line for something that went wrong. -/
def errorLine (text : String) : String :=
  Text.unlines ["* ERROR: " ++ text]

/-- The result of a run that failed after these events. -/
def failed (threshold : Level) (events : List Event) (failure : Failure) : RunResult where
  code := 1
  errors := log threshold events ++ errorLine failure.message

/-- The result of a run that generated units, after these events. -/
def generated (threshold : Level) (events : List Event) (report : GenerationReport) :
    RunResult where
  code := if report.isSuccess then 0 else 1
  output :=
    "done.\n\nREPORT:\n" ++ report.statistics.report ++
      (report.changes?.map ChangeReport.summary).getD ""
  errors :=
    log threshold events ++
      String.join (report.failures.map fun f =>
        errorLine ("could not write " ++ f.path ++ ": " ++ f.cause.message))

/-! ### Runs -/

/-- A configuration being read with the events so far; once reading has failed,
the rest is left out. -/
structure ConfigReading where
  config : Configuration := {}
  events : List Event := []
  failure? : Option ConfigError := none

variable {m : Type → Type} [Monad m] [FileAccess m]

/-- Reads one more configuration file. -/
def readConfig (r : ConfigReading) (path : String) : m ConfigReading := do
  match r.failure? with
  | some _ => return r
  | none =>
    match r.config.loadFile path (← readText path) with
    | (config, none) => return { r with config, events := r.events ++ [.configurationLoaded path] }
    | (config, some cause) => return { r with config, failure? := some cause }

/-- Reads all configuration files of a command line. -/
def readConfigs (line : CommandLine) : m ConfigReading := do
  let start : ConfigReading := { events := [.loadingConfiguration] }
  let r ←
    if line.configs.isEmpty then
      if ← FileAccess.isFile configName then readConfig start configName
      else pure { start with events := start.events ++ [.noConfiguration configName] }
    else line.configs.foldlM readConfig start
  match r.failure? with
  | some _ => return r
  | none =>
    let included := r.config.includes.map fun p => Event.included p.text
    let excluded := r.config.excludes.map fun p => Event.excluded p.text
    return { r with events := r.events ++ included ++ excluded }

/-- Generates the units of an export. -/
def build (line : CommandLine) (doxyDir outputDir : String) : m RunResult := do
  let threshold := line.verbosity
  let reading ← readConfigs line
  match reading.failure? with
  | some cause => return failed threshold reading.events (.configuration cause)
  | none =>
    let events := reading.events ++ [.loadingIndex]
    match ← DeclarationIndex.load (doxyDir ++ "xml/") with
    | .error cause => return failed threshold events (.index cause)
    | .ok index =>
      let built := Registry.build index reading.config
      let consolidated := built.registry.consolidate reading.config
      let options : GenerationOptions :=
        { makefile := line.makefiles, listChanges := line.listChanges }
      let generation ← Generation.run consolidated.registry reading.config options outputDir
      let events := events ++ built.events ++ consolidated.events ++ generation.events
      match generation.result with
      | .error cause => return failed threshold events (.generation cause)
      | .ok report => return generated threshold events report

/-- Prints a configuration for Doxygen. -/
def printDoxyfile (line : CommandLine) (sourceDir doxyDir : String) : m RunResult := do
  let path := line.template?.getD Doxyfile.templateName
  match ← readText path with
  | .ok template => return { code := 0, output := Doxyfile.render template sourceDir doxyDir }
  | .error _ => return failed line.verbosity [] (.template path)

/-- Does what a command line asks for. -/
def run (line : CommandLine) (tempDir : String) : m RunResult :=
  match line.mode? tempDir with
  | none => return failed line.verbosity [] .arguments
  | some (.doxyfile sourceDir doxyDir) => printDoxyfile line sourceDir doxyDir
  | some (.build doxyDir outputDir) => build line doxyDir outputDir

end Program

end Reflectory
