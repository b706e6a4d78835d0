/-
Events of a run: everything that is worth a diagnostic, with its level and its
message.

The stages of a run return the events in the order in which they happen; a
threshold decides afterwards which of them are reported.
-/

import Reflectory.Declaration.Index
import Reflectory.Diagnostic.Level
import Reflectory.Property.Inference
import Reflectory.Registry.Basic

namespace Reflectory

/-- Why a type cannot be completed. -/
inductive InvalidReason where
  | baseNotFound (base : String)
  | baseInvalid (base : String)
  deriving DecidableEq, Repr

/-- The text of a reason. -/
def InvalidReason.message : InvalidReason → String
  | baseNotFound base => "public base `" ++ base ++ "` not found"
  | baseInvalid base => "public base `" ++ base ++ "` is invalid"

/-- What happens in a run. -/
inductive Event where
  -- reading the configuration and the index
  | loadingConfiguration
  | configurationLoaded (path : String)
  | noConfiguration (path : String)
  | included (pattern : String)
  | excluded (pattern : String)
  | loadingIndex
  -- building the registry
  | building
  | compoundSkipped (handle : String) (cause : IndexError)
  | registered (type : String)
  | notRegistered (cause : RegistryError)
  | notEvaluated (type label init : String) (used : Int64)
  | accessorsRejected (type : String) (pair : Rejection)
  | built (types : Nat)
  -- consolidating it
  | consolidating
  | cycleDropped (type base : String)
  | baseNotFound (type base : String)
  | becameAbstract (type : String)
  | becameInvalid (type : String) (reason : InvalidReason)
  | consolidated (types invalid : Nat)
  -- generating units
  | generating
  | invalidSkipped (type : String)
  | unconsolidatedSkipped (type : String)
  | fileNameTaken (type base stem : String)
  | written (path : String)
  | notWritten (path : String) (cause : FileError)
  | generated (units written : Nat) (dir : String)
  deriving DecidableEq, Repr

namespace Event

/-- The level at which an event is reported. -/
def level : Event → Level
  | loadingConfiguration | loadingIndex | building | consolidating | generating => .notice
  | configurationLoaded _ | built _ | becameAbstract _ | consolidated _ _ | fileNameTaken _ _ _
  | generated _ _ _ => .info
  | included _ | excluded _ | registered _ | written _ => .debug
  | noConfiguration _ | compoundSkipped _ _ | notRegistered _ | notEvaluated _ _ _ _
  | accessorsRejected _ _ | cycleDropped _ _ | baseNotFound _ _ | becameInvalid _ _
  | invalidSkipped _ | unconsolidatedSkipped _ => .warning
  | notWritten _ _ => .error

/-- The text that reports an event. -/
def message : Event → String
  | loadingConfiguration => "loading configuration files"
  | configurationLoaded path => "loaded `" ++ path ++ "`"
  | noConfiguration path =>
    "no configuration file given and no `" ++ path ++ "` found, using defaults"
  | included pattern => "include `" ++ pattern ++ "`"
  | excluded pattern => "exclude `" ++ pattern ++ "`"
  | loadingIndex => "loading XML index file"
  | building => "building type registry"
  | compoundSkipped handle cause => "skipping compound `" ++ handle ++ "`: " ++ cause.message
  | registered type => "registered `" ++ type ++ "`"
  | notRegistered cause => cause.message
  | notEvaluated type label init used =>
    "enum `" ++ type ++ "`: cannot evaluate `" ++ label ++ " = " ++ init ++ "`, using " ++
      toString used.toInt
  | accessorsRejected type pair => "type `" ++ type ++ "`: " ++ pair.message
  | built types => toString types ++ " types registered"
  | consolidating => "consolidating type registry"
  | cycleDropped type base =>
    "inheritance cycle: `" ++ type ++ "` derives from `" ++ base ++ "`; edge dropped"
  | baseNotFound type base => "type `" ++ type ++ "`: base `" ++ base ++ "` not found"
  | becameAbstract type =>
    "type `" ++ type ++ "` leaves pure virtual methods unimplemented; " ++
      "reflecting it as an abstract object type"
  | becameInvalid type reason => "type `" ++ type ++ "` is invalid: " ++ reason.message
  | consolidated types invalid =>
    toString types ++ " types consolidated, " ++ toString invalid ++ " invalid"
  | generating => "generating wrappers"
  | invalidSkipped type => "skipping invalid type `" ++ type ++ "`"
  | unconsolidatedSkipped type => "skipping unconsolidated type `" ++ type ++ "`"
  | fileNameTaken type base stem =>
    "type `" ++ type ++ "`: file name `" ++ base ++ "` taken, using `" ++ stem ++ "`"
  | written path => "wrote `" ++ path ++ "`"
  | notWritten path cause => "could not write `" ++ path ++ "`: " ++ cause.message
  | generated units files dir =>
    toString units ++ " units, " ++ toString files ++ " files written to `" ++ dir ++ "`"

/-- The diagnostic of an event. -/
def report (e : Event) : Report :=
  ⟨e.level, e.message⟩

end Event

/-- The diagnostics of events that a threshold lets through. -/
def reported (threshold : Level) (events : List Event) : List Report :=
  Report.passing threshold (events.map Event.report)

end Reflectory
