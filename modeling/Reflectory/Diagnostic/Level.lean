/-
Levels of diagnostics, and thresholds over them.

A threshold lets through the diagnostics of its own level and of all graver
ones; nothing is ever reported at the level "quiet".
-/

import Reflectory.Text.Trim

namespace Reflectory

/-- From silent to talkative. -/
inductive Level where
  | quiet | error | warning | notice | info | debug
  deriving DecidableEq, Repr

namespace Level

/-- The place of a level from silent to talkative. -/
def rank : Level → Nat
  | quiet => 0
  | error => 1
  | warning => 2
  | notice => 3
  | info => 4
  | debug => 5

/-- The name of a level on the command line. -/
def name : Level → String
  | quiet => "QUIET"
  | error => "ERROR"
  | warning => "WARNING"
  | notice => "NOTICE"
  | info => "INFO"
  | debug => "DEBUG"

/-- The word before a diagnostic of this level in the log. -/
def logName? : Level → Option String
  | quiet => none
  | error => some "ERROR"
  | warning => some "WARN"
  | notice => some "INFO"
  | info => some "DEBUG"
  | debug => some "TRACE"

/-- Every level. -/
def all : List Level :=
  [quiet, error, warning, notice, info, debug]

/-- The level of this name, in capital or small ASCII letters. -/
def ofName? (text : String) : Option Level :=
  all.find? fun level => level.name.toList == text.toList.map Char.toUpper

/-- What is said of a text that names no level. -/
def unknownMessage (text : String) : String :=
  "unknown verbosity `" ++ text ++ "` (expected QUIET, ERROR, WARNING, NOTICE, INFO or DEBUG)"

/-- Whether a threshold lets diagnostics of a level through. -/
def lets (threshold level : Level) : Bool :=
  level != quiet && level.rank ≤ threshold.rank

theorem ofName?_name (level : Level) : ofName? level.name = some level := by
  cases level <;> decide +kernel

end Level

/-- One reported diagnostic. -/
structure Report where
  level : Level
  message : String
  deriving DecidableEq, Repr

namespace Report

/-- The diagnostics that a threshold lets through, in order. -/
def passing (threshold : Level) (reports : List Report) : List Report :=
  reports.filter fun r => threshold.lets r.level

/-- The messages reported at exactly this level. -/
def messagesAt (level : Level) (reports : List Report) : List String :=
  (reports.filter fun r => r.level = level).map Report.message

end Report

end Reflectory
