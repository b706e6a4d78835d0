/-
Command lines, in one of two forms.

    -d source_dir [export_dir] [-t template]
    [-c configuration]... [-v level] [-m] [-l] [export_dir] output_dir

Words are read one by one. An option takes its value from its own word or from
the next one, which must not look like an option; values and directories wait
until the next option, or the end, before they are checked, so an unknown option
is reported before a bad value in front of it. After `--` all words are
directories.
-/

import Reflectory.Diagnostic.Level

namespace Reflectory

/-- Why a command line is rejected, or what it asks for instead of a run. -/
inductive UsageError where
  | unknownOption
  /-- An option without a value, or with an empty path. -/
  | missingValue
  | unknownLevel
  /-- More directories than two in a row, or a value for a switch. -/
  | tooManyValues
  /-- A second use of an option that can be used once. -/
  | repeated
  | help
  | version
  deriving DecidableEq, Repr

/-- Options without a value. -/
inductive Switch where
  | doxyfile | makefiles | listChanges | help | version
  deriving DecidableEq, Repr

/-- Options with a value. -/
inductive Setting where
  | template | config | verbosity
  deriving DecidableEq, Repr

/-- Options of either sort. -/
inductive CommandOption where
  | switch (s : Switch)
  | setting (s : Setting)
  deriving DecidableEq, Repr

namespace CommandOption

/-- The option of this letter. -/
def ofLetter? : Char → Option CommandOption
  | 'd' => some (.switch .doxyfile)
  | 'm' => some (.switch .makefiles)
  | 'l' => some (.switch .listChanges)
  | 'h' => some (.switch .help)
  | 'V' => some (.switch .version)
  | 't' => some (.setting .template)
  | 'c' => some (.setting .config)
  | 'v' => some (.setting .verbosity)
  | _ => none

/-- The option of this name. -/
def ofName? : String → Option CommandOption
  | "doxyfile" => some (.switch .doxyfile)
  | "makefiles" => some (.switch .makefiles)
  | "list-changes" => some (.switch .listChanges)
  | "help" => some (.switch .help)
  | "version" => some (.switch .version)
  | "template" => some (.setting .template)
  | "config" => some (.setting .config)
  | "verbosity" => some (.setting .verbosity)
  | _ => none

end CommandOption

/-- What a command line says. -/
structure CommandLine where
  doxyfile : Bool := false
  makefiles : Bool := false
  listChanges : Bool := false
  template? : Option String := none
  configs : List String := []
  verbosity? : Option Level := none
  dirs : List String := []
  deriving DecidableEq, Repr

/-- The threshold of diagnostics. -/
def CommandLine.verbosity (c : CommandLine) : Level :=
  c.verbosity?.getD .notice

/-! ### Reading words -/

/-- What waits to be checked. -/
inductive Pending where
  | nothing
  /-- An option, with its value if that has been read. -/
  | value (s : Setting) (text? : Option String)
  | dirs (texts : List String)
  deriving DecidableEq, Repr

/-- A command line that has been read up to some word. -/
structure Reading where
  line : CommandLine := {}
  pending : Pending := .nothing
  /-- Whether all further words are directories. -/
  dirsOnly : Bool := false
  deriving DecidableEq, Repr

namespace Reading

/-- Sets an option. -/
def set (r : Reading) (s : Setting) (text : String) : Except UsageError Reading :=
  let line := r.line
  match s with
  | .template =>
    if line.template?.isSome then .error .repeated
    else if text.isEmpty then .error .missingValue
    else .ok { r with line := { line with template? := some text } }
  | .config =>
    if text.isEmpty then .error .missingValue
    else .ok { r with line := { line with configs := line.configs ++ [text] } }
  | .verbosity =>
    if line.verbosity?.isSome then .error .repeated
    else
      match Level.ofName? text with
      | some level => .ok { r with line := { line with verbosity? := some level } }
      | none => .error .unknownLevel

/-- Checks what waits. -/
def settle (r : Reading) : Except UsageError Reading :=
  let r' := { r with pending := .nothing }
  match r.pending with
  | .nothing => .ok r'
  | .value _ none => .error .missingValue
  | .value s (some text) => r'.set s text
  | .dirs texts =>
    if texts.length > 2 then .error .tooManyValues
    else .ok { r' with line := { r.line with dirs := r.line.dirs ++ texts } }

/-- Turns a switch on. -/
def turnOn (r : Reading) (s : Switch) : Except UsageError Reading :=
  r.settle.bind fun r =>
    let line := r.line
    match s with
    | .help => .error .help
    | .version => .error .version
    | .doxyfile =>
      if line.doxyfile then .error .repeated
      else .ok { r with line := { line with doxyfile := true } }
    | .makefiles =>
      if line.makefiles then .error .repeated
      else .ok { r with line := { line with makefiles := true } }
    | .listChanges =>
      if line.listChanges then .error .repeated
      else .ok { r with line := { line with listChanges := true } }

/-- Reads an option with a value, which may stand in the same word. -/
def readSetting (r : Reading) (s : Setting) (text? : Option String) : Except UsageError Reading :=
  r.settle.bind fun r =>
    match text? with
    | some text => r.set s text
    | none => .ok { r with pending := .value s none }

/-- Reads a word that begins with two hyphens, which are left out. -/
def readLong (r : Reading) (word : List Char) : Except UsageError Reading :=
  let name := String.ofList (word.takeWhile (· != '='))
  let value? := ((word.dropWhile (· != '=')).tail?).map String.ofList
  match CommandOption.ofName? name, value? with
  | none, _ => .error .unknownOption
  | some (.switch _), some _ => .error .tooManyValues
  | some (.switch s), none => r.turnOn s
  | some (.setting s), value? => r.readSetting s value?

/-- Reads letters after a hyphen. What follows the letter of an option with a
value is its value, with or without a sign of equality. -/
def readLetters (r : Reading) : List Char → Except UsageError Reading
  | [] => .ok r
  | c :: cs =>
    match CommandOption.ofLetter? c with
    | none => .error .unknownOption
    | some (.switch s) => (r.turnOn s).bind fun r => r.readLetters cs
    | some (.setting s) =>
      match cs with
      | [] => r.readSetting s none
      | '=' :: value => r.readSetting s (some (String.ofList value))
      | value => r.readSetting s (some (String.ofList value))

/-- Reads a word that is no option: the value that an option waits for, or a
directory. -/
def readPlain (r : Reading) (word : String) : Except UsageError Reading :=
  match r.pending, r.dirsOnly with
  | .value s none, false => .ok { r with pending := .value s (some word) }
  | .dirs texts, _ => .ok { r with pending := .dirs (texts ++ [word]) }
  | _, _ => r.settle.map fun r => { r with pending := .dirs [word] }

/-- Reads a word. -/
def read (r : Reading) (word : String) : Except UsageError Reading :=
  if r.dirsOnly then r.readPlain word
  else
    match word.toList with
    | ['-', '-'] => .ok { r with dirsOnly := true }
    | '-' :: '-' :: cs => r.readLong cs
    | ['-'] => r.readPlain word
    | '-' :: cs => r.readLetters cs
    | _ => r.readPlain word

end Reading

/-- The command line that words make up. -/
def CommandLine.ofWords (words : List String) : Except UsageError CommandLine :=
  ((words.foldlM Reading.read {}).bind Reading.settle).map Reading.line

/-! ### Modes -/

/-- A directory with forward slashes, and one at its end. -/
def normalizeDir (path : String) : String :=
  let cs := path.toList.map fun c => if c = '\\' then '/' else c
  String.ofList (if cs.getLast? = some '/' then cs else cs ++ ['/'])

/-- What a run does. -/
inductive Mode where
  /-- Writes a configuration for Doxygen. -/
  | doxyfile (sourceDir doxyDir : String)
  /-- Generates units. -/
  | build (doxyDir outputDir : String)
  deriving DecidableEq, Repr

/-- What a command line asks for, if its directories fit. -/
def CommandLine.mode? (c : CommandLine) (tempDir : String) : Option Mode :=
  match c.doxyfile, c.dirs with
  | true, [source] => some (.doxyfile (normalizeDir source) (normalizeDir tempDir))
  | true, [source, doxy] => some (.doxyfile (normalizeDir source) (normalizeDir doxy))
  | false, [output] => some (.build (normalizeDir tempDir) (normalizeDir output))
  | false, [doxy, output] => some (.build (normalizeDir doxy) (normalizeDir output))
  | _, _ => none

end Reflectory
