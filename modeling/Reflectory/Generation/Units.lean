/-
The units of a registry.

Every type that is to be reflected and complete gets a unit, in the order in
which consolidation has settled the types. File names are chosen in the order of
type names, so they do not depend on that order: a name that differs from an
earlier one in nothing but the case of letters is numbered. The manifest lists
all units with their types, the makefile lists their files.
-/

import Reflectory.Configuration
import Reflectory.Diagnostic.Event
import Reflectory.SourceUnit.Basic
import Reflectory.Statistics
import Reflectory.Text.Lowercase

namespace Reflectory

open Text

/-! ### Types with a unit -/

namespace Registry

/-- The settled types in order. -/
def settledTypes (r : Registry) : List Descriptor :=
  r.order.filterMap r.get?

/-- The types that get a unit. -/
def emitted (r : Registry) : List Descriptor :=
  r.settledTypes.filter Descriptor.isEmitted

/-- What is said of a type that is to be reflected and gets no unit. -/
def skipEvent? (d : Descriptor) : Option Event :=
  if d.eligible then
    match d.state with
    | .consolidated => none
    | .invalid => some (.invalidSkipped d.name)
    | .unresolved | .building => some (.unconsolidatedSkipped d.name)
  else none

end Registry

/-! ### File names -/

/-- A type with the stem of its file name, and the stem that it would have if no
other type had it. -/
structure FileStem where
  type : String
  base : String
  stem : String
  deriving DecidableEq, Repr

namespace FileStem

/-- The stem of a type's file before numbering. -/
def baseOf (config : Configuration) (type : String) : String :=
  (config.outputName? type).getD (Spelling.fileStem type)

/-- Whether a stem is taken, whatever the case of its letters. -/
def isTaken (stems : List FileStem) (stem : String) : Bool :=
  stems.any fun s => lowercase s.stem.toList == lowercase stem.toList

/-- Chooses the stem for one more type. -/
def choose (config : Configuration) (stems : List FileStem) (type : String) : List FileStem :=
  let base := baseOf config type
  stems ++ [⟨type, base, firstFree (isTaken stems) base stems.length⟩]

/-- The stems for these types. -/
def ofTypes (config : Configuration) (types : List String) : List FileStem :=
  (types.mergeSort fun a b => a ≤ b).foldl (choose config) []

/-- The stem of a type; empty if it has none. -/
def of (stems : List FileStem) (type : String) : String :=
  ((stems.find? fun s => s.type == type).map FileStem.stem).getD ""

/-- What is said of a stem that has been numbered. -/
def event? (s : FileStem) : Option Event :=
  if s.stem = s.base then none else some (.fileNameTaken s.type s.base s.stem)

end FileStem

/-! ### Units -/

/-- The unit of a type as a file. -/
structure UnitFile where
  type : String
  file : String
  contents : String
  deriving DecidableEq, Repr

namespace UnitFile

/-- The files for the units of a registry. -/
def ofRegistry (r : Registry) (config : Configuration) : List UnitFile :=
  let stems := FileStem.ofTypes config (r.emitted.map Descriptor.name)
  r.emitted.map fun d =>
    { type := d.name
      file := FileStem.of stems d.name ++ ".cpp"
      contents := (SourceUnit.ofDescriptor r d).render }

/-- What is said when the units of a registry are made. -/
def events (r : Registry) (config : Configuration) : List Event :=
  r.settledTypes.filterMap Registry.skipEvent? ++
    (FileStem.ofTypes config (r.emitted.map Descriptor.name)).filterMap FileStem.event?

/-- The list of all units: type and file, a tab between them. -/
def manifest (units : List UnitFile) : String :=
  unlines (units.map fun u => u.type ++ "\t" ++ u.file)

/-- The makefile that compiles all units. -/
def makefile (units : List UnitFile) : String :=
  let files := (units.map UnitFile.file).mergeSort fun a b => a ≤ b
  unlines <|
    ["# Generated automatically by genwrapper.",
      "# Please DO NOT EDIT this file!",
      "",
      "TOPDIR = ../../../..",
      "include $(TOPDIR)/Make/makedefs",
      "",
      "CXXFILES =\\"] ++
    files.map (fun file => "\t" ++ file ++ "\\") ++
    ["",
      "LIBS += -losgIntrospection $(OTHER_LIBS)",
      "",
      "include $(TOPDIR)/Make/makerules"]

end UnitFile

end Reflectory
