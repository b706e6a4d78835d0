/-
Configuration: which types are reflected, how, and under what names.

A configuration is built up by documents and by single changes. Lists of
patterns grow, tables are merged key by key under canonical type names, and a
single value is replaced by the last one given. Patterns are matched against
whole qualified names.
-/

import Reflectory.FileTree.Error
import Reflectory.Pattern.Limits
import Reflectory.Property.Policy
import Reflectory.Toml.Reader

namespace Reflectory

/-- Why a configuration cannot be extended. -/
inductive ConfigError where
  | file (path : String) (cause : FileError)
  | parse (path : String)
  | pattern (text : String)
  deriving DecidableEq, Repr

/-- The text of a cause. -/
def ConfigError.message : ConfigError → String
  | file path cause =>
    "could not read configuration file `" ++ path ++ "`: " ++ cause.message
  | parse path => "could not parse configuration file `" ++ path ++ "`"
  | pattern text => "invalid type pattern `" ++ text ++ "`"

/-! ### Patterns of type names -/

/-- A pattern as written with what it means for a whole name. -/
structure TypePattern where
  text : String
  whole : Pattern

/-- The pattern of a text. It is put between anchors as it stands, so it can
close the group that is opened for it. -/
def TypePattern.ofText (text : String) : Except ConfigError TypePattern :=
  match Pattern.read? ("^(?:" ++ text ++ ")$") with
  | some whole => .ok { text, whole }
  | none => .error (.pattern text)

/-- Whether the pattern matches a qualified name. -/
def TypePattern.isMatch (p : TypePattern) (name : String) : Bool :=
  p.whole.matchesIn name

/-! ### Tables of names -/

/-- A table from canonical type names to texts. -/
abbrev NameTable := List (String × String)

namespace NameTable

/-- The text of a name. -/
def get? (t : NameTable) (name : String) : Option String :=
  (t.find? fun e => e.1 == name).map Prod.snd

/-- Gives a name, in any spelling, a text. -/
def insert (t : NameTable) (name text : String) : NameTable :=
  (Spelling.normalize name, text) :: t.filter fun e => e.1 != Spelling.normalize name

/-- Gives several names texts, in the order of the names as spelled. -/
def insertAll (t : NameTable) (entries : List (String × String)) : NameTable :=
  (entries.mergeSort fun a b => a.1 ≤ b.1).foldl (fun t e => t.insert e.1 e.2) t

end NameTable

/-! ### Documents -/

/-- The lists of a property table that a document gives. -/
structure PolicyChanges where
  getterPrefixes? : Option (List String) := none
  setterPrefixes? : Option (List String) := none
  countPrefixes? : Option (List String) := none
  adderPrefixes? : Option (List String) := none
  inserterPrefixes? : Option (List String) := none
  removerPrefixes? : Option (List String) := none
  indexTypes? : Option (List String) := none
  deriving DecidableEq, Repr

/-- Replaces the lists that are given. -/
def PolicyChanges.apply (c : PolicyChanges) (p : PropertyPolicy) : PropertyPolicy where
  getterPrefixes := c.getterPrefixes?.getD p.getterPrefixes
  setterPrefixes := c.setterPrefixes?.getD p.setterPrefixes
  countPrefixes := c.countPrefixes?.getD p.countPrefixes
  adderPrefixes := c.adderPrefixes?.getD p.adderPrefixes
  inserterPrefixes := c.inserterPrefixes?.getD p.inserterPrefixes
  removerPrefixes := c.removerPrefixes?.getD p.removerPrefixes
  indexTypes := c.indexTypes?.getD p.indexTypes

/-- What a configuration document says. -/
structure ConfigDocument where
  outputSubpath? : Option String := none
  includes : List String := []
  excludes : List String := []
  valueTypes : List String := []
  externalTypes : List String := []
  customReflectors : List (String × String) := []
  namingOverrides : List (String × String) := []
  properties : PolicyChanges := {}
  deriving DecidableEq, Repr

namespace ConfigDocument

open Toml

/-- A value that has to be a text. -/
def text? : Value → Option String
  | .text s => some s
  | _ => none

/-- A value that has to be a list of texts. -/
def texts? : Value → Option (List String)
  | .array items => items.mapM text?
  | _ => none

/-- The key under which a date counts as a table with its text. -/
def momentKey : String :=
  "$__toml_private_datetime"

/-- A value that has to be a table of texts. -/
def textTable? : Value → Option (List (String × String))
  | .table _ entries => entries.mapM fun (key, v) => (text? v).map fun s => (key, s)
  | .moment s => some [(momentKey, s)]
  | _ => none

/-- One list of a property table. -/
def setPolicy? (c : PolicyChanges) (key : String) (list : List String) : Option PolicyChanges :=
  match key with
  | "getter_prefixes" => some { c with getterPrefixes? := some list }
  | "setter_prefixes" => some { c with setterPrefixes? := some list }
  | "count_prefixes" => some { c with countPrefixes? := some list }
  | "adder_prefixes" => some { c with adderPrefixes? := some list }
  | "inserter_prefixes" => some { c with inserterPrefixes? := some list }
  | "remover_prefixes" => some { c with removerPrefixes? := some list }
  | "index_types" => some { c with indexTypes? := some list }
  | _ => none

/-- The keys of a property table in their order. -/
def policyKeys : List String :=
  ["getter_prefixes", "setter_prefixes", "count_prefixes", "adder_prefixes",
    "inserter_prefixes", "remover_prefixes", "index_types"]

/-- A property table. An array stands for the lists in the order of the keys;
what it has beyond them is ignored. -/
def policy? (v : Value) : Option PolicyChanges :=
  let set (c : PolicyChanges) (e : String × Value) : Option PolicyChanges :=
    (texts? e.2).bind (setPolicy? c e.1)
  match v with
  | .table _ entries => entries.foldlM set {}
  | .array items => (policyKeys.zip items).foldlM set {}
  | _ => none

/-- Adds one entry of a document. -/
def set? (d : ConfigDocument) (key : String) (v : Value) : Option ConfigDocument :=
  match key with
  | "output_subpath" => (text? v).map fun s => { d with outputSubpath? := some s }
  | "include" => (texts? v).map fun l => { d with includes := l }
  | "exclude" => (texts? v).map fun l => { d with excludes := l }
  | "value_types" => (texts? v).map fun l => { d with valueTypes := l }
  | "external_types" => (texts? v).map fun l => { d with externalTypes := l }
  | "custom_reflectors" => (textTable? v).map fun t => { d with customReflectors := t }
  | "naming_overrides" => (textTable? v).map fun t => { d with namingOverrides := t }
  | "properties" => (policy? v).map fun c => { d with properties := c }
  | _ => none

/-- The document of a TOML text: every key has to be known and to have a value
of its kind. -/
def ofText? (text : String) : Option ConfigDocument :=
  (Toml.read? text).bind fun entries => entries.foldlM (fun d e => d.set? e.1 e.2) {}

end ConfigDocument

/-! ### Configurations -/

/-- All choices that guide consolidation and generation. -/
structure Configuration where
  outputSubpath? : Option String := none
  includes : List TypePattern := []
  excludes : List TypePattern := []
  valueTypes : List TypePattern := []
  externalTypes : List TypePattern := []
  customReflectors : NameTable := []
  namingOverrides : NameTable := []
  propertyPolicy : PropertyPolicy := {}

namespace Configuration

/-- Where the units go, unless a configuration says otherwise. -/
def defaultOutputSubpath : String :=
  "src/osgWrappers/introspection"

/-- A list of patterns that takes further ones. -/
inductive PatternList where
  | includes | excludes | valueTypes | externalTypes
  deriving DecidableEq, Repr

/-- Adds a pattern to one of the lists. -/
def addPattern (c : Configuration) (list : PatternList) (text : String) :
    Except ConfigError Configuration :=
  (TypePattern.ofText text).map fun p =>
    match list with
    | .includes => { c with includes := c.includes ++ [p] }
    | .excludes => { c with excludes := c.excludes ++ [p] }
    | .valueTypes => { c with valueTypes := c.valueTypes ++ [p] }
    | .externalTypes => { c with externalTypes := c.externalTypes ++ [p] }

/-- Adds patterns to a list up to the first text that is none; gives the error
that stopped it. -/
def addPatterns (c : Configuration) (list : PatternList) :
    List String → Configuration × Option ConfigError
  | [] => (c, none)
  | text :: texts =>
    match c.addPattern list text with
    | .ok c => c.addPatterns list texts
    | .error e => (c, some e)

/-- Replaces the reflector of a type by a written one. -/
def customReflector (c : Configuration) (name body : String) : Configuration :=
  { c with customReflectors := c.customReflectors.insert name body }

/-- Names the file of a type's unit. -/
def namingOverride (c : Configuration) (name stem : String) : Configuration :=
  { c with namingOverrides := c.namingOverrides.insert name stem }

/-- Merges a document: first its output path, then its patterns list by list,
then the rest. A text that is no pattern ends the merge where it stands. -/
def merge (c : Configuration) (d : ConfigDocument) : Configuration × Option ConfigError :=
  let c := { c with outputSubpath? := d.outputSubpath? <|> c.outputSubpath? }
  let lists : List (PatternList × List String) :=
    [(.includes, d.includes), (.excludes, d.excludes), (.valueTypes, d.valueTypes),
      (.externalTypes, d.externalTypes)]
  let step (state : Configuration × Option ConfigError) (l : PatternList × List String) :=
    match state with
    | (c, none) => c.addPatterns l.1 l.2
    | stopped => stopped
  match lists.foldl step (c, none) with
  | (c, none) =>
    ({ c with
        customReflectors := c.customReflectors.insertAll d.customReflectors
        namingOverrides := c.namingOverrides.insertAll d.namingOverrides
        propertyPolicy := d.properties.apply c.propertyPolicy }, none)
  | stopped => stopped

/-- Merges the document of a text; `path` says where the text is from. -/
def loadText (c : Configuration) (path text : String) : Configuration × Option ConfigError :=
  match ConfigDocument.ofText? text with
  | some d => c.merge d
  | none => (c, some (.parse path))

/-- Merges the document of a file that has been read. -/
def loadFile (c : Configuration) (path : String) (contents : Except FileError String) :
    Configuration × Option ConfigError :=
  match contents with
  | .ok text => c.loadText path text
  | .error cause => (c, some (.file path cause))

/-- Merges the document of a text that is not from a file. -/
def load (c : Configuration) (text : String) : Configuration × Option ConfigError :=
  c.loadText "<string>" text

/-! ### Answers -/

/-- Whether a list of patterns matches a name. -/
def anyMatch (patterns : List TypePattern) (name : String) : Bool :=
  patterns.any fun p => p.isMatch name

/-- Whether a rule decides that a type is reflected or not; a type that is both
included and excluded is reflected. -/
def eligibilityOverride? (c : Configuration) (name : String) : Option Bool :=
  if anyMatch c.includes name then some true
  else if anyMatch c.excludes name then some false
  else none

/-- The written reflector of a type. -/
def customReflector? (c : Configuration) (name : String) : Option String :=
  c.customReflectors.get? name

/-- The file name of a type's unit, without its suffix. -/
def outputName? (c : Configuration) (name : String) : Option String :=
  c.namingOverrides.get? name

/-- Whether a class is reflected as a value. -/
def isValueType (c : Configuration) (name : String) : Bool :=
  anyMatch c.valueTypes name

/-- Whether a base that is not registered is known nevertheless. -/
def isExternalType (c : Configuration) (name : String) : Bool :=
  anyMatch c.externalTypes name

/-- Where the units go, below the output directory. -/
def outputSubpath (c : Configuration) : String :=
  c.outputSubpath?.getD defaultOutputSubpath

end Configuration

end Reflectory
