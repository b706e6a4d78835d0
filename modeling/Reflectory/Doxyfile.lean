/-
Templates of Doxygen's own configuration.

A template names two directories by placeholders, which are replaced line by
line and one after the other.
-/

import Reflectory.Text.Trim

namespace Reflectory.Doxyfile

/-- Stands for the directory with the sources. -/
def inputPlaceholder : String :=
  "$(INPUT_DIR)"

/-- Stands for the directory that the export goes to. -/
def outputPlaceholder : String :=
  "$(OUTPUT_DIR)"

/-- The file that is used where no template is named. -/
def templateName : String :=
  "Doxyfile.template"

/-- The lines of a text, each with the line break that ends it. What stands
behind the last line break is a line if anything does. -/
def lines : List Char → List (List Char)
  | [] => []
  | c :: cs =>
    if c = '\n' then [c] :: lines cs
    else
      match lines cs with
      | [] => [[c]]
      | line :: rest => (c :: line) :: rest

/-- A line with its placeholders replaced. -/
def renderLine (inputDir outputDir line : String) : String :=
  Text.replaceAll outputPlaceholder outputDir (Text.replaceAll inputPlaceholder inputDir line)

/-- The template with its placeholders replaced. -/
def render (template inputDir outputDir : String) : String :=
  String.join <| (lines template.toList).map fun line =>
    renderLine inputDir outputDir (String.ofList line)

end Reflectory.Doxyfile
