/-
Reading documents: from pieces to a tree.

The elements that are open form a stack; a closing tag closes the innermost one
and has to name it. The first element outside all others is the root. What else
stands outside elements is passed over.
-/

import Reflectory.Xml.Error
import Reflectory.Xml.Markup
import Reflectory.Xml.Tree

namespace Reflectory.Xml

/-- A document that has been read up to some place. -/
structure Growth where
  /-- The open elements with their children so far, innermost first. -/
  opened : List Element := []
  root? : Option Element := none
  deriving Repr

namespace Growth

/-- Adds a child to the innermost open element. -/
def addChild (g : Growth) (n : Node) : Growth :=
  match g.opened with
  | [] => g
  | e :: rest => { g with opened := { e with children := e.children ++ [n] } :: rest }

/-- Adds a complete element where the document has been read to. -/
def addElement (g : Growth) (e : Element) : Growth :=
  match g.opened with
  | [] => { g with root? := g.root? <|> some e }
  | _ => g.addChild e.toNode

/-- Reads a piece. -/
def read (g : Growth) : Markup → Option Growth
  | .opening name attributes => some { g with opened := ⟨name, attributes, []⟩ :: g.opened }
  | .single name attributes => some (g.addElement ⟨name, attributes, []⟩)
  | .closing name =>
    match g.opened with
    | [] => none
    | e :: rest =>
      if e.name = name then some ({ g with opened := rest }.addElement e) else none
  | .text raw =>
    if g.opened.isEmpty then some g
    else (expand raw).map fun cs => g.addChild (.text (String.ofList cs))
  | .literal cs => some (g.addChild (.text (String.ofList cs)))
  | .skipped => some g

/-- The root, where the document ends. -/
def root (g : Growth) : Except Error Element :=
  match g.opened, g.root? with
  | e :: _, _ => .error (.unclosed e.name)
  | [], some root => .ok root
  | [], none => .error .noRoot

end Growth

/-- The pieces of a document without its byte order mark. -/
def pieces (text : String) : Option (List Markup) :=
  match text.toList with
  | '\uFEFF' :: cs => scan cs
  | cs => scan cs

/-- The root of a document. -/
def Element.ofText (text : String) : Except Error Element :=
  match (pieces text).bind fun ms => ms.foldlM Growth.read {} with
  | none => .error .malformed
  | some g => g.root

end Reflectory.Xml
