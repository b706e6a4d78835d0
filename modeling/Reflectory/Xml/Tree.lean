/-
Trees of elements and text.

An element has a name, attributes and children. Text is wanted without blanks at
its ends; `Element.textWith` reads the text of an element where some of the
elements inside stand for other texts.
-/

import Reflectory.Text.Trim

namespace Reflectory.Xml

/-- A child of an element. -/
inductive Node where
  | element (name : String) (attributes : List (String × String)) (children : List Node)
  | text (s : String)
  deriving Repr

/-- An element with what is inside it. -/
structure Element where
  name : String
  attributes : List (String × String)
  children : List Node
  deriving Repr

/-- The element as a child. -/
def Element.toNode (e : Element) : Node :=
  .element e.name e.attributes e.children

/-- The child as an element, if it is one. -/
def Node.element? : Node → Option Element
  | element name attributes children => some ⟨name, attributes, children⟩
  | text _ => none

mutual

/-- The text of a child, where elements may have a text of their own. -/
def Node.textWith (own? : Element → Option String) : Node → String
  | .text s => s
  | .element name attributes children =>
    match own? ⟨name, attributes, children⟩ with
    | some own => own
    | none => childrenTextWith own? children

/-- The text of children one after another. -/
def childrenTextWith (own? : Element → Option String) : List Node → String
  | [] => ""
  | n :: ns => n.textWith own? ++ childrenTextWith own? ns

end

namespace Element

/-- The value of an attribute. -/
def attr? (e : Element) (key : String) : Option String :=
  (e.attributes.find? fun a => a.1 == key).map Prod.snd

/-- The children that are elements. -/
def elements (e : Element) : List Element :=
  e.children.filterMap Node.element?

/-- The children that are elements of this name. -/
def childrenNamed (e : Element) (name : String) : List Element :=
  e.elements.filter fun c => c.name == name

/-- The first child that is an element of this name. -/
def child? (e : Element) (name : String) : Option Element :=
  e.elements.find? fun c => c.name == name

/-- The text inside the element, where elements inside it may have a text of
their own. -/
def textWith (own? : Element → Option String) (e : Element) : String :=
  Text.trim (childrenTextWith own? e.children)

/-- The text inside the element. -/
def text (e : Element) : String :=
  e.textWith fun _ => none

/-- The text of the first child of this name, unless it is empty. -/
def childText? (e : Element) (name : String) : Option String :=
  ((e.child? name).map text).filter fun s => !s.isEmpty

end Element

end Reflectory.Xml
