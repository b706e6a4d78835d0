/-
Why a text is no XML document.
-/

namespace Reflectory.Xml

/-- The causes for which a document is refused. -/
inductive Error where
  /-- The markup is not well-formed. -/
  | malformed
  /-- The text ends inside this element. -/
  | unclosed (name : String)
  | noRoot
  deriving DecidableEq, Repr

/-- The text of a cause; malformed markup is reported without one. -/
def Error.message? : Error → Option String
  | malformed => none
  | unclosed name => some ("unclosed element `" ++ name ++ "`")
  | noRoot => some "document has no root element"

end Reflectory.Xml
