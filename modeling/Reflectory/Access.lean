/-
Access levels and virtuality, with the words that a documentation export uses
for them.
-/

namespace Reflectory

/-- Access of a member or of a base class. -/
inductive Access where
  | isPublic | isProtected | isPrivate
  deriving DecidableEq, Repr

/-- The access named by an export; anything but `public` and `protected` hides
the member. -/
def Access.ofExport : String → Access
  | "public" => isPublic
  | "protected" => isProtected
  | _ => isPrivate

/-- Whether a method can be overridden, or has to be. -/
inductive Virtuality where
  | nonVirtual | isVirtual | pureVirtual
  deriving DecidableEq, Repr

/-- The virtuality named by an export. -/
def Virtuality.ofExport : String → Virtuality
  | "virtual" => isVirtual
  | "pure-virtual" => pureVirtual
  | _ => nonVirtual

end Reflectory
