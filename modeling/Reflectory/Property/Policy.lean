/-
The naming convention by which accessors are recognised.
-/

import Reflectory.Spelling.Basic

namespace Reflectory

/-- Prefixes of accessor names, and the types that count as positions. -/
structure PropertyPolicy where
  getterPrefixes : List String := ["get", "is"]
  setterPrefixes : List String := ["set"]
  countPrefixes : List String := ["getNum"]
  adderPrefixes : List String := ["add"]
  inserterPrefixes : List String := ["insert"]
  removerPrefixes : List String := ["remove"]
  indexTypes : List String :=
    ["unsigned int", "unsigned", "int", "size_t", "std::size_t", "unsigned long", "long"]
  deriving DecidableEq, Repr

/-- Whether values of a type count as positions: its value spelling is one of
the policy's types. -/
def PropertyPolicy.isIndexType (policy : PropertyPolicy) (type : String) : Bool :=
  policy.indexTypes.any fun candidate => Spelling.normalize candidate == Spelling.valueType type

end Reflectory
