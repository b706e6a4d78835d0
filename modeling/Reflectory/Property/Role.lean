/-
Roles of methods as accessors.

A method plays a role when its name is a prefix of the policy followed by a
base name that begins with a capital, and when its parameters fit:

* a getter returns a value and takes nothing, a keyed getter takes one key;
* a setter takes the value, a keyed setter a key and the value;
* a counter takes nothing and returns a position;
* an adder takes an element, an inserter a position and an element;
* a remover takes a position first.

One method can play several roles, also under several base names.
-/

import Reflectory.Descriptor.Basic
import Reflectory.Property.Policy

namespace Reflectory

open Spelling

/-- What a method does for a property. -/
inductive Role where
  | getter | keyedGetter | setter | keyedSetter | counter | adder | inserter | remover
  deriving DecidableEq, Repr

/-- A name divided into a prefix and the base name after it. -/
structure PrefixedName where
  pre : String
  base : String
  deriving DecidableEq, Repr

/-- The name divided after this prefix, if a capital follows. -/
def PrefixedName.divide? (name pre : String) : Option PrefixedName :=
  match Text.after? pre.toList name.toList with
  | some (c :: cs) => if Text.isUppercase c then some ⟨pre, String.ofList (c :: cs)⟩ else none
  | _ => none

/-- The name divided after the longest prefix that a capital follows. -/
def PrefixedName.ofName? (name : String) (prefixes : List String) : Option PrefixedName :=
  (prefixes.filterMap (divide? name)).foldl
    (fun best n =>
      match best with
      | some b => if b.pre.length < n.pre.length then some n else some b
      | none => some n)
    none

namespace Method

/-- Whether the method can be an accessor at all. -/
def isCandidate (m : Method) : Bool :=
  m.visibility = .isPublic && !m.isStatic && !m.isConstructor

/-- The value spelling of what the method returns. -/
def returnValue (m : Method) : String :=
  valueType m.returnType

/-- The value spelling of a parameter; empty if there is none. -/
def paramValue (m : Method) (i : Nat) : String :=
  (m.params[i]?.map fun p => valueType p.type).getD ""

/-- Whether there is such a parameter and it is a position. -/
def takesIndexAt (m : Method) (policy : PropertyPolicy) (i : Nat) : Bool :=
  m.params[i]?.any fun p => policy.isIndexType p.type

/-- The base name under which the method is a getter, keyed or not. A method
with the prefix `is` has to return `bool`. -/
def getterBase? (m : Method) (policy : PropertyPolicy) : Option String :=
  (PrefixedName.ofName? m.name policy.getterPrefixes).bind fun n =>
    if !isVoid m.returnValue && (n.pre != "is" || m.returnValue == "bool") then some n.base
    else none

/-- The base name that is left after one of the prefixes. -/
def baseAfter? (m : Method) (prefixes : List String) : Option String :=
  (PrefixedName.ofName? m.name prefixes).map PrefixedName.base

/-- The roles that the method plays, each with its base name. -/
def roles (m : Method) (policy : PropertyPolicy) : List (Role × String) :=
  let arity := m.params.length
  let play (base? : Option String) (fits : Bool) (role : Role) : List (Role × String) :=
    match base? with
    | some base => if fits then [(role, base)] else []
    | none => []
  play (m.getterBase? policy) (arity = 0) .getter ++
  play (m.getterBase? policy) (arity = 1) .keyedGetter ++
  play (m.baseAfter? policy.setterPrefixes) (arity = 1) .setter ++
  play (m.baseAfter? policy.setterPrefixes) (arity = 2) .keyedSetter ++
  play (m.baseAfter? policy.countPrefixes)
    (arity = 0 && policy.isIndexType m.returnValue) .counter ++
  play (m.baseAfter? policy.adderPrefixes) (arity = 1) .adder ++
  play (m.baseAfter? policy.inserterPrefixes) (arity = 2 && m.takesIndexAt policy 0) .inserter ++
  play (m.baseAfter? policy.removerPrefixes) (m.takesIndexAt policy 0) .remover

end Method

/-- Whether a base name is the plural of another, or the same. -/
def isPluralOf (plural single : String) : Bool :=
  plural == single ||
    match Text.after? single.toList plural.toList with
    | some suffix => ["s", "es", "ren"].any fun s => s.toList == suffix
    | none =>
      match Text.stripSuffix? "y" single with
      | some stem => plural == stem ++ "ies"
      | none => false

end Reflectory
