/-
Declarations from an export: a directory of XML files that Doxygen writes.

The file `index.xml` lists compounds and their members, each with an identifier;
what a compound declares is in a file of its own, named for its identifier. A
type may link to identifiers: where the list knows the identifier, the qualified
name takes the place of the link's text.
-/

import Reflectory.Declaration.Index
import Reflectory.FileTree.Access
import Reflectory.Xml.Reader

namespace Reflectory

open Xml (Element)

/-! ### The list of compounds -/

/-- A listed compound. -/
structure ExportEntry where
  refid : String
  kind : CompoundKind
  deriving DecidableEq, Repr

/-- Qualified names by identifier. -/
abbrev LinkTable := List (String × String)

namespace LinkTable

/-- The qualified name for an identifier. -/
def get? (t : LinkTable) (id : String) : Option String :=
  (t.find? fun e => e.1 == id).map Prod.snd

/-- Names an identifier, whether or not it has a name. -/
def insert (t : LinkTable) (id name : String) : LinkTable :=
  (id, name) :: t.filter fun e => e.1 != id

/-- Names an identifier that has no name yet. -/
def insertNew (t : LinkTable) (id name : String) : LinkTable :=
  if (t.get? id).isSome then t else t.insert id name

end LinkTable

/-- The list of an export. -/
structure ExportList where
  entries : List ExportEntry := []
  links : LinkTable := []
  deriving DecidableEq, Repr

namespace ExportList

/-- Names the members of a compound. -/
def addMembers (links : LinkTable) (compound : Element) (name : String) : LinkTable :=
  (compound.childrenNamed "member").foldl
    (fun links member =>
      match member.attr? "refid", member.childText? "name" with
      | some id, some memberName => links.insertNew id (name ++ "::" ++ memberName)
      | _, _ => links)
    links

/-- Adds a listed compound; one that describes no type, or has no identifier or
no name, is passed over. -/
def add (l : ExportList) (compound : Element) : ExportList :=
  match compound.attr? "refid", (compound.attr? "kind").bind CompoundKind.ofExport?,
    compound.childText? "name" with
  | some refid, some kind, some name =>
    { entries := l.entries ++ [⟨refid, kind⟩]
      links := (addMembers l.links compound name).insert refid name }
  | _, _, _ => l

/-- The list that a root element holds. -/
def ofRoot (root : Element) : ExportList :=
  (root.childrenNamed "compound").foldl add {}

end ExportList

/-! ### Declarations -/

/-- A header as it is included: what follows the last directory `include` of its
path. -/
def includePath (file : String) : String :=
  let file := file.toList.map fun c => if c = '\\' then '/' else c
  String.ofList ((Text.afterLast? "include/".toList file).getD file)

/-- The identifier of the compound that owns a member with this identifier. -/
def ownerRefid? (member : String) : Option String :=
  (Text.beforeLast? "_1".toList member.toList).map String.ofList

namespace LinkTable

/-- The text of an element, links replaced by qualified names. -/
def typeText (links : LinkTable) (e : Element) : String :=
  e.textWith fun link => if link.name = "ref" then (link.attr? "refid").bind links.get? else none

/-- The text of the child of this name, links replaced; empty if there is no such
child. -/
def childType (links : LinkTable) (e : Element) (name : String) : String :=
  ((e.child? name).map links.typeText).getD ""

/-- The access that an element gives. -/
def access (e : Element) : Access :=
  ((e.attr? "prot").map Access.ofExport).getD .isPublic

/-- Whether an attribute says yes. -/
def isYes (e : Element) (key : String) : Bool :=
  e.attr? key = some "yes"

/-- The header where an element says that it is declared. -/
def location? (e : Element) : Option String :=
  ((e.child? "location").bind fun l => l.attr? "file").map includePath

/-- A base of a compound. -/
def base (links : LinkTable) (e : Element) : BaseDeclaration where
  name := ((e.attr? "refid").bind links.get?).getD e.text
  access := access e
  isVirtual := e.attr? "virt" = some "virtual" || e.attr? "virt" = some "pure-virtual"

/-- The parameters of a function; a single `void` is none. -/
def parameters (links : LinkTable) (e : Element) : List ParameterDeclaration :=
  let params := (e.childrenNamed "param").map fun p =>
    { type := links.childType p "type"
      name? := p.childText? "declname"
      default? := (p.child? "defval").map links.typeText : ParameterDeclaration }
  params.filter fun p => !(p.type == "void" && p.name?.isNone)

/-- The text after the `=` of an initialiser. -/
def initialiser (text : String) : String :=
  Text.trim (String.ofList (text.toList.dropWhile (· = '=')))

/-- The labels of an enumeration. -/
def enumerators (links : LinkTable) (e : Element) : List EnumeratorDeclaration :=
  (e.childrenNamed "enumvalue").filterMap fun v =>
    (v.childText? "name").map fun name =>
      { name, init? := (v.child? "initializer").map fun i => initialiser (links.typeText i) }

/-- What a member is; other kinds than these four are none. -/
def memberKind? (links : LinkTable) (e : Element) : String → Option MemberKind
  | "function" =>
    some (.function (links.childType e "type") (links.parameters e) (isYes e "const")
      (isYes e "explicit") (((e.attr? "virt").map Virtuality.ofExport).getD .nonVirtual))
  | "variable" =>
    some (.variable (links.childType e "type" ++ ((e.childText? "argsstring").elim "" (" " ++ ·))))
  | "enum" => some (.enumeration (links.enumerators e) (isYes e "strong"))
  | "typedef" =>
    some (.typedef (links.childType e "type" ++ (e.childText? "argsstring").getD ""))
  | _ => none

/-- A member of the compound with this identifier. A member whose identifier
belongs to another listed compound is declared there. -/
def member? (links : LinkTable) (refid : String) (e : Element) : Option MemberDeclaration :=
  match e.childText? "name", (e.attr? "kind").bind (links.memberKind? e) with
  | some name, some kind =>
    let owner? := ((e.attr? "id").bind ownerRefid?).filter (· != refid)
    some
      { name
        kind
        access := access e
        isStatic := isYes e "static"
        declaredIn? := owner?.bind links.get?
        header? := location? e }
  | _, _ => none

/-- What the definition of a listed compound declares. -/
def compound (links : LinkTable) (entry : ExportEntry) (e : Element) : CompoundDeclaration where
  name := (e.childText? "compoundname" <|> links.get? entry.refid).getD entry.refid
  kind := entry.kind
  access := access e
  isAbstract := isYes e "abstract"
  templateParams :=
    ((e.child? "templateparamlist").elim [] fun l => l.childrenNamed "param").map fun p =>
      links.childType p "type"
  header? := e.childText? "includes" <|> location? e
  bases := (e.childrenNamed "basecompoundref").map links.base
  members :=
    (e.childrenNamed "sectiondef").flatMap fun section_ =>
      (section_.childrenNamed "memberdef").filterMap (links.member? entry.refid)

end LinkTable

/-! ### Reading an export -/

/-- The root of the document that a file holds. -/
def rootOf (path : String) (contents : Except FileError String) : Except IndexError Element :=
  match contents with
  | .error cause => .error (.file path cause)
  | .ok text =>
    match Element.ofText text with
    | .error cause => .error (.markup path cause)
    | .ok root => .ok root

/-- The list that `index.xml` holds. -/
def ExportList.ofFile (path : String) (contents : Except FileError String) :
    Except IndexError ExportList :=
  (rootOf path contents).bind fun root =>
    if root.name = "doxygenindex" then .ok (.ofRoot root) else .error (.notAnIndex path)

/-- What the file of a listed compound declares. -/
def LinkTable.compoundOfFile (links : LinkTable) (entry : ExportEntry) (path : String)
    (contents : Except FileError String) : Except IndexError CompoundDeclaration :=
  (rootOf path contents).bind fun root =>
    let definition? := (root.childrenNamed "compounddef").find? fun d =>
      d.attr? "id" = some entry.refid
    match definition? with
    | some d => .ok (links.compound entry d)
    | none => .error (.missingCompound path entry.refid)

/-- The index of an export whose compounds have been read; of two with the same
identifier the first one counts. -/
def DeclarationIndex.ofExport
    (compounds : List (ExportEntry × Except IndexError CompoundDeclaration)) :
    DeclarationIndex where
  handles := compounds.map fun c => c.1.refid
  resolve handle :=
    match compounds.find? fun c => c.1.refid == handle with
    | some c => c.2
    | none => .error (.unknownHandle handle)

/-- Reads the index of an export: its list, and the compounds on it. -/
def DeclarationIndex.load {m : Type → Type} [Monad m] [FileAccess m] (dir : String) :
    m (Except IndexError DeclarationIndex) := do
  let path := joinPath dir "index.xml"
  match ExportList.ofFile path (← readText path) with
  | .error cause => return .error cause
  | .ok list =>
    let compounds ← list.entries.mapM fun entry => do
      let path := joinPath dir (entry.refid ++ ".xml")
      return (entry, list.links.compoundOfFile entry path (← readText path))
    return .ok (.ofExport compounds)

end Reflectory
