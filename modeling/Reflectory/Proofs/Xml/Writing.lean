/-
How a document is written.

`Regular` children can be written down so that nothing is lost: their names are names of
the standard, no key stands twice in an element, no text is empty or next to another text.
`Writes` says as which texts they may be written, in either form of elements without
content, either quotes and any blanks inside tags; special characters are referred to
(`escape`). `Spells` is what children may be spelled as in general, by hand say: with any
references to characters, literal sections, comments and instructions.

`Aside` is what may stand outside the root element, `Prolog` a row of these, and `Epilog`
may hold further elements, in any spelling.

* `exists_writes`: regular children can be written.
* `spells_of_writes`: what regular children are written as spells them.
-/

import Reflectory.Proofs.Xml.Reference
import Reflectory.Text.CodePoints
import Reflectory.Xml.Markup
import Reflectory.Xml.Tree

namespace Reflectory.Xml

open Text

/-! ### Names -/

/-- The characters that begin a name. -/
def nameStarts : CodePoints :=
  [⟨0x3A, 0x3A, 1⟩, ⟨0x41, 0x5A, 1⟩, ⟨0x5F, 0x5F, 1⟩, ⟨0x61, 0x7A, 1⟩, ⟨0xC0, 0xD6, 1⟩,
   ⟨0xD8, 0xF6, 1⟩, ⟨0xF8, 0x2FF, 1⟩, ⟨0x370, 0x37D, 1⟩, ⟨0x37F, 0x1FFF, 1⟩, ⟨0x200C, 0x200D, 1⟩,
   ⟨0x2070, 0x218F, 1⟩, ⟨0x2C00, 0x2FEF, 1⟩, ⟨0x3001, 0xD7FF, 1⟩, ⟨0xF900, 0xFDCF, 1⟩,
   ⟨0xFDF0, 0xFFFD, 1⟩, ⟨0x10000, 0xEFFFF, 1⟩]

/-- The characters that a name is made of: those that begin one, hyphens, full stops, digits,
and marks that join or belong to letters. -/
def nameParts : CodePoints :=
  nameStarts ++ [⟨0x2D, 0x2E, 1⟩, ⟨0x30, 0x39, 1⟩, ⟨0xB7, 0xB7, 1⟩, ⟨0x300, 0x36F, 1⟩,
    ⟨0x203F, 0x2040, 1⟩]

/-- Whether a text is a name of an element or of an attribute. -/
def isName (name : String) : Bool :=
  name.toList.head?.any nameStarts.has && name.toList.all nameParts.has

/-- Characters that mean something inside tags, none of which belongs to a name. -/
def tagMarks : List Char :=
  [' ', '\t', '\n', '\r', '=', '<', '>', '/', '"', '\'', '!', '?']

theorem not_mem_tagMarks {name : String} {c : Char} (named : isName name) (mem : c ∈ name.toList) :
    c ∉ tagMarks := by
  have no_parts : tagMarks.all fun c => !nameParts.has c := by decide
  have part := List.all_eq_true.mp (Bool.and_eq_true_iff.mp named).2 c mem
  intro mark
  exact absurd (List.all_eq_true.mp no_parts c mark) (by simp [part])

theorem isSpace_eq_false {c : Char} (plain : c ∉ tagMarks) : isSpace c = false := by
  simp only [tagMarks, List.mem_cons, not_or] at plain
  simp [isSpace, plain]

theorem exists_cons_of_isName {name : String} (named : isName name) :
    ∃ c cs, name.toList = c :: cs := by
  cases same : name.toList with
  | nil => simp [isName, same] at named
  | cons c cs => exact ⟨c, cs, rfl⟩

/-! ### Elements and texts -/

/-- Children that can be written without loss. -/
inductive Regular : List Node → Prop where
  | nil : Regular []
  | text {s : String} {nodes : List Node} (nonempty : s ≠ "")
      (apart : ∀ t, nodes.head? ≠ some (.text t)) (rest : Regular nodes) :
      Regular (.text s :: nodes)
  | element {name : String} {attributes : List (String × String)} {children nodes : List Node}
      (named : isName name) (keys : ∀ a ∈ attributes, isName a.1)
      (distinct : (attributes.map Prod.fst).Nodup) (inside : Regular children)
      (rest : Regular nodes) : Regular (.element name attributes children :: nodes)

/-- Characters that are all blanks inside a tag. -/
def Blanks (cs : List Char) : Prop :=
  ∀ c ∈ cs, isSpace c

/-- What stands after the name in a tag with these attributes, where `spelling` says which
characters may stand for those of a value. -/
inductive WritesAttributes (spelling : List Char → List Char → Prop) :
    List (String × String) → List Char → Prop where
  | nil {blanks : List Char} (blank : Blanks blanks) : WritesAttributes spelling [] blanks
  | cons {key value : String} {attributes : List (String × String)} {quote : Char}
      {before left right raw cs : List Char} (apart : before ≠ []) (blank : Blanks before)
      (blankLeft : Blanks left) (blankRight : Blanks right) (quoted : quote = '"' ∨ quote = '\'')
      (inside : quote ∉ raw) (spelled : spelling raw value.toList)
      (rest : WritesAttributes spelling attributes cs) :
      WritesAttributes spelling ((key, value) :: attributes)
        (before ++ (key.toList ++ (left ++ '=' :: (right ++ quote :: (raw ++ quote :: cs)))))

/-- Whether the characters are those that others are written as. -/
def Escapes (raw cs : List Char) : Prop :=
  raw = escape cs

/-- The texts that children may be written as. -/
inductive Writes : List Node → List Char → Prop where
  | nil : Writes [] []
  | text {s : String} {nodes : List Node} {cs : List Char} (rest : Writes nodes cs) :
      Writes (.text s :: nodes) (escape s.toList ++ cs)
  | single {name : String} {attributes : List (String × String)} {nodes : List Node}
      {tag cs : List Char} (opens : WritesAttributes Escapes attributes tag)
      (rest : Writes nodes cs) :
      Writes (.element name attributes [] :: nodes)
        ('<' :: (name.toList ++ (tag ++ '/' :: '>' :: cs)))
  | pair {name : String} {attributes : List (String × String)} {children nodes : List Node}
      {tag content blanks cs : List Char} (opens : WritesAttributes Escapes attributes tag)
      (inside : Writes children content) (blank : Blanks blanks) (rest : Writes nodes cs) :
      Writes (.element name attributes children :: nodes)
        ('<' :: (name.toList ++ (tag ++ '>' :: (content ++
          '<' :: '/' :: (name.toList ++ (blanks ++ '>' :: cs))))))

theorem exists_writesAttributes (attributes : List (String × String)) :
    ∃ cs, WritesAttributes Escapes attributes cs := by
  induction attributes with
  | nil => exact ⟨[], .nil nofun⟩
  | cons a attributes ih =>
    obtain ⟨cs, rest⟩ := ih
    exact ⟨_, .cons (List.cons_ne_nil ' ' []) (by simp [Blanks, isSpace]) (by nofun : Blanks [])
      (by nofun : Blanks []) (.inl rfl) (not_mem_escape (by decide) _) rfl rest⟩

/-- Whatever can be written without loss is written as some text. -/
theorem exists_writes {nodes : List Node} (regular : Regular nodes) : ∃ cs, Writes nodes cs := by
  induction regular with
  | nil => exact ⟨[], .nil⟩
  | text _ _ _ ih =>
    obtain ⟨cs, rest⟩ := ih
    exact ⟨_, .text rest⟩
  | @element _ attributes _ _ _ _ _ _ _ ih ih' =>
    obtain ⟨content, inside⟩ := ih
    obtain ⟨cs, rest⟩ := ih'
    obtain ⟨tag, opens⟩ := exists_writesAttributes attributes
    exact ⟨_, .pair opens inside (by nofun : Blanks []) rest⟩

/-! ### Other spellings -/

/-- What may stand between children and is none: a processing instruction, as an XML
declaration is, or a comment. -/
inductive Remark : List Char → Prop where
  | instruction {body : List Char} (target : body.head? ≠ some '>')
      (ends : ¬ "?>".toList <:+: body) : Remark ('<' :: '?' :: (body ++ "?>".toList))
  | comment {body : List Char} (ends : ¬ "-->".toList <:+: body) :
      Remark ('<' :: '!' :: '-' :: '-' :: (body ++ "-->".toList))

/-- The texts that children may be spelled as. -/
inductive Spells : List Node → List Char → Prop where
  | nil : Spells [] []
  | text {s : String} {nodes : List Node} {raw cs : List Char} (nonempty : raw ≠ [])
      (plain : '<' ∉ raw) (refers : Refers raw s.toList) (ends : ∀ c ∈ cs.head?, c = '<')
      (rest : Spells nodes cs) : Spells (.text s :: nodes) (raw ++ cs)
  | literal {nodes : List Node} {inside cs : List Char} (ends : ¬ "]]>".toList <:+: inside)
      (rest : Spells nodes cs) :
      Spells (.text (String.ofList inside) :: nodes)
        ('<' :: '!' :: '[' :: ("CDATA[".toList ++ (inside ++ ("]]>".toList ++ cs))))
  | remark {nodes : List Node} {body cs : List Char} (remark : Remark body)
      (rest : Spells nodes cs) : Spells nodes (body ++ cs)
  | single {name : String} {attributes : List (String × String)} {nodes : List Node}
      {tag cs : List Char} (named : isName name) (keys : ∀ a ∈ attributes, isName a.1)
      (distinct : (attributes.map Prod.fst).Nodup) (opens : WritesAttributes Refers attributes tag)
      (rest : Spells nodes cs) :
      Spells (.element name attributes [] :: nodes)
        ('<' :: (name.toList ++ (tag ++ '/' :: '>' :: cs)))
  | pair {name : String} {attributes : List (String × String)} {children nodes : List Node}
      {tag content blanks cs : List Char} (named : isName name)
      (keys : ∀ a ∈ attributes, isName a.1) (distinct : (attributes.map Prod.fst).Nodup)
      (opens : WritesAttributes Refers attributes tag) (inside : Spells children content)
      (blank : Blanks blanks) (rest : Spells nodes cs) :
      Spells (.element name attributes children :: nodes)
        ('<' :: (name.toList ++ (tag ++ '>' :: (content ++
          '<' :: '/' :: (name.toList ++ (blanks ++ '>' :: cs))))))

theorem refers_of_escapes {attributes : List (String × String)} {cs : List Char}
    (writes : WritesAttributes Escapes attributes cs) : WritesAttributes Refers attributes cs := by
  induction writes with
  | nil blank => exact .nil blank
  | cons apart blank blankLeft blankRight quoted inside spelled _ ih =>
    exact .cons apart blank blankLeft blankRight quoted inside (spelled ▸ refers_escape _) ih

/-- A text ends where it was written to end, since no other is next to it. -/
theorem head_of_apart {nodes : List Node} {cs : List Char} (writes : Writes nodes cs)
    (apart : ∀ t, nodes.head? ≠ some (.text t)) : ∀ c ∈ cs.head?, c = '<' := by
  cases writes with
  | text => exact absurd rfl (apart _)
  | nil | single | pair => simp

/-- What is written without loss is spelled so. -/
theorem spells_of_writes {nodes : List Node} {cs : List Char} (writes : Writes nodes cs)
    (regular : Regular nodes) : Spells nodes cs := by
  induction writes with
  | nil => exact .nil
  | text writes ih =>
    cases regular with
    | text nonempty apart regular =>
      exact .text (escape_ne_nil (by simpa using nonempty)) (not_mem_escape (by decide) _)
        (refers_escape _) (head_of_apart writes apart) (ih regular)
  | single opens _ ih =>
    cases regular with
    | element named keys distinct _ regular =>
      exact .single named keys distinct (refers_of_escapes opens) (ih regular)
  | pair opens _ blank _ ih ih' =>
    cases regular with
    | element named keys distinct inside regular =>
      exact .pair named keys distinct (refers_of_escapes opens) (ih inside) blank (ih' regular)

theorem ne_nil_of_spells {nodes : List Node} {cs : List Char} (spells : Spells nodes cs)
    (nonempty : nodes ≠ []) : cs ≠ [] := by
  cases spells with
  | nil => exact absurd rfl nonempty
  | text written => exact List.append_ne_nil_of_left_ne_nil written _
  | remark remark => cases remark <;> exact List.cons_ne_nil _ _
  | literal | single | pair => exact List.cons_ne_nil _ _

/-- What begins with an element is spelled with a bracket in front. -/
theorem exists_cons_of_spells {e : Element} {nodes : List Node} {cs : List Char}
    (spells : Spells (e.toNode :: nodes) cs) : ∃ ds, cs = '<' :: ds := by
  obtain ⟨name, attributes, children⟩ := e
  unfold Element.toNode at spells
  cases spells with
  | remark remark => cases remark <;> exact ⟨_, rfl⟩
  | single | pair => exact ⟨_, rfl⟩

/-! ### Documents -/

/-- Characters in which every angle bracket has its partner. -/
inductive Paired : List Char → Prop where
  | nil : Paired []
  | cons {c : Char} {cs : List Char} (plain : c ≠ '<' ∧ c ≠ '>') (rest : Paired cs) :
      Paired (c :: cs)
  | nested {inner cs : List Char} (inside : Paired inner) (rest : Paired cs) :
      Paired ('<' :: (inner ++ '>' :: cs))

/-- What may stand outside the root element and belongs to no tree: a blank, an instruction
or a comment, a document type. -/
inductive Aside : List Char → Prop where
  | blank {c : Char} (blank : isSpace c) : Aside [c]
  | remark {cs : List Char} (remark : Remark cs) : Aside cs
  | documentType {word body : List Char} (doctype : word.map Char.toLower = "doctype".toList)
      (named : ∃ c ∈ body, isSpace c = false) (paired : Paired body) :
      Aside ('<' :: '!' :: (word ++ (body ++ ['>'])))

/-- What may precede the root element. -/
inductive Prolog : List Char → Prop where
  | nil : Prolog []
  | aside {cs rest : List Char} (aside : Aside cs) (prolog : Prolog rest) : Prolog (cs ++ rest)

/-- What may follow the root element. -/
inductive Epilog : List Char → Prop where
  | nil : Epilog []
  | aside {cs rest : List Char} (aside : Aside cs) (epilog : Epilog rest) : Epilog (cs ++ rest)
  | element {e : Element} {cs rest : List Char} (spelled : Spells [e.toNode] cs)
      (epilog : Epilog rest) : Epilog (cs ++ rest)

end Reflectory.Xml
