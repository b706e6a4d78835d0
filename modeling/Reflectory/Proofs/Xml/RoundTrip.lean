/-
Documents are read as the trees that were written.

Reading goes on piece by piece, from any state (`Growth.readText`). What children are
spelled as adds them to the innermost open element (`readText_spells`), what stands aside
changes nothing outside all elements, and the root is the first element there
(`Element.ofText_of_spells`). What is written without loss is spelled so.

A tag that is never closed stays among the open elements, since each piece opens or closes
at most one (`length_opened_of_read`), so a document that ends inside an element has no
root.
-/

import Reflectory.Proofs.Xml.Pieces
import Reflectory.Xml.Reader

namespace Reflectory.Xml

namespace Growth

/-! ### Reading on -/

/-- Reads the rest of a document. -/
def readText (g : Growth) (cs : List Char) : Option Growth :=
  (scan cs).bind fun ms => ms.foldlM read g

/-- Adds children one by one where the document has been read to. -/
def addNode (g : Growth) : Node → Growth
  | .element name attributes children => g.addElement ⟨name, attributes, children⟩
  | .text s => g.addChild (.text s)

variable {g : Growth} {cs rest : List Char}

theorem readText_nil : g.readText [] = some g := by
  simp [readText, scan]

theorem readText_of_piece? {m : Markup} (nonempty : cs ≠ []) (first : piece? cs = some (m, rest)) :
    g.readText cs = (g.read m).bind fun g => g.readText rest := by
  unfold readText
  rw [scan_of_piece? nonempty first]
  cases scan rest with
  | none => cases g.read m <;> rfl
  | some ms => rfl

@[simp] theorem foldl_addNode (nodes : List Node) (e : Element) (opened : List Element)
    (root? : Option Element) :
    nodes.foldl addNode ⟨e :: opened, root?⟩ =
      ⟨{ e with children := e.children ++ nodes } :: opened, root?⟩ := by
  induction nodes generalizing e with
  | nil => simp
  | cons n nodes ih => cases n <;> simp [addNode, addElement, addChild, Element.toNode, ih]

/-! ### Reading elements -/

/-- Text is added inside elements, and passed over outside. -/
theorem read_text {raw : List Char} {s : String} (refers : Refers raw s.toList) :
    g.read (.text raw) = some (g.addChild (.text s)) := by
  cases opened : g.opened with
  | nil => simp [read, addChild, opened]
  | cons e es => simp [read, opened, expand_of_refers refers]

theorem readText_skipped (nonempty : cs ≠ []) (first : piece? cs = some (.skipped, rest)) :
    g.readText cs = g.readText rest := by
  rw [readText_of_piece? nonempty first]
  rfl

theorem readText_remark (remark : Remark cs) : g.readText (cs ++ rest) = g.readText rest := by
  cases remark with
  | instruction target ends =>
    simpa using readText_skipped (List.cons_ne_nil _ _) (piece?_instruction target ends)
  | comment ends =>
    simpa using readText_skipped (List.cons_ne_nil _ _) (piece?_comment ends)

section Elements

variable {name : String} {attributes : List (String × String)} {tag : List Char}

theorem readText_single (named : isName name) (keys : ∀ a ∈ attributes, isName a.1)
    (distinct : (attributes.map Prod.fst).Nodup) (opens : WritesAttributes Refers attributes tag) :
    g.readText ('<' :: (name.toList ++ (tag ++ '/' :: '>' :: rest))) =
      (g.addElement ⟨name, attributes, []⟩).readText rest := by
  rw [readText_of_piece? (List.cons_ne_nil _ _) (piece?_single named keys distinct opens)]
  rfl

/-- An element between its tags is added if its children are. -/
theorem readText_pair {children : List Node} {content blanks : List Char} (named : isName name)
    (keys : ∀ a ∈ attributes, isName a.1) (distinct : (attributes.map Prod.fst).Nodup)
    (opens : WritesAttributes Refers attributes tag) (blank : Blanks blanks)
    (inside : ∀ (g : Growth) (cs : List Char),
      g.readText (content ++ '<' :: cs) = (children.foldl addNode g).readText ('<' :: cs)) :
    g.readText ('<' :: (name.toList ++ (tag ++ '>' :: (content ++
        '<' :: '/' :: (name.toList ++ (blanks ++ '>' :: rest)))))) =
      (g.addElement ⟨name, attributes, children⟩).readText rest := by
  rw [readText_of_piece? (List.cons_ne_nil _ _) (piece?_opening named keys distinct opens), read,
    Option.bind_some, inside, foldl_addNode,
    readText_of_piece? (List.cons_ne_nil _ _) (piece?_closing named blank)]
  simp [read]

end Elements

theorem getLast?_behind {n m : Node} {nodes : List Node} (last : nodes.getLast? = some m) :
    (n :: nodes).getLast? = some m := by
  rw [List.getLast?_cons, last]
  rfl

/-- Children are added one by one where they were spelled. A text that is the last of them
has to end there. -/
theorem readText_spells {nodes : List Node} (spells : Spells nodes cs)
    (ends : ∀ s, nodes.getLast? = some (.text s) → ∀ c ∈ rest.head?, c = '<') :
    g.readText (cs ++ rest) = (nodes.foldl addNode g).readText rest := by
  induction spells generalizing g rest with
  | nil => rfl
  | @text s nodes raw cs nonempty plain refers head spells ih =>
    have stops : ∀ c ∈ (cs ++ rest).head?, c = '<' := by
      cases cs with
      | cons d cs => exact head
      | nil =>
        obtain rfl : nodes = [] := by
          by_contra some_left
          exact ne_nil_of_spells spells some_left rfl
        exact ends s rfl
    rw [List.append_assoc, readText_of_piece? (List.append_ne_nil_of_left_ne_nil nonempty _)
      (piece?_text nonempty plain stops), read_text refers, Option.bind_some,
      ih fun t last => ends t (getLast?_behind last)]
    rfl
  | literal absent _ ih =>
    simp only [List.cons_append, List.append_assoc]
    rw [readText_of_piece? (List.cons_ne_nil _ _) (piece?_literal absent), read, Option.bind_some,
      ih fun t last => ends t (getLast?_behind last)]
    rfl
  | remark remark _ ih => rw [List.append_assoc, readText_remark remark, ih ends]
  | single named keys distinct opens _ ih =>
    simp only [List.cons_append, List.append_assoc]
    rw [readText_single named keys distinct opens, ih fun t last => ends t (getLast?_behind last)]
    rfl
  | pair named keys distinct opens _ blank _ ih ih' =>
    simp only [List.cons_append, List.append_assoc]
    rw [readText_pair named keys distinct opens blank fun g cs => ih (by simp),
      ih' fun t last => ends t (getLast?_behind last)]
    rfl

/-- An element is added where it was spelled, whatever follows it. -/
theorem readText_element {e : Element} (spells : Spells [e.toNode] cs) :
    g.readText (cs ++ rest) = (g.addElement e).readText rest :=
  readText_spells spells nofun

/-! ### Reading what stands outside the root -/

/-- Text outside all elements is passed over. -/
theorem readText_dropWhile (outside : g.opened = []) (cs : List Char) :
    g.readText (cs.dropWhile (· != '<')) = g.readText cs := by
  cases cs with
  | nil => rfl
  | cons c cs =>
    by_cases tag : c = '<'
    · rw [tag]
      rfl
    · have text : piece? (c :: cs) =
          some (.text ((c :: cs).takeWhile (· != '<')), (c :: cs).dropWhile (· != '<')) := by
        rw [piece?]
        intro cs' begins
        exact tag (List.cons.inj begins).1
      rw [readText_of_piece? (List.cons_ne_nil _ _) text]
      simp [read, outside]

theorem readText_aside (aside : Aside cs) (outside : g.opened = []) :
    g.readText (cs ++ rest) = g.readText rest := by
  cases aside with
  | @blank c blank =>
    have plain : c ≠ '<' := by
      rintro rfl
      cases blank
    have passed : (c :: rest).dropWhile (· != '<') = rest.dropWhile (· != '<') := by
      simp [plain]
    rw [List.singleton_append, ← readText_dropWhile outside, passed, readText_dropWhile outside]
  | remark remark => exact readText_remark remark
  | documentType doctype named paired =>
    simpa using readText_skipped (List.cons_ne_nil _ _) (piece?_documentType doctype named paired)

theorem readText_prolog (prolog : Prolog cs) (outside : g.opened = []) :
    g.readText (cs ++ rest) = g.readText rest := by
  induction prolog with
  | nil => rfl
  | aside aside _ ih => rw [List.append_assoc, readText_aside aside outside, ih]

/-- Further elements do not become the root. -/
theorem readText_epilog {root : Element} (epilog : Epilog cs) :
    readText ⟨[], some root⟩ cs = some ⟨[], some root⟩ := by
  induction epilog with
  | nil => exact readText_nil
  | aside aside _ ih => rw [readText_aside aside rfl, ih]
  | element spelled _ ih =>
    rw [readText_element spelled]
    exact ih

end Growth

/-! ### Open elements -/

/-- Whether the piece is a tag that opens an element. -/
def Markup.isOpening : Markup → Bool
  | opening _ _ => true
  | _ => false

/-- Whether the piece is a tag that closes an element. -/
def Markup.isClosing : Markup → Bool
  | closing _ => true
  | _ => false

/-- A tag is still open at the end: the tags behind it never close more elements than they open. -/
def EndsOpen (ms : List Markup) : Prop :=
  ∃ before name attributes after, ms = before ++ .opening name attributes :: after ∧
    ∀ inside, inside <+: after → inside.countP Markup.isClosing ≤ inside.countP Markup.isOpening

namespace Growth

variable {g g' : Growth}

@[simp] theorem length_opened_addChild (g : Growth) (n : Node) :
    (g.addChild n).opened.length = g.opened.length := by
  cases opened : g.opened <;> simp [addChild, opened]

@[simp] theorem length_opened_addElement (g : Growth) (e : Element) :
    (g.addElement e).opened.length = g.opened.length := by
  cases opened : g.opened <;> simp [addElement, opened]

/-- A piece opens an element, closes one, or leaves the open elements. -/
theorem length_opened_of_read {m : Markup} (h : g.read m = some g') :
    g'.opened.length + [m].countP Markup.isClosing =
      g.opened.length + [m].countP Markup.isOpening := by
  cases m with
  | opening =>
    obtain rfl := Option.some.inj h
    simp [Markup.isOpening, Markup.isClosing]
  | closing name =>
    simp only [read] at h
    split at h
    · cases h
    · rename_i e rest opened
      split at h
      · obtain rfl := Option.some.inj h
        simp [Markup.isOpening, Markup.isClosing, opened]
      · cases h
  | single | literal | skipped =>
    obtain rfl := Option.some.inj h
    simp [Markup.isOpening, Markup.isClosing]
  | text raw =>
    simp only [read] at h
    split at h
    · obtain rfl := Option.some.inj h
      simp [Markup.isOpening, Markup.isClosing]
    · obtain ⟨cs, -, rfl⟩ := Option.map_eq_some_iff.mp h
      simp [Markup.isOpening, Markup.isClosing]

theorem length_opened_of_foldlM {ms : List Markup} (h : ms.foldlM read g = some g') :
    g'.opened.length + ms.countP Markup.isClosing =
      g.opened.length + ms.countP Markup.isOpening := by
  induction ms generalizing g with
  | nil =>
    obtain rfl := Option.some.inj h
    rfl
  | cons m ms ih =>
    obtain ⟨g₁, first, others⟩ := Option.bind_eq_some_iff.mp h
    have step := length_opened_of_read first
    have run := ih others
    rw [← List.singleton_append, List.countP_append, List.countP_append]
    omega

/-- Where a tag is still open at the end, so is an element. -/
theorem opened_ne_nil_of_endsOpen {ms : List Markup} (endsOpen : EndsOpen ms)
    (h : ms.foldlM read g = some g') : g'.opened ≠ [] := by
  obtain ⟨before, name, attributes, after, rfl, unclosed⟩ := endsOpen
  rw [List.foldlM_append] at h
  obtain ⟨g₁, -, h⟩ := Option.bind_eq_some_iff.mp h
  have counts := length_opened_of_foldlM h
  have closings := unclosed after (List.prefix_refl after)
  intro none_open
  rw [none_open, List.countP_cons_of_pos (rfl : Markup.isOpening (.opening name attributes)),
    List.countP_cons_of_neg (by simp [Markup.isClosing]), List.length_nil] at counts
  omega

end Growth

/-! ### Documents -/

theorem pieces_ofList {cs : List Char} (unmarked : cs.head? ≠ some '\uFEFF') :
    pieces (String.ofList cs) = scan cs := by
  unfold pieces
  rw [String.toList_ofList]
  split
  · exact absurd rfl unmarked
  · rfl

theorem head_prolog {cs rest : List Char} (prolog : Prolog cs) (ends : ∀ c ∈ rest.head?, c = '<') :
    ∀ c ∈ (cs ++ rest).head?, c = '<' ∨ isSpace c := by
  cases prolog with
  | nil => exact fun c mem => .inl (ends c mem)
  | aside aside _ =>
    cases aside with
    | blank blank => simp [blank]
    | remark remark => cases remark <;> simp
    | documentType => simp

theorem Element.ofText_ofList {cs : List Char} (unmarked : cs.head? ≠ some '\uFEFF') :
    Element.ofText (String.ofList cs) =
      match Growth.readText {} cs with
      | none => .error .malformed
      | some g => g.root := by
  rw [Element.ofText, pieces_ofList unmarked]
  rfl

/-- In any spelling, a document is read as its root. -/
theorem Element.ofText_of_spells {root : Element} {before cs after : List Char}
    (spells : Spells [root.toNode] cs) (prolog : Prolog before) (epilog : Epilog after) :
    Element.ofText (String.ofList (before ++ cs ++ after)) = .ok root := by
  have starts : ∀ c ∈ (cs ++ after).head?, c = '<' := by
    obtain ⟨ds, rfl⟩ := exists_cons_of_spells spells
    simp
  have unmarked : (before ++ (cs ++ after)).head? ≠ some '\uFEFF' := by
    intro marked
    rcases head_prolog prolog starts _ marked with tag | space
    · exact absurd tag (by decide)
    · exact absurd space (by decide)
  have read : Growth.readText {} (before ++ (cs ++ after)) = some ⟨[], some root⟩ := by
    rw [Growth.readText_prolog prolog rfl, Growth.readText_element spells]
    exact Growth.readText_epilog epilog
  rw [List.append_assoc, ofText_ofList unmarked, read]
  rfl

theorem Element.exists_error_of_endsOpen {text : String}
    (endsOpen : ∀ ms ∈ pieces text, EndsOpen ms) : ∃ cause, Element.ofText text = .error cause := by
  rw [Element.ofText]
  cases all_pieces : pieces text with
  | none => exact ⟨.malformed, rfl⟩
  | some ms =>
    rw [Option.bind_some]
    cases read : ms.foldlM Growth.read {} with
    | none => exact ⟨.malformed, rfl⟩
    | some g =>
      have inside := Growth.opened_ne_nil_of_endsOpen (endsOpen ms all_pieces) read
      obtain ⟨e, es, opened⟩ := List.exists_cons_of_ne_nil inside
      exact ⟨.unclosed e.name, by simp [Growth.root, opened]⟩

/-- A document is read as the tree that was written, whatever stands aside before it and
after it and whatever elements follow, in whatever spelling, and a document that ends inside
an element is refused. -/
theorem Element.ofText_written :
    (∀ (root : Element) (before cs after : List Char), Regular [root.toNode] →
      Writes [root.toNode] cs → Prolog before → Epilog after →
      Element.ofText (String.ofList (before ++ cs ++ after)) = .ok root) ∧
    ∀ text : String, (∀ ms ∈ pieces text, EndsOpen ms) →
      ∃ cause, Element.ofText text = .error cause := by
  constructor
  · intro root before cs after regular writes prolog epilog
    exact ofText_of_spells (spells_of_writes writes regular) prolog epilog
  · intro text endsOpen
    exact exists_error_of_endsOpen endsOpen

section Examples

theorem no_blanks : Blanks [] := List.forall_mem_nil _

theorem no_keys : ∀ a ∈ ([] : List (String × String)), isName a.1 := List.forall_mem_nil _

theorem no_attributes {spelling : List Char → List Char → Prop} :
    WritesAttributes spelling [] [] :=
  .nil no_blanks

theorem not_infix_of_bracket {mark body : List Char} (ends : '>' ∈ mark) (absent : '>' ∉ body) :
    ¬ mark <:+: body :=
  fun inside => absent (inside.subset ends)

/-- Mixed content behind a declaration, before a comment and an element that is spelled with
references, a comment and a literal section; and an element that is not closed. -/
theorem Element.ofText_written_mixed :
    Element.ofText ("<?xml version='1.0'?>\n" ++ "<a x='1 &lt; 2'>t&amp;<b/></a>" ++
        "<!-- end --><c>&#65;'<!-- x --><![CDATA[<]]></c>") =
      .ok ⟨"a", [("x", "1 < 2")], [.text "t&", .element "b" [] []]⟩ ∧
    ∃ cause, Element.ofText "<a>" = .error cause := by
  have attributes : WritesAttributes Escapes [("x", "1 < 2")] " x='1 &lt; 2'".toList :=
    @WritesAttributes.cons Escapes "x" "1 < 2" [] '\'' [' '] [] [] _ [] (by decide)
      (by simp [Blanks, isSpace]) no_blanks no_blanks (.inr rfl) (by decide) rfl no_attributes
  have writes : Writes [.element "a" [("x", "1 < 2")] [.text "t&", .element "b" [] []]]
      "<a x='1 &lt; 2'>t&amp;<b/></a>".toList :=
    .pair attributes (.text (.single no_attributes .nil)) no_blanks .nil
  have regular : Regular [.element "a" [("x", "1 < 2")] [.text "t&", .element "b" [] []]] :=
    .element (by decide) (by decide) (by decide)
      (.text (by decide) (by simp) (.element (by decide) no_keys .nil .nil .nil)) .nil
  have prolog : Prolog "<?xml version='1.0'?>\n".toList :=
    .aside (.remark (@Remark.instruction "xml version='1.0'".toList (by decide)
      (not_infix_of_bracket (by decide) (by decide)))) (.aside (@Aside.blank '\n' rfl) .nil)
  have letter : IsReference ['#', '6', '5'] 'A' :=
    .decimal ((Constant.digits?_eq_some_iff (by decide)).mp rfl) (by decide)
  have remark : Remark "<!-- x -->".toList :=
    @Remark.comment " x ".toList (not_infix_of_bracket (by decide) (by decide))
  have literal : Spells [.text "<"] "<![CDATA[<]]>".toList :=
    @Spells.literal [] ['<'] [] (not_infix_of_bracket (by decide) (by decide)) .nil
  have content : Spells [.text "A'", .text "<"]
      ("&#65;'".toList ++ ("<!-- x -->".toList ++ "<![CDATA[<]]>".toList)) :=
    .text (by decide) (by simp) (.reference letter (.plain (by decide) .nil)) (by simp)
      (.remark remark literal)
  have epilog : Epilog "<!-- end --><c>&#65;'<!-- x --><![CDATA[<]]></c>".toList :=
    .aside (.remark (@Remark.comment " end ".toList
        (not_infix_of_bracket (by decide) (by decide))))
      (@Epilog.element ⟨"c", [], _⟩ _ _
        (.pair (by decide) no_keys .nil no_attributes content no_blanks .nil) .nil)
  have opening : piece? "<a>".toList = some (.opening "a" [], []) :=
    @piece?_opening "a" [] [] [] (by decide) no_keys .nil no_attributes
  have opened : pieces "<a>" = some [.opening "a" []] := by
    have text : "<a>" = String.ofList "<a>".toList := String.ofList_toList.symm
    rw [text, pieces_ofList (by decide), scan_of_piece? (by decide) opening, scan]
    rfl
  constructor
  · have document := Element.ofText_written.1 ⟨"a", _, _⟩ _ _ _ regular writes prolog epilog
    rwa [← String.toList_append, ← String.toList_append, String.ofList_toList] at document
  · apply Element.ofText_written.2
    rintro ms same
    obtain rfl := Option.some.inj (opened.symm.trans same)
    exact ⟨[], "a", [], [], rfl, by simp⟩

/-- A document type ends at the first bracket without a partner, also where that stands in a
comment inside it, so the root may be misread; and elements that follow the root cannot refer
to what the document type declares. -/
theorem Element.ofText_misread :
    Regular [.element "a" [] []] ∧ Writes [.element "a" [] []] "<a/>".toList ∧
    Element.ofText ("<!DOCTYPE a [<!-- >> <b/> -->]>" ++ "<a/>") = .ok ⟨"b", [], []⟩ ∧
    Element.ofText ("<!DOCTYPE a [<!ENTITY x 'y'>]>" ++ "<a/>" ++ "<c>&x;</c>") =
      .error .malformed := by
  have documentType {body after : List Char} (named : ∃ c ∈ body, isSpace c = false)
      (ends : declarationBody 0 (body ++ '>' :: after) = some (body, after)) :
      Aside ('<' :: '!' :: ("DOCTYPE".toList ++ (body ++ ['>']))) :=
    .documentType (by decide) named (declarationBody_eq_some_iff.mp ends).1
  have first : Spells [Element.toNode ⟨"a", [], []⟩] "<a/>".toList :=
    .single (by decide) no_keys .nil no_attributes .nil
  refine ⟨.element (by decide) no_keys .nil .nil .nil, .single no_attributes .nil, ?_, ?_⟩
  · have prolog : Prolog "<!DOCTYPE a [<!-- >> ".toList :=
      .aside (@documentType " a [<!-- >".toList [] ⟨'a', by simp, rfl⟩ (by decide))
        (.aside (@Aside.blank ' ' rfl) .nil)
    have inside : Spells [Element.toNode ⟨"b", [], []⟩] "<b/>".toList :=
      .single (by decide) no_keys .nil no_attributes .nil
    have behind : (" -->]>".toList ++ "<a/>".toList).dropWhile (· != '<') =
        "<a/>".toList ++ [] := by decide
    have passed := Growth.readText_dropWhile (g := ⟨[], some ⟨"b", [], []⟩⟩) rfl
      (" -->]>".toList ++ "<a/>".toList)
    rw [behind] at passed
    have read : Growth.readText {} ("<!DOCTYPE a [<!-- >> ".toList ++
        ("<b/>".toList ++ (" -->]>".toList ++ "<a/>".toList))) =
          some ⟨[], some ⟨"b", [], []⟩⟩ := by
      rw [Growth.readText_prolog prolog rfl, Growth.readText_element inside]
      refine passed.symm.trans ?_
      rw [Growth.readText_element first]
      exact Growth.readText_nil
    have document := @Element.ofText_ofList ("<!DOCTYPE a [<!-- >> ".toList ++
      ("<b/>".toList ++ (" -->]>".toList ++ "<a/>".toList))) (by decide)
    rw [read] at document
    exact document
  · have prolog : Prolog "<!DOCTYPE a [<!ENTITY x 'y'>]>".toList :=
      .aside (@documentType " a [<!ENTITY x 'y'>]".toList [] ⟨'a', by simp, rfl⟩ (by decide)) .nil
    have opening : piece? ("<c>".toList ++ "&x;</c>".toList) =
        some (.opening "c" [], "&x;</c>".toList) :=
      @piece?_opening "c" [] [] "&x;</c>".toList (by decide) no_keys .nil no_attributes
    have text : piece? ("&x;".toList ++ "</c>".toList) = some (.text "&x;".toList, "</c>".toList) :=
      piece?_text (by decide) (by simp) (by simp)
    have read : Growth.readText {} ("<!DOCTYPE a [<!ENTITY x 'y'>]>".toList ++
        ("<a/>".toList ++ ("<c>".toList ++ "&x;</c>".toList))) = none := by
      rw [Growth.readText_prolog prolog rfl, Growth.readText_element first,
        Growth.readText_of_piece? (by decide) opening]
      exact Growth.readText_of_piece? (by decide) text
    have document := @Element.ofText_ofList ("<!DOCTYPE a [<!ENTITY x 'y'>]>".toList ++
        ("<a/>".toList ++ ("<c>".toList ++ "&x;</c>".toList))) (by decide)
    rw [read] at document
    exact document

end Examples

end Reflectory.Xml
