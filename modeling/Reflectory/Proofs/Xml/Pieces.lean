/-
The pieces of a document that was written.

Whatever follows it, a tag that was written is the piece that its element asks for
(`piece?_opening`, `piece?_single`, `piece?_closing`), a text goes up to the next tag
(`piece?_text`), a literal section up to its mark, and instructions, comments and document
types are skipped. Document types end at the first bracket without a partner
(`declarationBody_eq_some_iff`).
-/

import Mathlib.Data.List.Nodup
import Reflectory.Proofs.Text.CharClass
import Reflectory.Proofs.Xml.Writing

namespace Reflectory.Xml

open Text

/-! ### Finding ends -/

/-- The characters that the end of a tag depends on. -/
def tagEnds : List Char :=
  ['>', '"', '\'']

theorem not_mem_tagEnds_of_isSpace {c : Char} (space : isSpace c) : c ∉ tagEnds := by
  have no_spaces : tagEnds.all fun c => !isSpace c := by decide
  intro mem
  exact absurd (List.all_eq_true.mp no_spaces c mem) (by simp [space])

theorem not_mem_tagEnds_of_isName {name : String} {c : Char} (named : isName name)
    (mem : c ∈ name.toList) : c ∉ tagEnds := by
  have sub : tagEnds ⊆ tagMarks := by simp [tagEnds, tagMarks]
  exact fun ends => not_mem_tagMarks named mem (sub ends)

/-- Behind characters that neither end a tag nor open a quote. -/
theorem tagBody_plain {cs ds body rest : List Char} (plain : ∀ c ∈ cs, c ∉ tagEnds)
    (h : tagBody none ds = some (body, rest)) :
    tagBody none (cs ++ ds) = some (cs ++ body, rest) := by
  induction cs with
  | nil => exact h
  | cons c cs ih =>
    obtain ⟨inner, plain⟩ := List.forall_mem_cons.mp plain
    simp only [tagEnds, List.mem_cons, List.not_mem_nil, or_false, not_or] at inner
    simp [tagBody, quoteAfter, inner, ih plain]

/-- Behind a quoted value, where its first quote has been passed. -/
theorem tagBody_quoted {quote : Char} {cs ds body rest : List Char} (inside : quote ∉ cs)
    (h : tagBody none ds = some (body, rest)) :
    tagBody (some quote) (cs ++ quote :: ds) = some (cs ++ quote :: body, rest) := by
  induction cs with
  | nil => simp [tagBody, quoteAfter, h]
  | cons c cs ih =>
    simp only [List.mem_cons, not_or] at inside
    simp [tagBody, quoteAfter, Ne.symm inside.1, ih inside.2]

/-- Text to which a mark is added without its last character does not come to hold the mark. -/
theorem not_infix_append {init body : List Char} {last : Char} (once : last ∉ init)
    (absent : ¬ init ++ [last] <:+: body) : ¬ init ++ [last] <:+: body ++ init := by
  rintro ⟨before, after, same⟩
  rw [← List.append_assoc] at same
  rcases List.append_eq_append_iff.mp same with ⟨tail, inside, -⟩ | ⟨tail, beyond, inside⟩
  · exact absent ⟨before, tail, by rw [inside, ← List.append_assoc before]⟩
  · rcases List.eq_nil_or_concat tail with rfl | ⟨tail, c, rfl⟩
    · exact absent ⟨before, [], by simpa using beyond⟩
    · have same_last := congrArg List.getLast? beyond
      simp only [List.getLast?_append, List.getLast?_singleton, Option.some_or,
        List.concat_eq_append, Option.some.injEq] at same_last
      exact once (inside ▸ by simp [same_last])

/-- A mark is found where it first stands. -/
theorem upTo_append {init body rest : List Char} {last : Char} (once : last ∉ init)
    (absent : ¬ init ++ [last] <:+: body) :
    upTo (init ++ [last]) (body ++ (init ++ [last] ++ rest)) = some (body, rest) := by
  replace absent := not_infix_append once absent
  induction body with
  | nil =>
    have found : after? (init ++ [last]) (init ++ [last] ++ rest) = some rest :=
      after?_eq_some_iff.mpr rfl
    cases init <;> simp_all [upTo]
  | cons c body ih =>
    have missed : after? (init ++ [last]) (c :: (body ++ (init ++ [last] ++ rest))) = none := by
      refine Option.eq_none_iff_forall_ne_some.mpr fun others found => absent ?_
      have start : init ++ [last] <+: c :: (body ++ (init ++ [last] ++ rest)) :=
        ⟨others, (after?_eq_some_iff.mp found).symm⟩
      have start' : c :: body ++ init <+: c :: (body ++ (init ++ [last] ++ rest)) :=
        ⟨last :: rest, by simp⟩
      exact (List.prefix_of_prefix_length_le start start' (by simp)).isInfix
    rw [List.cons_append, upTo, missed]
    simp only
    rw [ih fun inside => absent (inside.trans (List.suffix_cons c _).isInfix)]
    rfl

/-- Behind paired brackets, at any depth. -/
theorem declarationBody_paired {cs ds body rest : List Char} {depth : Nat} (paired : Paired cs)
    (h : declarationBody depth ds = some (body, rest)) :
    declarationBody depth (cs ++ ds) = some (cs ++ body, rest) := by
  induction paired generalizing depth ds body with
  | nil => exact h
  | cons plain _ ih => simp [declarationBody, plain, ih h]
  | @nested inner cs _ _ ih ih' =>
    have closed : declarationBody (depth + 1) ('>' :: (cs ++ ds)) =
        some ('>' :: (cs ++ body), rest) := by
      simp [declarationBody, ih' h]
    simp [declarationBody, ih closed]

/-- Characters that close this many brackets more than they open, and none too early. -/
def Closes : Nat → List Char → Prop
  | 0, cs => Paired cs
  | n + 1, cs => ∃ inner outer, Paired inner ∧ Closes n outer ∧ cs = inner ++ '>' :: outer

namespace Closes

variable {n : Nat} {cs : List Char}

theorem cons {c : Char} (plain : c ≠ '<' ∧ c ≠ '>') (closes : Closes n cs) :
    Closes n (c :: cs) := by
  cases n with
  | zero => exact .cons plain closes
  | succ n =>
    obtain ⟨inner, outer, paired, closes, rfl⟩ := closes
    exact ⟨c :: inner, outer, .cons plain paired, closes, rfl⟩

theorem close (closes : Closes n cs) : Closes (n + 1) ('>' :: cs) :=
  ⟨[], cs, .nil, closes, rfl⟩

theorem nested (closes : Closes (n + 1) cs) : Closes n ('<' :: cs) := by
  obtain ⟨inner, outer, paired, closes, rfl⟩ := closes
  cases n with
  | zero => exact .nested paired closes
  | succ n =>
    obtain ⟨inner', outer, paired', closes, rfl⟩ := closes
    exact ⟨'<' :: (inner ++ '>' :: inner'), outer, .nested paired paired', closes, by simp⟩

end Closes

theorem closes_of_declarationBody {depth : Nat} {cs body rest : List Char}
    (h : declarationBody depth cs = some (body, rest)) :
    Closes depth body ∧ cs = body ++ '>' :: rest := by
  fun_induction declarationBody depth cs generalizing body rest with
  | case1 => cases h
  | case2 depth c cs ends =>
    obtain ⟨rfl, rfl⟩ := ends
    obtain ⟨rfl, rfl⟩ := Prod.mk.inj (Option.some.inj h)
    exact ⟨.nil, rfl⟩
  | case3 depth c cs goesOn =>
    rename_i inside ih
    obtain ⟨⟨tail, left⟩, found, same⟩ := Option.map_eq_some_iff.mp h
    obtain ⟨rfl, rfl⟩ := Prod.mk.inj same
    obtain ⟨closes, rfl⟩ := ih found
    refine ⟨?_, rfl⟩
    by_cases opens : c = '<'
    · subst opens
      exact closes.nested
    by_cases ends : c = '>'
    · subst ends
      obtain ⟨n, rfl⟩ := Nat.exists_eq_succ_of_ne_zero fun none_open => goesOn ⟨rfl, none_open⟩
      exact closes.close
    · have level : inside = depth := by simp only [inside, opens, ends, if_false]
      rw [level] at closes
      exact closes.cons ⟨opens, ends⟩

/-- A declaration ends at the first bracket that has no partner. -/
theorem declarationBody_eq_some_iff {cs body rest : List Char} :
    declarationBody 0 cs = some (body, rest) ↔ Paired body ∧ cs = body ++ '>' :: rest := by
  constructor
  · exact closes_of_declarationBody
  · rintro ⟨paired, rfl⟩
    have closed : declarationBody 0 ('>' :: rest) = some ([], rest) := rfl
    simpa using declarationBody_paired paired closed

/-! ### Attributes -/

theorem dropWhile_blanks {blanks cs : List Char} {c : Char} (blank : Blanks blanks)
    (plain : isSpace c = false) : (blanks ++ c :: cs).dropWhile isSpace = c :: cs := by
  rw [List.dropWhile_append_of_pos blank, List.dropWhile_cons_of_neg (by simp [plain])]

/-- The first attribute is read up to its second quote. -/
theorem attribute?_append {key left right value cs : List Char} {quote : Char} (nonempty : key ≠ [])
    (named : ∀ c ∈ key, c ∉ tagMarks) (blankLeft : Blanks left) (blankRight : Blanks right)
    (quoted : quote = '"' ∨ quote = '\'') (inside : quote ∉ value) :
    attribute? (key ++ (left ++ '=' :: (right ++ quote :: (value ++ quote :: cs)))) =
      some ((key, value), cs) := by
  obtain ⟨c, key, rfl⟩ := List.exists_cons_of_ne_nil nonempty
  have in_key : ∀ d ∈ key, (d != '=' && !isSpace d) := by
    intro d mem
    have plain := named d (List.mem_cons_of_mem _ mem)
    have other : d ≠ '=' := by
      rintro rfl
      exact plain (by decide)
    simp [other, isSpace_eq_false plain]
  have key_ends (after : List Char) :
      ∀ d ∈ (left ++ '=' :: after).head?, (d != '=' && !isSpace d) = false := by
    intro d mem
    cases left with
    | nil =>
      obtain rfl := Option.some.inj mem
      rfl
    | cons b left =>
      obtain rfl := Option.some.inj mem
      simp [blankLeft b List.mem_cons_self]
  have in_value : ∀ d ∈ value, d != quote := by
    intro d mem
    simp only [bne_iff_ne, ne_eq]
    rintro rfl
    exact inside mem
  obtain ⟨key_read, key_rest⟩ :=
    takeWhile_append_of_head in_key (key_ends (right ++ quote :: (value ++ quote :: cs)))
  obtain ⟨value_read, value_rest⟩ :=
    takeWhile_append_of_head in_value (show ∀ d ∈ (quote :: cs).head?, (d != quote) = false by simp)
  have plain : isSpace quote = false := by rcases quoted with rfl | rfl <;> rfl
  simp only [List.cons_append, attribute?, key_read, key_rest,
    dropWhile_blanks blankLeft (rfl : isSpace '=' = false), dropWhile_blanks blankRight plain,
    if_pos quoted, value_read, value_rest]

theorem rawAttributes_blanks {blanks : List Char} (blank : Blanks blanks) :
    rawAttributes blanks = some [] := by
  have none_left : blanks.dropWhile isSpace = [] := by
    have dropped : (blanks ++ []).dropWhile isSpace = [] := List.dropWhile_append_of_pos blank
    rwa [List.append_nil] at dropped
  rw [rawAttributes]
  split
  · rfl
  · rename_i same
    cases none_left.symm.trans same

theorem rawAttributes_append {blanks cs rest : List Char} {c : Char} {a : List Char × List Char}
    (blank : Blanks blanks) (plain : isSpace c = false)
    (first : attribute? (c :: cs) = some (a, rest)) :
    rawAttributes (blanks ++ c :: cs) = (rawAttributes rest).map (a :: ·) := by
  have start : (blanks ++ c :: cs).dropWhile isSpace = c :: cs := dropWhile_blanks blank plain
  rw [rawAttributes]
  split
  · rename_i same
    cases start.symm.trans same
  · rename_i same
    obtain ⟨rfl, rfl⟩ := List.cons.inj (start.symm.trans same)
    split
    · rename_i found
      obtain ⟨rfl, rfl⟩ := Prod.mk.inj (Option.some.inj (first.symm.trans found))
      rfl
    · rename_i missed
      cases first.symm.trans missed

namespace WritesAttributes

variable {spelling : List Char → List Char → Prop} {attributes : List (String × String)}
  {cs : List Char}

/-- The keys and values are read as they were spelled. -/
theorem exists_rawAttributes (writes : WritesAttributes spelling attributes cs)
    (keys : ∀ a ∈ attributes, isName a.1) :
    ∃ raws, rawAttributes cs = some raws ∧
      List.Forall₂ (fun a raw => raw.1 = a.1.toList ∧ spelling raw.2 a.2.toList)
        attributes raws := by
  induction writes with
  | nil blank => exact ⟨[], rawAttributes_blanks blank, .nil⟩
  | @cons key value _ quote _ left right raw cs _ blank blankLeft blankRight quoted inside spelled
      _ ih =>
    obtain ⟨named, keys⟩ := List.forall_mem_cons.mp keys
    obtain ⟨raws, read, others⟩ := ih keys
    obtain ⟨c, key', same⟩ := exists_cons_of_isName named
    have marks : ∀ c ∈ key.toList, c ∉ tagMarks := fun c => not_mem_tagMarks named
    have first : attribute? (key.toList ++ (left ++ '=' :: (right ++ quote ::
        (raw ++ quote :: cs)))) = some ((key.toList, raw), cs) :=
      attribute?_append (by simp [same]) marks blankLeft blankRight quoted inside
    refine ⟨(key.toList, raw) :: raws, ?_, .cons ⟨rfl, spelled⟩ others⟩
    rw [same] at marks first ⊢
    rw [List.cons_append] at first ⊢
    rw [rawAttributes_append blank (isSpace_eq_false (marks c List.mem_cons_self)) first, read,
      Option.map_some]

/-- The attributes that were written are read. -/
theorem attributes?_eq (writes : WritesAttributes Refers attributes cs)
    (keys : ∀ a ∈ attributes, isName a.1) (distinct : (attributes.map Prod.fst).Nodup) :
    attributes? cs = some attributes := by
  obtain ⟨raws, read, spelled⟩ := writes.exists_rawAttributes keys
  have same_keys : raws.map Prod.fst = (attributes.map Prod.fst).map String.toList := by
    clear read writes keys distinct
    induction spelled with
    | nil => rfl
    | cons first _ ih => rw [List.map_cons, List.map_cons, List.map_cons, first.1, ih]
  have keys_distinct : (raws.map Prod.fst).Nodup :=
    same_keys ▸ distinct.map fun _ _ same => String.toList_injective same
  rw [attributes?, read, Option.bind_some, if_pos keys_distinct]
  clear read writes keys distinct same_keys keys_distinct
  induction spelled with
  | nil => rfl
  | cons first _ ih => simp [List.mapM_cons, first.1, expand_of_refers first.2, ih]

/-- What follows the name in a tag begins with a blank. -/
theorem isSpace_head (writes : WritesAttributes spelling attributes cs) :
    ∀ c ∈ cs.head?, isSpace c := by
  cases writes with
  | nil blank => exact fun c mem => blank c (List.mem_of_head? mem)
  | cons apart blank =>
    rename_i before _ _ _ _
    obtain ⟨b, before, rfl⟩ := List.exists_cons_of_ne_nil apart
    simpa using blank b List.mem_cons_self

/-- What follows the name in a tag does not end in a slash. -/
theorem getLast_ne_slash (writes : WritesAttributes spelling attributes cs) :
    ∀ c ∈ cs.getLast?, c ≠ '/' := by
  induction writes with
  | nil blank =>
    rintro c last rfl
    exact absurd (blank '/' (List.mem_of_getLast? last)) (by decide)
  | @cons _ _ _ quote _ _ _ _ cs _ _ _ _ quoted _ _ _ ih =>
    intro c last
    simp only [List.getLast?_append, List.getLast?_cons, Option.some_or, Option.getD_some,
      Option.mem_some_iff] at last
    cases inner : cs.getLast? with
    | none =>
      rw [inner] at last
      rcases quoted with rfl | rfl <;> exact last ▸ by decide
    | some d =>
      rw [inner] at last
      exact last ▸ ih d inner

/-- No bracket ends a tag before its end. -/
theorem tagBody_append {ds body rest : List Char}
    (writes : WritesAttributes spelling attributes cs)
    (keys : ∀ a ∈ attributes, isName a.1) (h : tagBody none ds = some (body, rest)) :
    tagBody none (cs ++ ds) = some (cs ++ body, rest) := by
  induction writes with
  | nil blank => exact tagBody_plain (fun c mem => not_mem_tagEnds_of_isSpace (blank c mem)) h
  | @cons key value _ quote before left right raw cs _ blank blankLeft blankRight quoted inside _
      _ ih =>
    obtain ⟨named, keys⟩ := List.forall_mem_cons.mp keys
    have plain : ∀ c ∈ before ++ (key.toList ++ (left ++ '=' :: right)), c ∉ tagEnds := by
      simp only [List.forall_mem_append, List.forall_mem_cons]
      refine ⟨?_, ?_, ?_, by decide, ?_⟩
      · exact fun c mem => not_mem_tagEnds_of_isSpace (blank c mem)
      · exact fun c mem => not_mem_tagEnds_of_isName named mem
      · exact fun c mem => not_mem_tagEnds_of_isSpace (blankLeft c mem)
      · exact fun c mem => not_mem_tagEnds_of_isSpace (blankRight c mem)
    have opened : tagBody none (quote :: (raw ++ quote :: (cs ++ ds))) =
        some (quote :: (raw ++ quote :: (cs ++ body)), rest) := by
      rcases quoted with rfl | rfl <;> simp [tagBody, quoteAfter, tagBody_quoted inside (ih keys)]
    simpa using tagBody_plain plain opened

end WritesAttributes

/-! ### Tags -/

/-- What begins with a name after its bracket is a tag that opens an element. -/
theorem tag?_of_isName {name : String} {cs : List Char} (named : isName name) :
    tag? (name.toList ++ cs) =
      (tagBody none (name.toList ++ cs)).bind fun (body, rest) =>
        (startTag? body).map fun m => (m, rest) := by
  obtain ⟨c, name', same⟩ := exists_cons_of_isName named
  have plain := not_mem_tagMarks named (same ▸ List.mem_cons_self)
  rw [same, List.cons_append, tag?]
  all_goals
    intro _ begins
    obtain ⟨rfl, -⟩ := List.cons.inj begins
    exact plain (by decide)

section Tags

variable {name : String} {attributes : List (String × String)} {tag rest : List Char}

theorem tagBody_name {cs body : List Char} (named : isName name)
    (h : tagBody none cs = some (body, rest)) :
    tagBody none (name.toList ++ cs) = some (name.toList ++ body, rest) :=
  tagBody_plain (fun _ mem => not_mem_tagEnds_of_isName named mem) h

theorem tagBody_end : tagBody none ('>' :: rest) = some ([], rest) := rfl

/-- The name is what stands before the first blank. -/
theorem name_append {spelling : List Char → List Char → Prop} (named : isName name)
    (writes : WritesAttributes spelling attributes tag) :
    (name.toList ++ tag).takeWhile (fun c => !isSpace c) = name.toList ∧
      (name.toList ++ tag).dropWhile (fun c => !isSpace c) = tag := by
  apply takeWhile_append_of_head
  · intro c mem
    simp [isSpace_eq_false (not_mem_tagMarks named mem)]
  · intro c mem
    simp [writes.isSpace_head c mem]

theorem piece?_opening (named : isName name) (keys : ∀ a ∈ attributes, isName a.1)
    (distinct : (attributes.map Prod.fst).Nodup) (writes : WritesAttributes Refers attributes tag) :
    piece? ('<' :: (name.toList ++ (tag ++ '>' :: rest))) =
      some (.opening name attributes, rest) := by
  have no_slash : (name.toList ++ tag).getLast? ≠ some '/' := by
    intro last
    rw [List.getLast?_append] at last
    cases inner : tag.getLast? with
    | none =>
      rw [inner, Option.none_or] at last
      exact not_mem_tagMarks named (List.mem_of_getLast? last) (by decide)
    | some c =>
      rw [inner, Option.some_or] at last
      exact writes.getLast_ne_slash c inner (Option.some.inj last)
  obtain ⟨first, behind⟩ := name_append named writes
  have start : startTag? (name.toList ++ tag) = some (.opening name attributes) := by
    simp only [startTag?, if_neg no_slash, first, behind, writes.attributes?_eq keys distinct,
      Option.map_some, String.ofList_toList]
  rw [piece?, tag?_of_isName named, tagBody_name named (writes.tagBody_append keys tagBody_end)]
  simp [start]

theorem piece?_single (named : isName name) (keys : ∀ a ∈ attributes, isName a.1)
    (distinct : (attributes.map Prod.fst).Nodup) (writes : WritesAttributes Refers attributes tag) :
    piece? ('<' :: (name.toList ++ (tag ++ '/' :: '>' :: rest))) =
      some (.single name attributes, rest) := by
  have slash : tagBody none ('/' :: '>' :: rest) = some (['/'], rest) := by
    simp [tagBody, quoteAfter]
  obtain ⟨first, behind⟩ := name_append named writes
  have start : startTag? (name.toList ++ (tag ++ ['/'])) = some (.single name attributes) := by
    rw [← List.append_assoc]
    simp [startTag?, first, behind, writes.attributes?_eq keys distinct]
  rw [piece?, tag?_of_isName named, tagBody_name named (writes.tagBody_append keys slash)]
  simp [start]

theorem piece?_closing {blanks : List Char} (named : isName name) (blank : Blanks blanks) :
    piece? ('<' :: '/' :: (name.toList ++ (blanks ++ '>' :: rest))) =
      some (.closing name, rest) := by
  have body : tagBody none (name.toList ++ (blanks ++ '>' :: rest)) =
      some (name.toList ++ (blanks ++ []), rest) :=
    tagBody_name named
      (tagBody_plain (fun c mem => not_mem_tagEnds_of_isSpace (blank c mem)) tagBody_end)
  have some_name : (name.toList ++ blanks).all isSpace = false := by
    obtain ⟨c, cs, same⟩ := exists_cons_of_isName named
    have plain := not_mem_tagMarks named (same ▸ List.mem_cons_self)
    simp [same, isSpace_eq_false plain]
  have trimmed : dropEndWhile isSpace (name.toList ++ blanks) = name.toList :=
    dropEndWhile_append blank fun c last =>
      isSpace_eq_false (not_mem_tagMarks named (List.mem_of_getLast? last))
  have ends : endTag (name.toList ++ blanks) = .closing name := by
    rw [endTag, some_name, if_neg Bool.false_ne_true, trimmed, String.ofList_toList]
  simp [piece?, tag?, body, ends]

end Tags

/-! ### Texts -/

/-- A text goes up to the next piece. -/
theorem piece?_text {cs rest : List Char} (nonempty : cs ≠ []) (plain : '<' ∉ cs)
    (ends : ∀ c ∈ rest.head?, c = '<') : piece? (cs ++ rest) = some (.text cs, rest) := by
  have inside : ∀ c ∈ cs, c != '<' := by
    intro c mem
    simp only [bne_iff_ne, ne_eq]
    rintro rfl
    exact plain mem
  obtain ⟨text, behind⟩ :=
    takeWhile_append_of_head inside (show ∀ c ∈ rest.head?, (c != '<') = false by simpa using ends)
  rw [piece?, text, behind]
  intro cs' begins
  obtain ⟨c, cs, rfl⟩ := List.exists_cons_of_ne_nil nonempty
  obtain ⟨rfl, -⟩ := List.cons.inj begins
  exact plain List.mem_cons_self

/-- A literal section is read as it is. -/
theorem piece?_literal {inside rest : List Char} (ends : ¬ "]]>".toList <:+: inside) :
    piece? ('<' :: '!' :: '[' :: ("CDATA[".toList ++ (inside ++ ("]]>".toList ++ rest)))) =
      some (.literal inside, rest) := by
  have once : '>' ∉ [']', ']'] := by decide
  have found : upTo "]]>".toList (inside ++ ("]]>".toList ++ rest)) = some (inside, rest) :=
    upTo_append once ends
  have six : "CDATA[".toList.length = 6 := rfl
  rw [piece?, tag?, declaration?, List.take_left' six, List.drop_left' six, if_pos rfl, found]
  rfl

/-! ### What stands aside -/

theorem isSpace_toLower (c : Char) : isSpace c.toLower = isSpace c := by
  by_cases ascii : c.toNat < 128
  · have all_ascii : ∀ c : Char, c.toNat < 128 → isSpace c.toLower = isSpace c :=
      forall_ascii (by decide +kernel)
    exact all_ascii c ascii
  · have same : c.toLower = c := by
      unfold Char.toLower
      rw [dif_neg]
      intro upper
      have : c.toNat ≤ 90 := by simpa [UInt32.le_iff_toNat_le] using upper.2
      omega
    rw [same]

theorem isDocumentType_append {word body : List Char}
    (doctype : word.map Char.toLower = "doctype".toList) (named : ∃ c ∈ body, isSpace c = false) :
    isDocumentType (word ++ body) := by
  have found : after? "doctype".toList ((word ++ body).map Char.toLower) =
      some (body.map Char.toLower) := by
    rw [List.map_append, doctype]
    exact after?_eq_some_iff.mpr rfl
  rw [isDocumentType, found]
  simpa [isSpace_toLower] using named

theorem declaration?_documentType {word body rest : List Char}
    (doctype : word.map Char.toLower = "doctype".toList) (named : ∃ c ∈ body, isSpace c = false)
    (paired : Paired body) :
    declaration? (word ++ (body ++ '>' :: rest)) = some (.skipped, rest) := by
  have lower : ∀ c ∈ word, c.toLower ∈ "doctype".toList := fun c mem =>
    doctype ▸ List.mem_map_of_mem mem
  have plain : Paired word := by
    clear doctype
    induction word with
    | nil => exact .nil
    | cons c word ih =>
      obtain ⟨first, lower⟩ := List.forall_mem_cons.mp lower
      refine .cons ⟨?_, ?_⟩ (ih lower)
      all_goals
        rintro rfl
        exact absurd first (by decide)
  have inside : declarationBody 0 (word ++ (body ++ '>' :: rest)) =
      some (word ++ (body ++ []), rest) :=
    declarationBody_paired plain (declarationBody_paired paired rfl)
  cases word with
  | nil => cases doctype
  | cons c word =>
    have first := lower c List.mem_cons_self
    rw [List.cons_append, declaration?, ← List.cons_append, inside]
    · have type := isDocumentType_append doctype named
      rw [List.cons_append] at type
      simp [type]
    all_goals
      intro _ begins
      obtain ⟨rfl, -⟩ := List.cons.inj begins
      exact absurd first (by decide)

theorem piece?_documentType {word body rest : List Char}
    (doctype : word.map Char.toLower = "doctype".toList) (named : ∃ c ∈ body, isSpace c = false)
    (paired : Paired body) :
    piece? ('<' :: '!' :: (word ++ (body ++ '>' :: rest))) = some (.skipped, rest) := by
  rw [piece?, tag?]
  exact declaration?_documentType doctype named paired

theorem piece?_instruction {body rest : List Char} (target : body.head? ≠ some '>')
    (ends : ¬ "?>".toList <:+: body) :
    piece? ('<' :: '?' :: (body ++ ("?>".toList ++ rest))) = some (.skipped, rest) := by
  have once : '>' ∉ ['?'] := by decide
  have found : upTo "?>".toList (body ++ ("?>".toList ++ rest)) = some (body, rest) :=
    upTo_append once ends
  rw [piece?, tag?, found]
  · rfl
  · intro tail begins
    cases body with
    | nil => cases begins
    | cons c body =>
      obtain ⟨rfl, -⟩ := List.cons.inj begins
      exact target rfl

theorem piece?_comment {body rest : List Char} (ends : ¬ "-->".toList <:+: body) :
    piece? ('<' :: '!' :: '-' :: '-' :: (body ++ ("-->".toList ++ rest))) =
      some (.skipped, rest) := by
  have once : '>' ∉ ['-', '-'] := by decide
  have found : upTo "-->".toList (body ++ ("-->".toList ++ rest)) = some (body, rest) :=
    upTo_append once ends
  rw [piece?, tag?, declaration?, found]
  rfl

/-! ### Documents -/

theorem scan_of_piece? {cs rest : List Char} {m : Markup} (nonempty : cs ≠ [])
    (first : piece? cs = some (m, rest)) : scan cs = (scan rest).map (m :: ·) := by
  obtain ⟨c, cs, rfl⟩ := List.exists_cons_of_ne_nil nonempty
  rw [scan]
  split
  · rename_i found
    obtain ⟨rfl, rfl⟩ := Prod.mk.inj (Option.some.inj (first.symm.trans found))
    rfl
  · rename_i missed
    cases first.symm.trans missed

end Reflectory.Xml
