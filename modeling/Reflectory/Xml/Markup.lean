/-
Markup: the pieces that a document consists of.

A piece is a tag, a run of text, a literal section, or something without effect
(comments, processing instructions, document types). `scan` cuts a document into
its pieces. It is lenient in what a name is, and strict in the rest: quotes and
brackets have to be closed, and every attribute needs a value in quotes and a
name of its own.
-/

import Reflectory.Text.Trim
import Reflectory.Xml.Entity

namespace Reflectory.Xml

open Text

/-- A piece of a document. -/
inductive Markup where
  /-- Text with references as written. -/
  | text (raw : List Char)
  /-- The inside of a literal section. -/
  | literal (cs : List Char)
  | opening (name : String) (attributes : List (String × String))
  /-- A tag that opens and closes an element. -/
  | single (name : String) (attributes : List (String × String))
  | closing (name : String)
  | skipped
  deriving DecidableEq, Repr

/-- The characters that separate names inside tags. -/
def isSpace (c : Char) : Bool :=
  c = ' ' || c = '\t' || c = '\n' || c = '\r'

/-! ### Finding ends -/

/-- What stands before and after the first occurrence of a text. -/
def upTo (mark : List Char) : List Char → Option (List Char × List Char)
  | [] => (after? mark []).map fun rest => ([], rest)
  | c :: cs =>
    match after? mark (c :: cs) with
    | some rest => some ([], rest)
    | none => (upTo mark cs).map fun (before, rest) => (c :: before, rest)

/-- The quote that is open after a character, where the one before it is open,
if any. -/
def quoteAfter : Option Char → Char → Option Char
  | none, c => if c = '"' ∨ c = '\'' then some c else none
  | some q, c => if c = q then none else some q

/-- The inside of a tag and what follows it: a tag ends at the first `>` outside
quotes. -/
def tagBody : Option Char → List Char → Option (List Char × List Char)
  | _, [] => none
  | quote?, c :: cs =>
    if c = '>' ∧ quote? = none then some ([], cs)
    else (tagBody (quoteAfter quote? c) cs).map fun (body, rest) => (c :: body, rest)

/-- The inside of a declaration and what follows it, inside this many open
brackets. -/
def declarationBody : Nat → List Char → Option (List Char × List Char)
  | _, [] => none
  | depth, c :: cs =>
    if c = '>' ∧ depth = 0 then some ([], cs)
    else
      let depth := if c = '<' then depth + 1 else if c = '>' then depth - 1 else depth
      (declarationBody depth cs).map fun (body, rest) => (c :: body, rest)

/-! ### Attributes -/

/-- The first attribute of a list that does not begin with a space, as written,
and what follows it. -/
def attribute? : List Char → Option ((List Char × List Char) × List Char)
  | [] => none
  | c :: cs =>
    let isInKey (c : Char) : Bool := c != '=' && !isSpace c
    match (cs.dropWhile isInKey).dropWhile isSpace with
    | '=' :: rest =>
      match rest.dropWhile isSpace with
      | quote :: rest =>
        if quote = '"' ∨ quote = '\'' then
          match rest.dropWhile (· != quote) with
          | _ :: after => some ((c :: cs.takeWhile isInKey, rest.takeWhile (· != quote)), after)
          | [] => none
        else none
      | [] => none
    | _ => none

theorem length_dropWhile_le {α : Type} (p : α → Bool) (l : List α) :
    (l.dropWhile p).length ≤ l.length :=
  (List.dropWhile_sublist p).length_le

theorem length_of_attribute? {cs rest : List Char} {a : List Char × List Char}
    (h : attribute? cs = some (a, rest)) : rest.length < cs.length := by
  unfold attribute? at h
  split at h
  · simp at h
  · rename_i c cs
    simp only at h
    split at h
    · rename_i rest₁ hrest₁
      split at h
      · rename_i quote rest₂ hrest₂
        split at h
        · split at h
          · rename_i q after hafter
            simp only [Option.some.injEq, Prod.mk.injEq] at h
            have h₁ := length_dropWhile_le isSpace (cs.dropWhile fun c => c != '=' && !isSpace c)
            have h₂ := length_dropWhile_le (fun c => c != '=' && !isSpace c) cs
            have h₃ := length_dropWhile_le isSpace rest₁
            have h₄ := length_dropWhile_le (· != quote) rest₂
            rw [hrest₁] at h₁
            rw [hrest₂] at h₃
            rw [hafter] at h₄
            simp only [List.length_cons] at *
            rw [← h.2]
            omega
          · simp at h
        · simp at h
      · simp at h
    · simp at h

/-- The attributes inside a tag, as written. -/
def rawAttributes (cs : List Char) : Option (List (List Char × List Char)) :=
  match _hs : cs.dropWhile isSpace with
  | [] => some []
  | c :: cs' =>
    match _h : attribute? (c :: cs') with
    | some (a, rest) => (rawAttributes rest).map (a :: ·)
    | none => none
termination_by cs.length
decreasing_by
  have := length_of_attribute? _h
  have hle := length_dropWhile_le isSpace cs
  rw [_hs] at hle
  omega

/-- The attributes inside a tag, their names all different. -/
def attributes? (cs : List Char) : Option (List (String × String)) :=
  (rawAttributes cs).bind fun raw =>
    if (raw.map Prod.fst).Nodup then
      raw.mapM fun (key, value) =>
        (expand value).map fun value => (String.ofList key, String.ofList value)
    else none

/-! ### Pieces -/

/-- The piece for the inside of a tag without a slash in front. -/
def startTag? (body : List Char) : Option Markup :=
  let isSingle := body.getLast? = some '/'
  let body := if isSingle then body.dropLast else body
  let name := String.ofList (body.takeWhile fun c => !isSpace c)
  (attributes? (body.dropWhile fun c => !isSpace c)).map fun attributes =>
    if isSingle then .single name attributes else .opening name attributes

/-- The piece for the inside of a tag after a slash in front; spaces after the
name do not count. -/
def endTag (body : List Char) : Markup :=
  .closing (String.ofList (if body.all isSpace then body else dropEndWhile isSpace body))

/-- Whether a document type is named after the word that begins it. -/
def isDocumentType (body : List Char) : Bool :=
  match after? "doctype".toList (body.map Char.toLower) with
  | some rest => rest.any fun c => !isSpace c
  | none => false

/-- The piece after `<!`. -/
def declaration? : List Char → Option (Markup × List Char)
  | '-' :: '-' :: cs => (upTo "-->".toList cs).map fun (_, rest) => (.skipped, rest)
  | '[' :: cs =>
    if cs.take 6 = "CDATA[".toList then
      (upTo "]]>".toList (cs.drop 6)).map fun (inside, rest) => (.literal inside, rest)
    else none
  | cs =>
    (declarationBody 0 cs).bind fun (body, rest) =>
      if isDocumentType body then some (.skipped, rest) else none

/-- The piece after `<`. -/
def tag? : List Char → Option (Markup × List Char)
  | '!' :: cs => declaration? cs
  | '?' :: '>' :: _ => none
  | '?' :: cs => (upTo "?>".toList cs).map fun (_, rest) => (.skipped, rest)
  | '/' :: cs => (tagBody none cs).map fun (body, rest) => (endTag body, rest)
  | cs => (tagBody none cs).bind fun (body, rest) => (startTag? body).map fun m => (m, rest)

/-- The first piece of a document that is not at its end. -/
def piece? : List Char → Option (Markup × List Char)
  | '<' :: cs => tag? cs
  | cs => some (.text (cs.takeWhile (· != '<')), cs.dropWhile (· != '<'))

/-! ### Pieces are not empty -/

/-- What is left over stays where only what comes before it is changed. -/
theorem exists_of_map_eq_some {α β γ : Type} {found : Option (α × γ)} {f : α × γ → β × γ}
    {b : β} {rest : γ} (h : found.map f = some (b, rest)) (left : ∀ p, (f p).2 = p.2) :
    ∃ a, found = some (a, rest) := by
  obtain ⟨⟨a, r⟩, there, same⟩ := Option.map_eq_some_iff.mp h
  obtain rfl : r = rest := (left (a, r)).symm.trans (congrArg Prod.snd same)
  exact ⟨a, there⟩

theorem length_of_after? {α : Type} [BEq α] {pre cs rest : List α}
    (h : after? pre cs = some rest) : rest.length + pre.length = cs.length := by
  fun_induction after? pre cs with
  | case1 => simp_all
  | case2 => simp at h
  | case3 p pre c cs hpc ih =>
    have := ih h
    simp only [List.length_cons]
    omega
  | case4 => simp at h

theorem length_of_upTo {mark cs before rest : List Char} (h : upTo mark cs = some (before, rest)) :
    rest.length ≤ cs.length := by
  fun_induction upTo mark cs generalizing before rest with
  | case1 =>
    obtain ⟨r, hr, heq⟩ := Option.map_eq_some_iff.1 h
    obtain ⟨-, rfl⟩ := Prod.mk.inj heq
    have := length_of_after? hr
    omega
  | case2 c cs r hr =>
    obtain ⟨-, rfl⟩ := Prod.mk.inj (Option.some.inj h)
    have := length_of_after? hr
    omega
  | case3 c cs _ ih =>
    obtain ⟨b, hr⟩ := exists_of_map_eq_some h fun _ => rfl
    have := ih hr
    simp only [List.length_cons]
    omega

theorem length_of_tagBody {quote? : Option Char} {cs body rest : List Char}
    (h : tagBody quote? cs = some (body, rest)) : rest.length < cs.length := by
  fun_induction tagBody quote? cs generalizing body rest with
  | case1 => simp at h
  | case2 quote? c cs _ =>
    obtain ⟨-, rfl⟩ := Prod.mk.inj (Option.some.inj h)
    simp
  | case3 quote? c cs _ ih =>
    obtain ⟨b, hr⟩ := exists_of_map_eq_some h fun _ => rfl
    have := ih hr
    simp only [List.length_cons]
    omega

theorem length_of_declarationBody {depth : Nat} {cs body rest : List Char}
    (h : declarationBody depth cs = some (body, rest)) : rest.length < cs.length := by
  fun_induction declarationBody depth cs generalizing body rest with
  | case1 => simp at h
  | case2 depth c cs _ =>
    obtain ⟨-, rfl⟩ := Prod.mk.inj (Option.some.inj h)
    simp
  | case3 =>
    rename_i c cs _ _ ih
    obtain ⟨b, hr⟩ := exists_of_map_eq_some h fun _ => rfl
    have := ih hr
    simp only [List.length_cons]
    omega

theorem length_of_declaration? {cs rest : List Char} {m : Markup}
    (h : declaration? cs = some (m, rest)) : rest.length ≤ cs.length := by
  unfold declaration? at h
  split at h
  · obtain ⟨b, hr⟩ := exists_of_map_eq_some h fun _ => rfl
    have := length_of_upTo hr
    simp only [List.length_cons]
    omega
  · rename_i cs
    split at h
    · obtain ⟨b, hr⟩ := exists_of_map_eq_some h fun _ => rfl
      have := length_of_upTo hr
      simp only [List.length_drop, List.length_cons] at *
      omega
    · simp at h
  · obtain ⟨⟨b, r⟩, hr, heq⟩ := Option.bind_eq_some_iff.1 h
    have := length_of_declarationBody hr
    simp only at heq
    split at heq
    · simp only [Option.some.injEq, Prod.mk.injEq] at heq
      rw [← heq.2]
      omega
    · simp at heq

theorem length_of_tag? {cs rest : List Char} {m : Markup} (h : tag? cs = some (m, rest)) :
    rest.length ≤ cs.length := by
  unfold tag? at h
  split at h
  · have := length_of_declaration? h
    simp only [List.length_cons]
    omega
  · simp at h
  · obtain ⟨b, hr⟩ := exists_of_map_eq_some h fun _ => rfl
    have := length_of_upTo hr
    simp only [List.length_cons]
    omega
  · obtain ⟨b, hr⟩ := exists_of_map_eq_some h fun _ => rfl
    have := length_of_tagBody hr
    simp only [List.length_cons]
    omega
  · obtain ⟨⟨b, r⟩, hr, heq⟩ := Option.bind_eq_some_iff.1 h
    obtain ⟨m', -, heq⟩ := Option.map_eq_some_iff.1 heq
    obtain ⟨-, rfl⟩ := Prod.mk.inj heq
    have := length_of_tagBody hr
    omega

/-- A piece takes at least one character. -/
theorem length_of_piece? {c : Char} {cs rest : List Char} {m : Markup}
    (h : piece? (c :: cs) = some (m, rest)) : rest.length < (c :: cs).length := by
  unfold piece? at h
  split at h
  · rename_i heq
    obtain ⟨rfl, rfl⟩ := List.cons.inj heq
    have := length_of_tag? h
    simp only [List.length_cons]
    omega
  · rename_i cs' hne
    obtain ⟨-, rfl⟩ := Prod.mk.inj (Option.some.inj h)
    have hc : (c != '<') = true := by
      simp only [bne_iff_ne, ne_eq]
      rintro rfl
      exact hne cs rfl
    rw [List.dropWhile_cons, if_pos hc]
    have := length_dropWhile_le (· != '<') cs
    simp only [List.length_cons]
    omega

/-! ### Documents -/

/-- The pieces of a document. -/
def scan : List Char → Option (List Markup)
  | [] => some []
  | c :: cs =>
    match _h : piece? (c :: cs) with
    | some (m, rest) => (scan rest).map (m :: ·)
    | none => none
termination_by cs => cs.length
decreasing_by exact length_of_piece? _h

end Reflectory.Xml
