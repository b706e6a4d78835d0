/-
What documents leave in a configuration.

A configuration takes up documents in three ways. The patterns of each document are put behind
those of the documents before it; in the tables, a document replaces what was given for the
types that it names; and its output path and the lists of its property table replace the ones
before, where it has them. So what a configuration answers is found from the documents
directly: from all of them for the patterns, and from the last one that says anything for the
rest. `Gathers` says this of a new configuration and the documents that it has loaded.

* `NameTable.get?_insertAll`: a table after the entries of a document.
* `merge_eq_none_iff`: what is merged, and when.
* `Gathers.merge`: one document more.
* `Loads.gathers`: all documents.
* `answers_from_documents`: what a configuration answers after its documents.
-/

import Mathlib.Data.List.Forall2
import Mathlib.Data.List.Nodup
import Mathlib.Tactic.Choose
import Reflectory.Configuration

namespace Reflectory

/-! ### Tables -/

namespace NameTable

variable {t : NameTable} {entries entries' : List (String × String)} {name : String}

/-- Whether the entries name every type once, in whatever spelling. -/
def NamedOnce (entries : List (String × String)) : Prop :=
  (entries.map fun e => Spelling.normalize e.1).Nodup

/-- The text that entries give to the type of a name. -/
def textOf? (entries : List (String × String)) (name : String) : Option String :=
  (entries.find? fun e => Spelling.normalize e.1 == name).map Prod.snd

theorem textOf?_cons (e : String × String) (entries : List (String × String)) (name : String) :
    textOf? (e :: entries) name =
      if Spelling.normalize e.1 = name then some e.2 else textOf? entries name := by
  unfold textOf?
  by_cases same : Spelling.normalize e.1 = name <;> simp [same]

theorem textOf?_eq_none_iff :
    textOf? entries name = none ↔ ∀ e ∈ entries, Spelling.normalize e.1 ≠ name := by
  simp [textOf?]

/-- Where every type is named once, the order of the entries does not matter. -/
theorem textOf?_of_perm (once : NamedOnce entries) (perm : entries.Perm entries')
    (name : String) : textOf? entries name = textOf? entries' name := by
  induction perm with
  | nil => rfl
  | cons e _ ih => rw [textOf?_cons, textOf?_cons, ih (List.nodup_cons.mp once).2]
  | swap e e' entries =>
    have other : Spelling.normalize e'.1 ≠ Spelling.normalize e.1 := by
      simpa [not_or] using fun same => (List.nodup_cons.mp once).1 (by simp [same])
    simp only [textOf?_cons]
    split_ifs with first second
    · exact absurd (first.trans second.symm) other
    all_goals rfl
  | trans perm _ ih ih' => exact (ih once).trans (ih' ((perm.map _).nodup_iff.mp once))

theorem get?_insert (t : NameTable) (spelled text name : String) :
    (t.insert spelled text).get? name =
      if Spelling.normalize spelled = name then some text else t.get? name := by
  unfold insert get?
  by_cases same : Spelling.normalize spelled = name
  · simp [same]
  · rw [List.find?_cons_of_neg (by simpa using same), if_neg same, List.find?_filter]
    -- An entry of the name is none of the spelled one.
    refine congrArg (fun p => (t.find? p).map Prod.snd) (funext fun e => ?_)
    by_cases found : e.1 = name
    · simp [found, Ne.symm same]
    · simp [found]

/-- Entries that name every type once replace what the table has for these types. -/
theorem get?_foldl_insert (once : NamedOnce entries) (t : NameTable) (name : String) :
    (entries.foldl (fun t e => t.insert e.1 e.2) t).get? name =
      (textOf? entries name).or (t.get? name) := by
  induction entries generalizing t with
  | nil => rfl
  | cons e entries ih =>
    obtain ⟨fresh, once⟩ := List.nodup_cons.mp once
    rw [List.foldl_cons, ih once, get?_insert, textOf?_cons]
    by_cases same : Spelling.normalize e.1 = name
    · have unnamed : textOf? entries name = none := by
        refine textOf?_eq_none_iff.mpr fun e' mem same' => fresh ?_
        exact List.mem_map.mpr ⟨e', mem, same'.trans same.symm⟩
      rw [if_pos same, if_pos same, unnamed, Option.none_or, Option.some_or]
    · rw [if_neg same, if_neg same]

theorem get?_insertAll (once : NamedOnce entries) (t : NameTable) (name : String) :
    (t.insertAll entries).get? name = (textOf? entries name).or (t.get? name) := by
  have sorted {sorted : List (String × String)} (perm : sorted.Perm entries) :
      (sorted.foldl (fun t e => t.insert e.1 e.2) t).get? name =
        (textOf? entries name).or (t.get? name) := by
    have once' : NamedOnce sorted := (perm.map _).nodup_iff.mpr once
    rw [get?_foldl_insert once', textOf?_of_perm once' perm]
  exact sorted (List.mergeSort_perm entries _)

end NameTable

/-! ### What documents give -/

/-- A table of a configuration. -/
inductive TableKind where
  | customReflectors | namingOverrides
  deriving DecidableEq, Repr

/-- A list of a property policy. -/
inductive PolicyKey where
  | getterPrefixes | setterPrefixes | countPrefixes | adderPrefixes | inserterPrefixes
  | removerPrefixes | indexTypes
  deriving DecidableEq, Repr

/-- What a document has for one of the tables. -/
def ConfigDocument.entries (d : ConfigDocument) : TableKind → List (String × String)
  | .customReflectors => d.customReflectors
  | .namingOverrides => d.namingOverrides

/-- The texts that a document has for one of the lists of patterns. -/
def ConfigDocument.texts (d : ConfigDocument) : Configuration.PatternList → List String
  | .includes => d.includes
  | .excludes => d.excludes
  | .valueTypes => d.valueTypes
  | .externalTypes => d.externalTypes

/-- The list of a property table, if it is given. -/
def PolicyChanges.list? (c : PolicyChanges) : PolicyKey → Option (List String)
  | .getterPrefixes => c.getterPrefixes?
  | .setterPrefixes => c.setterPrefixes?
  | .countPrefixes => c.countPrefixes?
  | .adderPrefixes => c.adderPrefixes?
  | .inserterPrefixes => c.inserterPrefixes?
  | .removerPrefixes => c.removerPrefixes?
  | .indexTypes => c.indexTypes?

/-- A list of a property policy. -/
def PropertyPolicy.list (p : PropertyPolicy) : PolicyKey → List String
  | .getterPrefixes => p.getterPrefixes
  | .setterPrefixes => p.setterPrefixes
  | .countPrefixes => p.countPrefixes
  | .adderPrefixes => p.adderPrefixes
  | .inserterPrefixes => p.inserterPrefixes
  | .removerPrefixes => p.removerPrefixes
  | .indexTypes => p.indexTypes

theorem PropertyPolicy.ext_list {p p' : PropertyPolicy} (same : ∀ key, p.list key = p'.list key) :
    p = p' := by
  cases p
  cases p'
  rw [mk.injEq]
  exact ⟨same .getterPrefixes, same .setterPrefixes, same .countPrefixes, same .adderPrefixes,
    same .inserterPrefixes, same .removerPrefixes, same .indexTypes⟩

theorem PolicyChanges.list_apply (c : PolicyChanges) (p : PropertyPolicy) (key : PolicyKey) :
    (c.apply p).list key = (c.list? key).getD (p.list key) := by
  cases key <;> rfl

/-- What the last document gives that gives anything. -/
def lastGiven {α : Type} (given? : ConfigDocument → Option α) (docs : List ConfigDocument) :
    Option α :=
  (docs.filterMap given?).getLast?

theorem lastGiven_concat {α : Type} (given? : ConfigDocument → Option α)
    (docs : List ConfigDocument) (d : ConfigDocument) :
    lastGiven given? (docs ++ [d]) = (given? d).or (lastGiven given? docs) := by
  unfold lastGiven
  rw [List.filterMap_append]
  cases given : given? d <;> simp [given]

namespace Configuration

/-- One of the lists of patterns. -/
def patterns (c : Configuration) : PatternList → List TypePattern
  | .includes => c.includes
  | .excludes => c.excludes
  | .valueTypes => c.valueTypes
  | .externalTypes => c.externalTypes

/-- One of the tables. -/
def table (c : Configuration) : TableKind → NameTable
  | .customReflectors => c.customReflectors
  | .namingOverrides => c.namingOverrides

/-- The pattern is what the text means. -/
def Reads (text : String) (p : TypePattern) : Prop :=
  TypePattern.ofText text = .ok p

/-- The configuration has from the documents all their patterns, list by list and in their
order; in its tables for each type the text of the last document that names the type; the
output path of the last document that has one; and each list of its property policy from the
last document that has it, or the default. -/
structure Gathers (c : Configuration) (docs : List ConfigDocument) : Prop where
  patterns : ∀ list : PatternList,
    List.Forall₂ Reads (docs.flatMap fun d => d.texts list) (c.patterns list)
  tables : ∀ table : TableKind, (∀ d ∈ docs, NameTable.NamedOnce (d.entries table)) →
    ∀ name, (c.table table).get? name =
      lastGiven (fun d => NameTable.textOf? (d.entries table) name) docs
  outputSubpath : c.outputSubpath? = lastGiven ConfigDocument.outputSubpath? docs
  policy : ∀ key : PolicyKey, c.propertyPolicy.list key =
    (lastGiven (fun d => d.properties.list? key) docs).getD (({} : PropertyPolicy).list key)

/-- The texts are documents, which the configuration loads one after another without an
error, wherever they are from. -/
inductive Loads : Configuration → List String → Configuration → Prop where
  | nil {c : Configuration} : Loads c [] c
  | cons {c c' c'' : Configuration} {text : String} {texts : List String} (path : String) :
      c.loadText path text = (c', none) → Loads c' texts c'' → Loads c (text :: texts) c''

/-! ### Merging a document -/

variable {c c' : Configuration} {d : ConfigDocument} {docs : List ConfigDocument}

/-- The configuration with patterns behind those of a list. -/
def extended (c : Configuration) (list : PatternList) (ps : List TypePattern) : Configuration :=
  match list with
  | .includes => { c with includes := c.includes ++ ps }
  | .excludes => { c with excludes := c.excludes ++ ps }
  | .valueTypes => { c with valueTypes := c.valueTypes ++ ps }
  | .externalTypes => { c with externalTypes := c.externalTypes ++ ps }

theorem extended_nil (c : Configuration) (list : PatternList) : c.extended list [] = c := by
  cases list <;> simp [extended]

theorem extended_cons (c : Configuration) (list : PatternList) (p : TypePattern)
    (ps : List TypePattern) :
    (c.extended list [p]).extended list ps = c.extended list (p :: ps) := by
  cases list <;> simp [extended]

theorem addPattern_eq_ok_iff {list : PatternList} {text : String} :
    c.addPattern list text = .ok c' ↔ ∃ p, Reads text p ∧ c' = c.extended list [p] := by
  unfold addPattern Reads
  cases TypePattern.ofText text with
  | error e => simp [Except.map]
  | ok p =>
    cases list <;> simp [Except.map, extended, eq_comm]

theorem addPatterns_nil (c : Configuration) (list : PatternList) :
    c.addPatterns list [] = (c, none) := rfl

theorem addPatterns_cons (c : Configuration) (list : PatternList) (text : String)
    (texts : List String) : c.addPatterns list (text :: texts) =
      match c.addPattern list text with
      | .ok c => c.addPatterns list texts
      | .error e => (c, some e) := by
  rfl

/-- Texts that are all patterns are added in their order, and only those. -/
theorem addPatterns_eq_none_iff {list : PatternList} {texts : List String} :
    c.addPatterns list texts = (c', none) ↔
      ∃ ps, List.Forall₂ Reads texts ps ∧ c' = c.extended list ps := by
  induction texts generalizing c with
  | nil => simp [addPatterns_nil, extended_nil, eq_comm]
  | cons text texts ih =>
    rw [addPatterns_cons]
    constructor
    · intro added
      split at added
      next c'' first =>
        obtain ⟨p, reads, rfl⟩ := addPattern_eq_ok_iff.mp first
        obtain ⟨ps, all, rfl⟩ := ih.mp added
        exact ⟨p :: ps, .cons reads all, extended_cons ..⟩
      next => cases added
    · rintro ⟨_, _ | @⟨_, p, _, ps, reads, all⟩, rfl⟩
      rw [addPattern_eq_ok_iff.mpr ⟨p, reads, rfl⟩]
      exact ih.mpr ⟨ps, all, (extended_cons ..).symm⟩

/-- The configuration with a document whose texts are these patterns. -/
def merged (c : Configuration) (d : ConfigDocument) (ps : PatternList → List TypePattern) :
    Configuration where
  outputSubpath? := d.outputSubpath?.or c.outputSubpath?
  includes := c.includes ++ ps .includes
  excludes := c.excludes ++ ps .excludes
  valueTypes := c.valueTypes ++ ps .valueTypes
  externalTypes := c.externalTypes ++ ps .externalTypes
  customReflectors := c.customReflectors.insertAll d.customReflectors
  namingOverrides := c.namingOverrides.insertAll d.namingOverrides
  propertyPolicy := d.properties.apply c.propertyPolicy

/-- A merge that has not stopped goes on with the next list. -/
theorem goes_on_iff {state : Configuration × Option ConfigError} {list : PatternList}
    {texts : List String} :
    (match state with
      | (c, none) => c.addPatterns list texts
      | stopped => stopped) = (c', none) ↔
      ∃ c ps, state = (c, none) ∧ List.Forall₂ Reads texts ps ∧ c' = c.extended list ps := by
  obtain ⟨c, _ | e⟩ := state
  · simp [addPatterns_eq_none_iff]
  · simp

/-- A document is merged without an error if its texts are all patterns. -/
theorem merge_eq_none_iff : c.merge d = (c', none) ↔
    ∃ ps : PatternList → List TypePattern,
      (∀ list, List.Forall₂ Reads (d.texts list) (ps list)) ∧ c' = c.merged d ps := by
  unfold merge
  dsimp only [List.foldl]
  constructor
  · intro merged
    split at merged
    next c₄ all =>
      obtain ⟨c₃, external, three, externalRead, rfl⟩ := goes_on_iff.mp all
      obtain ⟨c₂, value, two, valueRead, rfl⟩ := goes_on_iff.mp three
      obtain ⟨c₁, excluded, one, excludedRead, rfl⟩ := goes_on_iff.mp two
      obtain ⟨included, includedRead, rfl⟩ := addPatterns_eq_none_iff.mp one
      cases merged
      refine ⟨fun
        | .includes => included
        | .excludes => excluded
        | .valueTypes => value
        | .externalTypes => external, ?_, ?_⟩
      · rintro (_ | _ | _ | _)
        · exact includedRead
        · exact excludedRead
        · exact valueRead
        · exact externalRead
      · simp only [extended, Configuration.merged, Option.orElse_eq_or, Option.orElse_eq_orElse]
    next stopped other =>
      exact absurd merged (other _)
  · rintro ⟨ps, reads, rfl⟩
    have added (c : Configuration) (list : PatternList) :
        c.addPatterns list (d.texts list) = (c.extended list (ps list), none) :=
      addPatterns_eq_none_iff.mpr ⟨ps list, reads list, rfl⟩
    have included (c : Configuration) := added c .includes
    have excluded (c : Configuration) := added c .excludes
    have value (c : Configuration) := added c .valueTypes
    have external (c : Configuration) := added c .externalTypes
    dsimp only [ConfigDocument.texts] at included excluded value external
    simp only [included, excluded, value, external]
    simp only [extended, merged, Option.orElse_eq_or, Option.orElse_eq_orElse]

theorem patterns_merged (c : Configuration) (d : ConfigDocument)
    (ps : PatternList → List TypePattern) (list : PatternList) :
    (c.merged d ps).patterns list = c.patterns list ++ ps list := by
  cases list <;> rfl

theorem table_merged (c : Configuration) (d : ConfigDocument)
    (ps : PatternList → List TypePattern) (table : TableKind) :
    (c.merged d ps).table table = (c.table table).insertAll (d.entries table) := by
  cases table <;> rfl

/-! ### Loading documents -/

theorem gathers_nil : ({} : Configuration).Gathers [] where
  patterns list := by cases list <;> exact .nil
  tables table _ name := by cases table <;> rfl
  outputSubpath := rfl
  policy _ := rfl

/-- One document more is gathered with the others. -/
theorem Gathers.merge (gathers : c.Gathers docs) (merged : c.merge d = (c', none)) :
    c'.Gathers (docs ++ [d]) := by
  obtain ⟨ps, reads, rfl⟩ := merge_eq_none_iff.mp merged
  constructor
  case patterns =>
    intro list
    rw [patterns_merged, List.flatMap_append, List.flatMap_singleton]
    exact List.rel_append (gathers.patterns list) (reads list)
  case tables =>
    intro table once name
    obtain ⟨once, last⟩ := List.forall_mem_append.mp once
    rw [table_merged, NameTable.get?_insertAll (last d (List.mem_singleton_self d)),
      gathers.tables table once, lastGiven_concat]
  case outputSubpath =>
    rw [lastGiven_concat, ← gathers.outputSubpath]
    rfl
  case policy =>
    intro key
    rw [lastGiven_concat, Option.getD_or, ← gathers.policy]
    exact PolicyChanges.list_apply ..

/-- A text is loaded if it is a document that can be merged. -/
theorem loadText_eq_none_iff {path text : String} : c.loadText path text = (c', none) ↔
    ∃ d, ConfigDocument.ofText? text = some d ∧ c.merge d = (c', none) := by
  unfold loadText
  cases ConfigDocument.ofText? text <;> simp

theorem Loads.of_none {text : String} {texts : List String} (path : String)
    (loaded : (c.loadText path text).2 = none) (rest : Loads (c.loadText path text).1 texts c') :
    Loads c (text :: texts) c' :=
  .cons path (Prod.ext rfl loaded) rest

/-- The documents that the texts are. -/
def documents (texts : List String) : List ConfigDocument :=
  texts.filterMap ConfigDocument.ofText?

/-- All documents that are loaded are gathered behind those before them. -/
theorem Loads.gathers {texts : List String} (loads : Loads c texts c') (gathers : c.Gathers docs) :
    c'.Gathers (docs ++ documents texts) := by
  induction loads generalizing docs with
  | nil => simpa [documents] using gathers
  | cons _ loaded _ ih =>
    obtain ⟨d, read, merged⟩ := loadText_eq_none_iff.mp loaded
    have rest := ih (gathers.merge merged)
    rw [List.append_assoc, List.singleton_append] at rest
    rwa [documents, List.filterMap_cons_some read]

/-! ### Which documents are loaded -/

/-- Whether all texts of a document are patterns. -/
def Mergeable (d : ConfigDocument) : Prop :=
  ∀ list, ∀ text ∈ d.texts list, ∃ p, Reads text p

theorem exists_forall₂_reads_iff {texts : List String} :
    (∃ ps, List.Forall₂ Reads texts ps) ↔ ∀ text ∈ texts, ∃ p, Reads text p := by
  induction texts with
  | nil => simp
  | cons text texts ih =>
    rw [List.forall_mem_cons, ← ih]
    constructor
    · rintro ⟨_, _ | @⟨_, p, _, ps, reads, all⟩⟩
      exact ⟨⟨p, reads⟩, ps, all⟩
    · rintro ⟨⟨p, reads⟩, ps, all⟩
      exact ⟨p :: ps, .cons reads all⟩

theorem exists_merge_iff : (∃ c', c.merge d = (c', none)) ↔ Mergeable d := by
  simp only [Mergeable, ← exists_forall₂_reads_iff, merge_eq_none_iff]
  constructor
  · rintro ⟨_, ps, reads, rfl⟩ list
    exact ⟨ps list, reads list⟩
  · intro all
    choose ps reads using all
    exact ⟨_, ps, reads, rfl⟩

/-- Whether all texts are loaded is a matter of each text by itself. -/
theorem exists_loads_iff {texts : List String} : (∃ c', Loads c texts c') ↔
    ∀ text ∈ texts, ∃ d, ConfigDocument.ofText? text = some d ∧ Mergeable d := by
  induction texts generalizing c with
  | nil => exact ⟨fun _ => nofun, fun _ => ⟨c, .nil⟩⟩
  | cons text texts ih =>
    rw [List.forall_mem_cons]
    constructor
    · rintro ⟨c', _ | ⟨_, loaded, rest⟩⟩
      obtain ⟨d, read, merged⟩ := loadText_eq_none_iff.mp loaded
      exact ⟨⟨d, read, exists_merge_iff.mp ⟨_, merged⟩⟩, ih.mp ⟨c', rest⟩⟩
    · rintro ⟨⟨d, read, mergeable⟩, others⟩
      obtain ⟨c₁, merged⟩ := exists_merge_iff.mpr mergeable
      obtain ⟨c', rest⟩ := ih.mpr others
      exact ⟨c', .cons "" (loadText_eq_none_iff.mpr ⟨d, read, merged⟩) rest⟩

/-- Every text that is loaded is one of the documents. -/
theorem Loads.read {texts : List String} (loads : Loads c texts c') :
    List.Forall₂ (fun text d => ConfigDocument.ofText? text = some d) texts (documents texts) := by
  induction loads with
  | nil => exact .nil
  | cons _ loaded _ ih =>
    obtain ⟨d, read, -⟩ := loadText_eq_none_iff.mp loaded
    rw [documents, List.filterMap_cons_some read]
    exact .cons read ih

/-! ### Answers -/

/-- The text is a pattern that matches the name. -/
def Matches (text name : String) : Prop :=
  ∃ p, Reads text p ∧ p.isMatch name = true

theorem anyMatch_iff {texts : List String} {ps : List TypePattern}
    (reads : List.Forall₂ Reads texts ps) (name : String) :
    anyMatch ps name = true ↔ ∃ text ∈ texts, Matches text name := by
  induction reads with
  | nil => simp [anyMatch]
  | @cons text p texts ps first _ ih =>
    have here : Matches text name ↔ p.isMatch name = true := by
      constructor
      · rintro ⟨p', reads, found⟩
        cases reads.symm.trans first
        exact found
      · exact fun found => ⟨p, first, found⟩
    rw [anyMatch, List.any_cons, Bool.or_eq_true, ← anyMatch, ih]
    simp only [List.mem_cons, exists_eq_or_imp, here]

/-- A list matches a name if a pattern of a document does. -/
theorem Gathers.anyMatch_iff (gathers : c.Gathers docs) (list : PatternList) (name : String) :
    anyMatch (c.patterns list) name = true ↔
      ∃ d ∈ docs, ∃ text ∈ d.texts list, Matches text name := by
  rw [Configuration.anyMatch_iff (gathers.patterns list)]
  simp only [List.mem_flatMap]
  constructor
  · rintro ⟨text, ⟨d, mem, mem'⟩, found⟩
    exact ⟨d, mem, text, mem', found⟩
  · rintro ⟨d, mem, text, mem', found⟩
    exact ⟨text, ⟨d, mem, mem'⟩, found⟩

/-- The order of the documents has no part in what the patterns match. -/
theorem Gathers.anyMatch_of_perm {docs' : List ConfigDocument} (gathers : c.Gathers docs)
    (gathers' : c'.Gathers docs') (perm : docs'.Perm docs) (list : PatternList) (name : String) :
    anyMatch (c'.patterns list) name = anyMatch (c.patterns list) name := by
  rw [Bool.eq_iff_iff, gathers.anyMatch_iff, gathers'.anyMatch_iff]
  simp only [perm.mem_iff]

/-- The configurations answer everything alike. -/
structure AnswersLike (c c' : Configuration) : Prop where
  eligibility : ∀ name, c.eligibilityOverride? name = c'.eligibilityOverride? name
  isValueType : ∀ name, c.isValueType name = c'.isValueType name
  isExternalType : ∀ name, c.isExternalType name = c'.isExternalType name
  customReflector : ∀ name, c.customReflector? name = c'.customReflector? name
  outputName : ∀ name, c.outputName? name = c'.outputName? name
  outputSubpath : c.outputSubpath = c'.outputSubpath
  propertyPolicy : c.propertyPolicy = c'.propertyPolicy
  includes : c.includes.map TypePattern.text = c'.includes.map TypePattern.text
  excludes : c.excludes.map TypePattern.text = c'.excludes.map TypePattern.text

theorem Gathers.patterns_eq (gathers : c.Gathers docs) (gathers' : c'.Gathers docs)
    (list : PatternList) : c.patterns list = c'.patterns list := by
  refine List.right_unique_forall₂' ?_ (gathers.patterns list) (gathers'.patterns list)
  intro text p p' reads reads'
  exact Except.ok.inj (reads.symm.trans reads')

/-- What a configuration has gathered decides about everything that it answers. -/
theorem Gathers.answersLike (gathers : c.Gathers docs) (gathers' : c'.Gathers docs)
    (once : ∀ d ∈ docs, ∀ table, NameTable.NamedOnce (d.entries table)) : c.AnswersLike c' := by
  have includes : c.includes = c'.includes := gathers.patterns_eq gathers' .includes
  have excludes : c.excludes = c'.excludes := gathers.patterns_eq gathers' .excludes
  have valueTypes : c.valueTypes = c'.valueTypes := gathers.patterns_eq gathers' .valueTypes
  have externalTypes : c.externalTypes = c'.externalTypes :=
    gathers.patterns_eq gathers' .externalTypes
  have text (table : TableKind) (name : String) :
      (c.table table).get? name = (c'.table table).get? name := by
    have once' := fun d mem => once d mem table
    rw [gathers.tables table once', gathers'.tables table once']
  have policy : c.propertyPolicy = c'.propertyPolicy :=
    PropertyPolicy.ext_list fun key => by rw [gathers.policy, gathers'.policy]
  constructor
  case eligibility => simp [eligibilityOverride?, includes, excludes]
  case isValueType => simp [isValueType, valueTypes]
  case isExternalType => simp [isExternalType, externalTypes]
  case customReflector => exact text .customReflectors
  case outputName => exact text .namingOverrides
  case outputSubpath =>
    rw [Configuration.outputSubpath, Configuration.outputSubpath, gathers.outputSubpath,
      gathers'.outputSubpath]
  case propertyPolicy => exact policy
  case includes => rw [includes]
  case excludes => rw [excludes]

/-- **Documents answer for the configuration.** A new configuration that has loaded texts
without an error has gathered the documents that they are: all their patterns in their order,
and for every type in a table, for the output path and for every list of the property policy
what the last document says that says anything, or else the default. If no document names a
type twice in one table, that decides about every answer: any configuration that has gathered
these documents answers like it. The texts can be loaded in every order, with the same answers
as to which types are reflected, are values, or are known; and a type that a document includes
is reflected, whatever the documents exclude. -/
theorem answers_from_documents {texts : List String} {c : Configuration}
    (loads : Loads {} texts c) :
    let docs := documents texts
    List.Forall₂ (fun text d => ConfigDocument.ofText? text = some d) texts docs ∧
    c.Gathers docs ∧
    ((∀ d ∈ docs, ∀ table, NameTable.NamedOnce (d.entries table)) →
      ∀ c' : Configuration, c'.Gathers docs → c.AnswersLike c') ∧
    (∀ texts' : List String, texts'.Perm texts →
      (∃ c', Loads {} texts' c') ∧ ∀ c', Loads {} texts' c' → ∀ name,
        c'.eligibilityOverride? name = c.eligibilityOverride? name ∧
        c'.isValueType name = c.isValueType name ∧
        c'.isExternalType name = c.isExternalType name) ∧
    ∀ d ∈ docs, ∀ text ∈ d.includes, ∀ name, Matches text name →
      c.eligibilityOverride? name = some true := by
  intro docs
  have gathers : c.Gathers docs := loads.gathers gathers_nil
  refine ⟨loads.read, gathers, fun once c' gathers' => gathers.answersLike gathers' once,
    fun texts' perm => ⟨?_, fun c' loads' name => ?_⟩, fun d mem text mem' name found => ?_⟩
  · refine exists_loads_iff.mpr fun text mem => ?_
    exact exists_loads_iff.mp ⟨c, loads⟩ text (perm.mem_iff.mp mem)
  · have gathers' : c'.Gathers (documents texts') := loads'.gathers gathers_nil
    have alike (list : PatternList) :
        anyMatch (c'.patterns list) name = anyMatch (c.patterns list) name :=
      gathers.anyMatch_of_perm gathers' (perm.filterMap _) list name
    refine ⟨?_, alike .valueTypes, alike .externalTypes⟩
    unfold eligibilityOverride?
    rw [show anyMatch c'.includes name = anyMatch c.includes name from alike .includes,
      show anyMatch c'.excludes name = anyMatch c.excludes name from alike .excludes]
  · have included : anyMatch c.includes name = true :=
      (gathers.anyMatch_iff .includes name).mpr ⟨d, mem, text, mem', found⟩
    rw [eligibilityOverride?, if_pos included]

/-- A second document includes a type that the first one excludes, and renames its unit. -/
theorem answers_from_documents_renamed :
    let first := "exclude = [\"B\"]\nnaming_overrides.\"B \" = \"C\""
    let second := "include = [\"[A-Z]\"]\nnaming_overrides.B = \"D\""
    ∃ c, Loads {} [first, second] c ∧
      (∀ c' : Configuration, c'.Gathers (documents [first, second]) → c.AnswersLike c') ∧
      c.eligibilityOverride? "B" = some true ∧ c.outputName? "B" = some "D" := by
  intro first second
  have loads : Loads {} [first, second] ((loadText {} "" first).1.loadText "" second).1 :=
    .of_none "" (by decide +kernel) (.of_none "" (by decide +kernel) .nil)
  have once : ∀ d ∈ documents [first, second],
      (d.customReflectors.map fun e => Spelling.normalize e.1).Nodup ∧
        (d.namingOverrides.map fun e => Spelling.normalize e.1).Nodup := by
    decide +kernel
  refine ⟨_, loads, (answers_from_documents loads).2.2.1 ?_, ?_, ?_⟩
  · rintro d mem (_ | _)
    · exact (once d mem).1
    · exact (once d mem).2
  all_goals decide +kernel

end Configuration

end Reflectory
