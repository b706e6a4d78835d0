/-
Aliases in the order of use.

A unit spells its types one after another. A type without commas is spelled as it is; a type
with commas is spelled by the alias that it has, and gets one where it has none: the first
candidate for its name that is no alias yet. Here this is said by rules for one use after
another, with the search for a candidate as a loop of its own. The loop ends, because each
alias takes one candidate at most and the candidates do not run out; and an alias is never
taken back, so what a type was spelled by at first is what the finished unit spells it by.

* `AliasTable.uses_iff`: the rules lead to the spellings of the finished unit, and nowhere else.
* `AliasTable.aliases_in_turn`: what is spelled, and what the finished unit declares.
-/

import Reflectory.Proofs.Generation.MacroArguments
import Reflectory.Proofs.Generation.Stems

namespace Reflectory

/-! ### Searching a name -/

namespace Text

variable {isTaken : String → Bool} {base name name' : String} {n : Nat}

/-- Trying the candidates for a name one after another, from the `n`-th on, ends with this
one. -/
inductive Search (isTaken : String → Bool) (base : String) : Nat → String → Prop where
  | free {n : Nat} : isTaken (numbered base n) = false → Search isTaken base n (numbered base n)
  | taken {n : Nat} {name : String} : isTaken (numbered base n) = true →
      Search isTaken base (n + 1) name → Search isTaken base n name

theorem Search.unique (search : Search isTaken base n name)
    (search' : Search isTaken base n name') : name = name' := by
  induction search with
  | free free =>
    cases search' with
    | free => rfl
    | taken taken => exact absurd (free.symm.trans taken) Bool.false_ne_true
  | taken taken _ ih =>
    cases search' with
    | free free => exact absurd (free.symm.trans taken) Bool.false_ne_true
    | taken _ rest => exact ih rest

/-- The search passes what is taken and ends where it comes to the first candidate that is
free. -/
theorem search_of_free (free : isTaken (numbered base n) = false)
    (taken : ∀ m < n, isTaken (numbered base m) = true) {start tries : Nat}
    (sum : start + tries = n) : Search isTaken base start (numbered base n) := by
  induction tries generalizing start with
  | zero =>
    obtain rfl : start = n := sum
    exact .free free
  | succ tries ih =>
    apply Search.taken
    · exact taken start (by omega)
    · exact ih (by omega)

/-- Where candidates are left, the search ends with the name that is chosen. -/
theorem search_firstFree {count : Nat} (few : ∃ n ≤ count, isTaken (numbered base n) = false) :
    Search isTaken base 0 (firstFree isTaken base count) := by
  have free := isTaken_firstFree few
  obtain ⟨n, -, chosen, taken⟩ := exists_firstFree_eq isTaken base count
  rw [chosen] at free ⊢
  exact search_of_free free taken (Nat.zero_add n)

end Text

namespace AliasTable

open Text

variable {t t' : AliasTable} {type name text : String} {types texts : List String}

/-! ### Rules -/

/-- One type is used: what it is spelled by, and the table afterwards. -/
inductive Use (t : AliasTable) (type : String) : String → AliasTable → Prop where
  /-- Without commas, the type stands for itself. -/
  | plain : ',' ∉ type.toList → Use t type type t
  /-- A type with an alias is spelled by it. -/
  | named {name : String} : ',' ∈ type.toList → t.nameOf? type = some name → Use t type name t
  /-- Another one gets the first candidate for its name that is no alias yet. -/
  | fresh {name : String} : ',' ∈ type.toList → t.nameOf? type = none →
      Search t.isTaken (Spelling.fileStem type) 0 name → Use t type name (t ++ [⟨type, name⟩])

/-- Types are used one after another: what they are spelled by, and the table afterwards. -/
inductive Uses : AliasTable → List String → List String → AliasTable → Prop where
  | nil {t : AliasTable} : Uses t [] [] t
  | cons {t t' t'' : AliasTable} {type text : String} {types texts : List String} :
      Use t type text t' → Uses t' types texts t'' → Uses t (type :: types) (text :: texts) t''

/-! ### One use -/

theorem add_of_plain (plain : ',' ∉ type.toList) : t.add type = t := by
  simp [add, needsAlias, plain]

theorem add_of_named (named : t.nameOf? type = some name) : t.add type = t := by
  simp [add, named]

theorem add_of_unnamed (comma : ',' ∈ type.toList) (unnamed : t.nameOf? type = none) :
    t.add type = t ++ [⟨type, firstFree t.isTaken (Spelling.fileStem type) t.length⟩] := by
  simp [add, needsAlias, comma, unnamed]

theorem spell_of_plain (plain : ',' ∉ type.toList) : t.spell type = type := by
  simp [spell, needsAlias, plain]

theorem spell_of_named (comma : ',' ∈ type.toList) (named : t.nameOf? type = some name) :
    t.spell type = name := by
  simp [spell, needsAlias, comma, named]

/-- The new entry of a type without an alias is found. -/
theorem nameOf?_concat (unnamed : t.nameOf? type = none) :
    AliasTable.nameOf? (t ++ [⟨type, name⟩]) type = some name := by
  rw [nameOf?_append, unnamed]
  simp [nameOf?]

/-- The search for an alias ends with the one that is added. -/
theorem search_added (t : AliasTable) (base : String) :
    Search t.isTaken base 0 (firstFree t.isTaken base t.length) :=
  search_firstFree (t.exists_free base)

/-- A use has one outcome: the type is added, and spelled by what it has then. -/
theorem use_iff : t.Use type text t' ↔ text = (t.add type).spell type ∧ t' = t.add type := by
  constructor
  · intro use
    cases use with
    | plain plain => rw [add_of_plain plain, spell_of_plain plain]; exact ⟨rfl, rfl⟩
    | named comma named => rw [add_of_named named, spell_of_named comma named]; exact ⟨rfl, rfl⟩
    | fresh comma unnamed search =>
      rw [add_of_unnamed comma unnamed, search.unique (search_added t _),
        spell_of_named comma (nameOf?_concat unnamed)]
      exact ⟨rfl, rfl⟩
  · rintro ⟨rfl, rfl⟩
    by_cases comma : ',' ∈ type.toList
    · cases named : t.nameOf? type with
      | some name =>
        rw [add_of_named named, spell_of_named comma named]
        exact .named comma named
      | none =>
        rw [add_of_unnamed comma named, spell_of_named comma (nameOf?_concat named)]
        exact .fresh comma named (search_added t _)
    · rw [add_of_plain comma, spell_of_plain comma]
      exact .plain comma

/-! ### All uses -/

/-- Aliases are not taken back. -/
theorem nameOf?_add (named : t.nameOf? type = some name) (other : String) :
    (t.add other).nameOf? type = some name := by
  unfold add
  split_ifs
  · rw [nameOf?_append, named, Option.some_or]
  · exact named

theorem nameOf?_foldl (named : t.nameOf? type = some name) (more : List String) :
    (more.foldl add t).nameOf? type = some name := by
  induction more generalizing t with
  | nil => exact named
  | cons other more ih => exact ih (nameOf?_add named other)

theorem exists_nameOf?_add (comma : ',' ∈ type.toList) :
    ∃ name, (t.add type).nameOf? type = some name := by
  cases named : t.nameOf? type with
  | some name => exact ⟨name, nameOf?_add named type⟩
  | none =>
    rw [add_of_unnamed comma named]
    exact ⟨_, nameOf?_concat named⟩

/-- A type keeps the spelling that it was given first. -/
theorem spell_foldl (t : AliasTable) (type : String) (more : List String) :
    (more.foldl add (t.add type)).spell type = (t.add type).spell type := by
  by_cases comma : ',' ∈ type.toList
  · obtain ⟨name, named⟩ := exists_nameOf?_add (t := t) comma
    rw [spell_of_named comma named, spell_of_named comma (nameOf?_foldl named more)]
  · rw [spell_of_plain comma, spell_of_plain comma]

/-- Uses have one outcome: every type is spelled as the table at the end spells it. -/
theorem uses_iff : Uses t types texts t' ↔
    texts = types.map (types.foldl add t).spell ∧ t' = types.foldl add t := by
  induction types generalizing t texts with
  | nil =>
    constructor
    · rintro ⟨⟩
      exact ⟨rfl, rfl⟩
    · rintro ⟨rfl, rfl⟩
      exact .nil
  | cons type types ih =>
    rw [List.map_cons, List.foldl_cons, spell_foldl]
    constructor
    · intro uses
      cases uses with
      | cons use uses =>
        obtain ⟨rfl, rfl⟩ := use_iff.mp use
        obtain ⟨rfl, rfl⟩ := ih.mp uses
        exact ⟨rfl, rfl⟩
    · rintro ⟨rfl, rfl⟩
      exact .cons (use_iff.mpr ⟨rfl, rfl⟩) (ih.mpr ⟨rfl, rfl⟩)

/-! ### The finished table -/

/-- The types with commas, each once, in the order in which they are first used. -/
def firstUses (types : List String) : List String :=
  (types.filter fun type => ',' ∈ type.toList).eraseDups

theorem nameOf?_eq_none_iff : t.nameOf? type = none ↔ type ∉ t.map Alias.type := by
  simp [nameOf?]

theorem types_add : (t.add type).map Alias.type =
    t.map Alias.type ++ if ',' ∈ type.toList ∧ type ∉ t.map Alias.type then [type] else [] := by
  by_cases comma : ',' ∈ type.toList
  · cases named : t.nameOf? type with
    | some name =>
      have known : type ∈ t.map Alias.type := by
        by_contra unknown
        rw [nameOf?_eq_none_iff.mpr unknown] at named
        cases named
      rw [add_of_named named, if_neg fun new => new.2 known, List.append_nil]
    | none =>
      rw [add_of_unnamed comma named, if_pos ⟨comma, nameOf?_eq_none_iff.mp named⟩,
        List.map_append]
      rfl
  · rw [add_of_plain comma, if_neg fun new => comma new.1, List.append_nil]

theorem mem_firstUses : type ∈ firstUses types ↔ type ∈ types ∧ ',' ∈ type.toList := by
  simp [firstUses]

theorem firstUses_concat (types : List String) (type : String) :
    firstUses (types ++ [type]) =
      firstUses types ++ if ',' ∈ type.toList ∧ type ∉ firstUses types then [type] else [] := by
  by_cases comma : ',' ∈ type.toList
  · by_cases used : type ∈ types
    · rw [if_neg fun new => new.2 (mem_firstUses.mpr ⟨used, comma⟩)]
      simp [firstUses, List.eraseDups_append, List.removeAll, comma, used]
    · rw [if_pos ⟨comma, fun first => used (mem_firstUses.mp first).1⟩]
      simp [firstUses, List.eraseDups_append, List.removeAll, List.eraseDups_cons, comma, used]
  · rw [if_neg fun new => comma new.1]
    simp [firstUses, comma]

theorem nodup_firstUses (types : List String) : (firstUses types).Nodup := by
  induction types using List.reverseRecOn with
  | nil => exact List.nodup_nil
  | append_singleton types type ih =>
    rw [firstUses_concat]
    split_ifs with new
    · exact ih.append (List.nodup_singleton type) (by simpa using new.2)
    · rwa [List.append_nil]

/-- The table has an entry for each type with commas, in the order of first uses. -/
theorem types_ofTypes (types : List String) :
    (ofTypes types).map Alias.type = firstUses types := by
  induction types using List.reverseRecOn with
  | nil => rfl
  | append_singleton types type ih =>
    have last : ofTypes (types ++ [type]) = (ofTypes types).add type := List.foldl_concat ..
    rw [last, types_add, ih, firstUses_concat]

/-- Every entry is how its type is spelled. -/
theorem ofTypes_eq (types : List String) :
    ofTypes types = (firstUses types).map fun type => ⟨type, (ofTypes types).spell type⟩ := by
  have distinct : ((ofTypes types).map Alias.type).Nodup := by
    rw [types_ofTypes]
    exact nodup_firstUses types
  have spelled : ∀ a ∈ ofTypes types, ⟨a.type, (ofTypes types).spell a.type⟩ = a := by
    intro a mem
    have first : a.type ∈ firstUses types := by
      rw [← types_ofTypes]
      exact List.mem_map_of_mem mem
    obtain ⟨used, comma⟩ := mem_firstUses.mp first
    have there := (spells_ofTypes used).declared comma
    exact List.inj_on_of_nodup_map distinct there mem rfl
  rw [← types_ofTypes, List.map_map]
  conv_lhs => rw [← List.map_id (ofTypes types)]
  exact List.map_congr_left fun a mem => (spelled a mem).symm

/-- Different types with commas are spelled differently. -/
theorem eq_of_spell_eq {type' : String} (used : type ∈ types) (used' : type' ∈ types)
    (comma : ',' ∈ type.toList) (comma' : ',' ∈ type'.toList)
    (same : (ofTypes types).spell type = (ofTypes types).spell type') : type = type' := by
  have there := (spells_ofTypes used).declared comma
  have there' := (spells_ofTypes used').declared comma'
  have entries := List.inj_on_of_nodup_map (names_ofTypes types).distinct there there' same
  exact congrArg Alias.type entries

theorem names_eq (types : List String) :
    (ofTypes types).map Alias.name = (firstUses types).map (ofTypes types).spell := by
  conv_lhs => rw [ofTypes_eq types, List.map_map]
  rfl

/-- The declarations of a unit that has the table: one for each first use. -/
theorem aliasLines_ofTypes (types : List String) :
    SourceUnit.aliasLines (ofTypes types) =
      let typedefs := (firstUses types).map fun type =>
        "typedef " ++ type ++ " " ++ (ofTypes types).spell type ++ ";"
      if typedefs = [] then [] else typedefs ++ [""] := by
  have lines : (ofTypes types).map (fun a => "typedef " ++ a.type ++ " " ++ a.name ++ ";") =
      (firstUses types).map fun type =>
        "typedef " ++ type ++ " " ++ (ofTypes types).spell type ++ ";" := by
    conv_lhs => rw [ofTypes_eq types, List.map_map]
    rfl
  rw [SourceUnit.aliasLines, lines]
  simp [← types_ofTypes]

/-- **Aliases in turn.** Using types one after another, beginning with no aliases, comes to an
end, and to one only: each type is spelled as the finished unit spells it, so equal types are
spelled alike. No spelling has a comma, a type without commas is spelled as it is, and
different types with commas are spelled differently. The finished unit has one line for each
type with commas, in the order of first uses, that declares the spelling of the type, and all
these spellings are different. -/
theorem aliases_in_turn (types : List String) :
    let table := ofTypes types
    let typedefs := (firstUses types).map fun type =>
      "typedef " ++ type ++ " " ++ table.spell type ++ ";"
    (∀ texts t, Uses [] types texts t ↔ texts = types.map table.spell ∧ t = table) ∧
      (∀ type ∈ types, ',' ∉ (table.spell type).toList ∧
        (',' ∉ type.toList → table.spell type = type)) ∧
      (∀ type ∈ types, ∀ type' ∈ types, ',' ∈ type.toList → ',' ∈ type'.toList →
        type ≠ type' → table.spell type ≠ table.spell type') ∧
      ((firstUses types).map table.spell).Nodup ∧
      ∀ unit : SourceUnit, unit.aliases = table →
        unit.render = unlines (SourceUnit.banner ++
          unit.headers.map (fun h => "#include <" ++ h ++ ">") ++ [""] ++
          SourceUnit.directionGuard ++ (if typedefs = [] then [] else typedefs ++ [""]) ++
          unit.reflector.lines table.spell) := by
  intro table typedefs
  refine ⟨fun texts t => uses_iff, fun type used => ?_, ?_, ?_, ?_⟩
  · have spells := spells_ofTypes used
    exact ⟨spells.no_comma, spells.kept⟩
  · intro type used type' used' comma comma' other same
    exact other (eq_of_spell_eq used used' comma comma' same)
  · rw [← names_eq]
    exact (names_ofTypes types).distinct
  · rintro ⟨headers, _, reflector⟩ rfl
    rw [SourceUnit.render, aliasLines_ofTypes]

/-- Two types share a stem, and the stem of a third one is what the second is left with. -/
theorem aliases_in_turn_maps :
    let types := ["std::map< a_b, c >", "std::map< a::b, c >", "int", "std::map< a_b, c_2 >",
      "std::map< a_b, c >"]
    ∃ t, Uses [] types ["std_map_a_b_c", "std_map_a_b_c_2", "int", "std_map_a_b_c_2_2",
        "std_map_a_b_c"] t ∧ t.length = 3 ∧
      t.spell "std::map< a_b, c_2 >" ≠ t.spell "std::map< a::b, c >" := by
  intro types
  obtain ⟨outcome, -, apart, -⟩ := aliases_in_turn types
  refine ⟨ofTypes types, (outcome _ _).mpr ⟨?_, rfl⟩, ?_, ?_⟩
  · decide +kernel
  · decide +kernel
  · exact apart _ (by decide) _ (by decide) (by decide) (by decide) (by decide)

end AliasTable

end Reflectory
