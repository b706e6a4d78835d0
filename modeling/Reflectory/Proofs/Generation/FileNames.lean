/-
The names of the files that a run produces.

A stem that is taken in any case of letters is numbered, and the numbered stems
differ from each other in any case of letters; so one of them is free, and no two
types share a file. The manifest and the makefile have other ends than a unit.

* `nodup_products`: no two products have the same name.
* `isFileName_of_mem_products`: the names of products are names of files in one
  directory, if the configuration names no other directory.
-/

import Reflectory.Generation.Basic
import Reflectory.Proofs.FileTree.Places
import Reflectory.Proofs.Registry.Construction

namespace Reflectory

/-! ### Letters and numbers -/

namespace Text

/-- A low line ends a word. -/
theorem wordGoesOn_append (cs ds : List Char) : wordGoesOn (cs ++ '_' :: ds) = wordGoesOn cs := by
  have ignorable : isCaseIgnorable '_' = false := by decide +kernel
  have cased : isCased '_' = false := by decide +kernel
  unfold wordGoesOn
  rw [List.dropWhile_append]
  cases rest : cs.dropWhile isCaseIgnorable with
  | nil => simp [ignorable, cased]
  | cons c rest => simp

/-- What stands before a low line is written in lower case by itself. -/
theorem lowercaseAfter_append (before cs ds : List Char) :
    lowercaseAfter before (cs ++ '_' :: ds) =
      lowercaseAfter before cs ++ lowercaseAfter (cs.reverse ++ before) ('_' :: ds) := by
  induction cs generalizing before with
  | nil => rfl
  | cons c cs ih =>
    rw [List.cons_append, lowercaseAfter, ih, wordGoesOn_append, List.reverse_cons,
      List.append_assoc, List.singleton_append, ← List.append_assoc]
    rfl

theorem lowercaseChar_of_isDigit {c : Char} (digit : c.isDigit) : lowercaseChar c = [c] := by
  have range : 48 ≤ c.toNat ∧ c.toNat ≤ 57 := by
    simpa [Char.isDigit, UInt32.le_iff_toNat_le] using digit
  have same : c.toLower = c := by
    unfold Char.toLower
    rw [dif_neg]
    intro upper
    have : 65 ≤ c.toNat := by simpa [UInt32.le_iff_toNat_le] using upper.1
    omega
  rw [lowercaseChar, if_pos (by omega), same]

/-- Digits have no other lower case. -/
theorem lowercaseAfter_digits {ds : List Char} (digits : ∀ d ∈ ds, d.isDigit) (before : List Char) :
    lowercaseAfter before ds = ds := by
  induction ds generalizing before with
  | nil => rfl
  | cons d ds ih =>
    obtain ⟨digit, digits⟩ := List.forall_mem_cons.mp digits
    have sigma : d ≠ 'Σ' := by
      rintro rfl
      exact absurd digit (by decide)
    rw [lowercaseAfter, if_neg sigma, lowercaseChar_of_isDigit digit, ih digits,
      List.singleton_append]

/-- The characters that a candidate adds to the name. -/
def numberSuffix : Nat → List Char
  | 0 => []
  | n + 1 => '_' :: Nat.toDigits 10 (n + 2)

theorem toList_numbered (base : String) (n : Nat) :
    (numbered base n).toList = base.toList ++ numberSuffix n := by
  cases n with
  | zero => simp [numbered, numberSuffix]
  | succ n => simp [numbered, numberSuffix]

theorem numberSuffix_injective : Function.Injective numberSuffix := by
  intro m n same
  match m, n, same with
  | 0, 0, _ => rfl
  | m + 1, n + 1, same =>
    have digits : Nat.toDigits 10 (m + 2) = Nat.toDigits 10 (n + 2) := (List.cons.inj same).2
    have numbers := congrArg (Nat.ofDigitChars 10 · 0) digits
    simpa using numbers

/-- A number is written behind the lower case of the name. -/
theorem lowercase_numbered (base : String) (n : Nat) :
    lowercase (numbered base n).toList = lowercase base.toList ++ numberSuffix n := by
  rw [toList_numbered]
  cases n with
  | zero => rw [numberSuffix, List.append_nil, List.append_nil]
  | succ n =>
    have digits : ∀ d ∈ Nat.toDigits 10 (n + 2), d.isDigit := fun d mem =>
      Nat.isDigit_of_mem_toDigits (by decide) (by decide) mem
    have low_line : lowercaseChar '_' = ['_'] := by decide
    rw [numberSuffix, lowercase, lowercaseAfter_append, lowercaseAfter,
      if_neg (by decide), low_line, lowercaseAfter_digits digits]
    rfl

/-- The candidates differ in any case of letters. -/
theorem lowercase_numbered_injective (base : String) :
    Function.Injective fun n => lowercase (numbered base n).toList := by
  intro m n same
  simp only [lowercase_numbered] at same
  exact numberSuffix_injective (List.append_cancel_left same)

theorem numbered_injective (base : String) : Function.Injective (numbered base) := by
  intro m n same
  have characters := congrArg String.toList same
  rw [toList_numbered, toList_numbered] at characters
  exact numberSuffix_injective (List.append_cancel_left characters)

/-- A sorted list of texts depends on no order. -/
theorem mergeSort_congr {texts texts' : List String} (perm : texts.Perm texts') :
    (texts.mergeSort fun a b => a ≤ b) = texts'.mergeSort fun a b => a ≤ b := by
  have sorted := List.pairwise_mergeSort' (fun a b : String => a ≤ b)
  refine List.Perm.eq_of_pairwise' (sorted texts) (sorted texts') ?_
  exact (List.mergeSort_perm _ _).trans (perm.trans (List.mergeSort_perm _ _).symm)

/-- Of more candidates than are taken, one is free. -/
theorem exists_not_taken {α : Type} (taken : List α) {candidate : Nat → α}
    (injective : Function.Injective candidate) : ∃ n ≤ taken.length, candidate n ∉ taken := by
  by_contra! all_taken
  let candidates := (List.range (taken.length + 1)).map candidate
  have distinct : candidates.Nodup := List.nodup_range.map injective
  have subset : candidates ⊆ taken := by
    intro name mem
    obtain ⟨n, below, rfl⟩ := List.mem_map.mp mem
    exact all_taken n (Nat.le_of_lt_succ (List.mem_range.mp below))
  have fits := distinct.length_le_of_subset subset
  simp [candidates] at fits

/-- Where no more candidates are taken than there are to try, one is found that is not
taken. -/
theorem isTaken_firstFree {isTaken : String → Bool} {base : String} {count : Nat}
    (few : ∃ n ≤ count, isTaken (numbered base n) = false) :
    isTaken (firstFree isTaken base count) = false := by
  unfold firstFree
  cases found : ((List.range count).map (numbered base)).find? fun s => !isTaken s with
  | some s => simpa using List.find?_some found
  | none =>
    obtain ⟨n, le, free⟩ := few
    have taken : ∀ m < count, isTaken (numbered base m) = true := by
      simpa using found
    obtain rfl : n = count := by
      refine le_antisymm le (Nat.not_lt.mp fun lt => ?_)
      rw [taken n lt] at free
      cases free
    exact free

end Text

/-! ### Characters of names -/

namespace Spelling

open Text

/-- The characters that stand in names that are made: ASCII letters, digits and the low
line. -/
def IsPlain (c : Char) : Prop :=
  c.isAlphanum ∨ c = '_'

instance (c : Char) : Decidable (IsPlain c) :=
  inferInstanceAs (Decidable (_ ∨ _))

theorem isPlain_of_mem_numberSuffix {n : Nat} {c : Char} (mem : c ∈ numberSuffix n) :
    IsPlain c := by
  cases n with
  | zero => exact absurd mem List.not_mem_nil
  | succ n =>
    obtain rfl | mem := List.mem_cons.mp mem
    · exact .inr rfl
    · have digit : c.isDigit := Nat.isDigit_of_mem_toDigits (by decide) (by decide) mem
      exact .inl (by simp [Char.isAlphanum, digit])

theorem mem_of_mem_squeeze {cs : List Char} {c : Char} (mem : c ∈ squeeze cs) : c ∈ cs := by
  fun_induction squeeze cs with
  | case1 cs ih => exact List.mem_cons_of_mem _ (ih mem)
  | case2 d cs _ ih =>
    obtain rfl | mem := List.mem_cons.mp mem
    · exact List.mem_cons_self
    · exact List.mem_cons_of_mem _ (ih mem)
  | case3 => exact mem

theorem mem_of_mem_trimWhile {p : Char → Bool} {cs : List Char} {c : Char}
    (mem : c ∈ trimWhile p cs) : c ∈ cs := by
  have mem : c ∈ (cs.dropWhile p).reverse :=
    (List.dropWhile_sublist _).subset (List.mem_reverse.mp mem)
  exact (List.dropWhile_sublist _).subset (List.mem_reverse.mp mem)

theorem isPlain_of_mem_fileStem {type : String} {c : Char} (mem : c ∈ (fileStem type).toList) :
    IsPlain c := by
  simp only [fileStem] at mem
  split_ifs at mem
  · exact .inr (by simpa using mem)
  · rw [String.toList_ofList] at mem
    obtain ⟨d, -, rfl⟩ := List.mem_map.mp (mem_of_mem_squeeze (mem_of_mem_trimWhile mem))
    split_ifs with letter
    · exact .inl letter
    · exact .inr rfl

/-- A stem that is numbered has the characters of the stem, and plain ones. -/
theorem notMem_numbered {c : Char} (odd : ¬ IsPlain c) {base : String} (free : c ∉ base.toList)
    (n : Nat) : c ∉ (numbered base n).toList := by
  rw [toList_numbered, List.mem_append, not_or]
  exact ⟨free, fun mem => odd (isPlain_of_mem_numberSuffix mem)⟩

end Spelling

/-! ### Stems -/

namespace FileStem

open Text

/-- The stem in lower case. -/
def key (s : FileStem) : List Char :=
  lowercase s.stem.toList

theorem exists_free (stems : List FileStem) (base : String) :
    ∃ n ≤ stems.length, isTaken stems (numbered base n) = false := by
  obtain ⟨n, le, free⟩ := exists_not_taken (stems.map key) (lowercase_numbered_injective base)
  refine ⟨n, by simpa using le, ?_⟩
  simpa [isTaken, key] using free

/-- The stems that are chosen belong to the types in order, are numbered forms of their
names, and differ in any case of letters. -/
structure Chosen (config : Configuration) (types : List String) (stems : List FileStem) : Prop where
  types_eq : stems.map FileStem.type = types
  numbered : ∀ s ∈ stems, ∃ n, s.stem = numbered (baseOf config s.type) n
  distinct : (stems.map key).Nodup

theorem Chosen.choose {config : Configuration} {types : List String} {stems : List FileStem}
    (chosen : Chosen config types stems) (type : String) :
    Chosen config (types ++ [type]) (choose config stems type) := by
  unfold FileStem.choose
  set stem := firstFree (isTaken stems) (baseOf config type) stems.length with stem_eq
  have free : isTaken stems stem = false := isTaken_firstFree (exists_free stems _)
  obtain ⟨n, is_numbered⟩ := firstFree_eq_numbered (isTaken stems) (baseOf config type) stems.length
  refine ⟨?_, ?_, ?_⟩
  · rw [List.map_append, chosen.types_eq, List.map_singleton]
  · intro s mem
    obtain mem | mem := List.mem_append.mp mem
    · exact chosen.numbered s mem
    · obtain rfl := List.mem_singleton.mp mem
      exact ⟨n, is_numbered⟩
  · rw [List.map_append]
    refine chosen.distinct.append (List.nodup_singleton _) ?_
    simpa [isTaken, key] using free

theorem chosen_foldl {config : Configuration} (types : List String) {before : List String}
    {stems : List FileStem} (chosen : Chosen config before stems) :
    Chosen config (before ++ types) (types.foldl (FileStem.choose config) stems) := by
  induction types generalizing before stems with
  | nil => rwa [List.append_nil]
  | cons type types ih =>
    have chosen := ih (chosen.choose type)
    rwa [List.append_assoc] at chosen

theorem chosen_ofTypes (config : Configuration) (types : List String) :
    Chosen config (types.mergeSort fun a b => a ≤ b) (ofTypes config types) := by
  have none : Chosen config [] [] := ⟨rfl, by simp, by simp⟩
  exact chosen_foldl _ none

/-- Every type has its stem. -/
theorem exists_of (config : Configuration) {types : List String} {type : String}
    (mem : type ∈ types) :
    ∃ s ∈ ofTypes config types, s.type = type ∧ of (ofTypes config types) type = s.stem := by
  have there : type ∈ (ofTypes config types).map FileStem.type := by
    rw [(chosen_ofTypes config types).types_eq]
    exact List.mem_mergeSort.mpr mem
  cases found : (ofTypes config types).find? fun s => s.type == type with
  | none =>
    obtain ⟨s, s_mem, rfl⟩ := List.mem_map.mp there
    simpa using List.find?_eq_none.mp found s s_mem
  | some s =>
    refine ⟨s, List.mem_of_find?_eq_some found, by simpa using List.find?_some found, ?_⟩
    rw [of, found]
    rfl

/-- Types whose stems agree in lower case are one type. -/
theorem eq_of_lowercase_of_eq {config : Configuration} {types : List String} {type type' : String}
    (mem : type ∈ types) (mem' : type' ∈ types)
    (same : lowercase (of (ofTypes config types) type).toList =
      lowercase (of (ofTypes config types) type').toList) : type = type' := by
  obtain ⟨s, s_mem, rfl, stem⟩ := exists_of config mem
  obtain ⟨s', s_mem', rfl, stem'⟩ := exists_of config mem'
  have same_key : s.key = s'.key := by rw [key, key, ← stem, ← stem', same]
  rw [List.inj_on_of_nodup_map (chosen_ofTypes config types).distinct s_mem s_mem' same_key]

/-- Types of one stem are one type. -/
theorem eq_of_of_eq {config : Configuration} {types : List String} {type type' : String}
    (mem : type ∈ types) (mem' : type' ∈ types)
    (same : of (ofTypes config types) type = of (ofTypes config types) type') : type = type' := by
  have same_key : lowercase (of (ofTypes config types) type).toList =
      lowercase (of (ofTypes config types) type').toList := by rw [same]
  exact eq_of_lowercase_of_eq mem mem' same_key

/-- A character that is not plain stands in a stem only if it stands in a name that the
configuration gives. -/
theorem notMem_of {config : Configuration} {c : Char} (odd : ¬ Spelling.IsPlain c)
    (absent : ∀ e ∈ config.namingOverrides, c ∉ e.2.toList) {types : List String} {type : String}
    (mem : type ∈ types) : c ∉ (of (ofTypes config types) type).toList := by
  have absent_base : ∀ type, c ∉ (baseOf config type).toList := by
    intro type
    unfold baseOf
    cases given : config.outputName? type with
    | some name =>
      obtain ⟨e, found, rfl⟩ := Option.map_eq_some_iff.mp given
      exact absent e (List.mem_of_find?_eq_some found)
    | none =>
      rw [Option.getD_none]
      exact fun mem => odd (Spelling.isPlain_of_mem_fileStem mem)
  obtain ⟨s, s_mem, -, stem⟩ := exists_of config mem
  obtain ⟨n, is_numbered⟩ := (chosen_ofTypes config types).numbered s s_mem
  rw [stem, is_numbered]
  exact Spelling.notMem_numbered odd (absent_base s.type) n

end FileStem

/-! ### Products -/

namespace Generation

open FileTree

/-- The name of a unit's file. -/
def IsUnitName (name : String) : Prop :=
  ∃ stem, '/' ∉ stem.toList ∧ name = stem ++ ".cpp"

theorem IsUnitName.getLast?_eq {name : String} (unit : IsUnitName name) :
    name.toList.getLast? = some 'p' := by
  obtain ⟨stem, -, rfl⟩ := unit
  simp

theorem IsUnitName.isFileName {name : String} (unit : IsUnitName name) : IsFileName name := by
  have ends := unit.getLast?_eq
  obtain ⟨stem, no_slash, named⟩ := unit
  refine ⟨?_, ?_, ?_, ?_⟩
  · rintro rfl
    simp at ends
  · rintro rfl
    simp at ends
  · rintro rfl
    simp at ends
  · simp [named, no_slash]

theorem isFileName_manifestName : IsFileName manifestName := by
  constructor <;> simp [manifestName]

theorem isFileName_makefileName : IsFileName makefileName := by
  constructor <;> simp [makefileName]

theorem isFileName_changesName : IsFileName changesName := by
  constructor <;> simp [changesName]

/-- The names of the files besides the units. -/
def listNames (options : GenerationOptions) : List String :=
  manifestName :: if options.makefile then [makefileName] else []

theorem names_products (units : List UnitFile) (options : GenerationOptions) :
    (products units options).map Prod.fst = units.map UnitFile.file ++ listNames options := by
  unfold products listNames
  split_ifs <;> simp

/-- The lists are not named like units. -/
theorem not_isUnitName {name : String}
    (list : name = manifestName ∨ name = makefileName ∨ name = changesName) :
    ¬ IsUnitName name := by
  intro unit
  have ends := unit.getLast?_eq
  obtain rfl | rfl | rfl := list <;> exact absurd ends (by decide)

theorem nodup_emitted {r : Registry} (built : r.Built) :
    (r.emitted.map Descriptor.name).Nodup := by
  have settled : (r.settledTypes.map Descriptor.name).Nodup := by
    rw [Registry.settledTypes, List.map_filterMap]
    refine built.ordered.nodup.filterMap fun id id' name mem mem' => ?_
    obtain ⟨d, there, rfl⟩ := Option.map_eq_some_iff.mp mem
    obtain ⟨d', there', same⟩ := Option.map_eq_some_iff.mp mem'
    exact built.distinct id id' d d' there there' same.symm
  exact settled.sublist (List.filter_sublist.map _)

/-- No two units share a file. -/
theorem nodup_files {r : Registry} (built : r.Built) (config : Configuration) :
    ((UnitFile.ofRegistry r config).map UnitFile.file).Nodup := by
  have files : (UnitFile.ofRegistry r config).map UnitFile.file =
      (r.emitted.map Descriptor.name).map fun type =>
        FileStem.of (FileStem.ofTypes config (r.emitted.map Descriptor.name)) type ++ ".cpp" := by
    simp [UnitFile.ofRegistry]
  rw [files]
  refine (nodup_emitted built).map_on fun type mem type' mem' same => ?_
  exact FileStem.eq_of_of_eq mem mem' (String.append_left_inj _ |>.mp same)

section

variable {r : Registry} (built : r.Built) (consolidation : Configuration) {config : Configuration}
  (no_slash : ∀ e ∈ config.namingOverrides, '/' ∉ e.2.toList) (options : GenerationOptions)
include built

omit built in
include no_slash in
theorem isUnitName_of_mem {u : UnitFile} (mem : u ∈ UnitFile.ofRegistry r config) :
    IsUnitName u.file := by
  obtain ⟨d, emitted, rfl⟩ := List.mem_map.mp mem
  exact ⟨_, FileStem.notMem_of (by decide) no_slash (List.mem_map_of_mem emitted), rfl⟩

omit built in
include no_slash in
/-- What is named neither like a unit nor like a list is not produced. -/
theorem notMem_names_products {name : String} (no_unit : ¬ IsUnitName name)
    (no_list : name ∉ listNames options) :
    name ∉ (products (UnitFile.ofRegistry r config) options).map Prod.fst := by
  rw [names_products, List.mem_append]
  rintro (unit | list)
  · obtain ⟨u, mem, rfl⟩ := List.mem_map.mp unit
    exact no_unit (isUnitName_of_mem no_slash mem)
  · exact no_list list

include no_slash in
/-- No two products have the same name. -/
theorem nodup_products :
    ((products (UnitFile.ofRegistry (r.consolidate consolidation).registry config) options).map
      Prod.fst).Nodup := by
  have lists : (listNames options).Nodup := by
    unfold listNames
    split_ifs <;> decide
  rw [names_products]
  refine (nodup_files built.consolidate config).append lists fun name unit list => ?_
  obtain ⟨u, mem, rfl⟩ := List.mem_map.mp unit
  refine not_isUnitName ?_ (isUnitName_of_mem no_slash mem)
  unfold listNames at list
  split_ifs at list <;> simp at list <;> tauto

omit built in
include no_slash in
/-- The products are named like files, and none of them like the list of changes. -/
theorem isFileName_of_mem_products {f : String × Bytes}
    (mem : f ∈ products (UnitFile.ofRegistry r config) options) :
    IsFileName f.1 ∧ f.1 ≠ changesName := by
  have mem : f.1 ∈ (products (UnitFile.ofRegistry r config) options).map Prod.fst :=
    List.mem_map_of_mem mem
  rw [names_products, List.mem_append] at mem
  obtain unit | list := mem
  · obtain ⟨u, u_mem, named⟩ := List.mem_map.mp unit
    have unit := named ▸ isUnitName_of_mem no_slash u_mem
    exact ⟨unit.isFileName, fun same => not_isUnitName (.inr (.inr same)) unit⟩
  · have known : f.1 = manifestName ∨ f.1 = makefileName := by
      unfold listNames at list
      split_ifs at list <;> simp at list <;> tauto
    obtain named | named := known <;> rw [named]
    · exact ⟨isFileName_manifestName, by decide⟩
    · exact ⟨isFileName_makefileName, by decide⟩

end

end Generation

end Reflectory
