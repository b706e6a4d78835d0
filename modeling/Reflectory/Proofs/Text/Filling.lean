/-
Templates that are filled in.

`Filled` says what it means to replace placeholders all at once: a text is read from the
left, each placeholder gives way to its text, and every other character is kept. Templates
are filled in line by line and one placeholder after the other, which comes to the same. No
placeholder reaches over the end of a line. A text that has been put in ends in a slash and
contains neither `$` nor `)`, so no placeholder can begin or end in it, or reach over it.

* `Filled.append`: texts are filled in apart if no placeholder reaches from one into the other.
* `Filled.prefix_before`: what is put in brings about no placeholder.
* `filled_both_iff`: one placeholder after the other is both at once.
* `render_fills_in`: what a rendered template is.
-/

import Mathlib.Data.List.Infix
import Reflectory.Doxyfile

namespace Reflectory

namespace Doxyfile

/-! ### Filling in -/

/-- A text in which placeholders are replaced by the texts that they stand for, all at once. -/
inductive Filled (entries : List (List Char × List Char)) : List Char → List Char → Prop
  | done : Filled entries [] []
  | replaced {placeholder text cs ds : List Char} (entry : (placeholder, text) ∈ entries)
      (rest : Filled entries cs ds) : Filled entries (placeholder ++ cs) (text ++ ds)
  | kept {c : Char} {cs ds : List Char} (none_here : ∀ e ∈ entries, ¬ e.1 <+: c :: cs)
      (rest : Filled entries cs ds) : Filled entries (c :: cs) (c :: ds)

/-- A placeholder begins with `$`, ends with `)`, has no other `$` and stands within one line
and between slashes. -/
structure IsPlaceholder (placeholder : List Char) : Prop where
  head : placeholder.head? = some '$'
  last : placeholder.getLast? = some ')'
  no_dollar : '$' ∉ placeholder.tail
  no_slash : '/' ∉ placeholder
  no_break : '\n' ∉ placeholder

theorem IsPlaceholder.ne_nil {placeholder : List Char} (is : IsPlaceholder placeholder) :
    placeholder ≠ [] := by
  rintro rfl
  cases is.head

/-- A directory ends in a slash and contains neither `$` nor `)`. -/
structure IsDirectory (dir : List Char) : Prop where
  last : dir.getLast? = some '/'
  no_dollar : '$' ∉ dir
  no_closing : ')' ∉ dir

variable {entries : List (List Char × List Char)} {cs ds es fs : List Char}

/-- What begins two texts one after the other begins the first, or reaches into the second. -/
theorem prefix_append_cases {w : List Char} (h : w <+: cs ++ es) :
    w <+: cs ∨ ∃ v, w = cs ++ v ∧ v <+: es := by
  rcases List.prefix_or_prefix_of_prefix h (List.prefix_append cs es) with inside | ⟨v, rfl⟩
  · exact .inl inside
  · exact .inr ⟨v, rfl, (List.prefix_append_right_inj cs).mp h⟩

/-- Texts are filled in apart if no placeholder reaches from one into the other. -/
theorem Filled.append (filled : Filled entries cs ds) (behind : Filled entries es fs)
    (apart : ∀ e ∈ entries, ∀ u v, e.1 = u ++ v → u <:+ cs → v <+: es → u = [] ∨ v = []) :
    Filled entries (cs ++ es) (ds ++ fs) := by
  induction filled with
  | done => exact behind
  | @replaced placeholder text cs ds entry _ ih =>
    rw [List.append_assoc, List.append_assoc]
    refine .replaced entry (ih fun e mem u v parts ends begins => ?_)
    exact apart e mem u v parts (ends.trans (List.suffix_append placeholder cs)) begins
  | @kept c cs ds none_here _ ih =>
    refine .kept (fun e mem here => ?_) (ih fun e mem u v parts ends begins => ?_)
    · have here : e.1 <+: (c :: cs) ++ es := here
      rcases prefix_append_cases here with inside | ⟨v, parts, begins⟩
      · exact none_here e mem inside
      · rcases apart e mem (c :: cs) v parts List.suffix_rfl begins with empty | rfl
        · cases empty
        · exact none_here e mem (by rw [parts, List.append_nil])
    · exact apart e mem u v parts (ends.trans (List.suffix_cons c cs)) begins

/-- Every text can be filled in. -/
theorem exists_filled (nonempty : ∀ e ∈ entries, e.1 ≠ []) (cs : List Char) :
    ∃ ds, Filled entries cs ds := by
  induction length : cs.length using Nat.strong_induction_on generalizing cs with
  | _ n ih =>
    cases cs with
    | nil => exact ⟨[], .done⟩
    | cons c rest =>
      by_cases here : ∃ e ∈ entries, e.1 <+: c :: rest
      · obtain ⟨e, mem, behind, read⟩ := here
        have shorter : behind.length < n := by
          have := List.length_pos_of_ne_nil (nonempty e mem)
          rw [← length, ← read, List.length_append]
          omega
        obtain ⟨ds, filled⟩ := ih behind.length shorter behind rfl
        exact ⟨e.2 ++ ds, read ▸ .replaced mem filled⟩
      · obtain ⟨ds, filled⟩ := ih rest.length (by rw [← length]; simp) rest rfl
        exact ⟨c :: ds, .kept (fun e mem begins => here ⟨e, mem, begins⟩) filled⟩

/-! ### What is put in -/

/-- What is put in brings about no text that ends with `)` and has no slash. -/
theorem Filled.prefix_before (directories : ∀ e ∈ entries, IsDirectory e.2)
    (filled : Filled entries cs ds) {w : List Char} (last : w.getLast? = some ')')
    (no_slash : '/' ∉ w) (begins : w <+: ds) : w <+: cs := by
  induction filled generalizing w with
  | done => exact begins
  | @replaced placeholder text cs ds entry _ _ =>
    have directory := directories _ entry
    rcases List.prefix_or_prefix_of_prefix begins (List.prefix_append text ds) with
      shorter | longer
    · exact absurd (shorter.subset (List.mem_of_getLast? last)) directory.no_closing
    · exact absurd (longer.subset (List.mem_of_getLast? directory.last)) no_slash
  | @kept c cs ds _ _ ih =>
    rcases List.prefix_cons_iff.mp begins with rfl | ⟨rest, rfl, begins_rest⟩
    · cases last
    · cases rest with
      | nil => simp
      | cons d rest =>
        rw [List.getLast?_cons_cons] at last
        refine List.cons_prefix_cons.mpr ⟨rfl, ih last ?_ begins_rest⟩
        exact fun mem => no_slash (List.mem_cons_of_mem c mem)

/-- A text that begins with a character occurs behind all that lacks it. -/
theorem infix_of_infix_append {c : Char} {w : List Char} (lacks : c ∉ cs)
    (found : c :: w <:+: cs ++ es) : c :: w <:+: es := by
  rcases List.infix_append_iff.mp found with within | behind | ⟨u, v, parts, ends, begins⟩
  · exact absurd (within.subset List.mem_cons_self) lacks
  · exact behind
  · cases u with
    | nil => exact parts ▸ begins.isInfix
    | cons d u =>
      cases parts
      exact absurd (ends.subset List.mem_cons_self) lacks

/-- No placeholder is left. -/
theorem Filled.not_occurs (placeholders : ∀ e ∈ entries, IsPlaceholder e.1)
    (directories : ∀ e ∈ entries, IsDirectory e.2) (filled : Filled entries cs ds)
    {e : List Char × List Char} (mem : e ∈ entries) : ¬ e.1 <:+: ds := by
  have placeholder := placeholders e mem
  obtain ⟨inside, opening⟩ := List.head?_eq_some_iff.mp placeholder.head
  induction filled with
  | done => simp [opening]
  | @replaced _ text cs ds entry _ ih =>
    intro found
    rw [opening] at found ih
    exact ih (infix_of_infix_append (directories _ entry).no_dollar found)
  | @kept c cs ds none_here rest ih =>
    intro found
    rcases List.infix_cons_iff.mp found with here | behind
    · exact none_here e mem
        ((Filled.kept none_here rest).prefix_before directories placeholder.last
          placeholder.no_slash here)
    · exact ih behind

/-! ### One placeholder after the other -/

section

open Text

variable {old new : List Char}

theorem replaceFrom_skip (old new : List Char) (n : Nat) (cs : List Char) :
    replaceFrom old new n cs = replaceFrom old new 0 (cs.drop n) := by
  induction n generalizing cs with
  | zero => rfl
  | succ n ih =>
    cases cs with
    | nil => simp [replaceFrom]
    | cons c cs => rw [replaceFrom, ih, List.drop_succ_cons]

/-- What is replaced gives way where it begins. -/
theorem replaceFrom_append (nonempty : old ≠ []) (cs : List Char) :
    replaceFrom old new 0 (old ++ cs) = new ++ replaceFrom old new 0 cs := by
  cases old with
  | nil => exact absurd rfl nonempty
  | cons c old =>
    have here : (c :: old).isPrefixOf (c :: (old ++ cs)) :=
      List.isPrefixOf_iff_prefix.mpr (List.prefix_append (c :: old) cs)
    rw [List.cons_append, replaceFrom, if_pos here, replaceFrom_skip]
    simp

theorem replaceFrom_cons {c : Char} (not_here : ¬ old <+: c :: cs) :
    replaceFrom old new 0 (c :: cs) = c :: replaceFrom old new 0 cs := by
  rw [replaceFrom, if_neg fun here => not_here (List.isPrefixOf_iff_prefix.mp here)]

/-- A text without the first character of what is replaced is kept. -/
theorem replaceFrom_append_of_lacks {c : Char} (lacks : c ∉ ds) (cs : List Char) :
    replaceFrom (c :: old) new 0 (ds ++ cs) = ds ++ replaceFrom (c :: old) new 0 cs := by
  induction ds with
  | nil => rfl
  | cons d ds ih =>
    have not_here : ¬ c :: old <+: d :: (ds ++ cs) := by
      intro here
      obtain ⟨rfl, -⟩ := List.cons_prefix_cons.mp here
      exact lacks List.mem_cons_self
    have behind := ih fun mem => lacks (List.mem_cons_of_mem d mem)
    rw [List.cons_append, replaceFrom_cons not_here, behind, List.cons_append]

/-- Replacing is filling in where there is one placeholder. -/
theorem filled_replaceFrom (nonempty : old ≠ []) (new cs : List Char) :
    Filled [(old, new)] cs (replaceFrom old new 0 cs) := by
  have nonempty_entry : ∀ e ∈ [(old, new)], e.1 ≠ [] := by simpa using nonempty
  obtain ⟨ds, filled⟩ := exists_filled nonempty_entry cs
  suffices same : replaceFrom old new 0 cs = ds from same ▸ filled
  induction filled with
  | done => rfl
  | replaced entry _ ih =>
    cases List.mem_singleton.mp entry
    rw [replaceFrom_append nonempty, ih]
  | kept none_here _ ih => rw [replaceFrom_cons (none_here _ List.mem_cons_self), ih]

end

section

open Text

variable {first second dir dir' : List Char} (is_first : IsPlaceholder first)
  (is_second : IsPlaceholder second) (apart : ¬ first <+: second ∧ ¬ second <+: first)
  (is_dir : IsDirectory dir)
include is_first is_second apart is_dir

/-- Where both placeholders are filled in, they have been replaced one after the other. -/
theorem replaceFrom_both_of_filled (filled : Filled [(first, dir), (second, dir')] cs ds) :
    replaceFrom second dir' 0 (replaceFrom first dir 0 cs) = ds := by
  have first_nonempty := is_first.ne_nil
  obtain ⟨name, rfl⟩ := List.head?_eq_some_iff.mp is_first.head
  obtain ⟨name', rfl⟩ := List.head?_eq_some_iff.mp is_second.head
  induction filled with
  | done => rfl
  | @replaced placeholder text cs ds entry _ ih =>
    rcases List.mem_cons.mp entry with is_entry | entry
    · cases is_entry
      rw [replaceFrom_append first_nonempty, replaceFrom_append_of_lacks is_dir.no_dollar, ih]
    · -- The first placeholder begins nowhere in the second one.
      cases List.mem_singleton.mp entry
      have not_here : ¬ '$' :: name <+: '$' :: (name' ++ cs) := by
        intro here
        rcases List.prefix_or_prefix_of_prefix here (List.prefix_append ('$' :: name') cs) with
          shorter | longer
        · exact apart.1 shorter
        · exact apart.2 longer
      have inside : replaceFrom ('$' :: name) dir 0 (name' ++ cs) =
          name' ++ replaceFrom ('$' :: name) dir 0 cs :=
        replaceFrom_append_of_lacks is_second.no_dollar cs
      rw [List.cons_append, replaceFrom_cons not_here, inside, ← List.cons_append,
        replaceFrom_append (List.cons_ne_nil _ _), ih]
  | @kept c cs ds none_here _ ih =>
    have not_first : ¬ '$' :: name <+: c :: cs := none_here _ List.mem_cons_self
    have not_second : ¬ '$' :: name' <+: c :: replaceFrom ('$' :: name) dir 0 cs := by
      intro here
      rw [← replaceFrom_cons not_first] at here
      refine none_here _ (List.mem_cons_of_mem _ List.mem_cons_self) ?_
      exact (filled_replaceFrom first_nonempty dir (c :: cs)).prefix_before
        (by simpa using is_dir) is_second.last is_second.no_slash here
    rw [replaceFrom_cons not_first, replaceFrom_cons not_second, ih]

/-- Replacing one placeholder and then the other is filling both in. -/
theorem filled_both_iff :
    Filled [(first, dir), (second, dir')] cs ds ↔
      replaceFrom second dir' 0 (replaceFrom first dir 0 cs) = ds := by
  constructor
  · exact replaceFrom_both_of_filled is_first is_second apart is_dir
  · rintro rfl
    have nonempty : ∀ e ∈ [(first, dir), (second, dir')], e.1 ≠ [] := by
      have := is_first.ne_nil
      have := is_second.ne_nil
      simp [*]
    obtain ⟨ds, filled⟩ := exists_filled nonempty cs
    rwa [replaceFrom_both_of_filled is_first is_second apart is_dir filled]

end

/-! ### Lines -/

theorem flatten_lines (cs : List Char) : (lines cs).flatten = cs := by
  induction cs with
  | nil => rfl
  | cons c cs ih =>
    rw [lines]
    split_ifs
    · rw [List.flatten_cons, ih, List.singleton_append]
    · cases split : lines cs with
      | nil => simpa [split] using ih
      | cons line rest => simpa [split] using ih

/-- Every line but the last ends in a line break. -/
theorem getLast?_of_mem_dropLast_lines {cs line : List Char} (mem : line ∈ (lines cs).dropLast) :
    line.getLast? = some '\n' := by
  induction cs generalizing line with
  | nil => simp [lines] at mem
  | cons c cs ih =>
    rw [lines] at mem
    split_ifs at mem with break_here
    · subst break_here
      cases split : lines cs with
      | nil => simp [split] at mem
      | cons next rest =>
        rw [split, List.dropLast_cons_cons] at mem
        rcases List.mem_cons.mp mem with rfl | mem
        · rfl
        · exact ih (split ▸ mem)
    · cases split : lines cs with
      | nil => simp [split] at mem
      | cons next rest =>
        simp only [split] at mem ih
        cases rest with
        | nil => simp at mem
        | cons next' rest =>
          rw [List.dropLast_cons_cons] at mem ih
          rcases List.mem_cons.mp mem with rfl | mem
          · have ends := ih List.mem_cons_self
            rw [List.getLast?_cons, ends]
            rfl
          · exact ih (List.mem_cons_of_mem _ mem)

/-- Lines are filled in one by one. -/
theorem filled_flatMap (placeholders : ∀ e ∈ entries, IsPlaceholder e.1)
    {fill : List Char → List Char} (filled : ∀ line, Filled entries line (fill line))
    {lines : List (List Char)} (ends : ∀ line ∈ lines.dropLast, line.getLast? = some '\n') :
    Filled entries lines.flatten (lines.flatMap fill) := by
  induction lines with
  | nil => exact .done
  | cons line rest ih =>
    rw [List.flatten_cons, List.flatMap_cons]
    cases rest with
    | nil => simpa using filled line
    | cons next rest =>
      rw [List.dropLast_cons_cons] at ends
      refine (filled line).append (ih fun line mem => ends line (List.mem_cons_of_mem _ mem)) ?_
      intro e mem u v parts ends_line _
      left
      by_contra nonempty
      obtain ⟨before, rfl⟩ := ends_line
      have last := ends _ List.mem_cons_self
      rw [List.getLast?_append_of_ne_nil _ nonempty] at last
      exact (placeholders e mem).no_break
        (parts ▸ List.mem_append_left v (List.mem_of_getLast? last))

/-! ### Templates -/

/-- What the placeholders of a template stand for. -/
def directoryEntries (inputDir outputDir : String) : List (List Char × List Char) :=
  [(inputPlaceholder.toList, inputDir.toList), (outputPlaceholder.toList, outputDir.toList)]

theorem isPlaceholder_input : IsPlaceholder inputPlaceholder.toList := by
  constructor <;> simp [inputPlaceholder]

theorem isPlaceholder_output : IsPlaceholder outputPlaceholder.toList := by
  constructor <;> simp [outputPlaceholder]

variable {template inputDir outputDir : String}

theorem isPlaceholder_of_mem :
    ∀ e ∈ directoryEntries inputDir outputDir, IsPlaceholder e.1 := by
  simp [directoryEntries, isPlaceholder_input, isPlaceholder_output]

theorem toList_render (template inputDir outputDir : String) :
    (render template inputDir outputDir).toList = (lines template.toList).flatMap fun line =>
      Text.replaceFrom outputPlaceholder.toList outputDir.toList 0
        (Text.replaceFrom inputPlaceholder.toList inputDir.toList 0 line) := by
  simp [render, renderLine, Text.replaceAll, String.toList_join, List.flatMap, Function.comp_def]

/-- A rendered template is the template filled in. -/
theorem filled_iff (input : IsDirectory inputDir.toList) {ds : List Char} :
    Filled (directoryEntries inputDir outputDir) template.toList ds ↔
      (render template inputDir outputDir).toList = ds := by
  have apart : ¬ inputPlaceholder.toList <+: outputPlaceholder.toList ∧
      ¬ outputPlaceholder.toList <+: inputPlaceholder.toList := by
    simp [inputPlaceholder, outputPlaceholder]
  have filled_both {cs ds : List Char} :
      Filled (directoryEntries inputDir outputDir) cs ds ↔ _ = ds :=
    filled_both_iff isPlaceholder_input isPlaceholder_output apart input
  have ends : ∀ line ∈ (lines template.toList).dropLast, line.getLast? = some '\n' :=
    fun _ => getLast?_of_mem_dropLast_lines
  have by_lines := filled_flatMap isPlaceholder_of_mem (fun line => filled_both.mpr rfl) ends
  rw [flatten_lines, ← toList_render] at by_lines
  rw [filled_both, filled_both.mp by_lines]

/-- What stands before and behind a placeholder is filled in apart from it. -/
theorem render_append (input : IsDirectory inputDir.toList) {e : List Char × List Char}
    (mem : e ∈ directoryEntries inputDir outputDir) {before after : String}
    (read : template.toList = before.toList ++ (e.1 ++ after.toList)) :
    (render template inputDir outputDir).toList =
      (render before inputDir outputDir).toList ++
        (e.2 ++ (render after inputDir outputDir).toList) := by
  rw [← filled_iff input, read]
  refine ((filled_iff input).mpr rfl).append (.replaced mem ((filled_iff input).mpr rfl)) ?_
  -- The first character of a placeholder is not inside of any.
  intro e' mem' u v parts _ begins
  obtain ⟨name, opening⟩ := List.head?_eq_some_iff.mp (isPlaceholder_of_mem e mem).head
  rw [opening] at begins
  cases u with
  | nil => exact .inl rfl
  | cons c u =>
    cases v with
    | nil => exact .inr rfl
    | cons d v =>
      obtain ⟨rfl, -⟩ := List.cons_prefix_cons.mp begins
      refine absurd ?_ (isPlaceholder_of_mem e' mem').no_dollar
      rw [parts]
      simp

/-- **A template is filled in all at once.** Where the directories end in a slash and contain
neither `$` nor `)`, rendering replaces the placeholders by the directories as if it did so at
once, and keeps every other character. So each occurrence of a placeholder is replaced, whatever
stands around it, and no placeholder is left. -/
theorem render_fills_in (input : IsDirectory inputDir.toList)
    (output : IsDirectory outputDir.toList) (template : String) :
    (∀ result : String,
      Filled (directoryEntries inputDir outputDir) template.toList result.toList ↔
        result = render template inputDir outputDir) ∧
      ∀ e ∈ directoryEntries inputDir outputDir,
        (∀ before after : String, template.toList = before.toList ++ (e.1 ++ after.toList) →
          (render template inputDir outputDir).toList =
            (render before inputDir outputDir).toList ++
              (e.2 ++ (render after inputDir outputDir).toList)) ∧
        ¬ e.1 <:+: (render template inputDir outputDir).toList := by
  have directories : ∀ e ∈ directoryEntries inputDir outputDir, IsDirectory e.2 := by
    simp [directoryEntries, input, output]
  refine ⟨fun result => ?_, fun e mem => ⟨fun before after read => ?_, ?_⟩⟩
  · rw [filled_iff input, String.toList_inj, eq_comm]
  · exact render_append input mem read
  · exact ((filled_iff input).mpr rfl).not_occurs isPlaceholder_of_mem directories mem

/-- A template of two lines, the last one without a line break. What is put in stands where the
template already has the beginning of a placeholder. -/
theorem render_fills_in_nested :
    IsDirectory "src/".toList ∧ IsDirectory "doc/".toList ∧
      Filled (directoryEntries "src/" "doc/")
        "IN = $($(INPUT_DIR)x\nOUT = $(OUTPUT_DIR)$(INPUT_DIR)".toList
        "IN = $(src/x\nOUT = doc/src/".toList := by
  have input : IsDirectory "src/".toList := by constructor <;> simp
  have output : IsDirectory "doc/".toList := by constructor <;> simp
  refine ⟨input, output, ((render_fills_in input output _).1 _).mpr ?_⟩
  decide +kernel

end Doxyfile

end Reflectory
