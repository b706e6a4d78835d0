/-
Numbered names.

Where a name is taken, it is followed by `_2`, `_3` and so on until it is free.
-/

namespace Reflectory.Text

/-- The candidates for a name: the name itself, then the name with a number from
two on. -/
def numbered (base : String) : Nat → String
  | 0 => base
  | n + 1 => base ++ "_" ++ toString (n + 2)

/-- The first candidate that is free, where at most `count` candidates are
taken. -/
def firstFree (isTaken : String → Bool) (base : String) (count : Nat) : String :=
  (((List.range count).map (numbered base)).find? fun s => !isTaken s).getD (numbered base count)

/-- Every result is one of the candidates. -/
theorem firstFree_eq_numbered (isTaken : String → Bool) (base : String) (count : Nat) :
    ∃ n, firstFree isTaken base count = numbered base n := by
  unfold firstFree
  cases hfound : ((List.range count).map (numbered base)).find? fun s => !isTaken s with
  | none => exact ⟨count, rfl⟩
  | some s =>
    obtain ⟨n, -, rfl⟩ := List.mem_map.1 (List.mem_of_find?_eq_some hfound)
    exact ⟨n, rfl⟩

end Reflectory.Text
