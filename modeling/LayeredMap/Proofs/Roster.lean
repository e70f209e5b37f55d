import Mathlib.Data.List.Nodup
import LayeredMap.Roster

/-!
# Rosters as lists

Registration appends, removal filters, and both keep a roster free of
repetition. Storage is given up with the last listener, which the list of
listeners does not show.
-/

namespace LayeredMap.Roster

variable {α : Type} [DecidableEq α] (r : Roster α) (l : α)

theorem contains_iff : r.contains l = true ↔ l ∈ r.toList := List.contains_iff_mem

theorem add_of_mem (h : l ∈ r.toList) : r.add l = (false, r) := by
  simp [add, (r.contains_iff l).mpr h]

theorem add_of_not_mem (h : l ∉ r.toList) :
    ∃ grown, r.add l = (true, grown) ∧ grown.toList = r.toList ++ [l] := by
  have absent : r.contains l = false := by simpa [contains] using h
  exact ⟨{ slots := some (r.toList ++ [l]) }, by simp [add, absent], rfl⟩

theorem remove_of_mem (h : l ∈ r.toList) :
    ∃ rest, r.remove l = (true, rest) ∧ rest.toList = r.toList.filter (· ≠ l) := by
  rw [remove, if_pos ((r.contains_iff l).mpr h)]
  refine ⟨_, rfl, ?_⟩
  cases r.toList.filter (· ≠ l) with
  | nil => rfl
  | cons m ms => rfl

theorem remove_of_not_mem (h : l ∉ r.toList) : r.remove l = (false, r) := by
  have absent : r.contains l = false := by simpa [contains] using h
  simp [remove, absent]

theorem add_counts : (r.add l).1 = true ∨ r.add l = (false, r) := by
  by_cases listed : l ∈ r.toList
  · exact .inr (add_of_mem r l listed)
  · obtain ⟨grown, added, -⟩ := add_of_not_mem r l listed
    exact .inl (congrArg Prod.fst added)

theorem remove_counts : (r.remove l).1 = true ∨ r.remove l = (false, r) := by
  by_cases listed : l ∈ r.toList
  · obtain ⟨rest, removed, -⟩ := remove_of_mem r l listed
    exact .inl (congrArg Prod.fst removed)
  · exact .inr (remove_of_not_mem r l listed)

theorem toList_add : (r.add l).2.toList = if l ∈ r.toList then r.toList else r.toList ++ [l] := by
  by_cases h : l ∈ r.toList
  · rw [add_of_mem r l h, if_pos h]
  · obtain ⟨grown, hadd, hgrown⟩ := add_of_not_mem r l h
    rw [hadd, if_neg h]
    exact hgrown

theorem toList_remove : (r.remove l).2.toList = r.toList.filter (· ≠ l) := by
  by_cases h : l ∈ r.toList
  · obtain ⟨rest, hremove, hrest⟩ := remove_of_mem r l h
    rw [hremove]
    exact hrest
  · have all : r.toList.filter (· ≠ l) = r.toList :=
      List.filter_eq_self.mpr fun m hm => decide_eq_true fun heq => h (heq ▸ hm)
    rw [remove_of_not_mem r l h, all]

theorem mem_add {m : α} : m ∈ (r.add l).2.toList ↔ m ∈ r.toList ∨ m = l := by
  rw [toList_add]
  by_cases h : l ∈ r.toList
  · rw [if_pos h]
    constructor
    · exact Or.inl
    · rintro (hm | rfl)
      · exact hm
      · exact h
  · rw [if_neg h, List.mem_append, List.mem_singleton]

theorem mem_remove {m : α} : m ∈ (r.remove l).2.toList ↔ m ∈ r.toList ∧ m ≠ l := by
  rw [toList_remove, List.mem_filter, decide_eq_true_iff]

theorem nodup_toList_add (h : r.toList.Nodup) : (r.add l).2.toList.Nodup := by
  rw [toList_add]
  split
  · exact h
  · rename_i absent
    rw [← List.concat_eq_append]
    exact h.concat absent

theorem nodup_toList_remove (h : r.toList.Nodup) : (r.remove l).2.toList.Nodup := by
  rw [toList_remove]
  exact h.filter _

end LayeredMap.Roster
