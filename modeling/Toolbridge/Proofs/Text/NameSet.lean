import Toolbridge.Text.NameSet
import Mathlib.Data.String.Basic
import Mathlib.Data.List.Sort

set_option autoImplicit false

namespace Toolbridge.Text

theorem insertName_pairwise (name : String) {names : List String}
    (h : names.Pairwise (· < ·)) : (insertName name names).Pairwise (· < ·) := by
  induction names with
  | nil => exact List.pairwise_singleton _ _
  | cons other rest ih =>
    obtain ⟨below, sorted⟩ := List.pairwise_cons.mp h
    unfold insertName
    split
    · rename_i less
      refine List.pairwise_cons.mpr ⟨fun x mem => ?_, h⟩
      rcases List.mem_cons.mp mem with rfl | mem
      · exact less
      · exact less.trans (below x mem)
    · split
      · exact h
      · rename_i notLess different
        refine List.pairwise_cons.mpr ⟨fun x mem => ?_, ih sorted⟩
        rcases mem_insertName.mp mem with rfl | mem
        · exact lt_of_le_of_ne (le_of_not_gt notLess) (Ne.symm different)
        · exact below x mem

theorem nameSet_pairwise (names : List String) : (nameSet names).Pairwise (· < ·) := by
  induction names with
  | nil => exact List.Pairwise.nil
  | cons name rest ih => exact insertName_pairwise name ih

theorem nameSet_eq_iff {names others : List String} :
    nameSet names = nameSet others ↔ ∀ x, x ∈ names ↔ x ∈ others := by
  constructor
  · intro same x
    rw [← mem_nameSet, same, mem_nameSet]
  · intro same
    refine (nameSet_pairwise names).eq_of_mem_iff (nameSet_pairwise others) fun x => ?_
    rw [mem_nameSet, mem_nameSet, same]

end Toolbridge.Text
