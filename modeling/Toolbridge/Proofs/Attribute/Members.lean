import Toolbridge.Attribute.Basic
import Mathlib.Data.List.Nodup

set_option autoImplicit false

namespace Toolbridge.Members

variable {members : List Member} {name : String} {m : Member}

theorem find?_mem (found : find? members name = some m) : m ∈ members ∧ m.name = name := by
  refine ⟨List.mem_of_find?_eq_some found, ?_⟩
  exact eq_of_beq (List.find?_some (p := fun m : Member => m.name == name) found)

theorem find?_of_name (mem : name ∈ members.map (·.name)) : ∃ m, find? members name = some m := by
  obtain ⟨m, memM, rfl⟩ := List.mem_map.mp mem
  refine Option.isSome_iff_exists.mp (List.find?_isSome.mpr ⟨m, memM, ?_⟩)
  exact beq_self_eq_true m.name

theorem find?_of_mem (distinct : (members.map (·.name)).Nodup) (mem : m ∈ members) :
    find? members m.name = some m := by
  obtain ⟨other, found⟩ := find?_of_name (List.mem_map_of_mem mem)
  obtain ⟨memOther, same⟩ := find?_mem found
  rw [found, List.inj_on_of_nodup_map distinct memOther mem same]

end Toolbridge.Members
