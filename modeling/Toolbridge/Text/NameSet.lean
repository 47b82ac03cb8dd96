set_option autoImplicit false

namespace Toolbridge.Text

def insertName (name : String) : List String → List String
  | [] => [name]
  | other :: rest =>
    if name < other then name :: other :: rest
    else if name = other then other :: rest
    else other :: insertName name rest

def nameSet (names : List String) : List String := names.foldr insertName []

theorem mem_insertName {x name : String} {names : List String} :
    x ∈ insertName name names ↔ x = name ∨ x ∈ names := by
  induction names with
  | nil => simp [insertName]
  | cons other rest ih =>
    unfold insertName
    split
    · simp
    · split
      · rename_i h; subst h; simp
      · simp only [List.mem_cons, ih]; grind

theorem mem_nameSet {x : String} {names : List String} : x ∈ nameSet names ↔ x ∈ names := by
  induction names with
  | nil => simp [nameSet]
  | cons name rest ih =>
    change x ∈ insertName name (nameSet rest) ↔ _
    rw [mem_insertName, ih, List.mem_cons]

end Toolbridge.Text
