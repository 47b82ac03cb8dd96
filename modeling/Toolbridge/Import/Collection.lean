import Toolbridge.Tool

set_option autoImplicit false

/-!
# Imports that an attribute needs

A walk through an attribute, user types followed, that notes the package of every user type: its own
location, else the generated package of the service that declares it. Types declared locally need
none. The walk goes depth first from left to right and enters a type name once; it ends because each
entry into a declared body uses up that body.
-/
namespace Toolbridge

structure Import where
  path : String
  name : Option String := none
deriving DecidableEq, Repr, Inhabited

def UserType.import? (t : UserType) (root : String) : Option Import :=
  match t.location, t.service with
  | some location, _ => some ⟨location.path, some location.package⟩
  | none, some service => some ⟨joinImportPath root service, none⟩
  | none, none => none

def noteImport (imports : List Import) : Option Import → List Import
  | none => imports
  | some i => if imports.contains i then imports else imports ++ [i]

def Catalog.unvisitedNodes (c : Catalog) (visited : List String) : Nat :=
  Attribute.totalNodes ((c.types.filter fun t => !visited.contains t.name).map (·.body))

def Members.attrs (members : List Member) : List Attribute := members.map (·.attr)

theorem Attribute.nodes_pos (a : Attribute) : 0 < a.nodes := by
  obtain ⟨type, required, default⟩ := a
  cases type with
  | none => simp [nodes]
  | some type => cases type <;> simp [nodes]

theorem membersNodes_eq (members : List Member) :
    Attribute.membersNodes members = Attribute.totalNodes (Members.attrs members) := by
  induction members with
  | nil => rfl
  | cons m rest ih =>
    obtain ⟨name, attr⟩ := m
    change attr.nodes + Attribute.membersNodes rest = _
    rw [ih]
    rfl

theorem totalNodes_cons (a : Attribute) (attrs : List Attribute) :
    Attribute.totalNodes (a :: attrs) = a.nodes + Attribute.totalNodes attrs := rfl

theorem totalNodes_append (left right : List Attribute) :
    Attribute.totalNodes (left ++ right)
      = Attribute.totalNodes left + Attribute.totalNodes right := by
  induction left with
  | nil => exact (Nat.zero_add _).symm
  | cons a rest ih =>
    rw [List.cons_append, totalNodes_cons, totalNodes_cons, ih, Nat.add_assoc]

theorem totalNodes_filter_le (types : List UserType) (p q : UserType → Bool)
    (sub : ∀ t ∈ types, q t = true → p t = true) :
    Attribute.totalNodes ((types.filter q).map (·.body))
      ≤ Attribute.totalNodes ((types.filter p).map (·.body)) := by
  induction types with
  | nil => exact Nat.le_refl _
  | cons t rest ih =>
    have tail := ih fun u hu => sub u (List.mem_cons_of_mem _ hu)
    have head := sub t List.mem_cons_self
    by_cases hq : q t = true
    · rw [List.filter_cons_of_pos hq, List.filter_cons_of_pos (head hq)]
      exact Nat.add_le_add_left tail _
    · rw [List.filter_cons_of_neg hq]
      by_cases hp : p t = true
      · rw [List.filter_cons_of_pos hp]
        exact Nat.le_trans tail (Nat.le_add_left _ _)
      · rw [List.filter_cons_of_neg hp]
        exact tail

theorem totalNodes_filter_lt (types : List UserType) (p q : UserType → Bool) (t : UserType)
    (mem : t ∈ types) (hp : p t = true) (hq : ¬ q t = true)
    (sub : ∀ u ∈ types, q u = true → p u = true) :
    Attribute.totalNodes ((types.filter q).map (·.body)) + t.body.nodes
      ≤ Attribute.totalNodes ((types.filter p).map (·.body)) := by
  induction types with
  | nil => exact absurd mem List.not_mem_nil
  | cons u rest ih =>
    have subTail : ∀ v ∈ rest, q v = true → p v = true :=
      fun v hv => sub v (List.mem_cons_of_mem _ hv)
    rcases List.mem_cons.mp mem with same | later
    · subst same
      have tail := totalNodes_filter_le rest p q subTail
      rw [List.filter_cons_of_pos hp, List.filter_cons_of_neg hq, List.map_cons, totalNodes_cons]
      omega
    · have tail := ih later subTail
      have head := sub u List.mem_cons_self
      by_cases hqu : q u = true
      · rw [List.filter_cons_of_pos hqu, List.filter_cons_of_pos (head hqu), List.map_cons,
          List.map_cons, totalNodes_cons, totalNodes_cons]
        omega
      · rw [List.filter_cons_of_neg hqu]
        by_cases hpu : p u = true
        · rw [List.filter_cons_of_pos hpu]
          exact Nat.le_trans tail (Nat.le_add_left _ _)
        · rw [List.filter_cons_of_neg hpu]
          exact tail

theorem Catalog.unvisitedNodes_le (c : Catalog) (visited : List String) (name : String) :
    c.unvisitedNodes (name :: visited) ≤ c.unvisitedNodes visited := by
  apply totalNodes_filter_le
  intro t _ h
  simp only [List.contains_cons, Bool.not_or, Bool.and_eq_true] at h
  exact h.2

theorem Catalog.unvisitedNodes_lt (c : Catalog) (visited : List String) (t : UserType)
    (mem : t ∈ c.types) (new : visited.contains t.name = false) :
    c.unvisitedNodes (t.name :: visited) + t.body.nodes ≤ c.unvisitedNodes visited := by
  apply totalNodes_filter_lt c.types _ _ t mem
  · rw [new]; rfl
  · simp
  · intro u _ h
    simp only [List.contains_cons, Bool.not_or, Bool.and_eq_true] at h
    exact h.2

set_option linter.unusedVariables false in
/-- The walk: `pending` holds what is still to be visited, in order. -/
def Catalog.collectFrom (c : Catalog) (root : String) (visited : List String)
    (imports : List Import) (pending : List Attribute) : List Import :=
  match pending with
  | [] => imports
  | ⟨none, _, _⟩ :: rest => c.collectFrom root visited imports rest
  | ⟨some (.primitive _), _, _⟩ :: rest => c.collectFrom root visited imports rest
  | ⟨some (.object members), _, _⟩ :: rest =>
    c.collectFrom root visited imports (Members.attrs members ++ rest)
  | ⟨some (.union members), _, _⟩ :: rest =>
    c.collectFrom root visited imports (Members.attrs members ++ rest)
  | ⟨some (.array element), _, _⟩ :: rest =>
    c.collectFrom root visited imports (element :: rest)
  | ⟨some (.map key value), _, _⟩ :: rest =>
    c.collectFrom root visited imports (key :: value :: rest)
  | ⟨some (.user id), _, _⟩ :: rest =>
    match h : c.types[id]? with
    | none => c.collectFrom root visited imports rest
    | some t =>
      if new : visited.contains t.name = false then
        c.collectFrom root (t.name :: visited) (noteImport imports (t.import? root))
          (t.body :: rest)
      else c.collectFrom root visited imports rest
  | ⟨some (.named name body), _, _⟩ :: rest =>
    if visited.contains name then c.collectFrom root visited imports rest
    else c.collectFrom root (name :: visited) imports (body :: rest)
termination_by c.unvisitedNodes visited + Attribute.totalNodes pending
decreasing_by
  all_goals simp only [totalNodes_cons, totalNodes_append, Attribute.nodes, membersNodes_eq]
  any_goals omega
  · have := c.unvisitedNodes_lt visited t (List.mem_of_getElem? h) new
    omega
  · have := c.unvisitedNodes_le visited name
    omega

def Catalog.collectImports (c : Catalog) (a : Attribute) (root : String) : List Import :=
  c.collectFrom root [] [] [a]

end Toolbridge
