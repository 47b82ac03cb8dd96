import Toolbridge.Attribute.Walk
import Toolbridge.Import.Collection
import Toolbridge.Proofs.Attribute.Reach
import Mathlib.Data.List.ProdSigma

set_option autoImplicit false

/-!
# The attributes that can be reached are finitely many

All attributes of a tree, the tree of each body of the catalog, and the empty body that a reference
outside of the catalog stands for: nothing else can be reached. Their number is counted by `nodes`.
-/
namespace Toolbridge

namespace Attribute

/-- The parts of an attribute, a declared body not being one. -/
def direct (a : Attribute) : List Attribute :=
  match a.type with
  | some (.object members) | some (.union members) => Members.attrs members
  | some (.array element) => [element]
  | some (.map key value) => [key, value]
  | some (.named _ body) => [body]
  | _ => []

mutual
def tree : Attribute → List Attribute
  | ⟨none, r, d⟩ => [⟨none, r, d⟩]
  | ⟨some (.primitive p), r, d⟩ => [⟨some (.primitive p), r, d⟩]
  | ⟨some (.object fields), r, d⟩ => ⟨some (.object fields), r, d⟩ :: membersTrees fields
  | ⟨some (.array element), r, d⟩ => ⟨some (.array element), r, d⟩ :: element.tree
  | ⟨some (.map key value), r, d⟩ => ⟨some (.map key value), r, d⟩ :: (key.tree ++ value.tree)
  | ⟨some (.union members), r, d⟩ => ⟨some (.union members), r, d⟩ :: membersTrees members
  | ⟨some (.user id), r, d⟩ => [⟨some (.user id), r, d⟩]
  | ⟨some (.named name body), r, d⟩ => ⟨some (.named name body), r, d⟩ :: body.tree
def membersTrees : List Member → List Attribute
  | [] => []
  | ⟨_, attr⟩ :: rest => attr.tree ++ membersTrees rest
end

theorem membersTrees_eq (members : List Member) :
    membersTrees members = (Members.attrs members).flatMap tree := by
  induction members with
  | nil => rfl
  | cons m rest ih =>
    obtain ⟨name, attr⟩ := m
    rw [membersTrees, ih]
    rfl

theorem tree_eq (a : Attribute) : a.tree = a :: a.direct.flatMap tree := by
  obtain ⟨type, required, default⟩ := a
  cases type with
  | none => rfl
  | some type => cases type <;> simp [tree, direct, membersTrees_eq]

theorem nodes_eq (a : Attribute) : a.nodes = totalNodes a.direct + 1 := by
  obtain ⟨type, required, default⟩ := a
  cases type with
  | none => rfl
  | some type => cases type <;> simp [nodes, direct, membersNodes_eq, totalNodes]

theorem nodes_le_totalNodes {a : Attribute} {attrs : List Attribute} (mem : a ∈ attrs) :
    a.nodes ≤ totalNodes attrs := by
  induction attrs with
  | nil => cases mem
  | cons b rest ih =>
    rw [totalNodes_cons]
    rcases List.mem_cons.mp mem with rfl | mem
    · exact Nat.le_add_right _ _
    · exact Nat.le_trans (ih mem) (Nat.le_add_left _ _)

theorem nodes_lt_of_direct {a b : Attribute} (mem : b ∈ a.direct) : b.nodes < a.nodes := by
  rw [nodes_eq a]
  exact Nat.lt_succ_of_le (nodes_le_totalNodes mem)

theorem direct_induction {P : Attribute → Prop} (step : ∀ a, (∀ b ∈ a.direct, P b) → P a)
    (a : Attribute) : P a := by
  induction size : a.nodes using Nat.strongRecOn generalizing a with
  | _ n ih =>
    exact step a fun b mem => ih b.nodes (size ▸ nodes_lt_of_direct mem) b rfl

theorem mem_tree_self (a : Attribute) : a ∈ a.tree := by
  rw [tree_eq]
  exact List.mem_cons_self

theorem mem_tree_of_direct {a x y : Attribute} (mem : x ∈ a.tree) (part : y ∈ x.direct) :
    y ∈ a.tree := by
  induction a using direct_induction with
  | step a ih =>
    rw [tree_eq] at mem ⊢
    refine List.mem_cons_of_mem _ (List.mem_flatMap.mpr ?_)
    rcases List.mem_cons.mp mem with rfl | mem
    · exact ⟨y, part, mem_tree_self y⟩
    · obtain ⟨b, memB, below⟩ := List.mem_flatMap.mp mem
      exact ⟨b, memB, ih b memB below⟩

theorem length_flatMap_tree {attrs : List Attribute}
    (each : ∀ a ∈ attrs, a.tree.length = a.nodes) :
    (attrs.flatMap tree).length = totalNodes attrs := by
  induction attrs with
  | nil => rfl
  | cons a rest ih =>
    rw [List.flatMap_cons, List.length_append, totalNodes_cons, each a List.mem_cons_self,
      ih fun b mem => each b (List.mem_cons_of_mem _ mem)]

theorem length_tree (a : Attribute) : a.tree.length = a.nodes := by
  induction a using direct_induction with
  | step a ih => rw [tree_eq, List.length_cons, length_flatMap_tree ih, nodes_eq]

end Attribute

namespace Catalog

variable {c : Catalog} {a x y : Attribute}

theorem part_iff :
    c.Part x y ↔ y ∈ x.direct ∨ ∃ id, x.type = some (.user id) ∧ y = (c.get id).body := by
  constructor
  · intro step
    cases step with
    | field shape mem =>
      simp only [Attribute.direct, shape]
      exact .inl (List.mem_map_of_mem mem)
    | member shape mem =>
      simp only [Attribute.direct, shape]
      exact .inl (List.mem_map_of_mem mem)
    | body type =>
      rcases type_eq_of_userType? type with ⟨id, shape, rfl⟩ | ⟨name, body, shape, rfl⟩
      · exact .inr ⟨id, shape, rfl⟩
      · simp [Attribute.direct, shape]
    | _ shape => simp [Attribute.direct, shape]
  · rintro (mem | ⟨id, shape, rfl⟩)
    · unfold Attribute.direct at mem
      split at mem
      · rename_i shape
        obtain ⟨m, memM, rfl⟩ := List.mem_map.mp mem
        exact .field shape memM
      · rename_i shape
        obtain ⟨m, memM, rfl⟩ := List.mem_map.mp mem
        exact .member shape memM
      · rename_i shape
        rw [List.mem_singleton.mp mem]
        exact .element shape
      · rename_i shape
        rcases List.mem_cons.mp mem with rfl | mem
        · exact .key shape
        · rw [List.mem_singleton.mp mem]
          exact .value shape
      · rename_i shape
        rw [List.mem_singleton.mp mem]
        exact .body (userType?_named shape)
      · cases mem
    · exact .body (userType?_user shape)

/-- Everything that can be reached from `a`, and perhaps more. -/
def vicinity (c : Catalog) (a : Attribute) : List Attribute :=
  a.tree ++ (c.types.map (·.body)).flatMap Attribute.tree ++ [({} : Attribute)]

theorem length_vicinity (c : Catalog) (a : Attribute) :
    (c.vicinity a).length = a.nodes + c.nodes + 1 := by
  rw [vicinity, List.length_append, List.length_append, Attribute.length_tree,
    Attribute.length_flatMap_tree fun b _ => b.length_tree]
  rfl

theorem get_body_mem_vicinity (c : Catalog) (a : Attribute) (id : TypeId) :
    (c.get id).body ∈ c.vicinity a := by
  rcases Nat.lt_or_ge id c.types.length with inside | outside
  · have known : c.types[id] ∈ c.types := List.getElem_mem inside
    have same : c.get id = c.types[id] := by simp [get, inside]
    rw [same]
    exact List.mem_append_left _ (List.mem_append_right _
      (List.mem_flatMap.mpr ⟨_, List.mem_map_of_mem known, Attribute.mem_tree_self _⟩))
  · have missing : c.get id = default := by simp [get, outside]
    rw [missing]
    exact List.mem_append_right _ List.mem_cons_self

theorem mem_vicinity_of_part (mem : x ∈ c.vicinity a) (step : c.Part x y) : y ∈ c.vicinity a := by
  rcases part_iff.mp step with part | ⟨id, -, rfl⟩
  · unfold vicinity at mem ⊢
    rcases List.mem_append.mp mem with mem | mem
    · rcases List.mem_append.mp mem with mem | mem
      · exact List.mem_append_left _ (List.mem_append_left _ (Attribute.mem_tree_of_direct mem part))
      · obtain ⟨b, memB, below⟩ := List.mem_flatMap.mp mem
        exact List.mem_append_left _ (List.mem_append_right _
          (List.mem_flatMap.mpr ⟨b, memB, Attribute.mem_tree_of_direct below part⟩))
    · rw [List.mem_singleton.mp mem] at part
      cases part
  · exact get_body_mem_vicinity c a id

theorem Reaches.mem_vicinity (h : c.Reaches a x) : x ∈ c.vicinity a := by
  induction h with
  | refl => exact List.mem_append_left _ (List.mem_append_left _ (Attribute.mem_tree_self a))
  | tail _ step ih => exact mem_vicinity_of_part ih step

theorem noEmptyBody_of_vicinity
    (full : (c.vicinity a).all (fun x => (c.userType? x).all fun t => !t.body.isEmpty) = true) :
    c.NoEmptyBody a := by
  intro x t path type
  have body := List.all_eq_true.mp full x path.mem_vicinity
  rw [type] at body
  simpa using body

def pairsBelow (c : Catalog) (a b : Attribute) : List (Attribute × Attribute) :=
  c.vicinity a ×ˢ c.vicinity b

theorem length_pairsBelow (c : Catalog) (a b : Attribute) :
    (c.pairsBelow a b).length = c.pairBound a b := by
  rw [pairsBelow, List.length_product, length_vicinity, length_vicinity, pairBound]

theorem mem_pairsBelow {b : Attribute} (left : c.Reaches a x) (right : c.Reaches b y) :
    (x, y) ∈ c.pairsBelow a b :=
  List.mem_product.mpr ⟨left.mem_vicinity, right.mem_vicinity⟩

end Catalog
end Toolbridge
