import Toolbridge.Go.Code

set_option autoImplicit false

namespace Toolbridge.Go

/-- The second expression selects from the first or indexes it, at any depth. -/
def Expr.Beneath (base : Expr) : Expr → Prop
  | .select e _ => e = base ∨ Beneath base e
  | .index e _ => e = base ∨ Beneath base e
  | _ => False

theorem Expr.Beneath.sizeOf_lt {base e : Expr} (h : base.Beneath e) : sizeOf base < sizeOf e := by
  induction e with
  | select e field ih =>
    rw [Expr.select.sizeOf_spec]
    rcases h with rfl | h
    · omega
    · exact Nat.lt_trans (ih h) (by omega)
  | index e position ih =>
    rw [Expr.index.sizeOf_spec]
    rcases h with rfl | h
    · omega
    · exact Nat.lt_trans (ih h) (by omega)
  | _ => cases h

theorem Expr.not_beneath_self (e : Expr) : ¬ e.Beneath e := fun h => Nat.lt_irrefl _ h.sizeOf_lt

def assignmentsAssigned (assignments : List Assignment) : List Expr := assignments.map (·.target)

mutual
def Stmt.assigned : Stmt → List Expr
  | .assign a => [a.target]
  | .build _ target _ _ => [target]
  | .scope assignments => assignmentsAssigned assignments
  | .ifNil _ assignments => assignmentsAssigned assignments
  | .ifNotNil _ assignments => assignmentsAssigned assignments
  | .unlessNil _ body => blockAssigned body
  | .range _ _ _ first body => assignmentsAssigned first ++ blockAssigned body
  | .declare _ _ => []
  | .typeSwitch _ _ cases => casesAssigned cases
  | .returnNilIfNil _ => []
def blockAssigned : List Stmt → List Expr
  | [] => []
  | s :: rest => s.assigned ++ blockAssigned rest
def casesAssigned : List TypeCase → List Expr
  | [] => []
  | ⟨_, body⟩ :: rest => blockAssigned body ++ casesAssigned rest
end

/-- Neither fields nor elements of the expression are assigned to. -/
def AssignedWhole (base : Expr) (body : List Stmt) : Prop :=
  ∀ e ∈ blockAssigned body, ¬ base.Beneath e

@[simp] theorem blockAssigned_append (left right : List Stmt) :
    blockAssigned (left ++ right) = blockAssigned left ++ blockAssigned right := by
  induction left with
  | nil => rfl
  | cons s rest ih => simp [blockAssigned, ih, List.append_assoc]

theorem mem_blockAssigned {body : List Stmt} {e : Expr} :
    e ∈ blockAssigned body ↔ ∃ s ∈ body, e ∈ s.assigned := by
  induction body with
  | nil => simp [blockAssigned]
  | cons s rest ih => simp [blockAssigned, ih]

theorem blockAssigned_subset {part body : List Stmt} (stands : part ⊆ body) :
    blockAssigned part ⊆ blockAssigned body := by
  intro e mem
  obtain ⟨s, here, assigned⟩ := mem_blockAssigned.mp mem
  exact mem_blockAssigned.mpr ⟨s, stands here, assigned⟩

theorem mem_casesAssigned {cases' : List TypeCase} {e : Expr} :
    e ∈ casesAssigned cases' ↔ ∃ k ∈ cases', e ∈ blockAssigned k.body := by
  induction cases' with
  | nil => simp [casesAssigned]
  | cons k rest ih =>
    obtain ⟨type, body⟩ := k
    rw [casesAssigned, List.mem_append, ih]
    simp

end Toolbridge.Go
