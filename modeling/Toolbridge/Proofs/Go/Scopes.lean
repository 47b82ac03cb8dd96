import Toolbridge.Go.Code

set_option autoImplicit false

namespace Toolbridge.Go

/-- The variable in a text, which may be taken from behind its pointer: `v` in `(*v)`. -/
def variableIn (text : String) : String :=
  match text.toList with
  | '(' :: '*' :: rest => String.ofList rest.dropLast
  | _ => text

def Expr.variables : Expr → List String
  | .var name => [variableIn name]
  | .select e _ => e.variables
  | .index e position => position :: e.variables
  | .deref e => e.variables
  | .addressOf e => e.variables
  | .convert _ e => e.variables
  | .call _ argument => argument.variables
  | .make _ sized => sized.variables
  | .literal _ => []

def Expr.isVariable : Expr → Bool
  | .var name => variableIn name == name
  | _ => false

def Expr.isScoped (scope : List String) (e : Expr) : Bool := decide (e.variables ⊆ scope)

/-- A new variable is declared, or the target is reached through variables in scope. -/
def Expr.isTarget (declares : Bool) (scope : List String) (target : Expr) : Bool :=
  if declares then target.isVariable && decide (target.variables ++ scope).Nodup
  else target.isScoped scope

/-- The scope behind a statement for the target. -/
def Expr.scopeAfter (declares : Bool) (scope : List String) (target : Expr) : List String :=
  if declares then target.variables ++ scope else scope

def Assignment.isScoped (scope : List String) (a : Assignment) : Bool :=
  a.value.isScoped scope && a.target.isTarget a.declares scope

def assignmentsScope : List Assignment → List String → List String
  | [], scope => scope
  | a :: rest, scope => assignmentsScope rest (a.target.scopeAfter a.declares scope)

def assignmentsScoped : List Assignment → List String → Bool
  | [], _ => true
  | a :: rest, scope =>
    a.isScoped scope && assignmentsScoped rest (a.target.scopeAfter a.declares scope)

def Stmt.scopeAfter (scope : List String) : Stmt → List String
  | .assign a => a.target.scopeAfter a.declares scope
  | .build declares target _ _ => target.scopeAfter declares scope
  | .declare target _ => target.scopeAfter true scope
  | _ => scope

mutual
def Stmt.isScoped : Stmt → List String → Bool
  | .assign a, scope => a.isScoped scope
  | .build declares target _ fields, scope =>
    fields.all (·.2.isScoped scope) && target.isTarget declares scope
  | .scope assignments, scope => assignmentsScoped assignments scope
  | .ifNil e assignments, scope => e.isScoped scope && assignmentsScoped assignments scope
  | .ifNotNil e assignments, scope => e.isScoped scope && assignmentsScoped assignments scope
  | .unlessNil e body, scope => e.isScoped scope && blockScoped body scope
  | .range key value subject first body, scope =>
    subject.isScoped scope && decide (value :: key :: scope).Nodup &&
      assignmentsScoped first (value :: key :: scope) &&
        blockScoped body (assignmentsScope first (value :: key :: scope))
  | .declare target _, scope => target.isTarget true scope
  | .typeSwitch bound subject cases, scope =>
    subject.isScoped scope && decide (bound :: scope).Nodup && casesScoped cases (bound :: scope)
  | .returnNilIfNil name, scope => decide (name ∈ scope)
def blockScoped : List Stmt → List String → Bool
  | [], _ => true
  | s :: rest, scope => s.isScoped scope && blockScoped rest (s.scopeAfter scope)
def casesScoped : List TypeCase → List String → Bool
  | [], _ => true
  | ⟨_, body⟩ :: rest, scope => blockScoped body scope && casesScoped rest scope
end

def blockScope : List Stmt → List String → List String
  | [], scope => scope
  | s :: rest, scope => blockScope rest (s.scopeAfter scope)

@[simp] theorem Expr.isScoped_iff {e : Expr} {scope : List String} :
    e.isScoped scope = true ↔ e.variables ⊆ scope := decide_eq_true_iff

/-- A block that is scoped, and the scope that it leaves behind. -/
structure ScopedBlock (scope behind : List String) (body : List Stmt) : Prop where
  inside : blockScoped body scope = true
  leaves : blockScope body scope = behind

section Blocks

variable {scope between behind : List String} {s : Stmt} {left right : List Stmt}

theorem ScopedBlock.nil (scope : List String) : ScopedBlock scope scope [] := ⟨rfl, rfl⟩

theorem ScopedBlock.cons (first : s.isScoped scope = true)
    (rest : ScopedBlock (s.scopeAfter scope) behind right) :
    ScopedBlock scope behind (s :: right) := by
  refine ⟨?_, rest.leaves⟩
  rw [blockScoped, first, rest.inside]
  rfl

theorem ScopedBlock.single (here : s.isScoped scope = true)
    (leaves : s.scopeAfter scope = behind) : ScopedBlock scope behind [s] := by
  subst leaves
  exact .cons here (.nil _)

theorem ScopedBlock.append (h : ScopedBlock scope between left)
    (h' : ScopedBlock between behind right) : ScopedBlock scope behind (left ++ right) := by
  induction left generalizing scope with
  | nil =>
    obtain rfl : scope = between := h.leaves
    exact h'
  | cons s rest ih =>
    obtain ⟨inside, leaves⟩ := h
    rw [blockScoped, Bool.and_eq_true] at inside
    exact .cons inside.1 (ih ⟨inside.2, leaves⟩)

end Blocks

example : blockScoped [.range "i" "val" (.var "(*v)") []
    [.range "i" "val1" (.var "val") [] []]] ["v"] = false := by decide

end Toolbridge.Go
