import Toolbridge.Go.Code

set_option autoImplicit false

namespace Toolbridge.Go

def Expr.calls : Expr → List String
  | .var _ => []
  | .select e _ => e.calls
  | .index e _ => e.calls
  | .deref e => e.calls
  | .addressOf e => e.calls
  | .convert _ e => e.calls
  | .call function argument => function :: argument.calls
  | .make _ sized => sized.calls
  | .literal _ => []

def Assignment.calls (a : Assignment) : List String := a.target.calls ++ a.value.calls

def assignmentsCalls (assignments : List Assignment) : List String :=
  assignments.flatMap Assignment.calls

def fieldsCalls (fields : List (String × Expr)) : List String := fields.flatMap (·.2.calls)

mutual
def Stmt.calls : Stmt → List String
  | .assign a => a.calls
  | .build _ target _ fields => target.calls ++ fieldsCalls fields
  | .scope assignments => assignmentsCalls assignments
  | .ifNil e assignments => e.calls ++ assignmentsCalls assignments
  | .ifNotNil e assignments => e.calls ++ assignmentsCalls assignments
  | .unlessNil e body => e.calls ++ blockCalls body
  | .range _ _ subject first body => subject.calls ++ assignmentsCalls first ++ blockCalls body
  | .declare target _ => target.calls
  | .typeSwitch _ subject cases => subject.calls ++ casesCalls cases
  | .returnNilIfNil _ => []
def blockCalls : List Stmt → List String
  | [] => []
  | s :: rest => s.calls ++ blockCalls rest
def casesCalls : List TypeCase → List String
  | [] => []
  | ⟨_, body⟩ :: rest => blockCalls body ++ casesCalls rest
end

@[simp] theorem blockCalls_append (left right : List Stmt) :
    blockCalls (left ++ right) = blockCalls left ++ blockCalls right := by
  induction left with
  | nil => rfl
  | cons s rest ih => simp [blockCalls, ih, List.append_assoc]

@[simp] theorem fieldsCalls_append (left right : List (String × Expr)) :
    fieldsCalls (left ++ right) = fieldsCalls left ++ fieldsCalls right := by
  simp [fieldsCalls]

end Toolbridge.Go
