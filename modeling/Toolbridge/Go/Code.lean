import Toolbridge.Text.Lines

set_option autoImplicit false

namespace Toolbridge.Go

/-- Variables are kept as they were given, which may be any text. -/
inductive Expr where
  | var (name : String)
  | select (e : Expr) (field : String)
  | index (e : Expr) (position : String)
  | deref (e : Expr)
  | addressOf (e : Expr)
  | convert (type : String) (e : Expr)
  | call (function : String) (argument : Expr)
  | make (type : String) (sized : Expr)
  | literal (text : String)
deriving DecidableEq, Repr

def Expr.text : Expr → String
  | .var name => name
  | .select e field => e.text ++ "." ++ field
  | .index e position => e.text ++ "[" ++ position ++ "]"
  | .deref e => "*" ++ e.text
  | .addressOf e => "&" ++ e.text
  | .convert type e => type ++ "(" ++ e.text ++ ")"
  | .call function argument => function ++ "(" ++ argument.text ++ ")"
  | .make type sized => "make(" ++ type ++ ", len(" ++ sized.text ++ "))"
  | .literal text => text

/-- `target := value` if it declares the target, else `target = value`. -/
structure Assignment where
  declares : Bool
  target : Expr
  value : Expr
deriving DecidableEq, Repr

def operator (declares : Bool) : String := if declares then " := " else " = "

def Assignment.text (a : Assignment) : String :=
  a.target.text ++ operator a.declares ++ a.value.text ++ "\n"

def assignmentsText (assignments : List Assignment) : String :=
  String.join (assignments.map fun a => "\t" ++ a.text)

mutual
inductive Stmt where
  | assign (a : Assignment)
  | build (declares : Bool) (target : Expr) (opening : String) (fields : List (String × Expr))
  | scope (assignments : List Assignment)
  | ifNil (e : Expr) (assignments : List Assignment)
  | ifNotNil (e : Expr) (assignments : List Assignment)
  /-- As `ifNotNil`, around a whole conversion. -/
  | unlessNil (e : Expr) (body : List Stmt)
  | range (key value : String) (subject : Expr) (first : List Assignment) (body : List Stmt)
  | declare (target : Expr) (type : String)
  | typeSwitch (bound : String) (subject : Expr) (cases : List TypeCase)
  | returnNilIfNil (name : String)

structure TypeCase where
  type : String
  body : List Stmt
end

instance : Inhabited Stmt := ⟨.scope []⟩
instance : Inhabited TypeCase := ⟨⟨"", []⟩⟩

def buildText (declares : Bool) (target : Expr) (opening : String)
    (fields : List (String × Expr)) : String :=
  let entries := String.join (fields.map fun f => "\t" ++ f.1 ++ ": " ++ f.2.text ++ ",\n")
  target.text ++ operator declares ++ opening ++
    (if fields.isEmpty then "\x7b\x7d\n" else "\x7b\n" ++ entries ++ "\x7d\n")

mutual
def Stmt.text : Stmt → String
  | .assign a => a.text
  | .build declares target opening fields => buildText declares target opening fields
  | .scope assignments => "\x7b\n" ++ assignmentsText assignments ++ "\x7d\n"
  | .ifNil e assignments =>
    "if " ++ e.text ++ " == nil \x7b\n" ++ assignmentsText assignments ++ "\x7d\n"
  | .ifNotNil e assignments =>
    "if " ++ e.text ++ " != nil \x7b\n" ++ assignmentsText assignments ++ "\x7d\n"
  | .unlessNil e body =>
    "if " ++ e.text ++ " != nil \x7b\n" ++ Text.indent (blockText body) ++ "\x7d\n"
  | .range key value subject first body =>
    "for " ++ key ++ ", " ++ value ++ " := range " ++ subject.text ++ " \x7b\n"
      ++ assignmentsText first ++ Text.indent (blockText body) ++ "\x7d\n"
  | .declare target type => "var " ++ target.text ++ " " ++ type ++ "\n"
  | .typeSwitch bound subject cases =>
    "switch " ++ bound ++ " := " ++ subject.text ++ ".(type) \x7b\n" ++ casesText cases ++ "\x7d\n"
  | .returnNilIfNil name => "if " ++ name ++ " == nil \x7b\n\treturn nil\n\x7d\n"
def blockText : List Stmt → String
  | [] => ""
  | s :: rest => s.text ++ blockText rest
def casesText : List TypeCase → String
  | [] => ""
  | ⟨type, body⟩ :: rest =>
    "case " ++ type ++ ":\n" ++ Text.indent (blockText body) ++ casesText rest
end

end Toolbridge.Go
