import Toolbridge.Plan.Basic
import Toolbridge.Text.Lines

set_option autoImplicit false

namespace Toolbridge.Go

def importLine (i : Import) : String :=
  match i.name with
  | some name => name ++ " " ++ Text.quote i.path
  | none => Text.quote i.path

def importsText (imports : List Import) : String :=
  if imports.isEmpty then ""
  else
    "\nimport (\n" ++ String.join (imports.map fun i => "\t" ++ importLine i ++ "\n") ++ ")\n"

def isNumberType (reference : String) : Bool :=
  ["int", "int32", "int64", "uint", "uint32", "uint64", "float32", "float64"].contains reference

def startsWith (text start : String) : Bool := start.toList.isPrefixOf text.toList

def zeroValue (reference : String) : String :=
  if reference = "any" ∨ reference = "error" then "nil"
  else if reference = "string" then "\"\""
  else if reference = "bool" then "false"
  else if isNumberType reference then "0"
  else if isPointerRef reference || startsWith reference "[]" || startsWith reference "map[" then
    "nil"
  else "*new(" ++ reference ++ ")"

def functionText (f : PlannedFunction) : String :=
  "\n// " ++ f.name ++ " builds a " ++ f.resultType ++ " from a " ++ f.paramType ++ ".\n"
    ++ "func " ++ f.name ++ "(v " ++ f.paramType ++ ") " ++ f.resultType ++ " \x7b\n"
    ++ (if f.guardsNil then
        "\tif v == nil \x7b\n\t\treturn " ++ zeroValue f.resultType ++ "\n\t\x7d\n"
      else "")
    ++ Text.indent f.body ++ "\treturn res\n\x7d\n"

def helperFunction (h : Helper) : PlannedFunction :=
  { name := h.name, paramType := h.paramType, resultType := h.resultType, body := h.body }

def render (p : Plan) : String :=
  "// Code generated by agentgen. DO NOT EDIT.\n\npackage " ++ p.package ++ "\n"
    ++ importsText p.imports ++ String.join (p.functions.map functionText)
    ++ String.join (p.helpers.map fun h => functionText (helperFunction h))

end Toolbridge.Go
