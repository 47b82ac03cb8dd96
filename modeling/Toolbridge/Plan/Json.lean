import Toolbridge.Json.Value
import Toolbridge.Plan.Basic

set_option autoImplicit false

namespace Toolbridge

def Import.json (i : Import) : Json.Value :=
  Json.objectOf [("path", .string i.path), ("name", (i.name.map Json.Value.string).getD .null)]

def PlannedFunction.json (f : PlannedFunction) : Json.Value :=
  Json.objectOf
    [("name", .string f.name), ("param_type_ref", .string f.paramType),
     ("result_type_ref", .string f.resultType), ("body", .string f.body),
     ("nil_input_returns_nil", .bool f.guardsNil)]

def Helper.json (h : Helper) : Json.Value :=
  Json.objectOf
    [("name", .string h.name), ("param_type_ref", .string h.paramType),
     ("result_type_ref", .string h.resultType), ("body", .string h.body)]

def Plan.json (p : Plan) : Json.Value :=
  Json.objectOf
    [("path", .string p.path), ("package", .string p.package),
     ("imports", .array (p.imports.map (·.json))),
     ("functions", .array (p.functions.map (·.json))),
     ("helpers", .array (p.helpers.map (·.json)))]

end Toolbridge
