import Toolbridge.Proofs.Go.Identifiers
import Toolbridge.Proofs.Plan.Parameters

set_option autoImplicit false

namespace Toolbridge

/-- What a local type is for. -/
inductive TypeRole where
  | payload
  | result
  | serverData (p : Projection)

def Tool.typeName (t : Tool) : TypeRole → String
  | .payload => payloadTypeName t
  | .result => resultTypeName t
  | .serverData p => serverDataTypeName t p

def Tool.roles (t : Tool) : List TypeRole :=
  .payload :: .result :: t.serverData.map .serverData

/-- The name of the tool has a letter or a digit, and the first one in the kind of server data is no
digit. -/
def Tool.Plain (t : Tool) : TypeRole → Prop
  | .payload | .result => t.name.toList.any Go.isWordChar = true
  | .serverData p => t.name.toList.any Go.isWordChar = true ∧
    (p.kind.toList.find? Go.isWordChar).any Char.isDigit = false

instance (t : Tool) : (role : TypeRole) → Decidable (t.Plain role)
  | .payload | .result => inferInstanceAs (Decidable (_ = true))
  | .serverData _ => inferInstanceAs (Decidable (_ ∧ _))

namespace Go

variable {name kind : String}

theorem lead_isDigit (name : String) :
    (lead name).isDigit = (name.toList.find? isWordChar).any Char.isDigit := by
  unfold lead
  cases found : name.toList.find? isWordChar with
  | none => decide
  | some first =>
    have part : isWordChar first = true := List.find?_some found
    exact (isAlphanum_upper part).2

/-- Two identifiers and a suffix are an identifier just if the first comes from a word and the
second does not need an underscore. -/
theorem identifier_joined_iff {suffix : String} (all : ∀ ch ∈ suffix.toList, ch.isAlphanum)
    (long : 5 < suffix.length) :
    identifier true (identifier true name ++ identifier true kind ++ suffix) =
        identifier true name ++ identifier true kind ++ suffix ↔
      name.toList.any isWordChar = true ∧
        (kind.toList.find? isWordChar).any Char.isDigit = false := by
  obtain ⟨rest, chars⟩ := List.head?_eq_some_iff.mp (head?_camelChars kind)
  have spelled : identifier true kind = String.ofList (led (lead kind :: rest)) := by
    rw [identifier_eq, chars]
  have leads : led (lead kind :: rest) =
      if (kind.toList.find? isWordChar).any Char.isDigit then '_' :: lead kind :: rest
      else lead kind :: rest := by
    unfold led
    rw [List.head?_cons, Option.any_some, lead_isDigit]
  cases digit : (kind.toList.find? isWordChar).any Char.isDigit with
  | false =>
    have letters : ∀ ch ∈ (identifier true kind ++ suffix).toList, ch.isAlphanum := by
      intro ch mem
      rw [spelled, leads, digit, if_neg Bool.false_ne_true, String.toList_append,
        String.toList_ofList] at mem
      rcases List.mem_append.mp mem with front | back
      · exact camelChars_chars true kind ch (chars ▸ front)
      · exact all ch back
    have longer : 5 < (identifier true kind ++ suffix).length := by
      rw [String.length_append]
      omega
    rw [String.append_assoc, identifier_suffixed_iff letters longer]
    exact (and_iff_left rfl).symm
  | true =>
    refine iff_of_false ?_ fun h => nomatch h.2
    have filled : led (camelChars true name) ≠ [] := by
      obtain ⟨rest', chars'⟩ := List.head?_eq_some_iff.mp (head?_camelChars name)
      rw [chars']
      unfold led
      split <;> exact List.cons_ne_nil _ _
    have parts : identifier true name ++ identifier true kind ++ suffix =
        String.ofList (led (camelChars true name) ++ '_' :: (lead kind :: rest ++ suffix.toList)) := by
      rw [spelled, leads, digit, if_pos rfl, identifier_eq, ← List.cons_append,
        ← List.append_assoc, String.ofList_append, String.ofList_append, String.ofList_toList]
    rw [parts]
    exact identifier_parted filled

end Go

/-- A local type is referred to by its name just if the names it is made from are plain. -/
theorem Tool.identifier_typeName (t : Tool) (role : TypeRole) :
    Go.identifier true (t.typeName role) = t.typeName role ↔ t.Plain role := by
  cases role with
  | payload => exact Go.identifier_suffixed_iff (List.all_eq_true.mp (by decide)) (by decide)
  | result => exact Go.identifier_suffixed_iff (List.all_eq_true.mp (by decide)) (by decide)
  | serverData p => exact Go.identifier_joined_iff (List.all_eq_true.mp (by decide)) (by decide)

theorem Tool.Declares.role {c : Catalog} {t : Tool} {name : String} {a : Attribute}
    (declares : t.Declares c name a) : ∃ role ∈ t.roles, name = t.typeName role := by
  cases declares with
  | payload => exact ⟨.payload, List.mem_cons_self, rfl⟩
  | result => exact ⟨.result, List.mem_cons_of_mem _ List.mem_cons_self, rfl⟩
  | serverData mem shaped =>
    have role : TypeRole.serverData _ ∈ t.roles :=
      List.mem_cons_of_mem _ (List.mem_cons_of_mem _ (List.mem_map_of_mem mem))
    exact ⟨.serverData _, role, rfl⟩

/-- The attribute is wrapped in a type of its own. -/
def Attribute.isNamed (a : Attribute) : Bool :=
  match a.type with
  | some (.named _ _) => true
  | _ => false

def pointerMark (c : Catalog) (a : Attribute) : String := if c.isObject a then "*" else ""

namespace SpecsIndex

variable {c : Catalog} {name : String} {a : Attribute}

theorem ofToolset_named (c : Catalog) (s : Toolset) : ∀ e ∈ (ofToolset c s).entries,
    (∃ t ∈ s.tools, ∃ role ∈ t.roles, e.1 = t.typeName role) ∧ ∃ a, e.2 = localType c e.1 a := by
  intro e mem
  obtain ⟨t, memT, name, a, declares, -, rfl⟩ := ofToolset_declaredBy c s e mem
  exact ⟨⟨t, memT, declares.role⟩, a, rfl⟩

theorem typeRef_localType (wrapped : (localType c name a).isNamed = true) :
    Go.typeRef c "" (localType c name a) =
      pointerMark c (localType c name a) ++ Go.identifier true name := by
  unfold localType at wrapped ⊢
  split
  · rename_i plain
    rw [if_pos plain] at wrapped
    unfold Attribute.isNamed at wrapped
    split at wrapped
    · rename_i held body shape
      unfold Attribute.isPrimitive Attribute.primitive? Catalog.location? Catalog.userType? at plain
      rw [shape] at plain
      cases plain
    · cases wrapped
  · unfold pointerMark Attribute.ofType Go.typeRef
    exact congrArg (· ++ _) String.append_empty

theorem typeRef_eq_name_iff {e : String × Attribute} (declared : ∃ a, e.2 = localType c e.1 a)
    (wrapped : e.2.isNamed = true) :
    Go.typeRef c "" e.2 = pointerMark c e.2 ++ e.1 ↔ Go.identifier true e.1 = e.1 := by
  obtain ⟨a, same⟩ := declared
  rw [same] at wrapped ⊢
  rw [typeRef_localType wrapped]
  exact String.append_right_inj _

end SpecsIndex

namespace Planner

/-- What a function calls the local type on its side. -/
def localRef (f : PlannedFunction) : TypeRole → String
  | .payload => f.paramType
  | .result | .serverData _ => f.resultType

/-- The function takes or gives the local type of the tool. -/
structure RefersTo (s : Setting) (f : PlannedFunction) (tool : Tool) (role : TypeRole)
    (own : Attribute) : Prop where
  declared : role ∈ tool.roles
  entry : s.index.get? (tool.typeName role) = some own
  reference : localRef f role = Go.typeRef s.catalog "" own

section References

variable {s : Setting} {p : Plan} {service : Service} {tool : Tool} {method : MethodBinding}
  {k : Converted} {f : PlannedFunction}

theorem payloadConversion?_refersTo (made : payloadConversion? s tool method = some k) :
    ∃ own, RefersTo s k.function tool .payload own := by
  obtain ⟨own, output, entry, -, rfl⟩ := payloadConversion?_eq_some made
  exact ⟨own, List.mem_cons_self, entry, rfl⟩

theorem resultConversion?_refersTo (made : resultConversion? s tool method = some k) :
    ∃ own, RefersTo s k.function tool .result own := by
  obtain ⟨own, output, entry, -, rfl⟩ := resultConversion?_eq_some made
  exact ⟨own, List.mem_cons_of_mem _ List.mem_cons_self, entry, rfl⟩

theorem serverDataConversion?_refersTo {projection : Projection}
    (declared : projection ∈ tool.serverData)
    (made : serverDataConversion? s tool method projection = some k) :
    ∃ own, RefersTo s k.function tool (.serverData projection) own := by
  obtain ⟨source, own, output, -, -, entry, -, rfl⟩ := serverDataConversion?_eq_some made
  have role : TypeRole.serverData projection ∈ tool.roles :=
    List.mem_cons_of_mem _ (List.mem_cons_of_mem _ (List.mem_map_of_mem declared))
  exact ⟨own, role, entry, rfl⟩

theorem refersTo_of_mem (made : MadeOf s service p) (mem : f ∈ p.functions) :
    ∃ tool ∈ s.toolset.tools, ∃ role own, RefersTo s f tool role own := by
  rw [made.functions] at mem
  obtain ⟨k, memK, rfl⟩ := List.mem_map.mp mem
  obtain ⟨tool, memTool, memK⟩ := List.mem_flatMap.mp memK
  refine ⟨tool, memTool, ?_⟩
  obtain ⟨method, -, payload | result | ⟨projection, declared, serverData⟩⟩ :=
    mem_toolConversions memK
  · exact ⟨.payload, payloadConversion?_refersTo payload⟩
  · exact ⟨.result, resultConversion?_refersTo result⟩
  · exact ⟨.serverData projection, serverDataConversion?_refersTo declared serverData⟩

end References

/-- Wrapped types are referred to by the names they are declared under, in a specs package and in the
functions of a plan, just if these are made from plain names. -/
theorem local_types_by_name (c : Catalog) (root : String) (t : Toolset) :
    (∀ e ∈ (SpecsIndex.ofToolset c t).entries, e.2.isNamed = true →
      ∃ tool ∈ t.tools, ∃ role ∈ tool.roles, e.1 = tool.typeName role ∧
        (Go.typeRef c "" e.2 = pointerMark c e.2 ++ e.1 ↔ tool.Plain role)) ∧
    ∀ p, (planToolset c root t).outcome = .ok (some p) → ∀ f ∈ p.functions,
      ∃ service, t.sourceService = some service ∧ ∃ tool ∈ t.tools, ∃ role own,
        RefersTo (goSetting c root t service (SpecsIndex.ofToolset c t)) f tool role own ∧
          (own.isNamed = true →
            (localRef f role = pointerMark c own ++ tool.typeName role ↔ tool.Plain role)) := by
  have named := SpecsIndex.ofToolset_named c t
  constructor
  · intro e mem wrapped
    obtain ⟨⟨tool, memTool, role, memRole, name⟩, entered⟩ := named e mem
    refine ⟨tool, memTool, role, memRole, name, ?_⟩
    rw [SpecsIndex.typeRef_eq_name_iff entered wrapped, name]
    exact tool.identifier_typeName role
  · intro p planned f mem
    obtain ⟨service, given, made⟩ := planWith_ok (Conversion.engine_steady c) planned
    obtain ⟨tool, memTool, role, own, refers⟩ := refersTo_of_mem made mem
    refine ⟨service, given, tool, memTool, role, own, refers, fun wrapped => ?_⟩
    obtain ⟨-, entered⟩ := named _ (SpecsIndex.mem_of_get? refers.entry)
    rw [refers.reference]
    exact (SpecsIndex.typeRef_eq_name_iff entered wrapped).trans (tool.identifier_typeName role)

/-! A tool `login` hands out codes. -/
namespace Codes

def codes : Attribute := .ofType (.array (.ofType (.primitive .string)))

def method : MethodBinding :=
  { name := "Login", payload := {},
    result := { type := some (.object [⟨"codes", codes⟩]), required := ["codes"] },
    payloadRef := some "string", resultRef := some "*alpha.LoginResult" }

def shown (kind : String) : Projection := { kind, field := "codes" }

def tool (kind : String) : Tool :=
  { name := "login", qualifiedName := "alpha.ops.login", method := some method,
    serverData := [shown kind] }

def catalog : Catalog := ⟨[]⟩

def toolset (kind : String) : Toolset :=
  { name := "alpha.ops", specsDir := some "gen/docs", specsPackage := "ops",
    sourceService := some ⟨"alpha", "alpha"⟩, tools := [tool kind] }

def run (kind : String) : PlanRun := planToolset catalog "example.com/gen" (toolset kind)

def results? (kind : String) : Option (List String) :=
  (run kind).outcome.toOption.join.map fun p => p.functions.map (·.resultType)

def typeName (kind : String) : String := (tool kind).typeName (.serverData (shown kind))

def named (kind : String) : Attribute := .ofType (.named (typeName kind) codes)

theorem entries_eq (kind : String) : (SpecsIndex.ofToolset catalog (toolset kind)).entries =
    [(typeName kind, named kind)] := rfl

theorem digit_misspelled :
    (∃ e ∈ (SpecsIndex.ofToolset catalog (toolset "2fa")).entries, e.2.isNamed = true ∧
      e.1 = "Login_2faServerData" ∧ pointerMark catalog e.2 = "" ∧
        Go.typeRef catalog "" e.2 = "Login2faServerData") ∧
      ∃ p, (run "2fa").outcome = .ok (some p) ∧
        p.functions.map (·.resultType) = ["Login2faServerData"] := by
  have summary : results? "2fa" = some ["Login2faServerData"] := by decide +kernel
  refine ⟨⟨(typeName "2fa", named "2fa"), ?_, rfl, ?_, ?_, ?_⟩, planned_of_summary summary⟩
  · rw [entries_eq]
    exact List.mem_cons_self
  · decide +kernel
  · decide +kernel
  · decide +kernel

theorem letters_spelled :
    ∃ p, (run "otp").outcome = .ok (some p) ∧ p.functions ≠ [] ∧
      (∀ e ∈ (SpecsIndex.ofToolset catalog (toolset "otp")).entries,
        e.1 = "LoginOtpServerData" ∧ Go.typeRef catalog "" e.2 = e.1) ∧
      ∀ f ∈ p.functions, f.resultType = "LoginOtpServerData" := by
  have summary : results? "otp" = some ["LoginOtpServerData"] := by decide +kernel
  obtain ⟨p, planned, results⟩ : ∃ p, (run "otp").outcome = .ok (some p) ∧
      p.functions.map (·.resultType) = ["LoginOtpServerData"] := planned_of_summary summary
  obtain ⟨entries, functions⟩ :=
    local_types_by_name catalog "example.com/gen" (toolset "otp")
  have name : typeName "otp" = "LoginOtpServerData" := by decide +kernel
  have value : pointerMark catalog (named "otp") = "" := by decide +kernel
  have plain : ∀ role ∈ (tool "otp").roles, (tool "otp").Plain role := by decide +kernel
  refine ⟨p, planned, fun planless => ?_, fun e mem => ?_, fun f mem => ?_⟩
  · rw [planless] at results
    cases results
  · have only := mem
    rw [entries_eq] at only
    obtain rfl := List.mem_singleton.mp only
    obtain ⟨tool', memTool, role, memRole, -, spelled⟩ := entries _ mem rfl
    obtain rfl := List.mem_singleton.mp memTool
    have literal := spelled.mpr (plain role memRole)
    rw [value, String.empty_append] at literal
    exact ⟨name, literal⟩
  · obtain ⟨service, given, tool', memTool, role, own, refers, spelled⟩ :=
      functions p planned f mem
    obtain rfl := List.mem_singleton.mp memTool
    have entry := SpecsIndex.mem_of_get? refers.entry
    change _ ∈ (SpecsIndex.ofToolset catalog (toolset "otp")).entries at entry
    rw [entries_eq] at entry
    obtain ⟨here, rfl⟩ := Prod.mk.inj (List.mem_singleton.mp entry)
    have literal := (spelled rfl).mpr (plain role refers.declared)
    rw [value, String.empty_append, here, name] at literal
    cases role with
    | payload => exact absurd here (by decide +kernel)
    | result => exact literal
    | serverData q => exact literal

end Codes

end Planner
end Toolbridge
