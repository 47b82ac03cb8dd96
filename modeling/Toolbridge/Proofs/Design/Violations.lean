import Toolbridge.Proofs.Design.Written

set_option autoImplicit false

namespace Toolbridge.Design

inductive TypeExpr.Part : TypeExpr → TypeExpr → Prop where
  | field {fields : List (String × TypeExpr)} {required : List String} {p : String × TypeExpr}
      (mem : p ∈ fields) : Part (.object fields required) p.2
  | element {e : TypeExpr} : Part (.array e) e
  | key {key value : TypeExpr} : Part (.map key value) key
  | value {key value : TypeExpr} : Part (.map key value) value
  | member {members : List (String × TypeExpr)} {p : String × TypeExpr} (mem : p ∈ members) :
      Part (.union members) p.2
  | defaulted {e : TypeExpr} {default : Option Json.Value} : Part (.withDefault e default) e

/-- An expression contains itself, its parts and what these contain. -/
def TypeExpr.Contains : TypeExpr → TypeExpr → Prop := Relation.ReflTransGen TypeExpr.Part

namespace DesignDoc

/-- The design's own service counts as declared. -/
def HasService (d : DesignDoc) (name : String) : Prop :=
  name ∈ (d.service :: d.services).map (·.name)

def HasType (d : DesignDoc) (name : String) : Prop :=
  (Primitive.ofName? name).isSome ∨ name ∈ d.types.map (·.name)

/-- All names that an expression contains are there, and its objects have what they require. -/
structure Resolvable (d : DesignDoc) (e : TypeExpr) : Prop where
  names : ∀ name, e.Contains (.name name) → d.HasType name
  required : ∀ fields required, e.Contains (.object fields required) →
    required ⊆ fields.map Prod.fst

end DesignDoc

def placed (place : String) (e : Option TypeExpr) : List (String × TypeExpr) :=
  e.toList.map fun e => (place, e)

def ToolDecl.placedExprs (toolset : String) (t : ToolDecl) : List (String × TypeExpr) :=
  let place := "toolsets." ++ toolset ++ ".tools." ++ t.name
  placed (place ++ ".args") t.args ++ placed (place ++ ".return") t.result ++
    (t.method.elim [] fun m =>
      placed (place ++ ".method.payload") m.payload ++ placed (place ++ ".method.result") m.result)
    ++ t.serverData.flatMap fun p => placed (place ++ ".server_data." ++ p.kind) p.schema

def ToolsetDecl.placedExprs (s : ToolsetDecl) : List (String × TypeExpr) :=
  s.tools.flatMap (·.placedExprs s.name)

namespace DesignDoc

def placedBodies (d : DesignDoc) : List (String × TypeExpr) :=
  d.types.map fun t => (typePlace t, t.type)

/-- All that the document names is there. -/
structure Closed (d : DesignDoc) : Prop where
  owners : ∀ t ∈ d.types, ∀ name, t.service = some name → d.HasService name
  bodies : ∀ p ∈ d.placedBodies, d.Resolvable p.2
  sources : ∀ s ∈ d.toolsets, ∀ name, s.sourceService = some name → d.HasService name
  tools : ∀ s ∈ d.toolsets, ∀ p ∈ s.placedExprs, d.Resolvable p.2

def serviceViolations (d : DesignDoc) (place : String) (name : Option String) :
    List ResolutionError :=
  (name.toList.filter fun name => (d.service? name).isNone).map (.unknownService place)

mutual
def exprViolations (d : DesignDoc) (place : String) : TypeExpr → List ResolutionError
  | .name name =>
    if (Primitive.ofName? name).isSome || (d.typeId? name).isSome then []
    else [.unknownType place name]
  | .object fields required =>
    d.memberViolations (fieldPlace place) fields ++
      (required.filter fun name => !(fields.map Prod.fst).contains name).map
        (.undeclaredField place)
  | .array element => d.exprViolations (place ++ "[]") element
  | .map key value =>
    d.exprViolations (place ++ "[key]") key ++ d.exprViolations (place ++ "[value]") value
  | .union members => d.memberViolations (memberPlace place) members
  | .withDefault type _ => d.exprViolations place type
def memberViolations (d : DesignDoc) (placeOf : String → String) :
    List (String × TypeExpr) → List ResolutionError
  | [] => []
  | (name, type) :: rest =>
    d.exprViolations (placeOf name) type ++ d.memberViolations placeOf rest
end

def violationsIn (d : DesignDoc) (exprs : List (String × TypeExpr)) : List ResolutionError :=
  exprs.flatMap fun p => d.exprViolations p.1 p.2

def toolsetViolations (d : DesignDoc) (s : ToolsetDecl) : List ResolutionError :=
  d.serviceViolations ("toolsets." ++ s.name) s.sourceService ++ d.violationsIn s.placedExprs

/-- All violations of a document in order. -/
def violations (d : DesignDoc) : List ResolutionError :=
  (d.types.flatMap fun t => d.serviceViolations (typePlace t) t.service) ++
    d.violationsIn d.placedBodies ++ d.toolsets.flatMap d.toolsetViolations

end DesignDoc

/-- The step fails with the first of the violations, and succeeds if there is none. -/
def Reports {α : Type} (m : Resolving α) (violations : List ResolutionError) : Prop :=
  match m with
  | .ok _ => violations = []
  | .error e => violations.head? = some e

section Reports

variable {α β : Type} {m : Resolving α} {g : α → Resolving β} {found more : List ResolutionError}

theorem Reports.bind (h : Reports m found) (next : ∀ x, m = .ok x → Reports (g x) more) :
    Reports (m >>= g) (found ++ more) := by
  cases m with
  | error e =>
    change (found ++ more).head? = some e
    rw [List.head?_append, show found.head? = some e from h]
    rfl
  | ok x =>
    obtain rfl : found = [] := h
    exact next x rfl

theorem Reports.map (h : Reports m found) (f : α → β) :
    Reports (m >>= fun x => pure (f x)) found := by
  have both : Reports (m >>= fun x => pure (f x)) (found ++ []) := h.bind fun _ _ => rfl
  rwa [List.append_nil] at both

theorem reports_mapM {f : α → Resolving β} {v : α → List ResolutionError} {xs : List α}
    (each : ∀ x ∈ xs, Reports (f x) (v x)) : Reports (xs.mapM f) (xs.flatMap v) := by
  induction xs with
  | nil => exact rfl
  | cons x xs ih =>
    rw [List.mapM_cons, List.flatMap_cons]
    refine (each x List.mem_cons_self).bind fun y _ => ?_
    exact (ih fun z mem => each z (List.mem_cons_of_mem _ mem)).map _

theorem Reports.error_iff {e : ResolutionError} (h : Reports m found) :
    m = .error e ↔ found.head? = some e := by
  cases m with
  | error e' =>
    have first : found.head? = some e' := h
    rw [first]
    simp
  | ok x =>
    obtain rfl : found = [] := h
    simp

theorem Reports.ok_iff (h : Reports m found) : (∃ x, m = .ok x) ↔ found = [] := by
  cases m with
  | error e =>
    have first : found.head? = some e := h
    simp only [reduceCtorEq, exists_false, false_iff]
    rintro rfl
    cases first
  | ok x => exact iff_of_true ⟨x, rfl⟩ h

end Reports

section Resolving

variable {d : DesignDoc}

theorem reports_serviceAt (place name : String) :
    Reports (d.serviceAt place name) (d.serviceViolations place (some name)) := by
  unfold DesignDoc.serviceAt DesignDoc.serviceViolations
  cases found : d.service? name with
  | none => simp [Reports, found]
  | some s => simp [Reports, found]

theorem reports_owner (t : TypeDecl) :
    Reports (d.owner t) (d.serviceViolations (typePlace t) t.service) := by
  unfold DesignDoc.owner
  cases t.service with
  | none => exact rfl
  | some name => exact (reports_serviceAt _ _).map _

theorem reports_named (place name : String) :
    Reports (d.named place name) (d.exprViolations place (.name name)) := by
  unfold DesignDoc.named DesignDoc.exprViolations
  cases primitive : Primitive.ofName? name with
  | some p => simp [Reports]
  | none =>
    cases declared : d.typeId? name with
    | none => simp [Reports]
    | some id => simp [Reports]

theorem reports_required (place : String) (members : List Member) (required : List String) :
    Reports
      (match required.find? fun name => !(members.map (·.name)).contains name with
        | some missing => .error (.undeclaredField place missing)
        | none => pure { type := some (.object members), required } : Resolving Attribute)
      ((required.filter fun name => !(members.map (·.name)).contains name).map
        (.undeclaredField place)) := by
  cases found : required.find? fun name => !(members.map (·.name)).contains name with
  | none =>
    have nothing : required.filter (fun name => !(members.map (·.name)).contains name) = [] :=
      List.filter_eq_nil_iff.mpr (List.find?_eq_none.mp found)
    rw [nothing]
    exact rfl
  | some missing =>
    change (List.map _ _).head? = _
    rw [List.head?_map, List.head?_filter, found]
    rfl

mutual
theorem reports_attribute (d : DesignDoc) (place : String) (e : TypeExpr) :
    Reports (d.attribute place e) (d.exprViolations place e) := by
  match e with
  | .name name =>
    rw [DesignDoc.attribute]
    exact reports_named place name
  | .object fields required =>
    rw [DesignDoc.attribute, DesignDoc.exprViolations]
    refine (reports_members d (fieldPlace place) fields).bind fun members resolved => ?_
    -- names are required of the members, which are named as the fields are
    rw [← members_names resolved]
    exact reports_required place members required
  | .array element =>
    rw [DesignDoc.attribute, DesignDoc.exprViolations]
    exact (reports_attribute d _ element).map _
  | .map key value =>
    rw [DesignDoc.attribute, DesignDoc.exprViolations]
    exact (reports_attribute d _ key).bind fun _ _ => (reports_attribute d _ value).map _
  | .union members =>
    rw [DesignDoc.attribute, DesignDoc.exprViolations]
    exact (reports_members d _ members).map _
  | .withDefault type default =>
    rw [DesignDoc.attribute, DesignDoc.exprViolations]
    exact (reports_attribute d _ type).map _
theorem reports_members (d : DesignDoc) (placeOf : String → String)
    (fields : List (String × TypeExpr)) :
    Reports (d.members placeOf fields) (d.memberViolations placeOf fields) := by
  match fields with
  | [] => exact rfl
  | (name, type) :: rest =>
    rw [DesignDoc.members, DesignDoc.memberViolations]
    exact (reports_attribute d _ type).bind fun _ _ => (reports_members d placeOf rest).map _
end

theorem violationsIn_append (left right : List (String × TypeExpr)) :
    d.violationsIn (left ++ right) = d.violationsIn left ++ d.violationsIn right :=
  List.flatMap_append

theorem violationsIn_placed (place : String) (e : TypeExpr) :
    d.violationsIn (placed place (some e)) = d.exprViolations place e := by
  simp [DesignDoc.violationsIn, placed]

theorem reports_attributeOr (place : String) (e : Option TypeExpr) :
    Reports (d.attributeOr place e) (d.violationsIn (placed place e)) := by
  cases e with
  | none => exact rfl
  | some e =>
    rw [violationsIn_placed]
    exact reports_attribute d place e

theorem reports_resolveMethod (place : String) (m : MethodDecl) :
    Reports (d.resolveMethod place m) (d.violationsIn
      (placed (place ++ ".method.payload") m.payload ++
        placed (place ++ ".method.result") m.result)) := by
  rw [violationsIn_append]
  exact (reports_attributeOr _ _).bind fun _ _ => (reports_attributeOr _ _).map _

theorem reports_resolveProjection (place : String) (p : ProjectionDecl) :
    Reports (d.resolveProjection place p)
      (d.violationsIn (placed (place ++ ".server_data." ++ p.kind) p.schema)) := by
  unfold DesignDoc.resolveProjection
  refine Reports.map ?_ _
  cases p.schema with
  | none => exact rfl
  | some e =>
    rw [violationsIn_placed, Option.mapM_some]
    exact (reports_attribute d _ e).map some

theorem reports_resolveTool (toolset : String) (t : ToolDecl) :
    Reports (d.resolveTool toolset t) (d.violationsIn (t.placedExprs toolset)) := by
  let place := "toolsets." ++ toolset ++ ".tools." ++ t.name
  have method : Reports (t.method.mapM (d.resolveMethod place)) (d.violationsIn
      (t.method.elim [] fun m => placed (place ++ ".method.payload") m.payload ++
        placed (place ++ ".method.result") m.result)) := by
    cases t.method with
    | none => exact rfl
    | some m =>
      rw [Option.mapM_some]
      exact (reports_resolveMethod place m).map some
  have serverData : Reports (t.serverData.mapM (d.resolveProjection place)) (d.violationsIn
      (t.serverData.flatMap fun p => placed (place ++ ".server_data." ++ p.kind) p.schema)) := by
    unfold DesignDoc.violationsIn
    rw [List.flatMap_assoc]
    exact reports_mapM fun p _ => reports_resolveProjection place p
  unfold ToolDecl.placedExprs
  rw [violationsIn_append, violationsIn_append, violationsIn_append, List.append_assoc,
    List.append_assoc]
  refine (reports_attributeOr _ t.args).bind fun _ _ => ?_
  refine (reports_attributeOr _ t.result).bind fun _ _ => ?_
  exact method.bind fun _ _ => serverData.map _

theorem reports_sourceService (s : ToolsetDecl) :
    Reports (d.sourceService s)
      (d.serviceViolations ("toolsets." ++ s.name) s.sourceService) := by
  unfold DesignDoc.sourceService
  cases s.sourceService with
  | none => exact rfl
  | some name => exact reports_serviceAt _ _

theorem reports_resolveToolset (s : ToolsetDecl) :
    Reports (d.resolveToolset s) (d.toolsetViolations s) := by
  have tools : Reports (s.tools.mapM (d.resolveTool s.name)) (d.violationsIn s.placedExprs) := by
    unfold DesignDoc.violationsIn ToolsetDecl.placedExprs
    rw [List.flatMap_assoc]
    exact reports_mapM fun t _ => reports_resolveTool s.name t
  exact (reports_sourceService s).bind fun _ _ => tools.map _

theorem reports_resolve (d : DesignDoc) : Reports d.resolve d.violations := by
  have owners : Reports (d.types.mapM d.owner) _ := reports_mapM fun t _ => reports_owner t
  have bodies : Reports (d.types.mapM fun t => d.attribute (typePlace t) t.type)
      (d.violationsIn d.placedBodies) := by
    unfold DesignDoc.violationsIn DesignDoc.placedBodies
    rw [List.flatMap_map]
    exact reports_mapM fun t _ => reports_attribute d (typePlace t) t.type
  have catalog : Reports d.resolveCatalog _ := owners.bind fun _ _ => bodies.map _
  exact catalog.bind fun _ _ => (reports_mapM fun s _ => reports_resolveToolset s).map _

end Resolving

section Closed

variable {d : DesignDoc}

theorem hasService_iff (d : DesignDoc) (name : String) :
    d.HasService name ↔ (d.service? name).isSome := by
  simp only [DesignDoc.HasService, DesignDoc.service?, Option.isSome_map, List.find?_isSome,
    List.mem_reverse, List.mem_map, beq_iff_eq]

theorem hasType_iff (d : DesignDoc) (name : String) :
    d.HasType name ↔ (Primitive.ofName? name).isSome || (d.typeId? name).isSome := by
  simp only [DesignDoc.HasType, DesignDoc.typeId?, List.findIdx?_isSome, List.mem_map,
    Bool.or_eq_true, List.any_eq_true, beq_iff_eq]

theorem serviceViolations_eq_nil {place : String} {name : Option String} :
    d.serviceViolations place name = [] ↔ ∀ n, name = some n → d.HasService n := by
  cases name with
  | none => exact iff_of_true rfl nofun
  | some name =>
    simp only [Option.some.injEq, forall_eq', hasService_iff]
    cases found : d.service? name <;> simp [DesignDoc.serviceViolations, found]

/-- What is asked of an expression is asked of itself and of its parts. -/
theorem resolvable_iff {e : TypeExpr} :
    d.Resolvable e ↔ (∀ name, e = .name name → d.HasType name) ∧
      (∀ fields required, e = .object fields required → required ⊆ fields.map Prod.fst) ∧
        ∀ x, e.Part x → d.Resolvable x := by
  constructor
  · intro h
    refine ⟨fun name same => ?_, fun fields required same => ?_, fun x part => ⟨?_, ?_⟩⟩
    · exact h.names name (same ▸ .refl)
    · exact h.required fields required (same ▸ .refl)
    · exact fun name below => h.names name (.head part below)
    · exact fun fields required below => h.required fields required (.head part below)
  · rintro ⟨name, object, parts⟩
    refine ⟨fun n below => ?_, fun fields required below => ?_⟩
    · rcases Relation.ReflTransGen.cases_head below with same | ⟨x, part, rest⟩
      · exact name n same
      · exact (parts x part).names n rest
    · rcases Relation.ReflTransGen.cases_head below with same | ⟨x, part, rest⟩
      · exact object fields required same
      · exact (parts x part).required fields required rest

theorem resolvable_name {name : String} : d.Resolvable (.name name) ↔ d.HasType name := by
  rw [resolvable_iff]
  constructor
  · exact fun h => h.1 name rfl
  · intro known
    refine ⟨fun n same => ?_, nofun, fun x part => nomatch part⟩
    cases same
    exact known

theorem resolvable_object {fields : List (String × TypeExpr)} {required : List String} :
    d.Resolvable (.object fields required) ↔
      (∀ p ∈ fields, d.Resolvable p.2) ∧ required ⊆ fields.map Prod.fst := by
  rw [resolvable_iff]
  constructor
  · exact fun h => ⟨fun p mem => h.2.2 _ (.field mem), h.2.1 fields required rfl⟩
  · rintro ⟨parts, own⟩
    refine ⟨nofun, fun fields' required' same => ?_, fun x part => ?_⟩
    · cases same
      exact own
    · cases part with
      | field mem => exact parts _ mem

theorem resolvable_array {element : TypeExpr} :
    d.Resolvable (.array element) ↔ d.Resolvable element := by
  rw [resolvable_iff]
  constructor
  · exact fun h => h.2.2 _ .element
  · intro part
    refine ⟨nofun, nofun, fun x step => ?_⟩
    cases step
    exact part

theorem resolvable_map {key value : TypeExpr} :
    d.Resolvable (.map key value) ↔ d.Resolvable key ∧ d.Resolvable value := by
  rw [resolvable_iff]
  constructor
  · exact fun h => ⟨h.2.2 _ .key, h.2.2 _ .value⟩
  · rintro ⟨keys, values⟩
    refine ⟨nofun, nofun, fun x step => ?_⟩
    cases step with
    | key => exact keys
    | value => exact values

theorem resolvable_union {members : List (String × TypeExpr)} :
    d.Resolvable (.union members) ↔ ∀ p ∈ members, d.Resolvable p.2 := by
  rw [resolvable_iff]
  constructor
  · exact fun h p mem => h.2.2 _ (.member mem)
  · intro parts
    refine ⟨nofun, nofun, fun x step => ?_⟩
    cases step with
    | member mem => exact parts _ mem

theorem resolvable_withDefault {type : TypeExpr} {default : Option Json.Value} :
    d.Resolvable (.withDefault type default) ↔ d.Resolvable type := by
  rw [resolvable_iff]
  constructor
  · exact fun h => h.2.2 _ .defaulted
  · intro part
    refine ⟨nofun, nofun, fun x step => ?_⟩
    cases step
    exact part

theorem undeclared_eq_nil {place : String} {names required : List String} :
    (required.filter fun name => !names.contains name).map (ResolutionError.undeclaredField place) =
      [] ↔ required ⊆ names := by
  simp [List.filter_eq_nil_iff, List.subset_def]

mutual
theorem exprViolations_eq_nil (d : DesignDoc) (place : String) (e : TypeExpr) :
    d.exprViolations place e = [] ↔ d.Resolvable e := by
  match e with
  | .name name =>
    rw [DesignDoc.exprViolations, resolvable_name, hasType_iff]
    split
    · rename_i known
      exact iff_of_true rfl known
    · rename_i unknown
      exact iff_of_false (List.cons_ne_nil _ _) unknown
  | .object fields required =>
    rw [DesignDoc.exprViolations, resolvable_object, List.append_eq_nil_iff, undeclared_eq_nil,
      memberViolations_eq_nil d _ fields]
  | .array element =>
    rw [DesignDoc.exprViolations, resolvable_array, exprViolations_eq_nil d _ element]
  | .map key value =>
    rw [DesignDoc.exprViolations, resolvable_map, List.append_eq_nil_iff,
      exprViolations_eq_nil d _ key, exprViolations_eq_nil d _ value]
  | .union members =>
    rw [DesignDoc.exprViolations, resolvable_union, memberViolations_eq_nil d _ members]
  | .withDefault type default =>
    rw [DesignDoc.exprViolations, resolvable_withDefault, exprViolations_eq_nil d _ type]
theorem memberViolations_eq_nil (d : DesignDoc) (placeOf : String → String)
    (fields : List (String × TypeExpr)) :
    d.memberViolations placeOf fields = [] ↔ ∀ p ∈ fields, d.Resolvable p.2 := by
  match fields with
  | [] => exact iff_of_true rfl nofun
  | (name, type) :: rest =>
    rw [DesignDoc.memberViolations, List.append_eq_nil_iff, List.forall_mem_cons,
      exprViolations_eq_nil d _ type, memberViolations_eq_nil d placeOf rest]
end

theorem violationsIn_eq_nil {exprs : List (String × TypeExpr)} :
    d.violationsIn exprs = [] ↔ ∀ p ∈ exprs, d.Resolvable p.2 := by
  simp only [DesignDoc.violationsIn, List.flatMap_eq_nil_iff, exprViolations_eq_nil]

theorem violations_eq_nil (d : DesignDoc) : d.violations = [] ↔ d.Closed := by
  simp only [DesignDoc.violations, DesignDoc.toolsetViolations, List.append_eq_nil_iff,
    List.flatMap_eq_nil_iff, serviceViolations_eq_nil, violationsIn_eq_nil]
  constructor
  · rintro ⟨⟨owners, bodies⟩, toolsets⟩
    exact ⟨owners, bodies, fun s mem => (toolsets s mem).1, fun s mem => (toolsets s mem).2⟩
  · intro h
    exact ⟨⟨h.owners, h.bodies⟩, fun s mem => ⟨h.sources s mem, h.tools s mem⟩⟩

end Closed

/-- Resolving succeeds just on closed documents, and fails with the first violation of any other. What
comes out is what the document writes. -/
theorem resolve_iff_closed (d : DesignDoc) :
    ((∃ design, d.resolve = .ok design) ↔ d.Closed) ∧
      (∀ design, d.resolve = .ok design → d.WritesDesign design) ∧
        ∀ e, d.resolve = .error e ↔ d.violations.head? = some e := by
  have reports := reports_resolve d
  refine ⟨?_, fun design => writesDesign, fun e => reports.error_iff⟩
  rw [reports.ok_iff, violations_eq_nil]

namespace Outline

def item : TypeExpr :=
  .object
    [("text", .name "string"), ("items", .array (.name "Item")),
     ("done", .withDefault (.withDefault (.name "boolean") (some .null)) (some (.bool false)))]
    ["text"]

def document : DesignDoc where
  service := { name := "notes" }
  services := [{ name := "search" }]
  types := [{ name := "Item", service := some "notes", type := item }]
  toolsets := [{
    name := "outline"
    sourceService := some "search"
    tools := [{
      name := "find"
      args := some (.object [("query", .name "string")] ["query"])
      result := some (.array (.name "Item"))
      method := some { name := "Find", result := some (.map (.name "string") (.name "Item")) }
      serverData := [{ kind := "first", field := "first", schema := some (.name "Item") }] }] }]

def orphaned : DesignDoc :=
  { document with types :=
      [{ name := "Page", type := .name "Book" },
       { name := "Item", service := some "archive", type := item }] }

theorem resolved_and_refused :
    (∃ design, document.resolve = .ok design ∧ document.WritesDesign design) ∧
      orphaned.resolve = .error (.unknownService "types.Item" "archive") ∧ ¬ orphaned.Closed := by
  obtain ⟨closed, writes, -⟩ := resolve_iff_closed document
  obtain ⟨closed', -, refused⟩ := resolve_iff_closed orphaned
  have sound : document.violations = [] := by decide +kernel
  have first : orphaned.violations.head? = some (.unknownService "types.Item" "archive") := by
    decide +kernel
  have stopped := (refused _).mpr first
  refine ⟨?_, stopped, fun whole => ?_⟩
  · obtain ⟨design, resolved⟩ := closed.mpr ((violations_eq_nil document).mp sound)
    exact ⟨design, resolved, writes design resolved⟩
  · obtain ⟨design, resolved⟩ := closed'.mpr whole
    rw [stopped] at resolved
    cases resolved

end Outline

end Toolbridge.Design
