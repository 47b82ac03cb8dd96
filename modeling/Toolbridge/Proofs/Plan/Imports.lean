import Toolbridge.Design.Loading
import Toolbridge.Proofs.Design.Closed
import Toolbridge.Proofs.Plan.Conversions

set_option autoImplicit false

namespace Toolbridge

/-- What a tool declares in its specs package, under which name. -/
inductive Tool.Declares (c : Catalog) (t : Tool) : String → Attribute → Prop where
  | payload : Declares c t (payloadTypeName t) t.args
  | result : Declares c t (resultTypeName t) t.result
  | serverData {p : Projection} {shape : Attribute} (mem : p ∈ t.serverData)
      (shaped : SpecsIndex.projectionShape? c t p = some shape) :
      Declares c t (serverDataTypeName t p) shape

namespace SpecsIndex

/-- The entries refer to declared types only, below the names given to them. -/
def Local (count : Nat) (index : SpecsIndex) : Prop :=
  ∀ e ∈ index.entries, e.2.unwrapped.Declared count

variable {c : Catalog} {count : Nat} {index : SpecsIndex} {name : String} {a : Attribute}
  {s : Toolset}

theorem mem_put {e : String × Attribute} {entries : List (String × Attribute)}
    (mem : e ∈ Keyed.put name a entries) : e = (name, a) ∨ e ∈ entries := by
  induction entries with
  | nil => exact .inl (List.mem_singleton.mp mem)
  | cons other rest ih =>
    obtain ⟨held, old⟩ := other
    unfold Keyed.put at mem
    split at mem
    · exact (List.mem_cons.mp mem).imp id (List.mem_cons_of_mem _)
    · rcases List.mem_cons.mp mem with rfl | later
      · exact .inr List.mem_cons_self
      · exact (ih later).imp id (List.mem_cons_of_mem _)

/-- Every entry is a local type that one of the tools declares. -/
def DeclaredBy (c : Catalog) (tools : List Tool) (index : SpecsIndex) : Prop :=
  ∀ e ∈ index.entries, ∃ t ∈ tools, ∃ name a,
    t.Declares c name a ∧ a.isEmpty = false ∧ e = (name, localType c name a)

theorem DeclaredBy.insert {tools : List Tool} {t : Tool} (h : index.DeclaredBy c tools)
    (mem : t ∈ tools) (declares : t.Declares c name a) :
    (index.insert c name a).DeclaredBy c tools := by
  unfold SpecsIndex.insert
  split
  · exact h
  · rename_i full
    intro e here
    rcases mem_put here with same | old
    · exact ⟨t, mem, name, a, declares, Bool.eq_false_iff.mpr full, same⟩
    · exact h e old

theorem ofToolset_declaredBy (c : Catalog) (s : Toolset) :
    (ofToolset c s).DeclaredBy c s.tools := by
  refine List.foldlRecOn s.tools _ nofun fun index h t mem => ?_
  refine List.foldlRecOn t.serverData _ ?_ fun index h p memP => ?_
  · exact (h.insert mem .payload).insert mem .result
  · unfold insertProjection
    split
    · rename_i shape shaped
      exact h.insert mem (.serverData memP shaped)
    · exact h

theorem mem_of_get? (found : index.get? name = some a) : (name, a) ∈ index.entries := by
  obtain ⟨before, after, split, -⟩ := List.lookup_eq_some_iff.mp found
  rw [split]
  exact List.mem_append_right _ List.mem_cons_self

theorem unwrapped_localType (declared : a.Declared count) :
    (localType c name a).unwrapped = a := by
  unfold localType
  split
  · exact declared.unwrapped
  · rfl

theorem declared_shape {t : Tool} {p : Projection} (closed : c.Closed)
    (declared : t.Declared c.types.length) (mem : p ∈ t.serverData)
    (shaped : projectionShape? c t p = some a) : a.Declared c.types.length := by
  unfold projectionShape? at shaped
  split at shaped
  · rename_i schema given
    exact declared.schemas p mem a (shaped ▸ given)
  · obtain ⟨m, bound, field⟩ := Option.bind_eq_some_iff.mp shaped
    exact closed.field? (declared.output m bound) field

theorem ofToolset_local (closed : c.Closed) (declared : ∀ t ∈ s.tools, t.Declared c.types.length) :
    (ofToolset c s).Local c.types.length := by
  intro e mem
  obtain ⟨t, memT, name, a, declares, -, rfl⟩ := ofToolset_declaredBy c s e mem
  have inside : a.Declared c.types.length := by
    cases declares with
    | payload => exact (declared t memT).args
    | result => exact (declared t memT).result
    | serverData memP shaped => exact declared_shape closed (declared t memT) memP shaped
  exact (unwrapped_localType inside).symm ▸ inside

theorem Local.get? (h : index.Local count) (found : index.get? name = some a) :
    a.unwrapped.Declared count :=
  h (name, a) (mem_of_get? found)

end SpecsIndex

namespace Planner

variable {s : Setting} {k : Converted}

structure Converted.Declared (count : Nat) (k : Converted) : Prop where
  source : k.source.unwrapped.Declared count
  target : k.target.unwrapped.Declared count

section Ends

variable {tool : Tool} {method : MethodBinding} {p : Projection}

theorem payloadConversion?_ends (made : payloadConversion? s tool method = some k) :
    s.index.get? (payloadTypeName tool) = some k.source ∧ k.target = method.payload := by
  obtain ⟨own, output, found, -, rfl⟩ := payloadConversion?_eq_some made
  exact ⟨found, rfl⟩

theorem resultConversion?_ends (made : resultConversion? s tool method = some k) :
    k.source = method.result ∧ s.index.get? (resultTypeName tool) = some k.target := by
  obtain ⟨own, output, found, -, rfl⟩ := resultConversion?_eq_some made
  exact ⟨rfl, found⟩

theorem serverDataConversion?_ends (made : serverDataConversion? s tool method p = some k) :
    s.catalog.field? method.result p.field = some k.source ∧
      s.index.get? (serverDataTypeName tool p) = some k.target := by
  obtain ⟨source, target, output, field, -, found, -, rfl⟩ := serverDataConversion?_eq_some made
  exact ⟨field, found⟩

theorem mem_toolConversions (mem : k ∈ toolConversions s tool) :
    ∃ method, tool.method = some method ∧
      (payloadConversion? s tool method = some k ∨ resultConversion? s tool method = some k ∨
        ∃ p ∈ tool.serverData, serverDataConversion? s tool method p = some k) := by
  unfold toolConversions at mem
  split at mem
  · cases mem
  · rename_i method bound
    refine ⟨method, bound, ?_⟩
    simpa only [List.mem_append, Option.mem_toList, Option.mem_def, List.mem_filterMap,
      or_assoc] using mem

end Ends

theorem declared_conversions {tools : List Tool} (closed : s.catalog.Closed)
    (own : s.index.Local s.catalog.types.length)
    (declared : ∀ t ∈ tools, t.Declared s.catalog.types.length) (mem : k ∈ conversions s tools) :
    k.Declared s.catalog.types.length := by
  obtain ⟨tool, memTool, mem⟩ := List.mem_flatMap.mp mem
  have each := declared tool memTool
  have plain : ∀ {a : Attribute}, a.Declared s.catalog.types.length →
      a.unwrapped.Declared s.catalog.types.length := fun h => h.unwrapped.symm ▸ h
  obtain ⟨method, bound, payload | result | ⟨p, -, serverData⟩⟩ := mem_toolConversions mem
  · obtain ⟨found, target⟩ := payloadConversion?_ends payload
    exact ⟨own.get? found, target ▸ plain (each.payload method bound)⟩
  · obtain ⟨source, found⟩ := resultConversion?_ends result
    exact ⟨source ▸ plain (each.output method bound), own.get? found⟩
  · obtain ⟨field, found⟩ := serverDataConversion?_ends serverData
    exact ⟨plain (closed.field? (each.output method bound) field), own.get? found⟩

end Planner

def TypeLocation.asImport (l : TypeLocation) : Import := ⟨l.path, some l.package⟩

namespace UserType

variable {t : UserType} {l : TypeLocation} {root path : String}

theorem import?_located : t.import? root = some l.asImport ↔ t.location = some l := by
  unfold import?
  cases placed : t.location with
  | none => cases t.service <;> simp [TypeLocation.asImport]
  | some other =>
    obtain ⟨path, package⟩ := l
    obtain ⟨otherPath, otherPackage⟩ := other
    simp [TypeLocation.asImport]

theorem import?_generated (h : t.import? root = some ⟨path, none⟩) :
    t.location = none ∧ ∃ owner, t.service = some owner ∧ joinImportPath root owner = path := by
  unfold import? at h
  cases placed : t.location with
  | some other =>
    rw [placed] at h
    simp at h
  | none =>
    rw [placed] at h
    cases owned : t.service with
    | none =>
      rw [owned] at h
      cases h
    | some owner =>
      rw [owned] at h
      simp only [Option.some.injEq, Import.mk.injEq, and_true] at h
      exact ⟨rfl, owner, rfl, h⟩

end UserType

namespace Planner

variable {s : Setting} {k : Converted} {service : Service} {p : Plan}

/-- The attributes from which the functions of a plan are made, two for each. -/
def ends (s : Setting) : List Attribute :=
  (conversions s s.toolset.tools).flatMap fun k => [k.source, k.target]

/-- Types in sight are generated into a package of that path, or the source service is. -/
def GeneratedAt (s : Setting) (service : Service) (path : String) : Prop :=
  service.importPath s.root = path ∨
    ∃ a ∈ ends s, ∃ t owner, s.catalog.InSight a t ∧ t.location = none ∧
      t.service = some owner ∧ joinImportPath s.root owner = path

/-- The package of the source service leads the imports of a plan. Those of located types are there
just if such a type is in sight of an end of a conversion, generated packages aside; if no declared
type bears the name that the end is given, everything that can be reached from it is in sight. -/
structure ImportsInSight (s : Setting) (service : Service) (p : Plan) : Prop where
  leads : p.imports.head? = some ⟨service.importPath s.root, some s.servicePackage⟩
  functions : p.functions = (conversions s s.toolset.tools).map (·.function)
  inSight : ∀ a ∈ ends s, ∀ t l, s.catalog.InSight a t → t.location = some l →
    l.asImport ∈ p.imports
  reached : ∀ a ∈ ends s, (∀ u ∈ s.catalog.types, u.name ∉ a.givenNames) → ∀ x t l,
    s.catalog.Reaches a x → s.catalog.userType? x = some t → t.location = some l →
      l.asImport ∈ p.imports
  only : ∀ l, l.asImport ∈ p.imports →
    (∃ a ∈ ends s, ∃ t, s.catalog.InSight a t ∧ t.location = some l) ∨
      GeneratedAt s service l.path

theorem mem_ends {a : Attribute} :
    a ∈ ends s ↔ ∃ k ∈ conversions s s.toolset.tools, a = k.source ∨ a = k.target := by
  simp only [ends, List.mem_flatMap, List.mem_cons, List.not_mem_nil, or_false]

theorem mem_imports {i : Import} :
    i ∈ (conversions s s.toolset.tools).flatMap (·.imports s) ↔
      ∃ a ∈ ends s, i ∈ s.catalog.collectImports a s.root := by
  simp only [ends, Converted.imports, List.mem_flatMap, List.mem_append, List.mem_cons,
    List.not_mem_nil, or_false]
  constructor
  · rintro ⟨k, mem, source | target⟩
    · exact ⟨k.source, ⟨k, mem, .inl rfl⟩, source⟩
    · exact ⟨k.target, ⟨k, mem, .inr rfl⟩, target⟩
  · rintro ⟨a, ⟨k, mem, rfl | rfl⟩, found⟩
    · exact ⟨k, mem, .inl found⟩
    · exact ⟨k, mem, .inr found⟩

/-- A located type below an end is below the attribute that is given a name in place. -/
theorem reaches_unwrapped {c : Catalog} {a x : Attribute} {t : UserType} (path : c.Reaches a x)
    (type : c.userType? x = some t) (placed : t.location ≠ none) : c.Reaches a.unwrapped x := by
  obtain ⟨shape, required, default⟩ := a
  cases shape with
  | none => exact path
  | some shape =>
    cases shape with
    | named name body =>
      rcases Relation.ReflTransGen.cases_head path with rfl | ⟨y, step, rest⟩
      · rw [Catalog.userType?_named rfl] at type
        obtain rfl := Option.some.inj type
        exact absurd rfl placed
      · rw [Catalog.part_of_userType (Catalog.userType?_named rfl) step] at rest
        exact rest
    | _ => exact path

section Resolved

variable (closed : s.catalog.Closed)
  (declared : ∀ a ∈ ends s, a.unwrapped.Declared s.catalog.types.length)
include closed declared

theorem mem_collected {a : Attribute} {i : Import} (mem : a ∈ ends s) :
    i ∈ s.catalog.collectImports a s.root ↔
      ∃ t, s.catalog.InSight a t ∧ t.import? s.root = some i :=
  Catalog.mem_collectImports (closed.region a.givenNames) (declared a mem)

theorem inSight_of_unclaimed {a x : Attribute} {t : UserType} (mem : a ∈ ends s)
    (unclaimed : ∀ u ∈ s.catalog.types, u.name ∉ a.givenNames) (path : s.catalog.Reaches a x)
    (type : s.catalog.userType? x = some t) (placed : t.location ≠ none) :
    s.catalog.InSight a t := by
  refine Catalog.inSight_of_reaches (reaches_unwrapped path type placed) type ?_
  intro y u below type'
  have here := closed.reaches (declared a mem) below
  obtain ⟨id, inside, rfl⟩ := Catalog.Attribute.Declared.userType? here type'
  rw [Catalog.get_eq_getElem inside]
  exact unclaimed _ (List.getElem_mem inside)

theorem importsInSight (made : MadeOf s service p) : ImportsInSight s service p := by
  obtain ⟨leads, there⟩ := ImportBlock.assemble_holds made.imports
  have inSight : ∀ a ∈ ends s, ∀ t l, s.catalog.InSight a t → t.location = some l →
      l.asImport ∈ p.imports := by
    intro a mem t l seen placed
    have asked : l.asImport ∈ s.catalog.collectImports a s.root :=
      (mem_collected closed declared mem).mpr ⟨t, seen, UserType.import?_located.mpr placed⟩
    exact there l.path l.package (PendingImports.asks_addAll (mem_imports.mpr ⟨a, mem, asked⟩))
  refine ⟨leads, made.functions, inSight, ?_, ?_⟩
  · intro a mem unclaimed x t l path type placed
    have elsewhere : t.location ≠ none := by
      rw [placed]
      nofun
    exact inSight a mem t l
      (inSight_of_unclaimed closed declared mem unclaimed path type elsewhere) placed
  · intro l mem
    rcases ImportBlock.assemble_only made.imports mem with first | asked | nameless
    · rw [TypeLocation.asImport, Import.mk.injEq] at first
      exact .inr (.inl first.1.symm)
    · obtain ⟨a, memA, collected⟩ := mem_imports.mp asked
      obtain ⟨t, seen, imported⟩ := (mem_collected closed declared memA).mp collected
      exact .inl ⟨a, memA, t, seen, UserType.import?_located.mp imported⟩
    · obtain ⟨a, memA, collected⟩ := mem_imports.mp nameless
      obtain ⟨t, seen, imported⟩ := (mem_collected closed declared memA).mp collected
      obtain ⟨unplaced, owner, owned, same⟩ := UserType.import?_generated imported
      exact .inr (.inr ⟨a, memA, t, owner, seen, unplaced, owned, same⟩)

end Resolved

end Planner

namespace Design

def setting (design : Design) (root : String) (s : Toolset) (service : Service) : Planner.Setting :=
  ⟨design.catalog, Conversion.engine design.catalog, root, s, service.package,
    SpecsIndex.ofToolset design.catalog s⟩

theorem design_resolve {d : DesignDoc} {design : Design} (h : d.design = .ok design) :
    d.resolve = .ok design := by
  unfold DesignDoc.design at h
  cases resolved : d.resolve with
  | error e =>
    rw [resolved] at h
    cases h
  | ok other =>
    rw [resolved] at h
    cases h
    rfl

/-- A plan of a resolved design imports what is in sight. -/
theorem located_types_imported {d : DesignDoc} {design : Design} {root : String} {s : Toolset}
    {p : Plan} (keyed : (d.types.map (·.name)).Nodup) (resolved : d.design = .ok design)
    (mem : s ∈ design.toolsets)
    (planned : (planToolset design.catalog root s).outcome = .ok (some p)) :
    ∃ service, s.sourceService = some service ∧
      Planner.ImportsInSight (design.setting root s service) service p := by
  obtain ⟨closed, tools⟩ := resolve_closed keyed (design_resolve resolved)
  obtain ⟨service, given, made⟩ :=
    Planner.planWith_ok (Conversion.engine_steady design.catalog) planned
  refine ⟨service, given, Planner.importsInSight closed (fun a here => ?_) made⟩
  have own := SpecsIndex.ofToolset_local closed (tools s mem)
  obtain ⟨k, memK, same⟩ := Planner.mem_ends.mp here
  have ends := Planner.declared_conversions closed own (tools s mem) memK
  rcases same with rfl | rfl
  · exact ends.source
  · exact ends.target

/-! A tool `fetch` takes pages whose type is placed in a package of its own. The arguments are given
the name `FetchPayload`. -/
namespace Fetching

def place : TypeLocation := ⟨"example.com/shared/docs", "docs"⟩

def document (located : String) : DesignDoc where
  service := { name := "alpha" }
  types := [
    { name := located, location := some place, type := .object [("id", .name "string")] ["id"] },
    { name := "Doc", service := some "alpha", type := .object [("id", .name "string")] ["id"] }]
  toolsets := [
    { name := "alpha.ops",
      specsDir := some "gen/docs",
      tools := [
        { name := "fetch",
          args := some (.array (.name located)),
          method := some
            { name := "Fetch",
              payload := some (.array (.name "Doc")),
              payloadRef := some "[]*alpha.Doc",
              resultRef := some "string" } }] }]

def shape : Attribute :=
  { type := some (.object [⟨"id", .ofType (.primitive .string)⟩]), required := ["id"] }

def catalog (located : String) : Catalog :=
  ⟨[{ name := located, location := some place, body := shape },
    { name := "Doc", service := some "alpha", body := shape }]⟩

def method : MethodBinding :=
  { name := "Fetch", payload := .ofType (.array (.ofType (.user 1))), result := {},
    payloadRef := some "[]*alpha.Doc", resultRef := some "string" }

def pages : Attribute := .ofType (.array (.ofType (.user 0)))

def tool : Tool :=
  { name := "fetch", qualifiedName := "alpha.ops.fetch", args := pages, method := some method }

def alpha : Service := ⟨"alpha", "alpha"⟩

def toolset : Toolset :=
  { name := "alpha.ops", specsDir := some "gen/docs", specsPackage := "ops",
    sourceService := some alpha, tools := [tool] }

def design (located : String) : Design :=
  { service := alpha, catalog := catalog located, toolsets := [toolset] }

def setting (located : String) : Planner.Setting :=
  (design located).setting "example.com/gen" toolset alpha

def summary? (located : String) : Option (List Import × Nat) :=
  (planToolset (catalog located) "example.com/gen" toolset).outcome.toOption.join.map fun p =>
    (p.imports, p.functions.length)

theorem planned_of_summary {located : String} {imports : List Import} {count : Nat}
    (h : summary? located = some (imports, count)) :
    ∃ p, (planToolset (catalog located) "example.com/gen" toolset).outcome = .ok (some p) ∧
      p.imports = imports ∧ p.functions.length = count := by
  unfold summary? at h
  obtain ⟨p, planned, same⟩ := Planner.planned_of_summary h
  obtain ⟨rfl, rfl⟩ := Prod.mk.injEq .. ▸ same
  exact ⟨p, planned, rfl, rfl⟩

theorem page_imported :
    ((document "Page").types.map (·.name)).Nodup ∧ (document "Page").design = .ok (design "Page") ∧
      ∃ p, (planToolset (catalog "Page") "example.com/gen" toolset).outcome = .ok (some p) ∧
        place.asImport ∈ p.imports ∧ Planner.ImportsInSight (setting "Page") alpha p := by
  have keyed : ((document "Page").types.map (·.name)).Nodup := by decide
  have resolved : (document "Page").design = .ok (design "Page") := rfl
  have summary : summary? "Page" =
      some ([⟨"example.com/gen/alpha", some "alpha"⟩, place.asImport], 1) := by decide +kernel
  obtain ⟨p, planned, same, -⟩ := planned_of_summary summary
  refine ⟨keyed, resolved, p, planned, ?_, ?_⟩
  · rw [same]
    exact List.mem_cons_of_mem _ List.mem_cons_self
  · obtain ⟨service, given, inSight⟩ :=
      located_types_imported keyed resolved List.mem_cons_self planned
    obtain rfl := Option.some.inj given
    exact inSight

theorem index_eq (located : String) : (setting located).index =
    ⟨[(payloadTypeName tool, .ofType (.named (payloadTypeName tool) pages))]⟩ := rfl

def named : Attribute := .ofType (.named "FetchPayload" pages)

theorem get?_payloadTypeName (located : String) :
    (setting located).index.get? (payloadTypeName tool) = some named := by
  have given : payloadTypeName tool = "FetchPayload" := by decide +kernel
  rw [index_eq, given]
  rfl

theorem named_mem_ends {located : String} {p : Plan}
    (planned : (planToolset (catalog located) "example.com/gen" toolset).outcome = .ok (some p))
    (something : 0 < p.functions.length) : named ∈ Planner.ends (setting located) := by
  obtain ⟨service, given, made⟩ :=
    Planner.planWith_ok (Conversion.engine_steady (catalog located)) planned
  obtain rfl := Option.some.inj given
  rw [made.functions, List.length_map] at something
  obtain ⟨k, mem⟩ := List.exists_mem_of_length_pos something
  refine Planner.mem_ends.mpr ⟨k, mem, .inl ?_⟩
  obtain ⟨t, memTool, mem⟩ := List.mem_flatMap.mp mem
  obtain rfl := List.mem_singleton.mp memTool
  obtain ⟨m, bound, payload | result | ⟨projection, declared, -⟩⟩ := Planner.mem_toolConversions mem
  · obtain ⟨found, -⟩ := Planner.payloadConversion?_ends payload
    exact Option.some.inj ((get?_payloadTypeName located).symm.trans found)
  · obtain rfl := Option.some.inj bound
    cases result
  · cases declared

theorem fetchPayload_not_imported :
    ((document "FetchPayload").types.map (·.name)).Nodup ∧
      (document "FetchPayload").checkNames = .ok () ∧
      (document "FetchPayload").design = .ok (design "FetchPayload") ∧
      ∃ p, (planToolset (catalog "FetchPayload") "example.com/gen" toolset).outcome = .ok (some p) ∧
        ∃ a ∈ Planner.ends (setting "FetchPayload"), ∃ x t,
          (catalog "FetchPayload").Reaches a x ∧ (catalog "FetchPayload").userType? x = some t ∧
            t.location = some place ∧ place.asImport ∉ p.imports := by
  have summary : summary? "FetchPayload" = some ([⟨"example.com/gen/alpha", some "alpha"⟩], 1) := by
    decide +kernel
  obtain ⟨p, planned, same, count⟩ := planned_of_summary summary
  have mem := named_mem_ends planned (count ▸ Nat.one_pos)
  refine ⟨by decide, rfl, rfl, p, planned, named, mem, .ofType (.user 0), _, ?_, rfl, rfl, ?_⟩
  · exact (Catalog.Reaches.refl.part (.body rfl)).part (.element rfl)
  · rw [same]
    decide

end Fetching

end Design
end Toolbridge
