import Toolbridge.Proofs.Compatibility.Decides
import Toolbridge.Proofs.Plan.Requests

set_option autoImplicit false

namespace Toolbridge

/-- A name is not given to the empty attribute. -/
def Attribute.FullInside (a : Attribute) : Prop :=
  a.unwrapped = a ∨ a.unwrapped.isEmpty = false

namespace Catalog

variable {c : Catalog} {a x : Attribute} {t u : UserType}

/-- No declared type below the attribute bears the name that it is given in place. -/
def Unclaimed (c : Catalog) (a : Attribute) : Prop :=
  ∀ x t, c.Reaches a.unwrapped x → c.userType? x = some t → t.name ∉ a.givenNames

theorem reaches_unwrapped_or_self (path : c.Reaches a x) : x = a ∨ c.Reaches a.unwrapped x := by
  rcases Relation.ReflTransGen.cases_head path with rfl | ⟨y, step, rest⟩
  · exact .inl rfl
  · obtain ⟨type, required, default⟩ := a
    cases type with
    | none => exact .inr path
    | some type =>
      cases type with
      | named name body =>
        rw [part_of_userType (userType?_named rfl) step] at rest
        exact .inr rest
      | _ => exact .inr path

theorem userType?_given (type : c.userType? a = some t) :
    a.unwrapped = a ∨ t.name ∈ a.givenNames ∧ t.body = a.unwrapped := by
  rcases type_eq_of_userType? type with ⟨id, shape, rfl⟩ | ⟨name, body, shape, rfl⟩
  · obtain ⟨_, required, default⟩ := a
    obtain rfl := shape
    exact .inl rfl
  · obtain ⟨_, required, default⟩ := a
    obtain rfl := shape
    exact .inr ⟨List.mem_cons_self, rfl⟩

section Ends

variable (closed : c.Closed) (declared : a.unwrapped.Declared c.types.length)
include closed declared

theorem distinctNames_of_unclaimed (unclaimed : c.Unclaimed a) : c.DistinctNames a := by
  have region := closed.region []
  have inside : ∀ {x : Attribute} {t : UserType}, c.Reaches a x → c.userType? x = some t →
      c.Reaches a.unwrapped x ∨ (x = a ∧ t.name ∈ a.givenNames) := by
    intro x t path type
    rcases reaches_unwrapped_or_self path with rfl | below
    · rcases userType?_given type with same | ⟨given, -⟩
      · rw [same]
        exact .inl .refl
      · exact .inr ⟨rfl, given⟩
    · exact .inl below
  intro x y t u pathX pathY typeX typeY same
  rcases inside pathX typeX with left | ⟨left, given⟩
  · rcases inside pathY typeY with right | ⟨-, given⟩
    · exact region.apart x y t u (closed.reaches declared left) (closed.reaches declared right)
        typeX typeY same List.not_mem_nil
    · exact absurd (same ▸ given) (unclaimed x t left typeX)
  · rcases inside pathY typeY with right | ⟨right, -⟩
    · exact absurd (same ▸ given) (unclaimed y u right typeY)
    · rw [left] at typeX
      rw [right] at typeY
      exact Option.some.inj (typeX.symm.trans typeY)

theorem noEmptyBody_of_full (full : ∀ t ∈ c.types, t.body.isEmpty = false)
    (given : a.FullInside) : c.NoEmptyBody a := by
  have below : ∀ {x : Attribute} {t : UserType}, c.Reaches a.unwrapped x →
      c.userType? x = some t → t.body.isEmpty = false := by
    intro x t path type
    obtain ⟨id, known, rfl⟩ :=
      Attribute.Declared.userType? (closed.reaches declared path) type
    rw [get_eq_getElem known]
    exact full _ (List.getElem_mem known)
  intro x t path type
  have own : a.unwrapped = a → t.body.isEmpty = false := by
    intro same
    rw [same] at below
    exact below path type
  rcases reaches_unwrapped_or_self path with rfl | later
  · rcases userType?_given type with same | ⟨-, body⟩
    · exact own same
    · rcases given with same | given
      · exact own same
      · rw [body]
        exact given
  · exact below later type

end Ends

end Catalog

namespace SpecsIndex

variable {c : Catalog} {index : SpecsIndex} {name : String} {a : Attribute}

def Full (index : SpecsIndex) : Prop := ∀ e ∈ index.entries, e.2.unwrapped.isEmpty = false

theorem isEmpty_localType (full : a.isEmpty = false) :
    (localType c name a).unwrapped.isEmpty = false := by
  unfold localType
  split
  · rename_i plain
    obtain ⟨type, required, default⟩ := a
    cases type with
    | none => exact full
    | some type =>
      cases type with
      | named given body => simp [Attribute.isPrimitive, Attribute.primitive?, Catalog.location?,
          Catalog.userType?] at plain
      | _ => exact full
  · exact full

theorem ofToolset_full (c : Catalog) (s : Toolset) : (ofToolset c s).Full := by
  intro e mem
  obtain ⟨t, memT, name, a, -, full, rfl⟩ := ofToolset_declaredBy c s e mem
  exact isEmpty_localType full

theorem Full.get? (h : index.Full) (found : index.get? name = some a) : a.FullInside :=
  .inr (h (name, a) (mem_of_get? found))

end SpecsIndex

namespace Planner

open Compatibility (AgreesWithin Grounded)

variable {s : Setting} {k : Converted} {p : Plan} {service : Service}

/-- The ends agree under assumptions on pairs of names that hold of two types of these names, and
they are equivalent in shape if the names that they are given are their own. -/
structure Converted.KeepsShape (c : Catalog) (k : Converted) : Prop where
  byName : ∃ S n, AgreesWithin c S n k.source k.target ∧
    ∀ pair ∈ S, Grounded c S k.source k.target pair
  byShape : c.Unclaimed k.source → c.Unclaimed k.target → c.NoAliasCycle k.source →
    c.NoAliasCycle k.target → c.ShapeEquivalent k.source k.target

structure ShapesKept (s : Setting) (p : Plan) : Prop where
  functions : p.functions = (conversions s s.toolset.tools).map (·.function)
  kept : ∀ k ∈ conversions s s.toolset.tools, k.KeepsShape s.catalog

theorem fullInside_conversions {tools : List Tool} {count : Nat} (full : s.index.Full)
    (closed : s.catalog.Closed) (count_eq : s.catalog.types.length = count)
    (declared : ∀ t ∈ tools, t.Declared count) (mem : k ∈ conversions s tools) :
    k.source.FullInside ∧ k.target.FullInside := by
  obtain rfl := count_eq
  obtain ⟨tool, memTool, mem⟩ := List.mem_flatMap.mp mem
  have each := declared tool memTool
  obtain ⟨method, bound, payload | result | ⟨p, -, serverData⟩⟩ := mem_toolConversions mem
  · obtain ⟨found, target⟩ := payloadConversion?_ends payload
    exact ⟨full.get? found, .inl (target ▸ (each.payload method bound).unwrapped)⟩
  · obtain ⟨source, found⟩ := resultConversion?_ends result
    exact ⟨.inl (source ▸ (each.output method bound).unwrapped), full.get? found⟩
  · obtain ⟨field, found⟩ := serverDataConversion?_ends serverData
    exact ⟨.inl (closed.field? (each.output method bound) field).unwrapped, full.get? found⟩

theorem keepsShape (closed : s.catalog.Closed)
    (filled : ∀ t ∈ s.catalog.types, t.body.isEmpty = false) (full : s.index.Full)
    (own : s.index.Local s.catalog.types.length)
    (declared : ∀ t ∈ s.toolset.tools, t.Declared s.catalog.types.length)
    (mem : k ∈ conversions s s.toolset.tools) : k.KeepsShape s.catalog := by
  have ends := declared_conversions closed own declared mem
  obtain ⟨fullSource, fullTarget⟩ := fullInside_conversions full closed rfl declared mem
  obtain ⟨r, asked⟩ := asked_of_mem mem
  obtain ⟨leftLabel, rightLabel, compatible⟩ := asked.answered.compatible
  obtain ⟨S, agreed⟩ := Compatibility.checkCompatible_eq_ok.mp compatible
  have learned := Compatibility.learned_of_agreed agreed
  refine ⟨⟨S, _, learned.agrees, fun pair known => ?_⟩, ?_⟩
  · exact (learned.grounded pair known).resolve_left List.not_mem_nil
  · intro unclaimedSource unclaimedTarget acyclicSource acyclicTarget
    have regularSource : s.catalog.Regular k.source :=
      ⟨acyclicSource, Catalog.distinctNames_of_unclaimed closed ends.source unclaimedSource,
        Catalog.noEmptyBody_of_full closed ends.source filled fullSource⟩
    have regularTarget : s.catalog.Regular k.target :=
      ⟨acyclicTarget, Catalog.distinctNames_of_unclaimed closed ends.target unclaimedTarget,
        Catalog.noEmptyBody_of_full closed ends.target filled fullTarget⟩
    exact (Compatibility.accepted_of_agreed regularSource regularTarget agreed).shapeEquivalent

end Planner

namespace Design

theorem filled_resolved {d : DesignDoc} {design : Design} (h : d.resolve = .ok design) :
    ∀ t ∈ design.catalog.types, t.body.isEmpty = false := by
  intro t mem
  obtain ⟨decl, -, type⟩ := exists_of_forall₂ (writesDesign h).types mem
  exact type.body.isEmpty

/-- The conversions of a plan keep the shapes of what they convert. -/
theorem shapes_kept {d : DesignDoc} {design : Design} {root : String} {s : Toolset} {p : Plan}
    (keyed : (d.types.map (·.name)).Nodup) (resolved : d.design = .ok design)
    (mem : s ∈ design.toolsets)
    (planned : (planToolset design.catalog root s).outcome = .ok (some p)) :
    ∃ service, s.sourceService = some service ∧
      Planner.ShapesKept (design.setting root s service) p := by
  obtain ⟨service, given, known⟩ := planned_of_resolved keyed resolved mem planned
  have filled := filled_resolved (design_resolve resolved)
  have full := SpecsIndex.ofToolset_full design.catalog s
  refine ⟨service, given, known.made.functions, fun k here => ?_⟩
  exact Planner.keepsShape known.closed filled full known.own known.tools here

/-! The type of a field of the arguments bears the name that the arguments are given. A document that
holds a document of its own type is what they are to be converted into. -/
namespace Mistaking

def document : DesignDoc where
  service := { name := "alpha" }
  types := [
    { name := "FetchPayload", type := .object [("id", .name "string")] ["id"] },
    { name := "Doc", service := some "alpha", type := .object [("next", .name "Doc")] [] }]
  toolsets := [
    { name := "alpha.ops",
      specsDir := some "gen/docs",
      tools := [
        { name := "fetch",
          args := some (.object [("next", .name "FetchPayload")] []),
          method := some
            { name := "Fetch",
              payload := some (.name "Doc"),
              payloadRef := some "*alpha.Doc",
              resultRef := some "string" } }] }]

def holding (id : TypeId) : Attribute := .ofType (.object [⟨"next", .ofType (.user id)⟩])

def record : Attribute :=
  { type := some (.object [⟨"id", .ofType (.primitive .string)⟩]), required := ["id"] }

def catalog : Catalog :=
  ⟨[{ name := "FetchPayload", body := record },
    { name := "Doc", service := some "alpha", body := holding 1 }]⟩

def method : MethodBinding :=
  { name := "Fetch", payload := .ofType (.user 1), result := {}, payloadRef := some "*alpha.Doc",
    resultRef := some "string" }

def tool : Tool :=
  { name := "fetch", qualifiedName := "alpha.ops.fetch", args := holding 0, method := some method }

def alpha : Service := ⟨"alpha", "alpha"⟩

def toolset : Toolset :=
  { name := "alpha.ops", specsDir := some "gen/docs", specsPackage := "ops",
    sourceService := some alpha, tools := [tool] }

def design : Design := { service := alpha, catalog, toolsets := [toolset] }

def setting : Planner.Setting := design.setting "example.com/gen" toolset alpha

def named : Attribute := .ofType (.named "FetchPayload" (holding 0))

theorem get?_payloadTypeName : setting.index.get? (payloadTypeName tool) = some named := by
  have given : payloadTypeName tool = "FetchPayload" := by decide +kernel
  rw [given]
  rfl

/-- The field `next` has an identifier on one side and another document on the other. -/
theorem not_shapeEquivalent : ¬ catalog.ShapeEquivalent named (.ofType (.user 1)) := by
  rintro ⟨R, related, bisimulation⟩
  have outer : Compatibility.SameTop R (holding 0) (holding 1) := bisimulation _ _ related
  cases outer with
  | object left right names required fields =>
    cases left
    cases right
    have inner : R (.ofType (.user 0)) (.ofType (.user 1)) :=
      fields _ List.mem_cons_self _ rfl
    have apart : Compatibility.SameTop R record (holding 1) := bisimulation _ _ inner
    cases apart with
    | object left right names required fields =>
      cases left
      cases right
      have missing := (names "id").mp List.mem_cons_self
      exact absurd missing (by decide)
    | _ left => cases left
  | _ left => cases left

def converted? : Option String := do
  let k ← Planner.payloadConversion? setting tool method
  let p ← (planToolset catalog "example.com/gen" toolset).outcome.toOption.join
  if k.function ∈ p.functions then pure k.function.name else none

theorem docs_mistaken :
    (document.types.map (·.name)).Nodup ∧ document.checkNames = .ok () ∧
      document.design = .ok design ∧
      ∃ p, (planToolset catalog "example.com/gen" toolset).outcome = .ok (some p) ∧
        ∃ k ∈ Planner.conversions setting toolset.tools, k.function ∈ p.functions ∧
          ¬ catalog.ShapeEquivalent k.source k.target := by
  have summary : converted? = some "InitFetchMethodPayload" := by decide +kernel
  unfold converted? at summary
  obtain ⟨k, made, summary⟩ := Option.bind_eq_some_iff.mp summary
  obtain ⟨source, target⟩ := Planner.payloadConversion?_ends made
  have left : k.source = named := Option.some.inj (source.symm.trans get?_payloadTypeName)
  have mem : k ∈ Planner.conversions setting toolset.tools :=
    (Planner.Asked.payload List.mem_cons_self rfl made).mem
  obtain ⟨p, joined, here⟩ := Option.bind_eq_some_iff.mp summary
  have planned := Planner.planned_of_join joined
  refine ⟨by decide, rfl, rfl, p, planned, k, mem, ?_, ?_⟩
  · by_contra absent
    rw [if_neg absent] at here
    cases here
  · rw [left, target]
    exact not_shapeEquivalent

end Mistaking

/-! The pages again, whose type is not of the name that the arguments are given. -/
namespace Fetching

def reference (id : TypeId) : Attribute := .ofType (.user id)

theorem ends_of_mem {located : String} {k : Planner.Converted}
    (mem : k ∈ Planner.conversions (setting located) toolset.tools) :
    k.source = named ∧ k.target = method.payload := by
  obtain ⟨t, memTool, mem⟩ := List.mem_flatMap.mp mem
  obtain rfl := List.mem_singleton.mp memTool
  obtain ⟨m, bound, payload | result | ⟨projection, declared, -⟩⟩ := Planner.mem_toolConversions mem
  · obtain rfl := Option.some.inj bound
    obtain ⟨found, target⟩ := Planner.payloadConversion?_ends payload
    exact ⟨Option.some.inj (found.symm.trans (get?_payloadTypeName located)), target⟩
  · obtain rfl := Option.some.inj bound
    cases result
  · cases declared

def below : List Attribute :=
  [pages, method.payload, reference 0, reference 1, shape, .ofType (.primitive .string)]

theorem below_closed : ∀ x ∈ below, ∀ y, (catalog "Page").Part x y → y ∈ below := by
  intro x mem y step
  simp only [below, List.mem_cons, List.not_mem_nil, or_false] at mem
  rcases Catalog.part_iff.mp step with part | ⟨id, type, rfl⟩
  · rcases mem with rfl | rfl | rfl | rfl | rfl | rfl
    · rw [List.mem_singleton.mp part]
      simp [below, reference]
    · rw [List.mem_singleton.mp part]
      simp [below, reference]
    · cases part
    · cases part
    · rw [List.mem_singleton.mp part]
      simp [below]
    · cases part
  · rcases mem with rfl | rfl | rfl | rfl | rfl | rfl
    · cases type
    · cases type
    · cases type
      simp [below, catalog, Catalog.get]
    · cases type
      simp [below, catalog, Catalog.get]
    · cases type
    · cases type

theorem types_below {x : Attribute} {t : UserType} (mem : x ∈ below)
    (type : (catalog "Page").userType? x = some t) :
    t.name ≠ "FetchPayload" ∧ t.body = shape := by
  simp only [below, List.mem_cons, List.not_mem_nil, or_false] at mem
  rcases mem with rfl | rfl | rfl | rfl | rfl | rfl
  · cases type
  · cases type
  · cases type
    exact ⟨by decide, rfl⟩
  · cases type
    exact ⟨by decide, rfl⟩
  · cases type
  · cases type

theorem payload_mem_below : method.payload ∈ below := by simp [below]

theorem acyclic_of_below {a : Attribute} (mem : a.unwrapped ∈ below)
    (own : ∀ t, (catalog "Page").userType? a = some t → (catalog "Page").userType? t.body = none) :
    (catalog "Page").NoAliasCycle a := by
  refine Catalog.noAliasCycle_of_bodies fun x t path type => ?_
  rcases Catalog.reaches_unwrapped_or_self path with rfl | later
  · exact own t type
  · rw [(types_below (later.mem_of_closed below_closed mem) type).2]
    rfl

theorem pages_keep_shape :
    ((document "Page").types.map (·.name)).Nodup ∧ (document "Page").design = .ok (design "Page") ∧
      ∃ p, (planToolset (catalog "Page") "example.com/gen" toolset).outcome = .ok (some p) ∧
        Planner.ShapesKept (setting "Page") p ∧
          ∀ k ∈ Planner.conversions (setting "Page") toolset.tools,
            (catalog "Page").ShapeEquivalent k.source k.target := by
  have keyed : ((document "Page").types.map (·.name)).Nodup := by decide
  have resolved : (document "Page").design = .ok (design "Page") := rfl
  have summary : summary? "Page" =
      some ([⟨"example.com/gen/alpha", some "alpha"⟩, place.asImport], 1) := by decide +kernel
  obtain ⟨p, planned, -⟩ := planned_of_summary summary
  obtain ⟨service, given, shapes⟩ := shapes_kept keyed resolved List.mem_cons_self planned
  obtain rfl := Option.some.inj given
  refine ⟨keyed, resolved, p, planned, shapes, fun k mem => ?_⟩
  obtain ⟨source, target⟩ := ends_of_mem mem
  have unclaimed : ∀ {a : Attribute}, a.unwrapped ∈ below → a.givenNames ⊆ ["FetchPayload"] →
      (catalog "Page").Unclaimed a := by
    intro a mem given x t path type known
    exact (types_below (path.mem_of_closed below_closed mem) type).1
      (List.mem_singleton.mp (given known))
  have left : k.source.unwrapped ∈ below := source ▸ List.mem_cons_self
  have right : k.target.unwrapped ∈ below := target ▸ payload_mem_below
  refine (shapes.kept k mem).byShape ?_ ?_ ?_ ?_
  · exact unclaimed left (source ▸ List.Subset.refl _)
  · exact unclaimed right (target ▸ List.nil_subset _)
  · refine acyclic_of_below left fun t type => ?_
    rw [source] at type
    cases type
    rfl
  · refine acyclic_of_below right fun t type => ?_
    rw [target] at type
    cases type

end Fetching

end Design
end Toolbridge
