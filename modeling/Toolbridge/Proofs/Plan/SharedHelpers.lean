import Toolbridge.Proofs.Conversion.Replay
import Toolbridge.Proofs.Go.Spelling
import Toolbridge.Proofs.Plan.Helpers

set_option autoImplicit false

/-!
# Helpers that conversions share

A plan keeps the first helper of a name, and what comes later under its name and signature is taken
to be the same. In a resolved design it is a helper for the same two types, and it has the same body
unless a type with a location has a type without one below it: the reference to the outer type is
the same on both sides then, but the names inside depend on the package of the side.
-/
namespace Toolbridge

/-- If the type has a location, so has everything below it. -/
def Catalog.Enclosed (c : Catalog) (t : UserType) : Prop := t.location ≠ none → Go.Placed c t.body

theorem Catalog.Enclosed.placed {c : Catalog} {t : UserType} {x : Attribute} (h : c.Enclosed t)
    (type : c.userType? x = some t) (located : t.location ≠ none) : Go.Placed c x := by
  intro y u path typeY
  rcases Relation.ReflTransGen.cases_head path with rfl | ⟨z, step, rest⟩
  · obtain rfl := Option.some.inj (type.symm.trans typeY)
    exact located
  · rw [part_of_userType type step] at rest
    exact h located y u rest typeY

theorem Catalog.resolve_unwrapped (c : Catalog) (a : Attribute) :
    c.resolve a.unwrapped = c.resolve a := by
  obtain ⟨type, required, default⟩ := a
  unfold Catalog.resolve
  cases type with
  | none => rfl
  | some type =>
    cases type with
    | named name body => cases c.types.length <;> rfl
    | _ => rfl

namespace Conversion

variable {c : Catalog} {a b x y : Attribute} {f : Frame} {source target : Go.Side}

theorem Place.reaches_unwrapped (h : Place c a b x y) :
    c.Reaches a.unwrapped x ∧ c.Reaches b.unwrapped y := by
  obtain ⟨q, leads, rest⟩ := Relation.TransGen.head'_iff.mp h.nested
  obtain ⟨left, right⟩ := leads.parts
  obtain ⟨restLeft, restRight⟩ := reaches_of_descent rest
  rw [← c.resolve_unwrapped] at left
  rw [← c.resolve_unwrapped] at right
  exact ⟨((reaches_resolve c a.unwrapped).part left).trans restLeft,
    ((reaches_resolve c b.unwrapped).part right).trans restRight⟩

theorem spelledAlike_of (left : source.package = f.source.package ∨ Go.Placed f.catalog x)
    (right : target.package = f.target.package ∨ Go.Placed f.catalog y)
    (sourceDefault : source.useDefault = f.source.useDefault)
    (targetDefault : target.useDefault = f.target.useDefault) :
    SpelledAlike f source target x y := by
  have same : ∀ {s s' : Go.Side} {z w : Attribute},
      s.package = s'.package ∨ Go.Placed f.catalog z → s.useDefault = s'.useDefault →
        f.catalog.Reaches z w → s.typeRef f.catalog w = s'.typeRef f.catalog w ∧
          s.packageOf f.catalog w = s'.packageOf f.catalog w := by
    rintro ⟨package, _⟩ ⟨package', _⟩ z w (rfl | placed) rfl path
    · exact ⟨rfl, rfl⟩
    · have here := placed.below path
      exact ⟨here.typeRef_eq package package', here.packageOf_eq _ _⟩
  exact ⟨fun u path => (same left sourceDefault path).1,
    fun u path => (same left sourceDefault path).2, sourceDefault,
    fun v path => (same right targetDefault path).1,
    fun v path => (same right targetDefault path).2, targetDefault⟩

end Conversion

namespace Planner

open Conversion (Place frameOf NeedsHelper HelperCode SameReference SpelledAlike)

variable {s : Setting} {k k' : Converted} {r r' : ConversionRequest} {h h' : Helper} {p : Plan}
  {service : Service}

/-- The helper was built on the request, for the conversion of one declared type into another. -/
structure HelperFor (c : Catalog) (r : ConversionRequest) (h : Helper) (i j : TypeId) : Prop where
  sourceInside : i < c.types.length
  targetInside : j < c.types.length
  made : ∃ x y, ∃ code : HelperCode, Place c r.source r.target x y ∧
    x.type = some (.user i) ∧ y.type = some (.user j) ∧
      code.Converts (frameOf c r) x y ∧ h = code.render

/-- Both requests name their side from one package, or it does not matter for the type. -/
def SideAgrees (c : Catalog) (id : TypeId) (side side' : Go.Side) : Prop :=
  side'.package = side.package ∨ c.Enclosed (c.get id)

/-- Helpers of one name and signature are for one pair of types, and have one body where the sides
agree on the two types. If they always do, the plan has every helper of each of its conversions. -/
structure HelpersShared (s : Setting) (p : Plan) : Prop where
  functions : p.functions = (conversions s s.toolset.tools).map (·.function)
  bodies : ∀ k r k' r', Asked s s.toolset.tools k r → Asked s s.toolset.tools k' r' →
    ∀ h ∈ k.helpers, ∀ h' ∈ k'.helpers, h.SameHead h' →
      ∃ i j, HelperFor s.catalog r h i j ∧ HelperFor s.catalog r' h' i j ∧
        (SideAgrees s.catalog i r.sourceSide r'.sourceSide →
          SideAgrees s.catalog j r.targetSide r'.targetSide → h.body = h'.body)
  kept : (∀ t ∈ s.catalog.types, s.catalog.Enclosed t) →
    ∀ k ∈ conversions s s.toolset.tools, k.helpers ⊆ p.helpers

section Types

variable {c : Catalog} {i j : TypeId}

theorem helperFor_of_mem (closed : s.catalog.Closed)
    (declared : ∀ k ∈ conversions s s.toolset.tools, k.Declared s.catalog.types.length)
    (goes : s.engine = Conversion.engine s.catalog) (asked : Asked s s.toolset.tools k r)
    (mem : h ∈ k.helpers) : ∃ i j, HelperFor s.catalog r h i j := by
  obtain ⟨x, y, code, place, converts, text⟩ := asked.place_of_helper goes mem
  have ends := declared k asked.mem
  obtain ⟨left, right⟩ := place.reaches_unwrapped
  rw [asked.answered.source] at left
  rw [asked.answered.target] at right
  have reference : ∀ {z : Attribute}, z.Declared s.catalog.types.length →
      (s.catalog.userType? z).isSome → ∃ id < s.catalog.types.length, z.type = some (.user id) := by
    intro z declared known
    obtain ⟨t, type⟩ := Option.isSome_iff_exists.mp known
    rcases Catalog.type_eq_of_userType? type with ⟨id, shape, -⟩ | ⟨name, body, shape, -⟩
    · exact ⟨id, declared.refersBelow.below id shape, shape⟩
    · exact absurd shape (declared.refersBelow.unnamed name body)
  obtain ⟨i, inside, source⟩ := reference (closed.reaches ends.source left) place.needed.source
  obtain ⟨j, inside', target⟩ := reference (closed.reaches ends.target right) place.needed.target
  exact ⟨i, j, inside, inside', x, y, code, place, source, target, converts, text⟩

theorem id_eq_of_typeRef_eq (goNames : (c.types.map fun t => Go.identifier true t.name).Nodup)
    {x y : Attribute} {package package' : String} (left : x.type = some (.user i))
    (right : y.type = some (.user j)) (leftInside : i < c.types.length)
    (rightInside : j < c.types.length)
    (same : Go.typeRef c package x = Go.typeRef c package' y) : i = j := by
  obtain ⟨-, names⟩ := Go.parts_of_typeRef_eq left right same
  exact Catalog.id_eq_of_nodup goNames leftInside rightInside names

/-- Sides that agree on a type and refer to it alike have one package, or it shows nowhere. -/
theorem SideAgrees.placed {side side' : Go.Side} {x x' : Attribute} (agree : SideAgrees c i side side')
    (left : x.type = some (.user i)) (right : x'.type = some (.user i))
    (same : SameReference c x x') (refs : side.typeRef c x = side'.typeRef c x') :
    side'.package = side.package ∨ Go.Placed c x := by
  rcases agree with package | enclosed
  · exact .inl package
  · have type : c.userType? x = some (c.get i) := Catalog.userType?_user left
    cases placed : (c.get i).location with
    | some location =>
      have located : (c.get i).location ≠ none := by
        rw [placed]
        nofun
      exact .inr (enclosed.placed type located)
    | none =>
      have nowhere : c.location? x = none := by
        unfold Catalog.location?
        rw [type]
        exact placed
      have object : c.isObject x = c.isObject x' := by
        unfold Catalog.isObject
        rw [same.resolve]
      obtain ⟨stems, -⟩ := Go.parts_of_typeRef_eq left right refs
      exact .inl (Go.package_eq_of_stem_eq same.userType? object nowhere stems).symm

theorem HelperFor.ids_eq (goNames : (c.types.map fun t => Go.identifier true t.name).Nodup)
    {i' j' : TypeId} (first : HelperFor c r h i j) (second : HelperFor c r' h' i' j')
    (same : h.SameHead h') : i' = i ∧ j' = j := by
  obtain ⟨x, y, code, -, source, target, converts, rfl⟩ := first.made
  obtain ⟨x', y', code', -, source', target', converts', rfl⟩ := second.made
  have param : r.sourceSide.typeRef c x = r'.sourceSide.typeRef c x' :=
    converts.paramType.symm.trans (same.paramType.trans converts'.paramType)
  have result : r.targetSide.typeRef c y = r'.targetSide.typeRef c y' :=
    converts.resultType.symm.trans (same.resultType.trans converts'.resultType)
  exact ⟨(id_eq_of_typeRef_eq goNames source source' first.sourceInside second.sourceInside
      param).symm,
    (id_eq_of_typeRef_eq goNames target target' first.targetInside second.targetInside
      result).symm⟩

theorem HelperFor.body_eq (first : HelperFor c r h i j) (second : HelperFor c r' h' i j)
    (same : h.SameHead h') (noPrefix : r'.helperPrefix = r.helperPrefix)
    (byReference : r'.byReference = r.byReference)
    (sourceDefault : r'.sourceSide.useDefault = r.sourceSide.useDefault)
    (targetDefault : r'.targetSide.useDefault = r.targetSide.useDefault)
    (source : SideAgrees c i r.sourceSide r'.sourceSide)
    (target : SideAgrees c j r.targetSide r'.targetSide) : h.body = h'.body := by
  obtain ⟨x, y, code, -, left, right, converts, rfl⟩ := first.made
  obtain ⟨x', y', code', -, left', right', converts', rfl⟩ := second.made
  have sameX := Conversion.sameReference_of_type first.sourceInside left left'
  have sameY := Conversion.sameReference_of_type first.targetInside right right'
  have param : r.sourceSide.typeRef c x = r'.sourceSide.typeRef c x' :=
    converts.paramType.symm.trans (same.paramType.trans converts'.paramType)
  have result : r.targetSide.typeRef c y = r'.targetSide.typeRef c y' :=
    converts.resultType.symm.trans (same.resultType.trans converts'.resultType)
  have alike : SpelledAlike (frameOf c r) r'.sourceSide r'.targetSide x y :=
    Conversion.spelledAlike_of (source.placed left left' sameX param)
      (target.placed right right' sameY result) sourceDefault targetDefault
  have frame : frameOf c r' = (frameOf c r).respelled r'.sourceSide r'.targetSide := by
    unfold frameOf Conversion.Frame.respelled
    rw [noPrefix, byReference]
  have bodies := converts.body_eq converts' frame alike sameX sameY
  change Go.blockText code.body = Go.blockText code'.body
  rw [bodies]

section Conversions

variable (closed : s.catalog.Closed)
  (goNames : (s.catalog.types.map fun t => Go.identifier true t.name).Nodup)
  (declared : ∀ k ∈ conversions s s.toolset.tools, k.Declared s.catalog.types.length)
  (goes : s.engine = Conversion.engine s.catalog)
include closed goNames declared goes

theorem helperFor_of_sameHead (asked : Asked s s.toolset.tools k r)
    (asked' : Asked s s.toolset.tools k' r') (mem : h ∈ k.helpers) (mem' : h' ∈ k'.helpers)
    (same : h.SameHead h') :
    ∃ i j, HelperFor s.catalog r h i j ∧ HelperFor s.catalog r' h' i j ∧
      (SideAgrees s.catalog i r.sourceSide r'.sourceSide →
        SideAgrees s.catalog j r.targetSide r'.targetSide → h.body = h'.body) := by
  obtain ⟨i, j, first⟩ := helperFor_of_mem closed declared goes asked mem
  obtain ⟨i', j', second⟩ := helperFor_of_mem closed declared goes asked' mem'
  obtain ⟨rfl, rfl⟩ := first.ids_eq goNames second same
  have here := asked.answered
  have there := asked'.answered
  exact ⟨_, _, first, second, first.body_eq second same
    (there.noPrefix.trans here.noPrefix.symm) (there.byReference.trans here.byReference.symm)
    (there.sourceDefault.trans here.sourceDefault.symm)
    (there.targetDefault.trans here.targetDefault.symm)⟩

theorem helper_kept (enclosed : ∀ t ∈ s.catalog.types, s.catalog.Enclosed t)
    (made : MadeOf s service p) (mem : k ∈ conversions s s.toolset.tools) (here : h ∈ k.helpers) :
    h ∈ p.helpers := by
  -- the plan has a helper of that name and signature, which came from one of its conversions
  obtain ⟨g, memG, same⟩ := made.held mem here
  obtain ⟨k', mem', here'⟩ := made.origin memG
  obtain ⟨r, asked⟩ := asked_of_mem mem
  obtain ⟨r', asked'⟩ := asked_of_mem mem'
  obtain ⟨i, j, first, -, agree⟩ :=
    helperFor_of_sameHead closed goNames declared goes asked' asked here' here same
  have always : ∀ {id : TypeId} (side side' : Go.Side), id < s.catalog.types.length →
      SideAgrees s.catalog id side side' := by
    intro id side side' inside
    refine .inr (enclosed _ ?_)
    rw [Catalog.get_eq_getElem inside]
    exact List.getElem_mem inside
  have body := agree (always _ _ first.sourceInside) (always _ _ first.targetInside)
  have equal : g = h := by
    obtain ⟨name, paramType, resultType⟩ := same
    cases g
    cases h
    simp only at name paramType resultType body
    rw [name, paramType, resultType, body]
  exact equal ▸ memG

theorem helpersShared (made : MadeOf s service p) : HelpersShared s p where
  functions := made.functions
  bodies := fun _ _ _ _ asked asked' _ mem _ mem' same =>
    helperFor_of_sameHead closed goNames declared goes asked asked' mem mem' same
  kept := fun enclosed _ mem _ here =>
    helper_kept closed goNames declared goes enclosed made mem here

end Conversions

end Types

end Planner

namespace Design

/-- What the conversions of a plan share, for a design whose types have different Go names. -/
theorem helpers_shared {d : DesignDoc} {design : Design} {root : String} {s : Toolset} {p : Plan}
    (distinct : (d.types.map fun t => Go.identifier true t.name).Nodup)
    (resolved : d.design = .ok design) (mem : s ∈ design.toolsets)
    (planned : (planToolset design.catalog root s).outcome = .ok (some p)) :
    ∃ service, s.sourceService = some service ∧
      Planner.HelpersShared (design.setting root s service) p := by
  have names := (writesDesign (design_resolve resolved)).names
  have distinct : ((d.types.map (·.name)).map (Go.identifier true)).Nodup := by
    rwa [List.map_map]
  have keyed : (d.types.map (·.name)).Nodup := List.Nodup.of_map _ distinct
  have goNames : (design.catalog.types.map fun t => Go.identifier true t.name).Nodup := by
    rw [← names, List.map_map] at distinct
    exact distinct
  obtain ⟨service, given, known⟩ := planned_of_resolved keyed resolved mem planned
  exact ⟨service, given,
    Planner.helpersShared known.closed goNames known.declared rfl known.made⟩

/-! A tool takes pages and answers with pages. Their type has a location, and what it holds has one
or has none. -/
namespace Circulating

def place : TypeLocation := ⟨"example.com/shared/docs", "docs"⟩

def pages : TypeExpr := .array (.name "Page")

def document (held : Option TypeLocation) : DesignDoc where
  service := { name := "alpha" }
  types := [
    { name := "Page", location := some place, type := .object [("note", .name "Note")] [] },
    { name := "Note", location := held, type := .object [("id", .name "string")] ["id"] }]
  toolsets := [
    { name := "alpha.ops",
      specsDir := some "gen/docs",
      tools := [
        { name := "fetch",
          args := some pages,
          result := some pages,
          method := some
            { name := "Fetch",
              payload := some pages,
              result := some pages,
              payloadRef := some "[]*docs.Page",
              resultRef := some "[]*docs.Page" } }] }]

def text : Attribute := .ofType (.primitive .string)

def page : Attribute := .ofType (.object [⟨"note", .ofType (.user 1)⟩])

def note : Attribute := { type := some (.object [⟨"id", text⟩]), required := ["id"] }

def catalog (held : Option TypeLocation) : Catalog :=
  ⟨[{ name := "Page", location := some place, body := page },
    { name := "Note", location := held, body := note }]⟩

def list : Attribute := .ofType (.array (.ofType (.user 0)))

def method : MethodBinding :=
  { name := "Fetch", payload := list, result := list, payloadRef := some "[]*docs.Page",
    resultRef := some "[]*docs.Page" }

def tool : Tool :=
  { name := "fetch", qualifiedName := "alpha.ops.fetch", args := list, result := list,
    method := some method }

def alpha : Service := ⟨"alpha", "alpha"⟩

def toolset : Toolset :=
  { name := "alpha.ops", specsDir := some "gen/docs", specsPackage := "ops",
    sourceService := some alpha, tools := [tool] }

def design (held : Option TypeLocation) : Design :=
  { service := alpha, catalog := catalog held, toolsets := [toolset] }

def setting (held : Option TypeLocation) : Planner.Setting :=
  (design held).setting "example.com/gen" toolset alpha

def pageHelper (called : String) : Helper where
  name := "transformDocsPageToDocsPage"
  paramType := "*docs.Page"
  resultType := "*docs.Page"
  body := "if v == nil \x7b\n\treturn nil\n\x7d\nres := &docs.Page\x7b\x7d\nif v.Note != nil \x7b\n" ++
    "\tres.Note = " ++ called ++ "(v.Note)\n\x7d\n"

def pageHelpers (helpers : List Helper) : List Helper :=
  helpers.filter (·.name == "transformDocsPageToDocsPage")

def kept? (held : Option TypeLocation) : Option (List Helper) :=
  (planToolset (catalog held) "example.com/gen" toolset).outcome.toOption.join.map fun p =>
    pageHelpers p.helpers

def resultHelpers? (held : Option TypeLocation) : Option (List Helper) :=
  (Planner.resultConversion? (setting held) tool method).map fun k => pageHelpers k.helpers

theorem of_pageHelpers {helpers : List Helper} {h : Helper} (only : pageHelpers helpers = [h]) :
    h ∈ helpers := by
  have mem : h ∈ pageHelpers helpers := only ▸ List.mem_cons_self
  exact (List.mem_filter.mp mem).1

theorem page_helper_lost :
    ((document none).types.map fun t => Go.identifier true t.name).Nodup ∧
      (document none).checkNames = .ok () ∧ (document none).design = .ok (design none) ∧
      ∃ p, (planToolset (catalog none) "example.com/gen" toolset).outcome = .ok (some p) ∧
        ∃ k r k' r', Planner.Asked (setting none) toolset.tools k r ∧
          Planner.Asked (setting none) toolset.tools k' r' ∧
          ∃ h ∈ k.helpers, ∃ h' ∈ k'.helpers,
            h.SameHead h' ∧ h.body ≠ h'.body ∧ h ∈ p.helpers ∧ h' ∉ p.helpers := by
  have known : kept? none = some [pageHelper "transformNoteToAlphaNote"] := by decide +kernel
  obtain ⟨p, planned, kept⟩ : ∃ p, (planToolset (catalog none) "example.com/gen" toolset).outcome =
      .ok (some p) ∧ pageHelpers p.helpers = _ := Planner.planned_of_summary known
  have asked : resultHelpers? none = some [pageHelper "transformAlphaNoteToNote"] := by
    decide +kernel
  obtain ⟨k', result, second⟩ := Option.map_eq_some_iff.mp asked
  have different : (pageHelper "transformNoteToAlphaNote").body ≠
      (pageHelper "transformAlphaNoteToNote").body := by decide +kernel
  -- the helper that the plan has came with another conversion
  obtain ⟨service, given, made⟩ :=
    Planner.planWith_ok (Conversion.engine_steady (catalog none)) planned
  obtain rfl := Option.some.inj given
  obtain ⟨k, mem, first⟩ := made.origin (of_pageHelpers kept)
  obtain ⟨r, first'⟩ := Planner.asked_of_mem mem
  refine ⟨by decide +kernel, rfl, rfl, p, planned, k, r, k', _, first',
    .result List.mem_cons_self rfl result, _, first, _, of_pageHelpers second, ⟨rfl, rfl, rfl⟩,
    different, of_pageHelpers kept, fun mem => ?_⟩
  have there : pageHelper "transformAlphaNoteToNote" ∈ pageHelpers p.helpers :=
    List.mem_filter.mpr ⟨mem, by decide⟩
  rw [kept] at there
  exact different (congrArg Helper.body (List.mem_singleton.mp there)).symm

def below : List Attribute := [page, .ofType (.user 1), note, text]

theorem below_closed : ∀ x ∈ below, ∀ y, (catalog (some place)).Part x y → y ∈ below := by
  intro x mem y step
  simp only [below, List.mem_cons, List.not_mem_nil, or_false] at mem
  rcases Catalog.part_iff.mp step with part | ⟨id, shape, rfl⟩
  · rcases mem with rfl | rfl | rfl | rfl
    · rw [List.mem_singleton.mp part]
      simp [below]
    · cases part
    · rw [List.mem_singleton.mp part]
      simp [below]
    · cases part
  · rcases mem with rfl | rfl | rfl | rfl
    · cases shape
    · cases shape
      simp [catalog, Catalog.get, below]
    · cases shape
    · cases shape

theorem placed_below {a : Attribute} (mem : a ∈ below) : Go.Placed (catalog (some place)) a := by
  intro x t path type
  have here : x ∈ below := path.mem_of_closed below_closed mem
  simp only [below, List.mem_cons, List.not_mem_nil, or_false] at here
  rcases here with rfl | rfl | rfl | rfl
  · cases type
  · cases type
    nofun
  · cases type
  · cases type

/-- Notes that have a location, too, are the only types below pages. -/
theorem enclosed_types : ∀ t ∈ (catalog (some place)).types, (catalog (some place)).Enclosed t := by
  intro t mem _
  simp only [catalog, List.mem_cons, List.not_mem_nil, or_false] at mem
  rcases mem with rfl | rfl
  · exact placed_below (by simp [below])
  · exact placed_below (by simp [below])

theorem pages_shared :
    ((document (some place)).types.map fun t => Go.identifier true t.name).Nodup ∧
      (document (some place)).design = .ok (design (some place)) ∧
      ∃ p, (planToolset (catalog (some place)) "example.com/gen" toolset).outcome = .ok (some p) ∧
        Planner.HelpersShared (setting (some place)) p ∧
          ∀ k ∈ Planner.conversions (setting (some place)) toolset.tools, k.helpers ⊆ p.helpers := by
  have distinct : ((document (some place)).types.map fun t => Go.identifier true t.name).Nodup := by
    decide +kernel
  have resolved : (document (some place)).design = .ok (design (some place)) := rfl
  have computed : kept? (some place) = some [pageHelper "transformDocsNoteToDocsNote"] := by
    decide +kernel
  obtain ⟨p, planned, -⟩ := Planner.planned_of_summary computed
  obtain ⟨service, given, shared⟩ := helpers_shared distinct resolved List.mem_cons_self planned
  obtain rfl := Option.some.inj given
  exact ⟨distinct, resolved, p, planned, shared, shared.kept enclosed_types⟩

end Circulating

end Design
end Toolbridge
