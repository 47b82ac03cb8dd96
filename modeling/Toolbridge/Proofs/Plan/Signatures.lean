import Toolbridge.Proofs.Conversion.HelperNames
import Toolbridge.Proofs.Plan.Helpers

set_option autoImplicit false

namespace Toolbridge

namespace Planner

open Conversion (Place ClearNames Complete frameOf)

variable {s : Setting} {p : Plan} {service : Service}

def generatedHelpers (s : Setting) : List Helper :=
  (conversions s s.toolset.tools).flatMap (·.helpers)

/-- The requests on which the conversions of the toolset were made. -/
def askedRequests (s : Setting) : Set ConversionRequest :=
  {r | ∃ k, Asked s s.toolset.tools k r}

theorem MadeOf.agreeing (made : MadeOf s service p) : HelperSet.Agreeing (generatedHelpers s) :=
  HelperSet.extend_empty_none.mp made.agreed

theorem agreeing_of_clear (goes : s.engine = Conversion.engine s.catalog)
    (clear : ClearNames s.catalog (askedRequests s)) :
    HelperSet.Agreeing (generatedHelpers s) := by
  have origin : ∀ h ∈ generatedHelpers s, ∃ r ∈ askedRequests s, r.helperPrefix = "" ∧
      ∃ x y, Place s.catalog r.source r.target x y ∧
        h.name = (frameOf s.catalog r).helperName x y ∧
          h.paramType = r.sourceSide.typeRef s.catalog x ∧
            h.resultType = r.targetSide.typeRef s.catalog y := by
    intro h mem
    obtain ⟨k, memK, here⟩ := List.mem_flatMap.mp mem
    obtain ⟨r, asked⟩ := asked_of_mem memK
    obtain ⟨x, y, code, place, converts, rfl⟩ := asked.place_of_helper goes here
    exact ⟨r, ⟨k, asked⟩, asked.answered.noPrefix, x, y, place, converts.name,
      converts.paramType, converts.resultType⟩
  intro h mem h' mem' name
  obtain ⟨r, asked, bare, x, y, place, named, param, result⟩ := origin h mem
  obtain ⟨r', asked', bare', x', y', place', named', param', result'⟩ := origin h' mem'
  obtain ⟨source, target⟩ := clear.refs asked asked' place place' (bare.trans bare'.symm)
    (named.symm.trans (name.trans named'))
  exact ⟨name, param.trans (source.trans param'.symm), result.trans (target.trans result'.symm)⟩

/-- What the names of helpers tell about their signatures, for one request and for a plan. -/
theorem helper_signatures (c : Catalog) :
    (∀ earlier r output, Conversion.engine c earlier r = .ok output →
      ∃ code, Conversion.build c r = .ok code ∧ code.render = output ∧
        (∀ n ∈ code.calls, ∃ x y, Place c r.source r.target x y ∧
          n = (frameOf c r).helperName x y) ∧
        (ClearNames c {r} → ∀ x y, Place c r.source r.target x y →
          (frameOf c r).helperName x y ∈ code.calls →
            ∃ h ∈ output.helpers, h.name = (frameOf c r).helperName x y ∧
              h.paramType = r.sourceSide.typeRef c x ∧
                h.resultType = r.targetSide.typeRef c y)) ∧
    ∀ root toolset service index, toolset.sourceService = some service →
      ((∃ p, (planWith c (Conversion.engine c) root toolset index).outcome = .ok (some p)) →
        HelperSet.Agreeing (generatedHelpers (goSetting c root toolset service index))) ∧
      (ClearNames c (askedRequests (goSetting c root toolset service index)) →
        HelperSet.Agreeing (generatedHelpers (goSetting c root toolset service index)) ∧
          (HelperSet.extend {} (generatedHelpers (goSetting c root toolset service index))).2 =
            none) := by
  refine ⟨fun earlier r output answer => ?_, fun root toolset service index given => ⟨?_, ?_⟩⟩
  · obtain ⟨code, built, rfl⟩ := Conversion.engine_eq_ok.mp answer
    have complete := Conversion.complete_of_build built
    refine ⟨code, built, rfl, fun n call => complete.place_of_call call, ?_⟩
    intro clear x y place call
    obtain ⟨h, mem, signature⟩ := complete.signature clear place call
    exact ⟨h.render, List.mem_map.mpr ⟨h, mem, rfl⟩, signature⟩
  · rintro ⟨p, planned⟩
    obtain ⟨service', given', made⟩ := planWith_ok (Conversion.engine_steady c) planned
    obtain rfl := Option.some.inj (given.symm.trans given')
    exact made.agreeing
  · intro clear
    let s := goSetting c root toolset service index
    have agreeing : HelperSet.Agreeing (generatedHelpers s) := agreeing_of_clear rfl clear
    exact ⟨agreeing, HelperSet.extend_empty_none.mpr agreeing⟩

/-! Four types of different names, whose two pairs have one name for their helpers. -/
namespace Colliding

open Conversion (NeedsHelper LeadsTo build engine)

def record (field : String) : Attribute :=
  { type := some (.object [⟨field, .ofType (.primitive .string)⟩]), required := [field] }

def catalog : Catalog :=
  ⟨[{ name := "NoteToBetaDraft", body := record "y" }, { name := "Note", body := record "x" },
    { name := "File", body := record "y" }, { name := "DraftToBetaFile", body := record "x" }]⟩

def reference (id : TypeId) : Attribute := .ofType (.user id)

def pair (first second : TypeId) : Attribute :=
  .ofType (.object [⟨"p", reference first⟩, ⟨"q", reference second⟩])

def request : ConversionRequest :=
  { source := pair 0 1, target := pair 2 3, sourceVar := "v", targetVar := "res",
    sourceSide := ⟨"alpha", true⟩, targetSide := ⟨"beta", true⟩, helperPrefix := "",
    byReference := true }

def name : String := "transformAlphaNoteToBetaDraftToBetaFile"

def summary? : Option (List String × List (String × String)) :=
  (build catalog request).toOption.map fun code =>
    (code.calls, code.render.helpers.map fun h => (h.name, h.paramType))

theorem place_second :
    Conversion.Place catalog request.source request.target (reference 1) (reference 3) := by
  have mem : (⟨"q", reference 3⟩ : Member) ∈ [⟨"p", reference 2⟩, ⟨"q", reference 3⟩] :=
    List.mem_cons_of_mem _ List.mem_cons_self
  have found : Members.find? [⟨"p", reference 0⟩, ⟨"q", reference 1⟩] "q" =
      some ⟨"q", reference 1⟩ := rfl
  have leads : LeadsTo catalog (request.source, request.target) (reference 1, reference 3) :=
    .field rfl rfl mem found
  exact ⟨.single leads, rfl, rfl, rfl⟩

theorem note_misread :
    (catalog.types.map fun t => Go.identifier true t.name).Nodup ∧
      ∃ code, build catalog request = .ok code ∧ engine catalog [] request = .ok code.render ∧
        ∃ x y, Conversion.Place catalog request.source request.target x y ∧
          (frameOf catalog request).helperName x y ∈ code.calls ∧
            ∀ h ∈ code.render.helpers, h.name = (frameOf catalog request).helperName x y →
              h.paramType ≠ request.sourceSide.typeRef catalog x := by
  have computed : summary? = some ([name, name], [(name, "*alpha.NoteToBetaDraft")]) := by
    decide +kernel
  obtain ⟨code, outcome, same⟩ := Option.map_eq_some_iff.mp computed
  obtain ⟨calls, helpers⟩ := (Prod.mk.injEq ..).mp same
  have built : build catalog request = .ok code := by
    cases run : build catalog request with
    | error e =>
      rw [run] at outcome
      cases outcome
    | ok other =>
      rw [run] at outcome
      cases outcome
      rfl
  have called : (frameOf catalog request).helperName (reference 1) (reference 3) = name := by
    decide +kernel
  have wanted : request.sourceSide.typeRef catalog (reference 1) = "*alpha.Note" := by
    decide +kernel
  refine ⟨by decide +kernel, code, built, Conversion.engine_eq_ok.mpr ⟨code, built, rfl⟩,
    reference 1, reference 3, place_second, ?_, fun h mem _ param => ?_⟩
  · rw [called, calls]
    exact List.mem_cons_self
  · have listed : (h.name, h.paramType) ∈ [(name, "*alpha.NoteToBetaDraft")] := by
      rw [← helpers]
      exact List.mem_map.mpr ⟨h, mem, rfl⟩
    have held : h.paramType = "*alpha.NoteToBetaDraft" :=
      congrArg Prod.snd (List.mem_singleton.mp listed)
    rw [held, wanted] at param
    exact absurd param (by decide)

end Colliding

/-! The chains again: their names are clear. -/
namespace Following

open Compatibility Conversion

/-- An attribute that ends in the record of a chain, whatever names it is given. -/
def Ends (id : TypeId) (a : Attribute) : Prop := Twins.catalog.resolve a = Twins.chain id

theorem place_ends {a b x y : Attribute} {id id' : TypeId}
    (source : (Twins.catalog.get id).body = Twins.chain id)
    (target : (Twins.catalog.get id').body = Twins.chain id') (left : Ends id a)
    (right : Ends id' b) (place : Place Twins.catalog a b x y) :
    x = Twins.reference id ∧ y = Twins.reference id' := by
  have step : ∀ {p q : Attribute × Attribute}, Ends id p.1 → Ends id' p.2 →
      LeadsTo Twins.catalog p q → q = (Twins.reference id, Twins.reference id') := by
    intro p q left right leads
    obtain ⟨partLeft, partRight⟩ := leads.parts
    rw [left] at partLeft
    rw [right] at partRight
    have only : ∀ {i : TypeId} {z : Attribute}, Twins.catalog.Part (Twins.chain i) z →
        z = Twins.reference i := by
      intro i z part
      cases part with
      | field shape mem =>
        cases shape
        rw [List.mem_singleton.mp mem]
      | body type => cases type
      | _ shape => cases shape
    exact Prod.ext (only partLeft) (only partRight)
  have ends : ∀ {i : TypeId}, (Twins.catalog.get i).body = Twins.chain i →
      Ends i (Twins.reference i) := by
    intro i body
    change Twins.catalog.resolveWithin 1 (Twins.catalog.get i).body = Twins.chain i
    rw [body]
    rfl
  have all : ∀ {q : Attribute × Attribute},
      Relation.TransGen (LeadsTo Twins.catalog) (a, b) q →
        q = (Twins.reference id, Twins.reference id') := by
    intro q path
    induction path with
    | single leads => exact step left right leads
    | tail _ leads ih =>
      rw [ih] at leads
      exact step (ends source) (ends target) leads
  exact (Prod.mk.injEq ..).mp (all place.nested)

/-- One of the chains, named without a package or from that of the service. -/
def Known (side : Go.Side) (x : Attribute) : Prop :=
  ∃ package ∈ ["", "alpha"], ∃ id ∈ [0, 1], side.package = package ∧ x = Twins.reference id

theorem known_names : ∀ package ∈ ["", "alpha"], ∀ id ∈ [0, 1], ∀ package' ∈ ["", "alpha"],
    ∀ id' ∈ [0, 1],
      let name := qualifiedName Twins.catalog ⟨package, true⟩ (Twins.reference id)
      let name' := qualifiedName Twins.catalog ⟨package', true⟩ (Twins.reference id')
      (name = name' → Go.typeRef Twins.catalog package (Twins.reference id) =
        Go.typeRef Twins.catalog package' (Twins.reference id')) ∧
      ¬ name.toList ++ "To".toList <+: name'.toList := by
  decide +kernel

theorem clear_of_known {requests : Set ConversionRequest}
    (sources : ∀ side x, SourceSite Twins.catalog requests side x → Known side x)
    (targets : ∀ side y, TargetSite Twins.catalog requests side y → Known side y) :
    ClearNames Twins.catalog requests := by
  have refs : ∀ {side side' : Go.Side} {x x' : Attribute}, Known side x → Known side' x' →
      qualifiedName Twins.catalog side x = qualifiedName Twins.catalog side' x' →
        side.typeRef Twins.catalog x = side'.typeRef Twins.catalog x' := by
    rintro ⟨_, _⟩ ⟨_, _⟩ _ _ ⟨_, mem, _, memId, rfl, rfl⟩ ⟨_, mem', _, memId', rfl, rfl⟩ same
    exact (known_names _ mem _ memId _ mem' _ memId').1 same
  refine ⟨fun _ _ _ _ left left' => refs (sources _ _ left) (sources _ _ left'),
    fun _ _ _ _ right right' => refs (targets _ _ right) (targets _ _ right'), ?_⟩
  rintro ⟨_, _⟩ x ⟨_, _⟩ x' left left' rest longer
  obtain ⟨_, mem, _, memId, rfl, rfl⟩ := sources _ _ left
  obtain ⟨_, mem', _, memId', rfl, rfl⟩ := sources _ _ left'
  refine (known_names _ mem _ memId _ mem' _ memId').2 ⟨rest.toList, ?_⟩
  have lists := congrArg String.toList longer
  rw [String.toList_append, String.toList_append] at lists
  exact lists.symm

theorem clear_twins : ClearNames Twins.catalog {twinsRequest} := by
  have known : ∀ {x y : Attribute}, Place Twins.catalog twinsRequest.source twinsRequest.target x y →
      x = Twins.reference 0 ∧ y = Twins.reference 1 := place_ends rfl rfl rfl rfl
  refine clear_of_known ?_ ?_
  · rintro side x ⟨r, rfl, rfl, y, place⟩
    exact ⟨"", by decide, 0, by decide, rfl, (known place).1⟩
  · rintro side y ⟨r, rfl, rfl, x, place⟩
    exact ⟨"", by decide, 1, by decide, rfl, (known place).2⟩

theorem index_get? {name : String} {own : Attribute}
    (known : name = payloadTypeName tool ∨ name = resultTypeName tool)
    (found : setting.index.get? name = some own) : Ends 0 own := by
  have payload : payloadTypeName tool = "FollowPayload" := by decide +kernel
  have result : resultTypeName tool = "FollowResult" := by decide +kernel
  rcases known with rfl | rfl
  · rw [payload] at found
    cases found
    rfl
  · rw [result] at found
    cases found
    rfl

theorem asked_ends {k : Converted} {r : ConversionRequest} (asked : Asked setting [tool] k r) :
    (r.sourceSide.package = "" ∧ r.targetSide.package = "alpha" ∧
      Ends 0 r.source ∧ Ends 1 r.target) ∨
    (r.sourceSide.package = "alpha" ∧ r.targetSide.package = "" ∧
      Ends 1 r.source ∧ Ends 0 r.target) := by
  cases asked with
  | payload mem bound made =>
    obtain rfl := List.mem_singleton.mp mem
    obtain rfl := Option.some.inj bound
    obtain ⟨found, target⟩ := payloadConversion?_ends made
    have right : Ends 1 (Twins.reference 1) := rfl
    exact .inl ⟨rfl, rfl, index_get? (.inl rfl) found, target ▸ right⟩
  | result mem bound made =>
    obtain rfl := List.mem_singleton.mp mem
    obtain rfl := Option.some.inj bound
    obtain ⟨source, found⟩ := resultConversion?_ends made
    have left : Ends 1 (Twins.reference 1) := rfl
    exact .inr ⟨rfl, rfl, source ▸ left, index_get? (.inr rfl) found⟩
  | projection mem bound memP made =>
    obtain rfl := List.mem_singleton.mp mem
    cases memP

theorem clear_plan : ClearNames Twins.catalog (askedRequests setting) := by
  refine clear_of_known ?_ ?_
  · rintro side x ⟨r, ⟨k, asked⟩, rfl, y, place⟩
    rcases asked_ends asked with ⟨package, -, left, right⟩ | ⟨package, -, left, right⟩
    · exact ⟨"", by decide, 0, by decide, package, (place_ends rfl rfl left right place).1⟩
    · exact ⟨"alpha", by decide, 1, by decide, package, (place_ends rfl rfl left right place).1⟩
  · rintro side y ⟨r, ⟨k, asked⟩, rfl, x, place⟩
    rcases asked_ends asked with ⟨-, package, left, right⟩ | ⟨-, package, left, right⟩
    · exact ⟨"alpha", by decide, 1, by decide, package, (place_ends rfl rfl left right place).2⟩
    · exact ⟨"", by decide, 0, by decide, package, (place_ends rfl rfl left right place).2⟩

theorem twins_place :
    Place Twins.catalog twinsRequest.source twinsRequest.target (Twins.reference 0)
      (Twins.reference 1) := by
  have mem : (⟨"next", Twins.reference 1⟩ : Member) ∈ [⟨"next", Twins.reference 1⟩] :=
    List.mem_cons_self
  have found : Members.find? [⟨"next", Twins.reference 0⟩] "next" =
      some ⟨"next", Twins.reference 0⟩ := rfl
  have leads : LeadsTo Twins.catalog (Twins.reference 0, Twins.reference 1)
      (Twins.reference 0, Twins.reference 1) := .field rfl rfl mem found
  exact ⟨.single leads, rfl, rfl, rfl⟩

def calls? : Option (List String) :=
  (build Twins.catalog twinsRequest).toOption.map (·.calls)

theorem chains_signatures :
    ClearNames Twins.catalog {twinsRequest} ∧
      (∃ output, engine Twins.catalog [] twinsRequest = .ok output ∧
        ∃ h ∈ output.helpers, h.name = "transformChainToLink" ∧ h.paramType = "*Chain" ∧
          h.resultType = "*Link") ∧
      ClearNames Twins.catalog (askedRequests setting) ∧
      (HelperSet.extend {} (generatedHelpers setting)).2 = none := by
  obtain ⟨single, plans⟩ := helper_signatures Twins.catalog
  obtain ⟨output, answer⟩ := twins_answered
  obtain ⟨code, built, -, -, signature⟩ := single [] _ output answer
  have name : (frameOf Twins.catalog twinsRequest).helperName (Twins.reference 0)
      (Twins.reference 1) = "transformChainToLink" := by decide +kernel
  have calls : code.calls = ["transformChainToLink", "transformChainToLink"] := by
    have computed : calls? = some ["transformChainToLink", "transformChainToLink"] := by
      decide +kernel
    unfold calls? at computed
    rw [built] at computed
    exact Option.some.inj computed
  have called : (frameOf Twins.catalog twinsRequest).helperName (Twins.reference 0)
      (Twins.reference 1) ∈ code.calls := by
    rw [name, calls]
    exact List.mem_cons_self
  obtain ⟨h, mem, named, param, result⟩ := signature clear_twins _ _ twins_place called
  have left : twinsRequest.sourceSide.typeRef Twins.catalog (Twins.reference 0) = "*Chain" := by
    decide +kernel
  have right : twinsRequest.targetSide.typeRef Twins.catalog (Twins.reference 1) = "*Link" := by
    decide +kernel
  obtain ⟨-, clear⟩ := plans "example.com/gen" toolset alpha
    (SpecsIndex.ofToolset Twins.catalog toolset) rfl
  exact ⟨clear_twins, ⟨output, answer, h, mem, named.trans name, param.trans left,
    result.trans right⟩, clear_plan, (clear clear_plan).2⟩

end Following

end Planner
end Toolbridge
