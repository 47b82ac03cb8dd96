import Toolbridge.SpecsIndex
import Mathlib.Data.List.Pairwise

set_option autoImplicit false

namespace Toolbridge

def Tool.typeNames (t : Tool) : List String :=
  payloadTypeName t :: resultTypeName t :: t.serverData.map (serverDataTypeName t)

/-- No name stands for local types of two different tools. -/
def OwnNames (tools : List Tool) : Prop :=
  ∀ t ∈ tools, ∀ t' ∈ tools, ∀ name ∈ t.typeNames, name ∈ t'.typeNames → t = t'

theorem ownNames_of_pairwise {tools : List Tool}
    (apart : tools.Pairwise fun t t' => ∀ name ∈ t.typeNames, name ∉ t'.typeNames) :
    OwnNames tools := by
  have symmetric : Std.Symm fun t t' : Tool =>
      ∀ name ∈ t.typeNames, name ∈ t'.typeNames → t = t' :=
    ⟨fun _ _ h name here there => (h name there here).symm⟩
  have weaker : tools.Pairwise fun t t' => ∀ name ∈ t.typeNames, name ∈ t'.typeNames → t = t' :=
    apart.imp fun h name here there => absurd there (h name here)
  exact fun t mem t' mem' => weaker.forall_of_forall (fun _ _ _ _ _ => rfl) mem mem'

namespace SpecsIndex

section Lookups

variable {c : Catalog} {index : SpecsIndex} {name : String} {t : Tool} {tools : List Tool}

def ownType? (c : Catalog) (t : Tool) (name : String) : Option Attribute :=
  (insertTool c {} t).get? name

theorem get?_insert (c : Catalog) (index : SpecsIndex) (entered : String) (a : Attribute)
    (name : String) :
    (index.insert c entered a).get? name =
      if a.isEmpty = false ∧ name = entered then some (localType c entered a)
      else index.get? name := by
  unfold insert get?
  cases a.isEmpty with
  | true => simp
  | false =>
    by_cases same : name = entered
    · rw [if_neg Bool.false_ne_true, if_pos ⟨rfl, same⟩, same, Keyed.lookup_put_self]
    · rw [if_neg Bool.false_ne_true, if_neg fun h => same h.2, Keyed.lookup_put_of_ne same]

/-- What a step enters does not depend on what is there. -/
def Enters (step : SpecsIndex → SpecsIndex) : Prop :=
  ∀ index name, (step index).get? name = ((step {}).get? name).or (index.get? name)

theorem enters_insert (entered : String) (a : Attribute) :
    Enters fun index => index.insert c entered a := by
  intro index name
  rw [get?_insert, get?_insert]
  split
  · rfl
  · rfl

theorem enters_id : Enters id := fun _ _ => rfl

theorem Enters.comp {step later : SpecsIndex → SpecsIndex} (h : Enters step) (h' : Enters later) :
    Enters fun index => later (step index) := by
  intro index name
  rw [h' (step index), h' (step {}), h index name, Option.or_assoc]

theorem Enters.foldl {α : Type} {step : SpecsIndex → α → SpecsIndex} {items : List α}
    (each : ∀ x ∈ items, Enters fun index => step index x) :
    Enters fun index => items.foldl step index := by
  induction items with
  | nil => exact enters_id
  | cons x rest ih =>
    exact (each x List.mem_cons_self).comp (ih fun y mem => each y (List.mem_cons_of_mem _ mem))

theorem enters_insertProjection (p : Projection) :
    Enters fun index => insertProjection c t index p := by
  unfold insertProjection
  cases projectionShape? c t p with
  | none => exact enters_id
  | some shape => exact enters_insert _ _

theorem enters_insertTool (t : Tool) : Enters fun index => insertTool c index t :=
  ((enters_insert _ _).comp (enters_insert _ _)).comp
    (.foldl fun p _ => enters_insertProjection p)

theorem get?_insertTool :
    (insertTool c index t).get? name = (ownType? c t name).or (index.get? name) :=
  enters_insertTool t index name

theorem get?_foldl_insertProjection {projections : List Projection}
    (apart : name ∉ projections.map (serverDataTypeName t)) :
    (projections.foldl (insertProjection c t) index).get? name = index.get? name := by
  induction projections generalizing index with
  | nil => rfl
  | cons p rest ih =>
    rw [List.map_cons, List.mem_cons, not_or] at apart
    rw [List.foldl_cons, ih apart.2]
    unfold insertProjection
    cases projectionShape? c t p with
    | none => rfl
    | some shape => exact (get?_insert _ _ _ _ _).trans (if_neg fun h => apart.1 h.2)

theorem ownType?_of_not_mem (apart : name ∉ t.typeNames) : ownType? c t name = none := by
  unfold Tool.typeNames at apart
  rw [List.mem_cons, List.mem_cons, not_or, not_or] at apart
  unfold ownType? insertTool
  rw [get?_foldl_insertProjection apart.2.2, get?_insert, if_neg fun h => apart.2.1 h.2,
    get?_insert, if_neg fun h => apart.1 h.2]
  rfl

/-- What stands under a name of the tool stays, if others do not have the name. -/
theorem get?_foldl_of_own (others : ∀ t' ∈ tools, name ∈ t'.typeNames → t' = t)
    (here : index.get? name = ownType? c t name) :
    (tools.foldl (insertTool c) index).get? name = ownType? c t name := by
  induction tools generalizing index with
  | nil => exact here
  | cons t' rest ih =>
    refine ih (fun u mem => others u (List.mem_cons_of_mem _ mem)) ?_
    rw [get?_insertTool, here]
    by_cases named : name ∈ t'.typeNames
    · rw [others t' List.mem_cons_self named]
      cases ownType? c t name <;> rfl
    · rw [ownType?_of_not_mem named, Option.none_or]

theorem get?_foldl_of_mem (others : ∀ t' ∈ tools, name ∈ t'.typeNames → t' = t) (mem : t ∈ tools)
    (nothing : index.get? name = none) :
    (tools.foldl (insertTool c) index).get? name = ownType? c t name := by
  induction tools generalizing index with
  | nil => cases mem
  | cons t' rest ih =>
    have later : ∀ u ∈ rest, name ∈ u.typeNames → u = t :=
      fun u memU => others u (List.mem_cons_of_mem _ memU)
    rw [List.foldl_cons]
    by_cases first : t' = t
    · refine get?_foldl_of_own later ?_
      rw [first, get?_insertTool, nothing, Option.or_none]
    · have apart : name ∉ t'.typeNames := fun named => first (others t' List.mem_cons_self named)
      refine ih later ((List.mem_cons.mp mem).resolve_left (Ne.symm first)) ?_
      rw [get?_insertTool, ownType?_of_not_mem apart, nothing]
      rfl

theorem get?_ofToolset {s : Toolset} (own : OwnNames s.tools) (mem : t ∈ s.tools)
    (named : name ∈ t.typeNames) : (ofToolset c s).get? name = ownType? c t name := by
  refine get?_foldl_of_mem (fun t' mem' named' => ?_) mem rfl
  exact own t' mem' t mem name named' named

end Lookups

end SpecsIndex
end Toolbridge
