import Toolbridge.Proofs.Conversion.Helpers
import Mathlib.Data.Set.Insert

set_option autoImplicit false

/-!
# What the name of a helper tells

The name of a helper runs two qualified names together with `To` between them. It can be taken
apart again where no qualified name of a source is another one that goes on with `To`; and where a
qualified name stands for one reference on its side, helpers of one name have one signature.
-/
namespace Toolbridge.Conversion

def qualifiedName (c : Catalog) (side : Go.Side) (a : Attribute) : String :=
  Frame.packagePart (side.packageOf c a) ++ Go.typeName c a

theorem helperName_eq (f : Frame) (x y : Attribute) :
    f.helperName x y = ("transform" ++ f.helperPrefix) ++ (qualifiedName f.catalog f.source x ++
      "To" ++ qualifiedName f.catalog f.target y) := by
  simp only [Frame.helperName, qualifiedName, String.append_assoc]

/-- `To` cannot overlap with itself, so that the two places where a text is cut agree unless one
left part goes on with `To`. -/
theorem parted_at_to {q q' t t' : String} (same : q ++ "To" ++ t = q' ++ "To" ++ t') :
    (q = q' ∧ t = t') ∨ (∃ rest, q' = q ++ "To" ++ rest) ∨ ∃ rest, q = q' ++ "To" ++ rest := by
  have later : ∀ {left left' right right' overlap : List Char}, left' = left ++ overlap →
      'T' :: 'o' :: right = overlap ++ 'T' :: 'o' :: right' →
        (left = left' ∧ right = right') ∨ ∃ rest, left' = left ++ 'T' :: 'o' :: rest := by
    intro left left' right right' overlap longer rest
    match overlap with
    | [] =>
      rw [List.append_nil] at longer
      simp only [List.nil_append, List.cons.injEq, true_and] at rest
      exact .inl ⟨longer.symm, rest⟩
    | [a] =>
      simp only [List.cons_append, List.nil_append, List.cons.injEq] at rest
      exact absurd rest.2.1 (by decide)
    | a :: b :: overlap =>
      simp only [List.cons_append, List.cons.injEq] at rest
      obtain ⟨rfl, rfl, -⟩ := rest
      exact .inr ⟨overlap, longer⟩
  have chars : q.toList ++ 'T' :: 'o' :: t.toList = q'.toList ++ 'T' :: 'o' :: t'.toList := by
    have lists := congrArg String.toList same
    simpa [String.toList_append] using lists
  have ofLists : ∀ {left right : String} {rest : List Char},
      left.toList = right.toList ++ 'T' :: 'o' :: rest →
        left = right ++ "To" ++ String.ofList rest := by
    intro left right rest lists
    apply String.toList_injective
    simpa [String.toList_append] using lists
  rcases List.append_eq_append_iff.mp chars with ⟨overlap, longer, rest⟩ | ⟨overlap, longer, rest⟩
  · rcases later longer rest with ⟨left, right⟩ | ⟨more, goesOn⟩
    · exact .inl ⟨String.toList_injective left, String.toList_injective right⟩
    · exact .inr (.inl ⟨_, ofLists goesOn⟩)
  · rcases later longer rest with ⟨left, right⟩ | ⟨more, goesOn⟩
    · exact .inl ⟨String.toList_injective left.symm, String.toList_injective right.symm⟩
    · exact .inr (.inr ⟨_, ofLists goesOn⟩)

/-- The attribute is the source of a helper for one of the requests, named from that side. -/
def SourceSite (c : Catalog) (requests : Set ConversionRequest) (side : Go.Side)
    (x : Attribute) : Prop :=
  ∃ r ∈ requests, side = r.sourceSide ∧ ∃ y, Place c r.source r.target x y

def TargetSite (c : Catalog) (requests : Set ConversionRequest) (side : Go.Side)
    (y : Attribute) : Prop :=
  ∃ r ∈ requests, side = r.targetSide ∧ ∃ x, Place c r.source r.target x y

/-- Qualified names stand for one reference on each side, and none of a source is another one that
goes on with `To`. -/
structure ClearNames (c : Catalog) (requests : Set ConversionRequest) : Prop where
  source : ∀ side x side' x', SourceSite c requests side x → SourceSite c requests side' x' →
    qualifiedName c side x = qualifiedName c side' x' → side.typeRef c x = side'.typeRef c x'
  target : ∀ side y side' y', TargetSite c requests side y → TargetSite c requests side' y' →
    qualifiedName c side y = qualifiedName c side' y' → side.typeRef c y = side'.typeRef c y'
  apart : ∀ side x side' x', SourceSite c requests side x → SourceSite c requests side' x' →
    ∀ rest, qualifiedName c side' x' ≠ qualifiedName c side x ++ "To" ++ rest

section Names

variable {c : Catalog} {requests : Set ConversionRequest} {r r' : ConversionRequest}
  {x y x' y' : Attribute} {code : Code}

theorem ClearNames.refs (clear : ClearNames c requests) (mem : r ∈ requests)
    (mem' : r' ∈ requests) (place : Place c r.source r.target x y)
    (place' : Place c r'.source r'.target x' y') (prefixes : r.helperPrefix = r'.helperPrefix)
    (same : (frameOf c r).helperName x y = (frameOf c r').helperName x' y') :
    r.sourceSide.typeRef c x = r'.sourceSide.typeRef c x' ∧
      r.targetSide.typeRef c y = r'.targetSide.typeRef c y' := by
  have left : SourceSite c requests r.sourceSide x := ⟨r, mem, rfl, y, place⟩
  have left' : SourceSite c requests r'.sourceSide x' := ⟨r', mem', rfl, y', place'⟩
  have right : TargetSite c requests r.targetSide y := ⟨r, mem, rfl, x, place⟩
  have right' : TargetSite c requests r'.targetSide y' := ⟨r', mem', rfl, x', place'⟩
  have parts : qualifiedName c r.sourceSide x ++ "To" ++ qualifiedName c r.targetSide y =
      qualifiedName c r'.sourceSide x' ++ "To" ++ qualifiedName c r'.targetSide y' := by
    rw [helperName_eq, helperName_eq] at same
    have prefixes : (frameOf c r).helperPrefix = (frameOf c r').helperPrefix := prefixes
    rw [prefixes] at same
    exact (String.append_right_inj _).mp same
  rcases parted_at_to parts with ⟨source, target⟩ | ⟨rest, longer⟩ | ⟨rest, longer⟩
  · exact ⟨clear.source _ _ _ _ left left' source, clear.target _ _ _ _ right right' target⟩
  · exact absurd longer (clear.apart _ _ _ _ left left' rest)
  · exact absurd longer (clear.apart _ _ _ _ left' left rest)

theorem Complete.place_of_call (complete : Complete c r code) {n : String} (call : n ∈ code.calls) :
    ∃ x y, Place c r.source r.target x y ∧ n = (frameOf c r).helperName x y := by
  obtain ⟨h, mem, rfl⟩ := List.mem_map.mp (complete.called call)
  obtain ⟨x, y, place, converts⟩ := complete.made h mem
  exact ⟨x, y, place, converts.name⟩

theorem Complete.signature (complete : Complete c r code) (clear : ClearNames c {r})
    (place : Place c r.source r.target x y)
    (call : (frameOf c r).helperName x y ∈ code.calls) :
    ∃ h ∈ code.helpers, h.name = (frameOf c r).helperName x y ∧
      h.paramType = r.sourceSide.typeRef c x ∧ h.resultType = r.targetSide.typeRef c y := by
  obtain ⟨h, mem, name⟩ := List.mem_map.mp (complete.called call)
  obtain ⟨x', y', place', converts⟩ := complete.made h mem
  have same := converts.name.symm.trans name
  obtain ⟨source, target⟩ :=
    clear.refs (Set.mem_singleton r) (Set.mem_singleton r) place' place rfl same
  exact ⟨h, mem, name, converts.paramType.trans source, converts.resultType.trans target⟩

end Names

end Toolbridge.Conversion
