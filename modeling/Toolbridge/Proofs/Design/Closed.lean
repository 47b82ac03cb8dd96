import Toolbridge.Proofs.Attribute.Resolve
import Toolbridge.Proofs.Design.Written
import Toolbridge.Proofs.Import.Sight
import Mathlib.Data.List.Nodup

set_option autoImplicit false

namespace Toolbridge

namespace Attribute

/-- Not named in place, and a type of the first `count` if any. -/
structure RefersBelow (count : Nat) (a : Attribute) : Prop where
  below : ∀ id, a.type = some (.user id) → id < count
  unnamed : ∀ name body, a.type ≠ some (.named name body)

def Declared (count : Nat) (a : Attribute) : Prop := ∀ x ∈ a.tree, x.RefersBelow count

instance (count : Nat) : (a : Attribute) → Decidable (a.RefersBelow count)
  | ⟨some (.user id), _, _⟩ =>
    decidable_of_iff (id < count)
      ⟨fun below => ⟨fun _ shape => by cases shape; exact below, nofun⟩, fun h => h.below id rfl⟩
  | ⟨some (.named name body), _, _⟩ => isFalse fun h => h.unnamed name body rfl
  | ⟨none, _, _⟩ => isTrue ⟨nofun, nofun⟩
  | ⟨some (.primitive _), _, _⟩ => isTrue ⟨nofun, nofun⟩
  | ⟨some (.object _), _, _⟩ => isTrue ⟨nofun, nofun⟩
  | ⟨some (.array _), _, _⟩ => isTrue ⟨nofun, nofun⟩
  | ⟨some (.map _ _), _, _⟩ => isTrue ⟨nofun, nofun⟩
  | ⟨some (.union _), _, _⟩ => isTrue ⟨nofun, nofun⟩

instance (count : Nat) (a : Attribute) : Decidable (a.Declared count) :=
  inferInstanceAs (Decidable (∀ x ∈ a.tree, x.RefersBelow count))

variable {count : Nat} {a : Attribute}

theorem declared_iff :
    a.Declared count ↔ a.RefersBelow count ∧ ∀ b ∈ a.direct, b.Declared count := by
  unfold Declared
  rw [tree_eq]
  constructor
  · intro h
    refine ⟨h a List.mem_cons_self, fun b mem x below => ?_⟩
    exact h x (List.mem_cons_of_mem _ (List.mem_flatMap.mpr ⟨b, mem, below⟩))
  · rintro ⟨top, parts⟩ x mem
    rcases List.mem_cons.mp mem with rfl | mem
    · exact top
    · obtain ⟨b, memB, below⟩ := List.mem_flatMap.mp mem
      exact parts b memB x below

theorem Declared.refersBelow (h : a.Declared count) : a.RefersBelow count := (declared_iff.mp h).1

theorem Declared.direct (h : a.Declared count) {b : Attribute} (mem : b ∈ a.direct) :
    b.Declared count := (declared_iff.mp h).2 b mem

theorem Declared.unwrapped (h : a.Declared count) : a.unwrapped = a := by
  obtain ⟨type, required, default⟩ := a
  cases type with
  | none => rfl
  | some type =>
    cases type with
    | named name body => exact absurd rfl (h.refersBelow.unnamed name body)
    | _ => rfl

theorem declared_empty (count : Nat) : Declared count {} :=
  declared_iff.mpr ⟨⟨nofun, nofun⟩, nofun⟩

theorem Declared.withDefault (h : a.Declared count) (default : Option Json.Value) :
    Declared count { a with default } := by
  obtain ⟨top, parts⟩ := declared_iff.mp h
  exact declared_iff.mpr ⟨⟨top.below, top.unnamed⟩, parts⟩

end Attribute

namespace Catalog

/-- Bodies refer to types of the catalog only, and a name stands for one type. -/
structure Closed (c : Catalog) : Prop where
  names : (c.types.map (·.name)).Nodup
  bodies : ∀ t ∈ c.types, t.body.Declared c.types.length

instance (c : Catalog) : Decidable c.Closed :=
  decidable_of_iff
    ((c.types.map (·.name)).Nodup ∧ ∀ t ∈ c.types, t.body.Declared c.types.length)
    ⟨fun h => ⟨h.1, h.2⟩, fun h => ⟨h.names, h.bodies⟩⟩

variable {c : Catalog} {a x y : Attribute} {t u : UserType}

theorem id_eq_of_nodup {f : UserType → String} (distinct : (c.types.map f).Nodup) {i j : TypeId}
    (left : i < c.types.length) (right : j < c.types.length) (same : f (c.get i) = f (c.get j)) :
    i = j := by
  rw [get_eq_getElem left, get_eq_getElem right] at same
  have leftMapped : i < (c.types.map f).length := by rwa [List.length_map]
  have rightMapped : j < (c.types.map f).length := by rwa [List.length_map]
  have sameText : (c.types.map f)[i] = (c.types.map f)[j] := by
    rw [List.getElem_map, List.getElem_map]
    exact same
  exact (List.Nodup.getElem_inj_iff distinct).mp sameText

theorem Closed.part (closed : c.Closed) (declared : x.Declared c.types.length)
    (step : c.Part x y) : y.Declared c.types.length := by
  rcases part_iff.mp step with part | ⟨id, shape, rfl⟩
  · exact declared.direct part
  · have inside := declared.refersBelow.below id shape
    rw [get_eq_getElem inside]
    exact closed.bodies _ (List.getElem_mem inside)

theorem Closed.reaches (closed : c.Closed) (declared : a.Declared c.types.length)
    (path : c.Reaches a x) : x.Declared c.types.length := by
  induction path with
  | refl => exact declared
  | tail _ step ih => exact closed.part ih step

theorem Attribute.Declared.userType? (declared : x.Declared c.types.length)
    (type : c.userType? x = some t) : ∃ id, id < c.types.length ∧ t = c.get id := by
  rcases type_eq_of_userType? type with ⟨id, shape, rfl⟩ | ⟨name, body, shape, -⟩
  · exact ⟨id, declared.refersBelow.below id shape, rfl⟩
  · exact absurd shape (declared.refersBelow.unnamed name body)

theorem Closed.region (closed : c.Closed) (hidden : List String) :
    c.Region hidden fun x => x.Declared c.types.length := by
  refine ⟨fun x y declared step => closed.part declared step,
    fun x declared => declared.refersBelow.below, ?_⟩
  intro x y t u declaredX declaredY typeX typeY same _
  obtain ⟨id, inside, rfl⟩ := Attribute.Declared.userType? declaredX typeX
  obtain ⟨id', inside', rfl⟩ := Attribute.Declared.userType? declaredY typeY
  rw [id_eq_of_nodup closed.names inside inside' same]

theorem Closed.field? (closed : c.Closed) (declared : a.Declared c.types.length) {name : String}
    (found : c.field? a name = some x) : x.Declared c.types.length := by
  unfold Catalog.field? at found
  split at found
  · rename_i fields shape
    obtain ⟨m, memM, rfl⟩ := Option.map_eq_some_iff.mp found
    have path := (reaches_resolveWithin c c.types.length a).part
      (.field shape (List.mem_of_find?_eq_some memM))
    exact closed.reaches declared path
  · cases found

end Catalog

namespace Design

/-- Names stand for types of the document, wherever in an expression they are. -/
theorem DesignDoc.Writes.declared {d : DesignDoc} {e : TypeExpr} {a : Attribute}
    (h : d.Writes e a) : a.Declared d.types.length := by
  induction h with
  | primitive => exact Attribute.declared_iff.mpr ⟨⟨nofun, nofun⟩, nofun⟩
  | user free means =>
    refine Attribute.declared_iff.mpr ⟨⟨fun other shape => ?_, nofun⟩, nofun⟩
    cases shape
    exact (List.findIdx?_eq_some_iff_findIdx_eq.mp means).1
  | object names each ih =>
    exact Attribute.declared_iff.mpr ⟨⟨nofun, nofun⟩, forall_attr_of_fields names ih⟩
  | array inner ih =>
    refine Attribute.declared_iff.mpr ⟨⟨nofun, nofun⟩, fun b mem => ?_⟩
    rw [List.mem_singleton.mp mem]
    exact ih
  | map keys values ihKeys ihValues =>
    refine Attribute.declared_iff.mpr ⟨⟨nofun, nofun⟩, fun b mem => ?_⟩
    rcases List.mem_cons.mp mem with rfl | mem
    · exact ihKeys
    · rw [List.mem_singleton.mp mem]
      exact ihValues
  | union names each ih =>
    exact Attribute.declared_iff.mpr ⟨⟨nofun, nofun⟩, forall_attr_of_fields names ih⟩
  | defaulted inner ih => exact ih.withDefault _
  | undefaulted inner ih => exact ih

theorem DesignDoc.WritesOr.declared {d : DesignDoc} {e : Option TypeExpr} {a : Attribute}
    (h : d.WritesOr e a) : a.Declared d.types.length := by
  cases e with
  | none =>
    obtain rfl : a = {} := h
    exact Attribute.declared_empty _
  | some e => exact DesignDoc.Writes.declared h

end Design

structure Tool.Declared (count : Nat) (t : Tool) : Prop where
  args : t.args.Declared count
  result : t.result.Declared count
  payload : ∀ m, t.method = some m → m.payload.Declared count
  output : ∀ m, t.method = some m → m.result.Declared count
  schemas : ∀ p ∈ t.serverData, ∀ a, p.schema = some a → a.Declared count

namespace Design

section Declared

variable {d : DesignDoc} {design : Design}

theorem DesignDoc.WritesTool.declared {toolset : String} {decl : ToolDecl} {t : Tool}
    (h : d.WritesTool toolset decl t) : t.Declared d.types.length := by
  have bound : ∀ m, t.method = some m → ∃ decl, d.WritesMethod decl m :=
    fun m given => exists_of_optionRel h.method given
  refine ⟨h.args.declared, h.result.declared, fun m given => ?_, fun m given => ?_,
    fun p mem a given => ?_⟩
  · obtain ⟨decl, method⟩ := bound m given
    exact method.payload.declared
  · obtain ⟨decl, method⟩ := bound m given
    exact method.result.declared
  · obtain ⟨decl, -, projection⟩ := exists_of_forall₂ h.serverData mem
    obtain ⟨e, schema⟩ := exists_of_optionRel projection.schema given
    exact schema.declared

theorem DesignDoc.WritesDesign.names (h : d.WritesDesign design) :
    design.catalog.types.map (·.name) = d.types.map (·.name) := by
  have each : List.Forall₂ (fun u t => u.name = t.name) design.catalog.types d.types :=
    h.types.flip.imp fun _ _ type => type.name
  rwa [← List.forall₂_eq_eq_eq, List.forall₂_map_left_iff, List.forall₂_map_right_iff]

theorem resolve_closed (keyed : (d.types.map (·.name)).Nodup) (h : d.resolve = .ok design) :
    design.catalog.Closed ∧
      ∀ s ∈ design.toolsets, ∀ t ∈ s.tools, t.Declared design.catalog.types.length := by
  have written := writesDesign h
  rw [← written.types.length_eq]
  refine ⟨⟨written.names ▸ keyed, fun t mem => ?_⟩, fun s memS t memT => ?_⟩
  · obtain ⟨decl, -, type⟩ := exists_of_forall₂ written.types mem
    rw [← written.types.length_eq]
    exact type.body.declared
  · obtain ⟨decl, -, toolset⟩ := exists_of_forall₂ written.toolsets memS
    obtain ⟨declT, -, tool⟩ := exists_of_forall₂ toolset.tools memT
    exact tool.declared

end Declared

end Design
end Toolbridge
