import Toolbridge.Proofs.Attribute.Members
import Toolbridge.Proofs.Attribute.Resolve
import Toolbridge.Proofs.Go.Spelling

set_option autoImplicit false

namespace Toolbridge

namespace Catalog

variable {c : Catalog} {a x : Attribute} {fields : List Member} {field : String}

theorem resolve_of_direct (direct : c.userType? a = none) : c.resolve a = a := by
  have bare : a.bare = a := by
    rw [Attribute.bare]
    rintro name body required default rfl
    cases direct
  have plain : c.userType? a.bare = none := by
    rw [bare]
    exact direct
  exact (resolveWithin_of_none _ plain).trans bare

theorem userType?_of_object (object : a.type = some (.object fields)) : c.userType? a = none := by
  unfold userType?
  rw [object]

theorem userType?_of_primitive {p : Primitive} (primitive : a.primitive? = some p) :
    c.userType? a = none := by
  unfold Attribute.primitive? at primitive
  split at primitive
  · rename_i same
    unfold userType?
    rw [same]
  · cases primitive

theorem resolvedPrimitive?_of_primitive {p : Primitive} (primitive : a.primitive? = some p) :
    c.resolvedPrimitive? a = some p := by
  unfold resolvedPrimitive?
  rw [resolve_of_direct (userType?_of_primitive primitive)]
  exact primitive

theorem isPrimitivePointer_resolve (object : (c.resolve a).type = some (.object fields))
    (useDefault : Bool) :
    c.isPrimitivePointer (c.resolve a) field useDefault =
      c.isPrimitivePointer a field useDefault := by
  unfold isPrimitivePointer field? isRequired
  rw [resolve_of_direct (userType?_of_object object)]

theorem object_of_field? (found : c.field? a field = some x) :
    ∃ fields m, (c.resolve a).type = some (.object fields) ∧ Members.find? fields field = some m ∧
      m.attr = x := by
  unfold field? at found
  split at found
  · rename_i fields object
    obtain ⟨m, first, attr⟩ := Option.map_eq_some_iff.mp found
    exact ⟨fields, m, object, first, attr⟩
  · cases found

theorem isPrimitivePointer_eq (found : c.field? a field = some x) (useDefault : Bool) :
    c.isPrimitivePointer a field useDefault = (x.primitive?.any (·.isPointerEligible) &&
      !c.isRequired a field && !(useDefault && x.default.isSome)) := by
  unfold isPrimitivePointer
  rw [found]
  dsimp only
  cases x.primitive? <;> rfl

end Catalog

namespace Go

section Fields

variable {c : Catalog} {package : String} {a owner : Attribute} {t : UserType} {field : String}

def fieldType (c : Catalog) (package : String) (owner : Attribute) (field : String)
    (a : Attribute) : String :=
  (if c.isPrimitivePointer owner field true then "*" else "") ++ typeRef c package a

def fieldRef (c : Catalog) (package : String) (owner : Attribute) (m : Member) : String :=
  identifier true m.name ++ " " ++ fieldType c package owner m.name m.attr

theorem memberRefs_eq_map (members : List Member) :
    memberRefs c package owner members = members.map (fieldRef c package owner) := by
  induction members with
  | nil => rfl
  | cons m rest ih =>
    obtain ⟨name, attr⟩ := m
    unfold memberRefs
    rw [ih, List.map_cons]
    exact congrArg (· :: _) String.append_assoc

theorem typeRef_located (located : (c.location? a).isSome = true) (package package' : String) :
    typeRef c package a = typeRef c package' a := by
  obtain ⟨l, placed⟩ := Option.isSome_iff_exists.mp located
  have qualifiers : qualifier c package a = qualifier c package' a := by
    unfold qualifier
    rw [placed]
  obtain ⟨type, required, default⟩ := a
  cases type with
  | none => cases placed
  | some type =>
    cases type with
    | user id =>
      unfold typeRef
      rw [qualifiers]
    | named name body =>
      unfold typeRef
      rw [qualifiers]
    | _ => cases placed

theorem typeRef_userType (type : c.userType? a = some t) :
    typeRef c package a = stem c package a ++ identifier true t.name := by
  obtain ⟨shape, required, default⟩ := a
  rcases Catalog.type_eq_of_userType? type with ⟨id, same, rfl⟩ | ⟨name, body, same, rfl⟩
  · obtain rfl := same
    rfl
  · obtain rfl := same
    rfl

theorem isPointerRef_iff {reference : String} :
    isPointerRef reference = true ↔ ∃ rest, reference = "*" ++ rest := by
  unfold isPointerRef
  rw [beq_iff_eq]
  constructor
  · intro head
    cases chars : reference.toList with
    | nil =>
      rw [chars] at head
      cases head
    | cons first rest =>
      rw [chars] at head
      obtain rfl := Option.some.inj head
      refine ⟨String.ofList rest, String.toList_injective ?_⟩
      rw [chars, String.toList_append]
      exact congrArg ('*' :: ·) String.toList_ofList.symm
  · rintro ⟨rest, rfl⟩
    rw [String.toList_append]
    rfl

theorem isPointerRef_append (rest : String) : isPointerRef ("*" ++ rest) = true :=
  isPointerRef_iff.mpr ⟨rest, rfl⟩

theorem isPointerRef_object (type : c.userType? a = some t) (object : c.isObject a = true) :
    isPointerRef (typeRef c package a) = true := by
  rw [typeRef_userType type, stem, object, if_pos rfl, String.append_assoc]
  exact isPointerRef_append _

theorem head_typeRef_struct {members : List Member} (object : a.type = some (.object members)) :
    (typeRef c package a).toList.head? = some 's' := by
  obtain ⟨_, required, default⟩ := a
  obtain rfl := object
  unfold typeRef
  split
  · decide
  · rw [String.append_assoc, String.toList_append]
    rfl

theorem isPointerRef_goName (p : Primitive) : isPointerRef p.goName = false := by
  cases p <;> decide

theorem typeRef_primitive {p : Primitive} (primitive : a.primitive? = some p) :
    typeRef c package a = p.goName := by
  obtain ⟨type, required, default⟩ := a
  cases type with
  | none => cases primitive
  | some type =>
    cases type with
    | primitive q =>
      obtain rfl := Option.some.inj primitive
      rfl
    | _ => cases primitive

end Fields

end Go
end Toolbridge
