import Toolbridge.Design.Resolution
import Toolbridge.Proofs.Attribute.Vicinity
import Toolbridge.Proofs.Results

set_option autoImplicit false

namespace Toolbridge.Design

namespace DesignDoc

inductive Writes (d : DesignDoc) : TypeExpr → Attribute → Prop where
  | primitive {name : String} {p : Primitive} (means : Primitive.ofName? name = some p) :
      Writes d (.name name) (.ofType (.primitive p))
  | user {name : String} {id : TypeId} (free : Primitive.ofName? name = none)
      (means : d.typeId? name = some id) : Writes d (.name name) (.ofType (.user id))
  | object {fields : List (String × TypeExpr)} {required : List String} {members : List Member}
      (names : members.map (·.name) = fields.map Prod.fst)
      (each : ∀ p ∈ fields.zip members, Writes d p.1.2 p.2.attr) :
      Writes d (.object fields required) { type := some (.object members), required }
  | array {element : TypeExpr} {a : Attribute} (inner : Writes d element a) :
      Writes d (.array element) (.ofType (.array a))
  | map {key value : TypeExpr} {k v : Attribute} (keys : Writes d key k)
      (values : Writes d value v) : Writes d (.map key value) (.ofType (.map k v))
  | union {types : List (String × TypeExpr)} {members : List Member}
      (names : members.map (·.name) = types.map Prod.fst)
      (each : ∀ p ∈ types.zip members, Writes d p.1.2 p.2.attr) :
      Writes d (.union types) (.ofType (.union members))
  | defaulted {type : TypeExpr} {default : Json.Value} {a : Attribute} (inner : Writes d type a) :
      Writes d (.withDefault type (some default)) { a with default := some default }
  | undefaulted {type : TypeExpr} {a : Attribute} (inner : Writes d type a) :
      Writes d (.withDefault type none) a

/-- What is not written is the empty attribute. -/
def WritesOr (d : DesignDoc) : Option TypeExpr → Attribute → Prop
  | some e, a => d.Writes e a
  | none, a => a = {}

structure WritesType (d : DesignDoc) (t : TypeDecl) (u : UserType) : Prop where
  name : u.name = t.name
  owner : t.service = none ∧ u.service = none ∨
    ∃ name s, t.service = some name ∧ d.service? name = some s ∧ u.service = some s.pathName
  location : u.location = t.location
  body : d.Writes t.type u.body

structure WritesMethod (d : DesignDoc) (m : MethodDecl) (b : MethodBinding) : Prop where
  name : b.name = m.name
  payload : d.WritesOr m.payload b.payload
  result : d.WritesOr m.result b.result
  payloadRef : b.payloadRef = m.payloadRef
  resultRef : b.resultRef = m.resultRef

structure WritesProjection (d : DesignDoc) (p : ProjectionDecl) (q : Projection) : Prop where
  kind : q.kind = p.kind
  field : q.field = p.field
  schema : Option.Rel d.Writes p.schema q.schema

structure WritesTool (d : DesignDoc) (toolset : String) (t : ToolDecl) (u : Tool) : Prop where
  name : u.name = t.name
  qualifiedName : u.qualifiedName = Tool.qualify toolset t.name
  args : d.WritesOr t.args u.args
  result : d.WritesOr t.result u.result
  method : Option.Rel d.WritesMethod t.method u.method
  serverData : List.Forall₂ d.WritesProjection t.serverData u.serverData

structure WritesToolset (d : DesignDoc) (s : ToolsetDecl) (u : Toolset) : Prop where
  name : u.name = s.name
  specsDir : u.specsDir = s.specsDir
  specsPackage : u.specsPackage = s.specsPackage.getD (Toolset.defaultPackage s.name)
  source : s.sourceService = none ∧ u.sourceService = some d.service.service ∨
    ∃ name service, s.sourceService = some name ∧ d.service? name = some service ∧
      u.sourceService = some service
  tools : List.Forall₂ (d.WritesTool s.name) s.tools u.tools

/-- The design is what the document writes, and no expression leads to an empty attribute. -/
structure WritesDesign (d : DesignDoc) (design : Design) : Prop where
  service : design.service = d.service.service
  root : design.root = d.root
  types : List.Forall₂ d.WritesType d.types design.catalog.types
  toolsets : List.Forall₂ d.WritesToolset d.toolsets design.toolsets
  shared : ∀ name id, d.typeId? name = some id →
    ∃ t ∈ d.types, t.name = name ∧ d.WritesType t (design.catalog.get id)
  filled : ∀ e a x, d.Writes e a → design.catalog.Reaches a x → x.isEmpty = false

end DesignDoc

section Partners

variable {α β : Type} {R : α → β → Prop} {y : β}

theorem exists_of_forall₂ {xs : List α} {ys : List β} (h : List.Forall₂ R xs ys) (mem : y ∈ ys) :
    ∃ x ∈ xs, R x y := by
  induction h with
  | nil => cases mem
  | cons first _ ih =>
    rcases List.mem_cons.mp mem with rfl | mem
    · exact ⟨_, List.mem_cons_self, first⟩
    · obtain ⟨x, memX, related⟩ := ih mem
      exact ⟨x, List.mem_cons_of_mem _ memX, related⟩

theorem exists_of_optionRel {o : Option α} {r : Option β} (h : Option.Rel R o r)
    (given : r = some y) : ∃ x, R x y := by
  cases h with
  | some related =>
    cases given
    exact ⟨_, related⟩
  | none => cases given

theorem forall_attr_of_fields {P : Attribute → Prop} {fields : List (String × TypeExpr)}
    {members : List Member} (names : members.map (·.name) = fields.map Prod.fst)
    (each : ∀ p ∈ fields.zip members, P p.2.attr) : ∀ a ∈ members.map (·.attr), P a := by
  intro a mem
  obtain ⟨m, memM, rfl⟩ := List.mem_map.mp mem
  have lengths := congrArg List.length names
  rw [List.length_map, List.length_map] at lengths
  have all : (fields.zip members).map Prod.snd = members :=
    List.map_snd_zip (Nat.le_of_eq lengths)
  rw [← all] at memM
  obtain ⟨p, memP, rfl⟩ := List.mem_map.mp memM
  exact each p memP

end Partners

section Expressions

variable {d : DesignDoc} {place : String}

theorem writes_named {name : String} {a : Attribute} (h : d.named place name = .ok a) :
    d.Writes (.name name) a := by
  unfold DesignDoc.named at h
  split at h
  · rename_i p primitive
    cases h
    exact .primitive primitive
  · rename_i free
    split at h
    · rename_i id declared
      cases h
      exact .user free declared
    · cases h

theorem writes_withDefault {type : TypeExpr} {a : Attribute} (h : d.Writes type a)
    (default : Option Json.Value) :
    d.Writes (.withDefault type default) { a with default := default.or a.default } := by
  cases default with
  | none =>
    obtain ⟨type, required, given⟩ := a
    exact .undefaulted h
  | some value => exact .defaulted h

theorem members_names {placeOf : String → String} {fields : List (String × TypeExpr)}
    {members : List Member} (h : d.members placeOf fields = .ok members) :
    members.map (·.name) = fields.map Prod.fst := by
  induction fields generalizing members with
  | nil =>
    cases h
    rfl
  | cons field rest ih =>
    obtain ⟨name, type⟩ := field
    rw [DesignDoc.members] at h
    obtain ⟨attr, -, h⟩ := bind_ok h
    obtain ⟨others, later, h⟩ := bind_ok h
    cases h
    rw [List.map_cons, List.map_cons, ih later]

mutual
theorem writes_attribute (d : DesignDoc) (place : String) (e : TypeExpr) (a : Attribute)
    (h : d.attribute place e = .ok a) : d.Writes e a := by
  match e with
  | .name name => exact writes_named h
  | .object fields required =>
    rw [DesignDoc.attribute] at h
    obtain ⟨members, resolved, h⟩ := bind_ok h
    split at h
    · cases h
    · cases h
      exact .object (members_names resolved) (writes_members d _ fields members resolved)
  | .array element =>
    rw [DesignDoc.attribute] at h
    obtain ⟨inner, resolved, h⟩ := bind_ok h
    cases h
    exact .array (writes_attribute d _ element inner resolved)
  | .map key value =>
    rw [DesignDoc.attribute] at h
    obtain ⟨k, resolvedKey, h⟩ := bind_ok h
    obtain ⟨v, resolvedValue, h⟩ := bind_ok h
    cases h
    exact .map (writes_attribute d _ key k resolvedKey) (writes_attribute d _ value v resolvedValue)
  | .union types =>
    rw [DesignDoc.attribute] at h
    obtain ⟨members, resolved, h⟩ := bind_ok h
    cases h
    exact .union (members_names resolved) (writes_members d _ types members resolved)
  | .withDefault type default =>
    rw [DesignDoc.attribute] at h
    obtain ⟨inner, resolved, h⟩ := bind_ok h
    cases h
    exact writes_withDefault (writes_attribute d _ type inner resolved) default
theorem writes_members (d : DesignDoc) (placeOf : String → String)
    (fields : List (String × TypeExpr)) (members : List Member)
    (h : d.members placeOf fields = .ok members) :
    ∀ p ∈ fields.zip members, d.Writes p.1.2 p.2.attr := by
  match fields with
  | [] => nofun
  | (name, type) :: rest =>
    rw [DesignDoc.members] at h
    obtain ⟨attr, first, h⟩ := bind_ok h
    obtain ⟨others, later, h⟩ := bind_ok h
    cases h
    rw [List.zip_cons_cons, List.forall_mem_cons]
    exact ⟨writes_attribute d _ type attr first, writes_members d placeOf rest others later⟩
end

theorem writes_attributeOr {e : Option TypeExpr} {a : Attribute}
    (h : d.attributeOr place e = .ok a) : d.WritesOr e a := by
  cases e with
  | none =>
    cases h
    exact rfl
  | some e => exact writes_attribute d place e a h

end Expressions

section Documents

variable {d : DesignDoc} {design : Design}

theorem service?_of_serviceAt {place name : String} {s : Service}
    (h : d.serviceAt place name = .ok s) : d.service? name = some s := by
  unfold DesignDoc.serviceAt at h
  split at h
  · rename_i found
    cases h
    exact found
  · cases h

theorem writesType_of_parts {t : TypeDecl} {owner : Option String} {body : Attribute}
    (owned : d.owner t = .ok owner) (resolved : d.attribute (typePlace t) t.type = .ok body) :
    d.WritesType t (userType t owner body) := by
  refine ⟨rfl, ?_, rfl, writes_attribute d _ t.type body resolved⟩
  unfold DesignDoc.owner at owned
  cases service : t.service with
  | none =>
    rw [service] at owned
    cases owned
    exact .inl ⟨rfl, rfl⟩
  | some name =>
    rw [service] at owned
    obtain ⟨s, found, owned⟩ := bind_ok owned
    cases owned
    exact .inr ⟨name, s, rfl, service?_of_serviceAt found, rfl⟩

/-- Owners and bodies are put together type by type. -/
theorem forall₂_zipped {α β γ δ : Type} {R : α → β → Prop} {S : α → γ → Prop} {T : α → δ → Prop}
    {f : α → β → γ → δ} {xs : List α} {ys : List β} {zs : List γ} (left : List.Forall₂ R xs ys)
    (right : List.Forall₂ S xs zs) (make : ∀ x y z, R x y → S x z → T x (f x y z)) :
    List.Forall₂ T xs ((xs.zip (ys.zip zs)).map fun p => f p.1 p.2.1 p.2.2) := by
  induction left generalizing zs with
  | nil => exact .nil
  | cons first _ ih =>
    cases right with
    | cons second others => exact .cons (make _ _ _ first second) (ih others)

theorem writesTypes {c : Catalog} (h : d.resolveCatalog = .ok c) :
    List.Forall₂ d.WritesType d.types c.types := by
  unfold DesignDoc.resolveCatalog at h
  obtain ⟨owners, owned, h⟩ := bind_ok h
  obtain ⟨bodies, resolved, h⟩ := bind_ok h
  cases h
  exact forall₂_zipped (mapM_ok owned) (mapM_ok resolved) fun t _ _ => writesType_of_parts

theorem writesMethod {place : String} {m : MethodDecl} {b : MethodBinding}
    (h : d.resolveMethod place m = .ok b) : d.WritesMethod m b := by
  unfold DesignDoc.resolveMethod at h
  obtain ⟨payload, resolvedPayload, h⟩ := bind_ok h
  obtain ⟨result, resolvedResult, h⟩ := bind_ok h
  cases h
  exact ⟨rfl, writes_attributeOr resolvedPayload, writes_attributeOr resolvedResult, rfl, rfl⟩

theorem writesProjection {place : String} {p : ProjectionDecl} {q : Projection}
    (h : d.resolveProjection place p = .ok q) : d.WritesProjection p q := by
  unfold DesignDoc.resolveProjection at h
  obtain ⟨schema, resolved, h⟩ := bind_ok h
  cases h
  exact ⟨rfl, rfl, optionRel_of_mapM resolved fun e a => writes_attribute d _ e a⟩

theorem writesTool {toolset : String} {t : ToolDecl} {u : Tool}
    (h : d.resolveTool toolset t = .ok u) : d.WritesTool toolset t u := by
  unfold DesignDoc.resolveTool at h
  obtain ⟨args, resolvedArgs, h⟩ := bind_ok h
  obtain ⟨result, resolvedResult, h⟩ := bind_ok h
  obtain ⟨method, resolvedMethod, h⟩ := bind_ok h
  obtain ⟨serverData, resolvedData, h⟩ := bind_ok h
  cases h
  refine ⟨rfl, rfl, writes_attributeOr resolvedArgs, writes_attributeOr resolvedResult, ?_, ?_⟩
  · exact optionRel_of_mapM resolvedMethod fun _ _ => writesMethod
  · exact (mapM_ok resolvedData).imp fun _ _ => writesProjection

theorem writesToolset {s : ToolsetDecl} {u : Toolset} (h : d.resolveToolset s = .ok u) :
    d.WritesToolset s u := by
  unfold DesignDoc.resolveToolset at h
  obtain ⟨service, found, h⟩ := bind_ok h
  obtain ⟨tools, resolved, h⟩ := bind_ok h
  cases h
  refine ⟨rfl, rfl, rfl, ?_, (mapM_ok resolved).imp fun _ _ => writesTool⟩
  unfold DesignDoc.sourceService at found
  cases source : s.sourceService with
  | none =>
    rw [source] at found
    cases found
    exact .inl ⟨rfl, rfl⟩
  | some name =>
    rw [source] at found
    exact .inr ⟨name, service, rfl, service?_of_serviceAt found, rfl⟩

end Documents

section Reached

variable {d : DesignDoc} {c : Catalog}

/-- The type that a name stands for is the one that is declared under it. -/
theorem writesType_of_typeId? (types : List.Forall₂ d.WritesType d.types c.types) {name : String}
    {id : TypeId} (means : d.typeId? name = some id) :
    ∃ t ∈ d.types, t.name = name ∧ d.WritesType t (c.get id) := by
  obtain ⟨inside, named, -⟩ := List.findIdx?_eq_some_iff_getElem.mp means
  have inside' : id < c.types.length := types.length_eq ▸ inside
  refine ⟨d.types[id], List.getElem_mem inside, beq_iff_eq.mp named, ?_⟩
  rw [Catalog.get_eq_getElem inside']
  exact types.get inside inside'

theorem DesignDoc.Writes.isEmpty {e : TypeExpr} {a : Attribute} (h : d.Writes e a) : a.isEmpty = false := by
  induction h with
  | defaulted _ ih => exact ih
  | undefaulted _ ih => exact ih
  | _ => rfl

theorem writes_direct {e : TypeExpr} {a : Attribute} (h : d.Writes e a) :
    ∀ x ∈ a.direct, ∃ e', d.Writes e' x := by
  induction h with
  | primitive => nofun
  | user => nofun
  | object names each => exact forall_attr_of_fields names fun p mem => ⟨p.1.2, each p mem⟩
  | array inner =>
    intro x mem
    rw [List.mem_singleton.mp mem]
    exact ⟨_, inner⟩
  | map keys values =>
    intro x mem
    rcases List.mem_cons.mp mem with rfl | mem
    · exact ⟨_, keys⟩
    · rw [List.mem_singleton.mp mem]
      exact ⟨_, values⟩
  | union names each => exact forall_attr_of_fields names fun p mem => ⟨p.1.2, each p mem⟩
  | defaulted _ ih => exact ih
  | undefaulted _ ih => exact ih

theorem writes_user {e : TypeExpr} {a : Attribute} {id : TypeId} (h : d.Writes e a)
    (shape : a.type = some (.user id)) : ∃ name, d.typeId? name = some id := by
  induction h with
  | user free means =>
    cases shape
    exact ⟨_, means⟩
  | defaulted _ ih => exact ih shape
  | undefaulted _ ih => exact ih shape
  | _ => cases shape

/-- Whatever can be reached is written by some expression, in a body if not in place. -/
theorem writes_reached (types : List.Forall₂ d.WritesType d.types c.types) {e : TypeExpr}
    {a x : Attribute} (h : d.Writes e a) (path : c.Reaches a x) : ∃ e', d.Writes e' x := by
  induction path with
  | refl => exact ⟨e, h⟩
  | tail _ step ih =>
    obtain ⟨e', here⟩ := ih
    rcases Catalog.part_iff.mp step with part | ⟨id, shape, rfl⟩
    · exact writes_direct here _ part
    · obtain ⟨name, means⟩ := writes_user here shape
      -- here the path leaves the expression and goes on in a body
      obtain ⟨t, -, -, type⟩ := writesType_of_typeId? types means
      exact ⟨t.type, type.body⟩

end Reached

theorem writesDesign {d : DesignDoc} {design : Design} (h : d.resolve = .ok design) :
    d.WritesDesign design := by
  unfold DesignDoc.resolve at h
  obtain ⟨catalog, resolved, h⟩ := bind_ok h
  obtain ⟨toolsets, resolvedSets, h⟩ := bind_ok h
  cases h
  have types := writesTypes resolved
  refine ⟨rfl, rfl, types, (mapM_ok resolvedSets).imp fun _ _ => writesToolset, ?_, ?_⟩
  · exact fun name id means => writesType_of_typeId? types means
  · intro e a x here path
    obtain ⟨e', there⟩ := writes_reached types here path
    exact there.isEmpty

end Toolbridge.Design
