import Toolbridge.Proofs.Attribute.Vicinity

set_option autoImplicit false

/-!
# What the walk for imports sees

The walk enters a name of a user type once. If types of one name are one type, it notes the import of
every type that can be reached. A name that is given in place may also belong to a declared type;
that type is taken for visited then and hides what can only be reached through it. So the walk notes
the types in sight: those on a path that does not come to a second type of a name given in place.
-/
namespace Toolbridge

namespace Catalog

variable {c : Catalog} {root : String} {visited : List String} {imports : List Import}
  {pending : List Attribute} {x y : Attribute} {t : UserType}

theorem mem_noteImport {i : Import} {o : Option Import} :
    i ∈ noteImport imports o ↔ i ∈ imports ∨ o = some i := by
  cases o with
  | none => simp [noteImport]
  | some j =>
    unfold noteImport
    dsimp only
    split
    · rename_i known
      rw [Option.some.injEq]
      constructor
      · exact .inl
      · rintro (old | rfl)
        · exact old
        · exact List.contains_iff_mem.mp known
    · simp [eq_comm]

theorem collectFrom_bare (bare : c.userType? x = none) :
    c.collectFrom root visited imports (x :: pending) =
      c.collectFrom root visited imports (x.direct ++ pending) := by
  obtain ⟨type, required, default⟩ := x
  cases type with
  | none => rw [collectFrom]; rfl
  | some type =>
    cases type with
    | user id => simp [userType?] at bare
    | named name body => simp [userType?] at bare
    | _ => rw [collectFrom]; rfl

theorem get_eq_of_getElem? {id : TypeId} (found : c.types[id]? = some t) : c.get id = t := by
  simp only [get, List.getD_eq_getElem?_getD, found, Option.getD_some]

/-- The type is in the catalog, or named in place. -/
def Knows (c : Catalog) (x : Attribute) : Prop :=
  ∀ id, x.type = some (.user id) → id < c.types.length

theorem collectFrom_known (type : c.userType? x = some t)
    (known : t.name ∈ visited) :
    c.collectFrom root visited imports (x :: pending) =
      c.collectFrom root visited imports pending := by
  have contained := List.contains_iff_mem.mpr known
  rcases type_eq_of_userType? type with ⟨id, shape, rfl⟩ | ⟨name, body, shape, rfl⟩
  · obtain ⟨type, required, default⟩ := x
    obtain rfl := shape
    rw [collectFrom]
    split
    · rfl
    · rename_i found
      rw [get_eq_of_getElem? found] at contained
      rw [dif_neg (by rw [contained]; decide)]
  · obtain ⟨type, required, default⟩ := x
    obtain rfl := shape
    rw [collectFrom, if_pos contained]

theorem collectFrom_new (knows : c.Knows x) (type : c.userType? x = some t)
    (new : t.name ∉ visited) :
    c.collectFrom root visited imports (x :: pending) =
      c.collectFrom root (t.name :: visited) (noteImport imports (t.import? root))
        (t.body :: pending) := by
  have absent : ¬ visited.contains t.name = true := fun h => new (List.contains_iff_mem.mp h)
  rcases type_eq_of_userType? type with ⟨id, shape, rfl⟩ | ⟨name, body, shape, rfl⟩
  · have inside := knows id shape
    obtain ⟨type, required, default⟩ := x
    obtain rfl := shape
    rw [collectFrom]
    split
    · rename_i missing
      exact absurd inside (Nat.not_lt.mpr (List.getElem?_eq_none_iff.mp missing))
    · rename_i found
      rw [get_eq_of_getElem? found] at absent ⊢
      rw [dif_pos (Bool.eq_false_iff.mpr absent)]
  · obtain ⟨type, required, default⟩ := x
    obtain rfl := shape
    rw [collectFrom, if_neg absent]
    rfl

theorem collect_induction (c : Catalog) (root : String)
    {motive : List String → List Import → List Attribute → Prop}
    (nil : ∀ visited imports, motive visited imports [])
    (bare : ∀ visited imports x rest, c.userType? x = none →
      motive visited imports (x.direct ++ rest) → motive visited imports (x :: rest))
    (missing : ∀ visited imports x rest id, x.type = some (.user id) → c.types[id]? = none →
      motive visited imports rest → motive visited imports (x :: rest))
    (known : ∀ visited imports x rest t, c.userType? x = some t → t.name ∈ visited →
      motive visited imports rest → motive visited imports (x :: rest))
    (new : ∀ visited imports x rest t, c.userType? x = some t → t.name ∉ visited →
      motive (t.name :: visited) (noteImport imports (t.import? root)) (t.body :: rest) →
        motive visited imports (x :: rest))
    (visited : List String) (imports : List Import) (pending : List Attribute) :
    motive visited imports pending := by
  induction visited, imports, pending using collectFrom.induct c root with
  | case1 visited imports => exact nil _ _
  | case2 visited imports required default rest ih => exact bare _ _ _ _ rfl ih
  | case3 visited imports primitive required default rest ih => exact bare _ _ _ _ rfl ih
  | case4 visited imports members required default rest ih => exact bare _ _ _ _ rfl ih
  | case5 visited imports members required default rest ih => exact bare _ _ _ _ rfl ih
  | case6 visited imports element required default rest ih => exact bare _ _ _ _ rfl ih
  | case7 visited imports key value required default rest ih => exact bare _ _ _ _ rfl ih
  | case8 visited imports id required default rest absent ih =>
    exact missing _ _ _ _ id rfl absent ih
  | case9 visited imports id required default rest t found absent ih =>
    refine new _ _ _ _ t ?_ ?_ ih
    · rw [userType?_user rfl, get_eq_of_getElem? found]
    · intro mem
      rw [List.contains_iff_mem.mpr mem] at absent
      cases absent
  | case10 visited imports id required default rest t found present ih =>
    refine known _ _ _ _ t ?_ ?_ ih
    · rw [userType?_user rfl, get_eq_of_getElem? found]
    · exact List.contains_iff_mem.mp (Bool.not_eq_false _ ▸ present)
  | case11 visited imports name body required default rest present ih =>
    exact known _ _ _ _ { name, body } rfl (List.contains_iff_mem.mp present) ih
  | case12 visited imports name body required default rest absent ih =>
    exact new _ _ _ _ { name, body } rfl (fun mem => absent (List.contains_iff_mem.mpr mem)) ih

/-- A step into a part that does not enter a type of a hidden name. -/
def OpenStep (c : Catalog) (hidden : List String) (x y : Attribute) : Prop :=
  c.Part x y ∧ ∀ t, c.userType? x = some t → t.name ∉ hidden

def Sees (c : Catalog) (hidden : List String) : Attribute → Attribute → Prop :=
  Relation.ReflTransGen (c.OpenStep hidden)

def Notes (c : Catalog) (root : String) (hidden : List String) (p : Attribute) (i : Import) : Prop :=
  ∃ x t, c.Sees hidden p x ∧ c.userType? x = some t ∧ t.name ∉ hidden ∧ t.import? root = some i

section Sees

variable {hidden more : List String} {name : String} {p z : Attribute} {i : Import}

theorem Sees.reaches (h : c.Sees hidden p z) : c.Reaches p z := h.lift id fun _ _ step => step.1

theorem Sees.mono (h : c.Sees more p z) (sub : hidden ⊆ more) : c.Sees hidden p z :=
  h.lift id fun _ _ step => ⟨step.1, fun t type mem => step.2 t type (sub mem)⟩

theorem Notes.mono (h : c.Notes root more p i) (sub : hidden ⊆ more) :
    c.Notes root hidden p i := by
  obtain ⟨x, t, seen, type, new, same⟩ := h
  exact ⟨x, t, seen.mono sub, type, fun mem => new (sub mem), same⟩

theorem part_of_userType (type : c.userType? x = some t) (step : c.Part x y) : y = t.body := by
  cases step with
  | body type' =>
    rw [type] at type'
    rw [Option.some.inj type']
  | _ shape => simp [userType?, shape] at type

theorem openStep_of_userType (type : c.userType? x = some t) :
    c.OpenStep hidden x y ↔ y = t.body ∧ t.name ∉ hidden := by
  constructor
  · rintro ⟨part, isOpen⟩
    exact ⟨part_of_userType type part, isOpen t type⟩
  · rintro ⟨rfl, new⟩
    refine ⟨.body type, fun u type' => ?_⟩
    rw [type] at type'
    rwa [← Option.some.inj type']

theorem openStep_of_bare (bare : c.userType? x = none) :
    c.OpenStep hidden x y ↔ y ∈ x.direct := by
  constructor
  · rintro ⟨part, -⟩
    rcases part_iff.mp part with direct | ⟨id, shape, -⟩
    · exact direct
    · rw [userType?_user shape] at bare
      cases bare
  · intro direct
    refine ⟨part_iff.mpr (.inl direct), fun t type => ?_⟩
    rw [bare] at type
    cases type

theorem notes_bare (bare : c.userType? x = none) :
    c.Notes root hidden x i ↔ ∃ p ∈ x.direct, c.Notes root hidden p i := by
  constructor
  · rintro ⟨z, t, seen, type, new, same⟩
    rcases Relation.ReflTransGen.cases_head seen with rfl | ⟨p, step, rest⟩
    · rw [bare] at type
      cases type
    · exact ⟨p, (openStep_of_bare bare).mp step, z, t, rest, type, new, same⟩
  · rintro ⟨p, direct, z, t, seen, type, new, same⟩
    exact ⟨z, t, .head ((openStep_of_bare bare).mpr direct) seen, type, new, same⟩

theorem not_notes_of_hidden (type : c.userType? x = some t) (mem : t.name ∈ hidden) :
    ¬ c.Notes root hidden x i := by
  rintro ⟨z, u, seen, type', new, -⟩
  rcases Relation.ReflTransGen.cases_head seen with rfl | ⟨p, step, -⟩
  · rw [type] at type'
    rw [← Option.some.inj type'] at new
    exact new mem
  · exact ((openStep_of_userType type).mp step).2 mem

/-- From the last type of the name `name` on, a path does not come to that name again. -/
theorem Sees.last_visit (same : ∀ y u, c.Sees hidden p y → c.userType? y = some u →
      u.name = t.name → u = t) (h : c.Sees hidden p z) :
    c.Sees (t.name :: hidden) p z ∨ c.Sees (t.name :: hidden) t.body z := by
  induction h with
  | refl => exact .inl .refl
  | @tail y z seen step ih =>
    cases type : c.userType? y with
    | none =>
      have inner : c.OpenStep (t.name :: hidden) y z :=
        (openStep_of_bare type).mpr ((openStep_of_bare type).mp step)
      exact ih.imp (·.tail inner) (·.tail inner)
    | some u =>
      obtain ⟨body, new⟩ := (openStep_of_userType type).mp step
      by_cases again : u.name = t.name
      · rw [body, same y u seen type again]
        exact .inr .refl
      · have inner : c.OpenStep (t.name :: hidden) y z := by
          refine (openStep_of_userType type).mpr ⟨body, fun mem => ?_⟩
          exact (List.mem_cons.mp mem).elim again new
        exact ih.imp (·.tail inner) (·.tail inner)

/-- What was in sight before a type is entered is that type, or in sight still. -/
theorem Notes.enter (same : ∀ y u, c.Reaches p y → c.userType? y = some u → u.name = t.name → u = t)
    (h : c.Notes root hidden p i) :
    t.import? root = some i ∨ c.Notes root (t.name :: hidden) p i ∨
      c.Notes root (t.name :: hidden) t.body i := by
  obtain ⟨z, u, seen, type, new, imported⟩ := h
  by_cases again : u.name = t.name
  · rw [same z u seen.reaches type again] at imported
    exact .inl imported
  · have still : u.name ∉ t.name :: hidden := fun mem => (List.mem_cons.mp mem).elim again new
    have seen' := seen.last_visit (t := t) fun y v path => same y v path.reaches
    exact .inr (seen'.imp (fun seen => ⟨z, u, seen, type, still, imported⟩)
      fun seen => ⟨z, u, seen, type, still, imported⟩)

end Sees

/-- Attributes below which only types of the catalog occur, and outside of `hidden` one for each
name. -/
structure Region (c : Catalog) (hidden : List String) (inside : Attribute → Prop) : Prop where
  closed : ∀ x y, inside x → c.Part x y → inside y
  knows : ∀ x, inside x → c.Knows x
  apart : ∀ x y t u, inside x → inside y → c.userType? x = some t → c.userType? y = some u →
    t.name = u.name → t.name ∉ hidden → t = u

section Collected

variable {hidden : List String} {inside : Attribute → Prop} {i : Import}

theorem Region.reaches (region : c.Region hidden inside) (start : inside x)
    (path : c.Reaches x y) : inside y := by
  induction path with
  | refl => exact start
  | tail _ step ih => exact region.closed _ _ ih step

theorem Region.same {p : Attribute} (region : c.Region hidden inside)
    (here : inside x) (type : c.userType? x = some t) (new : t.name ∉ hidden) (start : inside p) :
    ∀ y u, c.Reaches p y → c.userType? y = some u → u.name = t.name → u = t := by
  intro y u path type' names
  exact region.apart _ _ _ _ (region.reaches start path) here type' type names (names ▸ new)

/-- The walk notes what is seen from any attribute that is still to be visited. -/
theorem mem_collectFrom (region : c.Region hidden inside) (sub : hidden ⊆ visited)
    (start : ∀ p ∈ pending, inside p) :
    i ∈ c.collectFrom root visited imports pending ↔
      i ∈ imports ∨ ∃ p ∈ pending, c.Notes root visited p i := by
  induction visited, imports, pending using collect_induction c root with
  | nil visited imports => simp [collectFrom]
  | bare visited imports x rest bare ih =>
    have below : ∀ p ∈ x.direct ++ rest, inside p := by
      intro p mem
      rcases List.mem_append.mp mem with direct | later
      · exact region.closed x p (start x List.mem_cons_self) (part_iff.mpr (.inl direct))
      · exact start p (List.mem_cons_of_mem _ later)
    rw [collectFrom_bare bare, ih sub below]
    simp only [List.mem_append, List.mem_cons, or_and_right, exists_or, exists_eq_left,
      notes_bare bare]
  | missing visited imports x rest id shape missing ih =>
    have outside : c.types.length ≤ id := List.getElem?_eq_none_iff.mp missing
    exact absurd (region.knows x (start x List.mem_cons_self) id shape) (Nat.not_lt.mpr outside)
  | known visited imports x rest t type known ih =>
    rw [collectFrom_known type known, ih sub fun p mem => start p (List.mem_cons_of_mem _ mem)]
    simp only [List.mem_cons, exists_eq_or_imp, not_notes_of_hidden type known, false_or]
  | new visited imports x rest t type new ih =>
    have here := start x List.mem_cons_self
    have later : ∀ p ∈ rest, inside p := fun p mem => start p (List.mem_cons_of_mem _ mem)
    have body : inside t.body := region.closed x t.body here (.body type)
    have below : ∀ p ∈ t.body :: rest, inside p := by
      intro p mem
      rcases List.mem_cons.mp mem with rfl | mem
      · exact body
      · exact later p mem
    have fresh : t.name ∉ hidden := fun mem => new (sub mem)
    have step : c.OpenStep visited x t.body := (openStep_of_userType type).mpr ⟨rfl, new⟩
    have grows : visited ⊆ t.name :: visited := List.subset_cons_self _ _
    rw [collectFrom_new (region.knows x here) type new, ih (List.Subset.trans sub grows) below,
      mem_noteImport, or_assoc]
    simp only [List.mem_cons, exists_eq_or_imp]
    -- what the name hides from now on was seen through the type or is seen from its body
    refine or_congr_right ⟨?_, ?_⟩
    · rintro (own | notes | ⟨p, mem, notes⟩)
      · exact .inl ⟨x, t, .refl, type, new, own⟩
      · obtain ⟨z, u, seen, rest⟩ := notes.mono grows
        exact .inl ⟨z, u, .head step seen, rest⟩
      · exact .inr ⟨p, mem, notes.mono grows⟩
    · rintro (notes | ⟨p, mem, notes⟩)
      · rcases notes.enter (region.same here type fresh here) with own | notes | notes
        · exact .inl own
        · exact absurd notes (not_notes_of_hidden type List.mem_cons_self)
        · exact .inr (.inl notes)
      · rcases notes.enter (region.same here type fresh (later p mem)) with own | notes | notes
        · exact .inl own
        · exact .inr (.inr ⟨p, mem, notes⟩)
        · exact .inr (.inl notes)

end Collected

end Catalog

namespace Attribute

def givenNames : Attribute → List String
  | ⟨some (.named name _), _, _⟩ => [name]
  | _ => []

def unwrapped : Attribute → Attribute
  | ⟨some (.named _ body), _, _⟩ => body
  | a => a

end Attribute

namespace Catalog

/-- A path from `a` to the type comes to no declared type of the name that `a` is given. -/
def InSight (c : Catalog) (a : Attribute) (t : UserType) : Prop :=
  ∃ x, c.Sees a.givenNames a.unwrapped x ∧ c.userType? x = some t ∧ t.name ∉ a.givenNames

theorem collectImports_eq (c : Catalog) (a : Attribute) (root : String) :
    c.collectImports a root = c.collectFrom root a.givenNames [] [a.unwrapped] := by
  unfold collectImports Attribute.givenNames Attribute.unwrapped
  split
  · rw [collectFrom, if_neg (by simp)]
  · rfl

theorem mem_collectImports {c : Catalog} {a : Attribute} {root : String} {i : Import}
    {inside : Attribute → Prop} (region : c.Region a.givenNames inside) (start : inside a.unwrapped) :
    i ∈ c.collectImports a root ↔ ∃ t, c.InSight a t ∧ t.import? root = some i := by
  rw [collectImports_eq, mem_collectFrom region (List.Subset.refl _) (by simpa using start)]
  simp only [List.not_mem_nil, false_or, List.mem_singleton, exists_eq_left]
  constructor
  · rintro ⟨x, t, seen, type, new, same⟩
    exact ⟨t, ⟨x, seen, type, new⟩, same⟩
  · rintro ⟨t, ⟨x, seen, type, new⟩, same⟩
    exact ⟨x, t, seen, type, new, same⟩

/-- Where no type below bears the name given in place, everything that can be reached is in sight. -/
theorem inSight_of_reaches {c : Catalog} {a x : Attribute} {t : UserType}
    (path : c.Reaches a.unwrapped x) (type : c.userType? x = some t)
    (free : ∀ y u, c.Reaches a.unwrapped y → c.userType? y = some u → u.name ∉ a.givenNames) :
    c.InSight a t := by
  refine ⟨x, ?_, type, free x t path type⟩
  clear type
  induction path with
  | refl => exact .refl
  | tail path step ih => exact ih.tail ⟨step, fun u type' => free _ u path type'⟩

end Catalog
end Toolbridge
