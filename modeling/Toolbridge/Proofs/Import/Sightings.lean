import Toolbridge.Proofs.Design.Closed

set_option autoImplicit false

/-!
# The order of the imports

A walk that remembers only which types it is inside of meets every type that can be reached, some of
them many times. The walk that collects imports remembers every name that it has entered; it leaves
out what it has met before, so that it notes the imports in the order in which the first walk meets
their types. The invariant is that a type which was entered and left has nothing below it that is
new.
-/
namespace Toolbridge

namespace Catalog

variable {c : Catalog} {root : String} {x y p a : Attribute} {t u : UserType}

/-- The user type that a walk can enter: one of the catalog, or one that is named in place. -/
def entered? (c : Catalog) (x : Attribute) : Option UserType :=
  match x.type with
  | some (.user id) => c.types[id]?
  | some (.named name body) => some { name, body }
  | _ => none

theorem entered?_eq_some (entered : c.entered? x = some t) :
    (∃ id, x.type = some (.user id) ∧ c.types[id]? = some t) ∨
      ∃ name body, x.type = some (.named name body) ∧ t = { name, body } := by
  unfold entered? at entered
  split at entered
  · rename_i id shape
    exact .inl ⟨id, shape, entered⟩
  · rename_i name body shape
    exact .inr ⟨name, body, shape, (Option.some.inj entered).symm⟩
  · cases entered

theorem userType?_of_entered (entered : c.entered? x = some t) : c.userType? x = some t := by
  rcases entered?_eq_some entered with ⟨id, shape, found⟩ | ⟨name, body, shape, rfl⟩
  · rw [userType?_user shape, get_eq_of_getElem? found]
  · exact userType?_named shape

theorem knows_of_entered (entered : c.entered? x = some t) : c.Knows x := by
  intro id shape
  rcases entered?_eq_some entered with ⟨id', shape', found⟩ | ⟨name, body, shape', -⟩
  · rw [shape] at shape'
    cases shape'
    exact (List.getElem?_eq_some_iff.mp found).1
  · rw [shape] at shape'
    cases shape'

theorem entered_of_import {i : Import} (type : c.userType? x = some t)
    (imported : t.import? root = some i) : c.entered? x = some t := by
  rcases type_eq_of_userType? type with ⟨id, shape, rfl⟩ | ⟨name, body, shape, rfl⟩
  · by_cases below : id < c.types.length
    · simp only [entered?, shape, List.getElem?_eq_getElem below, get_eq_getElem below]
    · have outside : c.get id = default := by
        simp only [get, List.getD_eq_getElem?_getD, List.getElem?_eq_none (Nat.not_lt.mp below),
          Option.getD_none]
      rw [outside] at imported
      cases imported
  · simp only [entered?, shape]

theorem bare_or_outside (passed : c.entered? x = none) :
    c.userType? x = none ∨ ∃ id, x.type = some (.user id) ∧ c.types[id]? = none := by
  unfold entered? at passed
  split at passed
  · rename_i id shape
    exact .inr ⟨id, shape, passed⟩
  · cases passed
  · rename_i notUser notNamed
    refine .inl ?_
    unfold userType?
    split
    · rename_i id shape
      exact absurd shape (notUser id)
    · rename_i name body shape
      exact absurd shape (notNamed name body)
    · rfl

theorem direct_of_user {id : TypeId} (shape : x.type = some (.user id)) : x.direct = [] := by
  simp only [Attribute.direct, shape]

theorem collectFrom_passed {visited : List String} {imports : List Import}
    {pending : List Attribute} (passed : c.entered? x = none) :
    c.collectFrom root visited imports (x :: pending) =
      c.collectFrom root visited imports (x.direct ++ pending) := by
  rcases bare_or_outside passed with bare | ⟨id, shape, missing⟩
  · exact collectFrom_bare bare
  · rw [direct_of_user shape, List.nil_append]
    obtain ⟨type, required, default⟩ := x
    obtain rfl := shape
    rw [collectFrom]
    split
    · rfl
    · rename_i found
      rw [missing] at found
      cases found

theorem nodes_of_entered (entered : c.entered? x = some t) {inside : List String}
    (new : t.name ∉ inside) :
    c.unvisitedNodes (t.name :: inside) + t.body.nodes < c.unvisitedNodes inside + x.nodes := by
  rcases entered?_eq_some entered with ⟨id, -, found⟩ | ⟨name, body, shape, rfl⟩
  · have absent : inside.contains t.name = false :=
      Bool.eq_false_iff.mpr fun h => new (List.contains_iff_mem.mp h)
    have less := c.unvisitedNodes_lt inside t (List.mem_of_getElem? found) absent
    have positive := x.nodes_pos
    omega
  · have less := c.unvisitedNodes_le inside name
    have parts : x.direct = [body] := by simp only [Attribute.direct, shape]
    rw [x.nodes_eq, parts, totalNodes_cons]
    dsimp only
    omega

set_option linter.unusedVariables false in
/-- The user types that a walk meets, from left to right and each before what is in its body. It
enters a type wherever it is not inside of it already. -/
def sightings (c : Catalog) (inside : List String) : List Attribute → List UserType
  | [] => []
  | x :: rest =>
    (match entered : c.entered? x with
      | none => c.sightings inside x.direct
      | some t =>
        if new : t.name ∉ inside then t :: c.sightings (t.name :: inside) [t.body] else []) ++
      c.sightings inside rest
termination_by pending => c.unvisitedNodes inside + Attribute.totalNodes pending
decreasing_by
  · rw [totalNodes_cons, x.nodes_eq]
    omega
  · have less := nodes_of_entered entered new
    rw [totalNodes_cons, totalNodes_cons]
    simp only [Attribute.totalNodes]
    omega
  · have positive := x.nodes_pos
    rw [totalNodes_cons]
    omega

section Sightings

variable {inside : List String} {rest : List Attribute}

theorem sightings_cons_passed (passed : c.entered? x = none) :
    c.sightings inside (x :: rest) = c.sightings inside x.direct ++ c.sightings inside rest := by
  rw [sightings]
  split
  · rfl
  · rename_i entered
    rw [passed] at entered
    cases entered

theorem sightings_cons_inside (entered : c.entered? x = some t) (old : t.name ∈ inside) :
    c.sightings inside (x :: rest) = c.sightings inside rest := by
  rw [sightings]
  split
  · rename_i passed
    rw [passed] at entered
    cases entered
  · rename_i entered'
    rw [entered] at entered'
    obtain rfl := Option.some.inj entered'
    rw [dif_neg (not_not_intro old), List.nil_append]

theorem sightings_cons_new (entered : c.entered? x = some t) (new : t.name ∉ inside) :
    c.sightings inside (x :: rest) =
      t :: c.sightings (t.name :: inside) [t.body] ++ c.sightings inside rest := by
  rw [sightings]
  split
  · rename_i passed
    rw [passed] at entered
    cases entered
  · rename_i entered'
    rw [entered] at entered'
    obtain rfl := Option.some.inj entered'
    rw [dif_pos new]

theorem sightings_induction (c : Catalog) {motive : List String → List Attribute → Prop}
    (nil : ∀ inside, motive inside [])
    (passed : ∀ inside x rest, c.entered? x = none → motive inside x.direct → motive inside rest →
      motive inside (x :: rest))
    (old : ∀ inside x rest t, c.entered? x = some t → t.name ∈ inside → motive inside rest →
      motive inside (x :: rest))
    (new : ∀ inside x rest t, c.entered? x = some t → t.name ∉ inside →
      motive (t.name :: inside) [t.body] → motive inside rest → motive inside (x :: rest))
    (inside : List String) (pending : List Attribute) : motive inside pending := by
  induction inside, pending using sightings.induct c with
  | case1 inside => exact nil inside
  | case2 inside x rest ihParts ihBody ihRest =>
    cases entered : c.entered? x with
    | none => exact passed inside x rest entered ihParts ihRest
    | some t =>
      by_cases known : t.name ∈ inside
      · exact old inside x rest t entered known ihRest
      · exact new inside x rest t entered known (ihBody t entered known) ihRest

end Sightings

/-- The walk from `p` on comes to `t` while it is inside of the types `inside`. -/
def Comes (c : Catalog) (inside : List String) (p : Attribute) (t : UserType) : Prop :=
  ∃ x, c.Sees inside p x ∧ c.entered? x = some t ∧ t.name ∉ inside

section Comes

variable {inside more : List String} {pending : List Attribute}

theorem Comes.mono (comes : c.Comes more p t) (sub : inside ⊆ more) : c.Comes inside p t := by
  obtain ⟨x, seen, entered, new⟩ := comes
  exact ⟨x, seen.mono sub, entered, fun mem => new (sub mem)⟩

theorem not_comes_of_empty : ¬ c.Comes inside {} t := by
  rintro ⟨x, seen, entered, -⟩
  rcases Relation.ReflTransGen.cases_head seen with rfl | ⟨y, step, -⟩
  · cases entered
  · exact absurd ((openStep_of_bare rfl).mp step) List.not_mem_nil

theorem comes_passed (passed : c.entered? p = none) :
    c.Comes inside p t ↔ ∃ part ∈ p.direct, c.Comes inside part t := by
  rcases bare_or_outside passed with bare | ⟨id, shape, missing⟩
  · constructor
    · rintro ⟨x, seen, entered, new⟩
      rcases Relation.ReflTransGen.cases_head seen with rfl | ⟨part, step, onward⟩
      · rw [passed] at entered
        cases entered
      · exact ⟨part, (openStep_of_bare bare).mp step, x, onward, entered, new⟩
    · rintro ⟨part, direct, x, seen, entered, new⟩
      exact ⟨x, .head ((openStep_of_bare bare).mpr direct) seen, entered, new⟩
  · rw [direct_of_user shape]
    simp only [List.not_mem_nil, false_and, exists_false, iff_false]
    rintro ⟨x, seen, entered, new⟩
    rcases Relation.ReflTransGen.cases_head seen with rfl | ⟨part, step, onward⟩
    · rw [passed] at entered
      cases entered
    · have nothing : c.get id = default := by
        simp only [get, List.getD_eq_getElem?_getD, missing, Option.getD_none]
      obtain ⟨rfl, -⟩ := (openStep_of_userType (userType?_user shape)).mp step
      rw [nothing] at onward
      exact not_comes_of_empty ⟨x, onward, entered, new⟩

theorem not_comes_of_inside (entered : c.entered? p = some u) (old : u.name ∈ inside) :
    ¬ c.Comes inside p t := by
  rintro ⟨x, seen, entered', new⟩
  rcases Relation.ReflTransGen.cases_head seen with rfl | ⟨part, step, -⟩
  · rw [entered] at entered'
    obtain rfl := Option.some.inj entered'
    exact new old
  · exact ((openStep_of_userType (userType?_of_entered entered)).mp step).2 old

theorem Comes.enter (same : ∀ y v, c.Reaches p y → c.userType? y = some v → v.name = u.name → v = u)
    (comes : c.Comes inside p t) :
    t = u ∨ c.Comes (u.name :: inside) p t ∨ c.Comes (u.name :: inside) u.body t := by
  obtain ⟨x, seen, entered, new⟩ := comes
  by_cases again : t.name = u.name
  · exact .inl (same x t seen.reaches (userType?_of_entered entered) again)
  · have still : t.name ∉ u.name :: inside := fun mem => (List.mem_cons.mp mem).elim again new
    have seen' := seen.last_visit (t := u) fun y v path => same y v path.reaches
    exact .inr (seen'.imp (fun seen => ⟨x, seen, entered, still⟩)
      fun seen => ⟨x, seen, entered, still⟩)

theorem comes_new (same : ∀ y v, c.Reaches p y → c.userType? y = some v → v.name = u.name → v = u)
    (entered : c.entered? p = some u) (new : u.name ∉ inside) :
    c.Comes inside p t ↔ t = u ∨ c.Comes (u.name :: inside) u.body t := by
  have type := userType?_of_entered entered
  constructor
  · intro comes
    rcases comes.enter same with own | again | below
    · exact .inl own
    · exact absurd again (not_comes_of_inside entered List.mem_cons_self)
    · exact .inr below
  · rintro (rfl | below)
    · exact ⟨p, .refl, entered, new⟩
    · obtain ⟨x, seen, entered', new'⟩ := below.mono (List.subset_cons_self _ _)
      exact ⟨x, .head ((openStep_of_userType type).mpr ⟨rfl, new⟩) seen, entered', new'⟩

end Comes

theorem DistinctNames.same (distinct : c.DistinctNames a) (here : c.Reaches a x)
    (type : c.userType? x = some t) (start : c.Reaches a p) :
    ∀ y u, c.Reaches p y → c.userType? y = some u → u.name = t.name → u = t :=
  fun y u path type' names => distinct y x u t (start.trans path) here type' type names

section Walk

variable {inside : List String} {pending : List Attribute}

/-- The walk meets what a path leads to that does not come back to a type it is inside of. -/
theorem mem_sightings (distinct : c.DistinctNames a) (below : ∀ p ∈ pending, c.Reaches a p) :
    t ∈ c.sightings inside pending ↔ ∃ p ∈ pending, c.Comes inside p t := by
  induction inside, pending using sightings_induction c with
  | nil inside => simp [sightings]
  | passed inside x rest passed ihParts ihRest =>
    have here := below x List.mem_cons_self
    have parts : ∀ p ∈ x.direct, c.Reaches a p := fun p direct =>
      here.part (part_iff.mpr (.inl direct))
    rw [sightings_cons_passed passed, List.mem_append, ihParts parts,
      ihRest fun p mem => below p (List.mem_cons_of_mem _ mem)]
    simp only [List.mem_cons, exists_eq_or_imp, comes_passed passed]
  | old inside x rest u entered old ihRest =>
    rw [sightings_cons_inside entered old, ihRest fun p mem => below p (List.mem_cons_of_mem _ mem)]
    simp only [List.mem_cons, exists_eq_or_imp, not_comes_of_inside entered old, false_or]
  | new inside x rest u entered new ihBody ihRest =>
    have here := below x List.mem_cons_self
    have type := userType?_of_entered entered
    have body : ∀ p ∈ [u.body], c.Reaches a p :=
      List.forall_mem_singleton.mpr (here.part (.body type))
    rw [sightings_cons_new entered new, List.mem_append, List.mem_cons, ihBody body,
      ihRest fun p mem => below p (List.mem_cons_of_mem _ mem)]
    simp only [List.mem_cons, List.not_mem_nil, or_false, exists_eq_left, exists_eq_or_imp,
      comes_new (distinct.same here type here) entered new]

end Walk

def noteImports (root : String) (imports : List Import) (types : List UserType) : List Import :=
  types.foldl (fun imports t => noteImport imports (t.import? root)) imports

section Imports

variable {imports : List Import} {types : List UserType}

theorem noteImports_append {more : List UserType} :
    noteImports root imports (types ++ more) =
      noteImports root (noteImports root imports types) more :=
  List.foldl_append

theorem noteImport_of_known {o : Option Import} (known : ∀ i, o = some i → i ∈ imports) :
    noteImport imports o = imports := by
  cases o with
  | none => rfl
  | some i => exact if_pos (List.contains_iff_mem.mpr (known i rfl))

theorem noteImports_of_known
    (known : ∀ t ∈ types, ∀ i, t.import? root = some i → i ∈ imports) :
    noteImports root imports types = imports := by
  induction types with
  | nil => rfl
  | cons t rest ih =>
    change noteImports root (noteImport imports (t.import? root)) rest = imports
    rw [noteImport_of_known (known t List.mem_cons_self)]
    exact ih fun u mem => known u (List.mem_cons_of_mem _ mem)

theorem noteImport_eraseDups {o : Option Import} :
    noteImport imports.eraseDups o = (imports ++ o.toList).eraseDups := by
  cases o with
  | none => rw [Option.toList_none, List.append_nil, noteImport]
  | some i =>
    rw [Option.toList_some, List.eraseDups_append, noteImport]
    by_cases known : i ∈ imports
    · rw [if_pos (List.contains_iff_mem.mpr (List.mem_eraseDups.mpr known))]
      simp [List.removeAll, known]
    · rw [if_neg fun h => known (List.mem_eraseDups.mp (List.contains_iff_mem.mp h))]
      simp [List.removeAll, known, List.eraseDups_cons]

theorem noteImports_eraseDups (imports : List Import) (types : List UserType) :
    noteImports root imports.eraseDups types =
      (imports ++ types.filterMap (·.import? root)).eraseDups := by
  induction types generalizing imports with
  | nil => rw [List.filterMap_nil, List.append_nil, noteImports, List.foldl_nil]
  | cons t rest ih =>
    change noteImports root (noteImport imports.eraseDups (t.import? root)) rest = _
    rw [noteImport_eraseDups, ih, List.append_assoc]
    cases imported : t.import? root <;> simp [imported]

theorem nodup_noteImport {o : Option Import} (distinct : imports.Nodup) :
    (noteImport imports o).Nodup := by
  cases o with
  | none => exact distinct
  | some i =>
    unfold noteImport
    dsimp only
    split
    · exact distinct
    · rename_i new
      refine List.nodup_append.mpr ⟨distinct, List.nodup_singleton i, ?_⟩
      rintro j mem k last rfl
      rw [List.mem_singleton.mp last] at mem
      exact new (List.contains_iff_mem.mpr mem)

theorem nodup_noteImports (distinct : imports.Nodup) :
    (noteImports root imports types).Nodup := by
  induction types generalizing imports with
  | nil => exact distinct
  | cons t rest ih => exact ih (nodup_noteImport distinct)

end Imports

/-- What holds of the walk below `a` while it is inside of the types `inside`: the imports of what
was visited are noted, and a type that was left has nothing below it that was not visited. -/
structure Settled (c : Catalog) (root : String) (a : Attribute) (inside visited : List String)
    (imports : List Import) : Prop where
  sub : inside ⊆ visited
  noted : ∀ x t i, c.Reaches a x → c.userType? x = some t → t.name ∈ visited →
    t.import? root = some i → i ∈ imports
  behind : ∀ x u t, c.Reaches a x → c.userType? x = some u → u.name ∈ visited →
    u.name ∉ inside → c.Comes (u.name :: inside) u.body t → t.name ∈ visited

section Settled

variable {inside visited : List String} {imports : List Import} {pending : List Attribute}

theorem settled_nil : c.Settled root a [] [] [] :=
  ⟨List.Subset.refl _, fun _ _ _ _ _ mem => absurd mem List.not_mem_nil,
    fun _ _ _ _ _ mem => absurd mem List.not_mem_nil⟩

theorem Settled.enter (settled : c.Settled root a inside visited imports)
    (distinct : c.DistinctNames a) (here : c.Reaches a x) (type : c.userType? x = some t) :
    c.Settled root a (t.name :: inside) (t.name :: visited)
      (noteImport imports (t.import? root)) := by
  refine ⟨List.cons_subset_cons _ settled.sub, fun y u i path type' mem imported => ?_,
    fun y u w path type' mem new comes => ?_⟩
  · rcases List.mem_cons.mp mem with same | old
    · obtain rfl := distinct y x u t path here type' type same
      exact mem_noteImport.mpr (.inr imported)
    · exact mem_noteImport.mpr (.inl (settled.noted y u i path type' old imported))
  · have apart : u.name ≠ t.name := fun same => new (same ▸ List.mem_cons_self)
    have old := (List.mem_cons.mp mem).resolve_left apart
    have outside : u.name ∉ inside := fun mem => new (List.mem_cons_of_mem _ mem)
    have wider : u.name :: inside ⊆ u.name :: t.name :: inside :=
      List.cons_subset_cons _ (List.subset_cons_self _ _)
    exact List.mem_cons_of_mem _
      (settled.behind y u w path type' old outside (comes.mono wider))

/-- A type is left once everything below it has been visited. -/
theorem Settled.leave (settled : c.Settled root a (t.name :: inside) visited imports)
    (distinct : c.DistinctNames a) (here : c.Reaches a x) (type : c.userType? x = some t)
    (all : ∀ w, c.Comes (t.name :: inside) t.body w → w.name ∈ visited) :
    c.Settled root a inside visited imports := by
  have visitedSelf : t.name ∈ visited := settled.sub List.mem_cons_self
  refine ⟨(List.cons_subset.mp settled.sub).2, settled.noted, ?_⟩
  intro y u w path type' mem new comes
  by_cases again : u.name = t.name
  · obtain rfl := distinct y x u t path here type' type again
    exact all w comes
  · have below : c.Reaches a u.body := path.part (.body type')
    rcases comes.enter (distinct.same here type below) with rfl | aside | through
    · exact visitedSelf
    · have outside : u.name ∉ t.name :: inside := fun mem => (List.mem_cons.mp mem).elim again new
      have swapped : u.name :: t.name :: inside ⊆ t.name :: u.name :: inside :=
        (List.Perm.swap _ _ _).subset
      exact settled.behind y u w path type' mem outside (aside.mono swapped)
    · have wider : t.name :: inside ⊆ t.name :: u.name :: inside :=
        List.cons_subset_cons _ (List.subset_cons_self _ _)
      exact all w (through.mono wider)

theorem Settled.known (settled : c.Settled root a inside visited imports)
    (distinct : c.DistinctNames a) (here : c.Reaches a x) (entered : c.entered? x = some t)
    (old : t.name ∈ visited) (outside : t.name ∉ inside) :
    (∀ u ∈ t :: c.sightings (t.name :: inside) [t.body], u.name ∈ visited) ∧
      noteImports root imports (t :: c.sightings (t.name :: inside) [t.body]) = imports := by
  have type := userType?_of_entered entered
  have body : ∀ p ∈ [t.body], c.Reaches a p :=
    List.forall_mem_singleton.mpr (here.part (.body type))
  have met : ∀ u ∈ t :: c.sightings (t.name :: inside) [t.body], c.Comes inside x u := by
    intro u mem
    refine (comes_new (distinct.same here type here) entered outside).mpr ?_
    rcases List.mem_cons.mp mem with rfl | mem
    · exact .inl rfl
    · obtain ⟨p, single, comes⟩ := (mem_sightings distinct body).mp mem
      rw [List.mem_singleton.mp single] at comes
      exact .inr comes
  have visitedAll : ∀ u ∈ t :: c.sightings (t.name :: inside) [t.body], u.name ∈ visited := by
    intro u mem
    rcases (comes_new (distinct.same here type here) entered outside).mp (met u mem) with
      rfl | below
    · exact old
    · exact settled.behind x t u here type old outside below
  refine ⟨visitedAll, noteImports_of_known fun u mem i imported => ?_⟩
  obtain ⟨y, seen, entered', -⟩ := met u mem
  exact settled.noted y u i (here.trans seen.reaches) (userType?_of_entered entered')
    (visitedAll u mem) imported

/-- A walk over what is pending has noted what the forgetful walk meets there. -/
theorem collectFrom_sightings (distinct : c.DistinctNames a)
    (below : ∀ p ∈ pending, c.Reaches a p) (settled : c.Settled root a inside visited imports) :
    ∃ visited', visited ⊆ visited' ∧ (∀ t ∈ c.sightings inside pending, t.name ∈ visited') ∧
      c.Settled root a inside visited'
        (noteImports root imports (c.sightings inside pending)) ∧
      ∀ rest, c.collectFrom root visited imports (pending ++ rest) =
        c.collectFrom root visited' (noteImports root imports (c.sightings inside pending))
          rest := by
  induction inside, pending using sightings_induction c generalizing visited imports with
  | nil inside =>
    rw [sightings]
    exact ⟨visited, List.Subset.refl _, nofun, settled, fun rest => rfl⟩
  | passed inside x after passed ihParts ihAfter =>
    have here := below x List.mem_cons_self
    have parts : ∀ p ∈ x.direct, c.Reaches a p := fun p direct =>
      here.part (part_iff.mpr (.inl direct))
    obtain ⟨middle, grown, metParts, settled, walked⟩ := ihParts parts settled
    obtain ⟨visited', grown', metAfter, settled, walked'⟩ :=
      ihAfter (fun p mem => below p (List.mem_cons_of_mem _ mem)) settled
    rw [sightings_cons_passed passed, noteImports_append]
    refine ⟨visited', List.Subset.trans grown grown', fun t mem => ?_, settled, fun rest => ?_⟩
    · exact (List.mem_append.mp mem).elim (fun mem => grown' (metParts t mem)) (metAfter t)
    · rw [List.cons_append, collectFrom_passed passed, walked, walked']
  | old inside x after t entered old ihAfter =>
    obtain ⟨visited', grown, metAfter, settled', walked⟩ :=
      ihAfter (fun p mem => below p (List.mem_cons_of_mem _ mem)) settled
    rw [sightings_cons_inside entered old]
    refine ⟨visited', grown, metAfter, settled', fun rest => ?_⟩
    rw [List.cons_append,
      collectFrom_known (userType?_of_entered entered) (settled.sub old), walked]
  | new inside x after t entered new ihBody ihAfter =>
    have here := below x List.mem_cons_self
    have later : ∀ p ∈ after, c.Reaches a p := fun p mem => below p (List.mem_cons_of_mem _ mem)
    have type := userType?_of_entered entered
    have body : ∀ p ∈ [t.body], c.Reaches a p :=
      List.forall_mem_singleton.mpr (here.part (.body type))
    rw [sightings_cons_new entered new, noteImports_append]
    by_cases old : t.name ∈ visited
    · obtain ⟨metHere, same⟩ := settled.known distinct here entered old new
      obtain ⟨visited', grown, metAfter, settled, walked⟩ := ihAfter later settled
      rw [same]
      refine ⟨visited', grown, fun u mem => ?_, settled, fun rest => ?_⟩
      · exact (List.mem_append.mp mem).elim (fun mem => grown (metHere u mem)) (metAfter u)
      · rw [List.cons_append, collectFrom_known type old, walked]
    · obtain ⟨middle, grown, metBody, settled, walked⟩ :=
        ihBody body (settled.enter distinct here type)
      have self : t.name ∈ middle := grown List.mem_cons_self
      have left := settled.leave distinct here type fun w comes =>
        metBody w ((mem_sightings distinct body).mpr ⟨t.body, List.mem_cons_self, comes⟩)
      obtain ⟨visited', grown', metAfter, settled, walked'⟩ := ihAfter later left
      refine ⟨visited', fun n mem => grown' (grown (List.mem_cons_of_mem _ mem)), fun u mem => ?_,
        settled, fun rest => ?_⟩
      · rcases List.mem_append.mp mem with first | mem
        · rcases List.mem_cons.mp first with rfl | mem
          · exact grown' self
          · exact grown' (metBody u mem)
        · exact metAfter u mem
      · rw [List.cons_append, collectFrom_new (knows_of_entered entered) type old]
        exact (walked (after ++ rest)).trans (walked' rest)

end Settled

/-- Collecting notes the imports in the order in which the forgetful walk first meets their types. -/
theorem collectImports_sightings (distinct : c.DistinctNames a) :
    c.collectImports a root = noteImports root [] (c.sightings [] [a]) := by
  have start : ∀ p ∈ [a], c.Reaches a p := List.forall_mem_singleton.mpr .refl
  have nothing : c.Settled root a [] [] [] := settled_nil
  obtain ⟨visited', -, -, -, walked⟩ := collectFrom_sightings distinct start nothing
  have whole := walked []
  rw [List.append_nil] at whole
  rw [collectImports, whole, collectFrom]

theorem mem_sightings_nil (distinct : c.DistinctNames a) :
    t ∈ c.sightings [] [a] ↔ ∃ x, c.Reaches a x ∧ c.entered? x = some t := by
  rw [mem_sightings distinct (List.forall_mem_singleton.mpr .refl)]
  constructor
  · rintro ⟨p, single, x, seen, entered, -⟩
    rw [List.mem_singleton.mp single] at seen
    exact ⟨x, seen.reaches, entered⟩
  · rintro ⟨x, path, entered⟩
    have seen : c.Sees [] a x := path.lift id fun _ _ step => ⟨step, fun _ _ => List.not_mem_nil⟩
    exact ⟨a, List.mem_cons_self, x, seen, entered, List.not_mem_nil⟩

end Catalog

/-- The package that a type is named by: the one it is placed in, else that of its service. -/
def UserType.ProvidedBy (t : UserType) (root : String) (i : Import) : Prop :=
  (∃ place, t.location = some place ∧ i = ⟨place.path, some place.package⟩) ∨
    (t.location = none ∧ ∃ service, t.service = some service ∧
      i = ⟨joinImportPath root service, none⟩)

theorem UserType.import?_eq_some {t : UserType} {root : String} {i : Import} :
    t.import? root = some i ↔ t.ProvidedBy root i := by
  obtain ⟨name, service, location, body⟩ := t
  unfold import? ProvidedBy
  cases location with
  | some place => simp [eq_comm]
  | none =>
    cases service with
    | some service => simp [eq_comm]
    | none => simp

/-- Types being told apart by their names, collecting notes the packages of all types that can be
reached, each once and in the order in which a walk meets their types first. -/
theorem Catalog.collectImports_exact (c : Catalog) (a : Attribute) (root : String)
    (distinct : c.DistinctNames a) :
    (∀ i, i ∈ c.collectImports a root ↔
      ∃ x t, c.Reaches a x ∧ c.userType? x = some t ∧ t.ProvidedBy root i) ∧
    (c.collectImports a root).Nodup ∧
    c.collectImports a root = ((c.sightings [] [a]).filterMap (·.import? root)).eraseDups := by
  have order : c.collectImports a root =
      ((c.sightings [] [a]).filterMap (·.import? root)).eraseDups := by
    rw [collectImports_sightings distinct]
    exact noteImports_eraseDups [] _
  refine ⟨fun i => ?_, ?_, order⟩
  · rw [order, List.mem_eraseDups, List.mem_filterMap]
    constructor
    · rintro ⟨t, met, imported⟩
      obtain ⟨x, path, entered⟩ := (mem_sightings_nil distinct).mp met
      exact ⟨x, t, path, userType?_of_entered entered, UserType.import?_eq_some.mp imported⟩
    · rintro ⟨x, t, path, type, provided⟩
      have imported := UserType.import?_eq_some.mpr provided
      exact ⟨t, (mem_sightings_nil distinct).mpr ⟨x, path, entered_of_import type imported⟩,
        imported⟩
  · rw [collectImports_sightings distinct]
    exact nodup_noteImports List.nodup_nil

/-! Citations and the documents they are found in, which refer to each other. Documents are placed
in a package of their own, notes are local, and authors belong to the service of the citations. -/
namespace Citations

def ref (id : TypeId) : Attribute := .ofType (.user id)

def citation : UserType where
  name := "Citation"
  service := some "bravo"
  body := .ofType (.object [⟨"doc", ref 1⟩, ⟨"related", .ofType (.array (ref 0))⟩])

def doc : UserType where
  name := "Doc"
  location := some ⟨"example.com/shared/docs", "docs"⟩
  body := .ofType (.object [⟨"source", ref 0⟩, ⟨"notes", .ofType (.map (ref 3) (ref 2))⟩])

def note : UserType where
  name := "Note"
  body := .ofType (.primitive .string)

def author : UserType where
  name := "Author"
  service := some "bravo"
  body := .ofType (.primitive .string)

def catalog : Catalog := ⟨[citation, doc, note, author]⟩

def list : Attribute := .ofType (.array (ref 0))

theorem distinctNames : catalog.DistinctNames list := by
  have closed : catalog.Closed := by decide +kernel
  have declared : list.Declared catalog.types.length := by decide +kernel
  intro x y t u pathX pathY typeX typeY same
  exact (closed.region []).apart x y t u (closed.reaches declared pathX)
    (closed.reaches declared pathY) typeX typeY same List.not_mem_nil

theorem authors_before_notes :
    catalog.DistinctNames list ∧
      (catalog.sightings [] [list]).map (·.name) = ["Citation", "Doc", "Author", "Note"] ∧
      ((catalog.sightings [] [list]).filterMap (·.import? "example.com/gen")).eraseDups =
        [⟨"example.com/gen/bravo", none⟩, ⟨"example.com/shared/docs", some "docs"⟩] := by
  refine ⟨distinctNames, by decide +kernel, ?_⟩
  rw [← (catalog.collectImports_exact list "example.com/gen" distinctNames).2.2]
  decide +kernel

end Citations

end Toolbridge
