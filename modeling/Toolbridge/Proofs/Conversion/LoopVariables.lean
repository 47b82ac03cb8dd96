import Toolbridge.Proofs.Conversion.Assignments
import Toolbridge.Proofs.Go.Scopes
import Toolbridge.Proofs.Import.Numbering

set_option autoImplicit false

/-!
# The variables of loops and switches

A conversion that goes into the elements of a list, the values of a map or the member of a union
introduces variables that are numbered by its depth. Within one body the depth grows from each
conversion to the next, so these variables are all different, and what a conversion reads from and
assigns to is reached through `v`, `res` and the variables of the conversions around it. A helper
starts a body of its own.
-/
namespace Toolbridge.Conversion

open Go (Expr Stmt TypeCase)

def loopBases : List String := ["i", "val", "key", "tk", "actual"]

/-- The number that is put behind a name of this kind can be told from it. -/
def Unnumbered (base : String) : Prop := ∀ ch ∈ base.toList.getLast?, ch.isDigit = false

theorem unnumbered_of_mem : ∀ base ∈ "v" :: "res" :: "tmp" :: loopBases, Unnumbered base := by
  have bare : ∀ base ∈ "v" :: "res" :: "tmp" :: loopBases,
      base.toList.getLast?.any Char.isDigit = false := by
    decide
  intro base mem ch last
  have apart := bare base mem
  rw [Option.mem_def.mp last] at apart
  exact apart

def depthSuffix (depth : Nat) : String := if depth = 0 then "" else toString depth

theorem loopVar_eq (base : String) (depth : Nat) :
    loopVar base depth = base ++ depthSuffix depth := by
  unfold loopVar depthSuffix
  split <;> simp

theorem depthSuffix_digits (depth : Nat) : ∀ ch ∈ (depthSuffix depth).toList, ch.isDigit := by
  intro ch mem
  unfold depthSuffix at mem
  split at mem
  · simp at mem
  · exact toString_digits depth ch mem

theorem depthSuffix_injective : Function.Injective depthSuffix := by
  intro depth depth' same
  have filled : ∀ n : Nat, toString n ≠ "" := fun n empty =>
    append_toString_ne "" n (by simp [empty])
  unfold depthSuffix at same
  split at same <;> split at same
  · omega
  · exact absurd same.symm (filled _)
  · exact absurd same (filled _)
  · exact toString_injective same

theorem loopVar_inj {base base' : String} {depth depth' : Nat} (bare : Unnumbered base)
    (bare' : Unnumbered base') :
    loopVar base depth = loopVar base' depth' ↔ base = base' ∧ depth = depth' := by
  constructor
  · intro same
    rw [loopVar_eq, loopVar_eq] at same
    have chars := congrArg String.toList same
    rw [String.toList_append, String.toList_append] at chars
    obtain ⟨front, run⟩ := Go.run_unique bare bare' (depthSuffix_digits depth)
      (depthSuffix_digits depth') chars
    exact ⟨String.toList_injective front, depthSuffix_injective (String.toList_injective run)⟩
  · rintro ⟨rfl, rfl⟩
    rfl

theorem variableIn_loopVar {base : String} (mem : base ∈ loopBases) (depth : Nat) :
    Go.variableIn (loopVar base depth) = loopVar base depth := by
  have plain : ∀ base ∈ loopBases, base.toList ≠ [] ∧ base.toList.head? ≠ some '(' := by decide
  obtain ⟨filled, head⟩ := plain base mem
  have whole : (base.toList ++ (depthSuffix depth).toList).head? = base.toList.head? :=
    List.head?_append_of_ne_nil _ filled
  rw [← whole, ← String.toList_append, ← loopVar_eq] at head
  unfold Go.variableIn
  split
  · rename_i chars
    rw [chars] at head
    exact absurd rfl head
  · rfl

/-- What can be seen at a depth: the variables around it, none twice, and no temporary. -/
structure Visible (depth : Nat) (scope : List String) : Prop where
  nodup : ("tmp" :: scope).Nodup
  known : ∀ x ∈ scope, x = "v" ∨ x = "res" ∨
    ∃ base ∈ loopBases, ∃ level < depth, x = loopVar base level

section Visible

variable {depth : Nat} {scope bases : List String} {base : String}

theorem loopVar_ne {other : String} (mem : base ∈ loopBases)
    (fixed : other = "v" ∨ other = "res" ∨ other = "tmp") (depth : Nat) :
    loopVar base depth ≠ other := by
  have apart : ∀ base ∈ loopBases, base ≠ "v" ∧ base ≠ "res" ∧ base ≠ "tmp" := by decide
  have bare := unnumbered_of_mem base (by simp [mem])
  have bare' := unnumbered_of_mem other (by grind)
  intro same
  have numbered : loopVar base depth = loopVar other 0 := same
  rw [loopVar_inj bare bare'] at numbered
  grind

theorem Visible.fresh (h : Visible depth scope) (mem : base ∈ loopBases) :
    loopVar base depth ∉ "tmp" :: scope := by
  intro seen
  rcases List.mem_cons.mp seen with same | seen
  · exact loopVar_ne mem (.inr (.inr rfl)) depth same
  rcases h.known _ seen with same | same | ⟨other, memOther, level, less, same⟩
  · exact loopVar_ne mem (.inl rfl) depth same
  · exact loopVar_ne mem (.inr (.inl rfl)) depth same
  · have bare := unnumbered_of_mem base (by simp [mem])
    have bare' := unnumbered_of_mem other (by simp [memOther])
    rw [loopVar_inj bare bare'] at same
    omega

theorem Visible.deeper (h : Visible depth scope) : Visible (depth + 1) scope where
  nodup := h.nodup
  known := by
    intro x mem
    rcases h.known x mem with same | same | ⟨other, memOther, level, less, same⟩
    · exact .inl same
    · exact .inr (.inl same)
    · exact .inr (.inr ⟨other, memOther, level, by omega, same⟩)

theorem Visible.introduce (h : Visible depth scope) (known : bases ⊆ loopBases)
    (distinct : bases.Nodup) :
    Visible (depth + 1) (bases.map (loopVar · depth) ++ scope) := by
  induction bases with
  | nil => exact h.deeper
  | cons base rest ih =>
    obtain ⟨mem, others⟩ := List.cons_subset.mp known
    obtain ⟨new, distinct⟩ := List.nodup_cons.mp distinct
    have later := ih others distinct
    have elsewhere : loopVar base depth ∉ rest.map (loopVar · depth) := by
      intro seen
      obtain ⟨other, memOther, same⟩ := List.mem_map.mp seen
      have bare := unnumbered_of_mem base (by simp [mem])
      have bare' := unnumbered_of_mem other (by simp [others memOther])
      rw [loopVar_inj bare' bare] at same
      exact new (same.1 ▸ memOther)
    constructor
    · have fresh := h.fresh mem
      have nodup := later.nodup
      simp only [List.map_cons, List.cons_append, List.nodup_cons, List.mem_cons, List.mem_append]
        at nodup fresh ⊢
      grind
    · intro x seen
      rcases List.mem_cons.mp seen with rfl | seen
      · exact .inr (.inr ⟨base, mem, depth, by omega, rfl⟩)
      · exact later.known x seen

end Visible

def Route.bases : Route → List String
  | .field => []
  | .element => ["val", "i"]
  | .value => ["tk", "val", "key"]
  | .member => ["actual"]

theorem Route.bases_known (route : Route) : route.bases ⊆ loopBases := by
  cases route <;> decide

theorem Route.bases_nodup (route : Route) : route.bases.Nodup := by
  cases route <;> decide

/-- A conversion that is under way, at its depth, and what it has gone into. -/
structure Step where
  depth : Nat
  route : Route

def Step.variables (s : Step) : List String := s.route.bases.map (loopVar · s.depth)

def introduced (chain : List Step) : List String := chain.flatMap Step.variables

/-- The conversions that `start` comes to, each with the steps around it in the same body, the
innermost first. -/
inductive Met (c : Catalog) (start : Task) : List Step → Task → Prop
  | start : Met c start [] start
  | part {chain : List Step} {t u : Task} {route : Route} (met : Met c start chain t)
      (inPlace : ¬ t.Called c) (next : Next c t route u) :
      Met c start (⟨t.depth, route⟩ :: chain) u
  | helper {chain : List Step} {t : Task} (met : Met c start chain t) (called : t.Called c) :
      Met c start [] (Contract.helperTask t.source t.target)

/-- What a conversion reads and assigns is reached through variables of the steps around it, which
are at lower depths and all different. -/
structure Clear (chain : List Step) (t : Task) : Prop where
  below : ∀ s ∈ chain, s.depth < t.depth
  reads : ∀ x ∈ t.sourceExpr.variables, x = "v" ∨ ∃ s ∈ chain, x ∈ s.variables
  assigns : ∀ x ∈ t.targetExpr.variables, x = "res" ∨ ∃ s ∈ chain, x ∈ s.variables
  distinct : ("tmp" :: (introduced chain ++ ["res", "v"])).Nodup

section Steps

variable {c : Catalog} {t u : Task} {route : Route} {chain : List Step} {x : String}

theorem Next.depth (next : Next c t route u) : u.depth = t.depth + 1 := by
  cases next <;> rfl

theorem Next.declares (next : Next c t route u) : u.declares = false := by
  cases next <;> rfl

theorem variables_loopVar {base : String} (mem : base ∈ loopBases) (depth : Nat) :
    (Expr.var (loopVar base depth)).variables = [loopVar base depth] := by
  rw [Expr.variables, variableIn_loopVar mem]

theorem isVariable_loopVar {base : String} (mem : base ∈ loopBases) (depth : Nat) :
    (Expr.var (loopVar base depth)).isVariable = true := by
  rw [Expr.isVariable, variableIn_loopVar mem, beq_self_eq_true]

theorem Next.reads (next : Next c t route u) (mem : x ∈ u.sourceExpr.variables) :
    x ∈ t.sourceExpr.variables ∨ x ∈ (Step.mk t.depth route).variables := by
  cases next with
  | field => exact .inl mem
  | _ =>
    change x ∈ (Expr.var (loopVar _ t.depth)).variables at mem
    rw [variables_loopVar (by decide)] at mem
    rw [List.mem_singleton.mp mem]
    exact .inr (by simp [Step.variables, Route.bases])

theorem Next.assigns (next : Next c t route u) (mem : x ∈ u.targetExpr.variables) :
    x ∈ t.targetExpr.variables ∨ x ∈ (Step.mk t.depth route).variables := by
  cases next with
  | field => exact .inl mem
  | member => exact .inl mem
  | _ =>
    rcases List.mem_cons.mp mem with rfl | mem
    · exact .inr (by simp [Step.variables, Route.bases])
    · exact .inl mem

theorem Clear.visible (clear : Clear chain t) :
    Visible t.depth (introduced chain ++ ["res", "v"]) where
  nodup := clear.distinct
  known := by
    intro x mem
    rcases List.mem_append.mp mem with mem | mem
    · obtain ⟨s, here, mem⟩ := List.mem_flatMap.mp mem
      obtain ⟨base, memBase, rfl⟩ := List.mem_map.mp mem
      exact .inr (.inr ⟨base, s.route.bases_known memBase, s.depth, clear.below s here, rfl⟩)
    · simp at mem
      exact mem.symm.imp_right .inl

theorem seen_deeper {fixed : String} (step : Step)
    (seen : x = fixed ∨ ∃ s ∈ chain, x ∈ s.variables) :
    x = fixed ∨ ∃ s ∈ step :: chain, x ∈ s.variables := by
  rcases seen with same | ⟨s, here, mem⟩
  · exact .inl same
  · exact .inr ⟨s, List.mem_cons_of_mem _ here, mem⟩

theorem seen_around {fixed : String} (start : fixed ∈ ["res", "v"])
    (seen : x = fixed ∨ ∃ s ∈ chain, x ∈ s.variables) : x ∈ introduced chain ++ ["res", "v"] := by
  rcases seen with rfl | ⟨s, here, mem⟩
  · exact List.mem_append_right _ start
  · exact List.mem_append_left _ (List.mem_flatMap.mpr ⟨s, here, mem⟩)

theorem Clear.next (clear : Clear chain t) (next : Next c t route u) :
    Clear (⟨t.depth, route⟩ :: chain) u where
  below := by
    intro s mem
    rw [next.depth]
    rcases List.mem_cons.mp mem with rfl | mem
    · exact Nat.lt_succ_self _
    · exact Nat.lt_succ_of_lt (clear.below s mem)
  reads := by
    intro x mem
    rcases next.reads mem with old | new
    · exact seen_deeper _ (clear.reads x old)
    · exact .inr ⟨_, List.mem_cons_self, new⟩
  assigns := by
    intro x mem
    rcases next.assigns mem with old | new
    · exact seen_deeper _ (clear.assigns x old)
    · exact .inr ⟨_, List.mem_cons_self, new⟩
  distinct := by
    have all := clear.visible.introduce route.bases_known route.bases_nodup
    simpa [introduced, Step.variables] using all.nodup

theorem clear_start (source : t.sourceExpr.variables = ["v"])
    (target : t.targetExpr.variables = ["res"]) : Clear [] t where
  below := nofun
  reads := by simp [source]
  assigns := by simp [target]
  distinct := by decide

theorem clear_of_met {start : Task} (clear : Clear [] start) (met : Met c start chain t) :
    Clear chain t := by
  induction met with
  | start => exact clear
  | part _ _ next ih => exact ih.next next
  | helper _ _ _ => exact clear_start rfl rfl

theorem start_of_met {start : Task} (met : Met c start [] t) :
    t = start ∨ ∃ x y, t = Contract.helperTask x y := by
  cases met with
  | start => exact .inl rfl
  | helper _ _ => exact .inr ⟨_, _, rfl⟩

theorem LeadsTo.compound {p q : Attribute × Attribute} (step : LeadsTo c p q) :
    ¬ BothPrimitive c p.1 p.2 := by
  rintro ⟨primitive, -⟩
  unfold Catalog.resolvedPrimitive? Attribute.primitive? at primitive
  cases step with
  | _ source =>
    rw [source] at primitive
    cases primitive

theorem Met.inPlace {start : Task} (met : Met c start chain t) :
    ∃ chain' u, Met c start chain' u ∧ ¬ u.Called c ∧ u.source = t.source ∧
      u.target = t.target := by
  by_cases called : t.Called c
  · refine ⟨[], _, .helper met called, ?_, rfl, rfl⟩
    intro again
    cases again.nested
  · exact ⟨chain, t, met, called, rfl, rfl⟩

theorem Met.leadsTo {start : Task} {q : Attribute × Attribute} (met : Met c start chain t)
    (step : LeadsTo c (t.source, t.target) q) (compound : ¬ BothPrimitive c q.1 q.2) :
    ∃ chain' u, Met c start chain' u ∧ u.position = .nested ∧ u.source = q.1 ∧ u.target = q.2 := by
  obtain ⟨chain', p, met, inPlace, source, target⟩ := met.inPlace
  rw [← source, ← target] at step
  cases step with
  | field left right mem found =>
    exact ⟨_, _, .part met inPlace (.field left right mem found compound), rfl, rfl, rfl⟩
  | member left right mem found =>
    exact ⟨_, _, .part met inPlace (.member left right mem found), rfl, rfl, rfl⟩
  | element left right => exact ⟨_, _, .part met inPlace (.element left right), rfl, rfl, rfl⟩
  | value left right => exact ⟨_, _, .part met inPlace (.value left right), rfl, rfl, rfl⟩

/-- The bodies of all helpers are met. -/
theorem met_of_place {start : Task} {x y : Attribute}
    (place : Place c start.source start.target x y) :
    Met c start [] (Contract.helperTask x y) := by
  obtain ⟨nested, needed⟩ := place
  have onward : ∀ p q, Relation.ReflTransGen (LeadsTo c) (start.source, start.target) p →
      LeadsTo c p q → ∃ chain t, Met c start chain t ∧ t.source = p.1 ∧ t.target = p.2 := by
    intro p q path next
    induction path generalizing q with
    | refl => exact ⟨[], start, .start, rfl, rfl⟩
    | @tail before _ _ step ih =>
      obtain ⟨chain, t, met, source, target⟩ := ih _ step
      have pair : before = (t.source, t.target) := Prod.ext source.symm target.symm
      rw [pair] at step
      obtain ⟨chain', u, met', -, same⟩ := met.leadsTo step next.compound
      exact ⟨chain', u, met', same⟩
  obtain ⟨p, path, last⟩ := Relation.TransGen.tail'_iff.mp nested
  obtain ⟨chain, t, met, source, target⟩ := onward p _ path last
  have pair : p = (t.source, t.target) := Prod.ext source.symm target.symm
  rw [pair] at last
  have compound : ¬ BothPrimitive c x y := fun both => by
    have primitive : (c.resolve x).isPrimitive = true := both.1
    rw [needed.compound] at primitive
    cases primitive
  obtain ⟨chain', u, met', position, source', target'⟩ := met.leadsTo last compound
  have called : u.Called c := ⟨position, by rw [source', target']; exact needed⟩
  have helper := Met.helper met' called
  rwa [source', target'] at helper

end Steps

section HandedOn

variable {f : Frame} {t : Task} {convert convert' : Task → Emit (List Stmt)}

theorem objectParts_agree {left right fields : List Member}
    (source : (f.catalog.resolve t.source).type = some (.object left))
    (target : (f.catalog.resolve t.target).type = some (.object right)) (sub : fields ⊆ right)
    (agree : ∀ route u, Next f.catalog t route u → convert u = convert' u) :
    objectParts f convert t (f.catalog.resolve t.source) (f.catalog.resolve t.target) left fields =
      objectParts f convert' t (f.catalog.resolve t.source) (f.catalog.resolve t.target) left
        fields := by
  induction fields with
  | nil => rfl
  | cons y rest ih =>
    have others := ih fun m later => sub (List.mem_cons_of_mem _ later)
    unfold objectParts
    cases found : Members.find? left y.name with
    | none => exact others
    | some x =>
      dsimp only
      rw [others]
      split
      · rfl
      · rename_i compound
        have next : Next f.catalog t .field (t.field x y) :=
          .field source target (sub List.mem_cons_self) found
            fun both => compound (bothPrimitive_iff.mp both)
        have same := agree _ _ next
        unfold Task.field at same
        rw [same]

theorem unionCases_agree {left right members : List Member} {seen : List String}
    (source : (f.catalog.resolve t.source).type = some (.union left))
    (target : (f.catalog.resolve t.target).type = some (.union right)) (sub : members ⊆ left)
    (agree : ∀ route u, Next f.catalog t route u → convert u = convert' u) :
    unionCases f convert t right seen members = unionCases f convert' t right seen members := by
  induction members generalizing seen with
  | nil => rfl
  | cons x rest ih =>
    unfold unionCases
    cases found : Members.find? right x.name with
    | none => rfl
    | some y =>
      dsimp only
      have next : Next f.catalog t .member (t.member x y) :=
        .member source target (sub List.mem_cons_self) found
      have same := agree _ _ next
      unfold Task.member at same
      rw [same, ih fun m later => sub (List.mem_cons_of_mem _ later)]

/-- A conversion hands on its parts or, where it is called, the pair to a helper, and nothing
else. -/
theorem convertNode_agree
    (parts : ¬ t.Called f.catalog → ∀ route u, Next f.catalog t route u → convert u = convert' u)
    (helper : t.Called f.catalog → convert (Contract.helperTask t.source t.target) =
      convert' (Contract.helperTask t.source t.target)) :
    convertNode f convert t = convertNode f convert' t := by
  unfold convertNode
  split
  · rfl
  dsimp only
  split
  · rename_i called
    obtain ⟨nested, left, right, compound⟩ := called
    have same := helper ⟨nested, left, right, compound⟩
    unfold Contract.helperTask at same
    unfold requireHelper
    rw [same]
  rename_i uncalled
  have agree := parts fun called =>
    uncalled ⟨called.nested, called.needed.source, called.needed.target, called.needed.compound⟩
  split
  · rfl
  · rename_i source target
    unfold convertObject
    rw [objectParts_agree source target (List.Subset.refl _) agree]
  · rename_i source target
    have same := agree _ _ (.element source target)
    unfold Task.element at same
    unfold convertArray
    dsimp only
    rw [same]
  · rename_i source target
    have same := agree _ _ (.value source target)
    unfold Task.value at same
    unfold convertMap
    dsimp only
    rw [same]
  · rename_i source target
    unfold convertUnion
    rw [unionCases_agree source target (List.Subset.refl _) agree]
  · rfl
  · rfl

theorem convertNode_met {start : Task} {chain : List Step} (met : Met f.catalog start chain t)
    (agree : ∀ chain u, Met f.catalog start chain u → convert u = convert' u) :
    convertNode f convert t = convertNode f convert' t :=
  convertNode_agree (fun inPlace _ _ next => agree _ _ (met.part inPlace next))
    fun called => agree _ _ (met.helper called)

end HandedOn

end Toolbridge.Conversion
