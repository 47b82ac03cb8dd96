import Toolbridge.Proofs.Conversion.Helpers

set_option autoImplicit false

namespace Toolbridge.Conversion

open Go (Stmt)

def replay : Account where
  Holds := fun _ _ m m' => ∀ s x s', m s = .ok (x, s') →
    s.names ⊆ s'.names ∧ ∀ r : Emitted, s'.names ⊆ r.names → m' r = .ok (x, r)
  pure := by
    intro α known calls x _ s y s' run
    cases run
    exact ⟨List.Subset.refl _, fun r _ => rfl⟩
  fail := by
    intro α known calls e s x s' run
    cases run
  bind := by
    intro α β known calls calls' m m' g g' first next s y s' run
    rw [Contract.bind_run] at run
    cases start : m s with
    | error e =>
      rw [start] at run
      cases run
    | ok built =>
      obtain ⟨x, between⟩ := built
      rw [start] at run
      obtain ⟨grows, again⟩ := first s x between start
      obtain ⟨grows', again'⟩ := next x between y s' run
      refine ⟨List.Subset.trans grows grows', fun r taken => ?_⟩
      rw [Contract.bind_run, again r (List.Subset.trans grows' taken)]
      exact again' r taken

section Runs

variable {f : Frame} {source target : Go.Side} {t : Task} {known : List String}

theorem replay_requireHelper {convert convert' : Task → Emit (List Stmt)} {x y : Attribute}
    (alike : SpelledAlike f source target x y)
    (body : replay.Holds [] Go.blockCalls (convert (Contract.helperTask x y))
      (convert' (Contract.helperTask x y))) :
    replay.Holds known (fun name => [name]) (requireHelper f convert x y)
      (requireHelper (f.respelled source target) convert' x y) := by
  intro s name s' run
  have again : ∀ r : Emitted, f.helperName x y ∈ r.names →
      requireHelper (f.respelled source target) convert' x y r = .ok (f.helperName x y, r) := by
    intro r taken
    rw [← alike.helperName] at taken ⊢
    exact Contract.requireHelper_known taken
  by_cases old : f.helperName x y ∈ s.names
  · rw [Contract.requireHelper_known old] at run
    cases run
    exact ⟨List.Subset.refl _, fun r taken => again r (taken old)⟩
  · rw [Contract.requireHelper_new old] at run
    cases start : convert (Contract.helperTask x y)
        { s with names := f.helperName x y :: s.names } with
    | error e =>
      rw [start] at run
      cases run
    | ok built =>
      obtain ⟨stmts, between⟩ := built
      rw [start] at run
      cases run
      obtain ⟨grows, -⟩ := body _ stmts between start
      obtain ⟨taken, grows⟩ := List.cons_subset.mp grows
      exact ⟨grows, fun r above => again r (above taken)⟩

theorem replay_convertWithin (depth more : Nat) (plain : t.Plain)
    (alike : SpelledAlike f source target t.source t.target) :
    replay.Holds known Go.blockCalls (convertWithin f depth t)
      (convertWithin (f.respelled source target) (depth + more) t) := by
  induction depth generalizing t known with
  | zero =>
    intro s x s' run
    cases run
  | succ depth ih =>
    rw [Nat.succ_add]
    refine holds_convertNode alike plain ?_ ?_
    · intro q step known sourceExpr targetExpr declares level sourcePlain targetPlain
      obtain ⟨left, right⟩ := step.reaches
      exact ih ⟨sourcePlain, targetPlain⟩ (alike.below left right)
    · intro nested needed
      exact replay_requireHelper alike (ih (plain_helperTask _ _) alike)

end Runs

structure SameReference (c : Catalog) (x x' : Attribute) : Prop where
  resolve : c.resolve x = c.resolve x'
  type : ∃ id, x.type = some (.user id) ∧ x'.type = some (.user id)

section SameReference

variable {c : Catalog} {f : Frame} {x x' y y' : Attribute} {e e' : Go.Expr} {declares : Bool}
  {depth : Nat} {position : Position} {convert : Task → Emit (List Stmt)}

theorem sameReference_of_type {id : TypeId} (inside : id < c.types.length)
    (left : x.type = some (.user id)) (right : x'.type = some (.user id)) :
    SameReference c x x' := by
  have bare : ∀ {a : Attribute}, a.type = some (.user id) → a.bare = a := by
    rintro ⟨_, _, _⟩ rfl
    rfl
  obtain ⟨steps, same⟩ := Nat.exists_eq_succ_of_ne_zero (Nat.ne_zero_of_lt inside)
  refine ⟨?_, id, left, right⟩
  unfold Catalog.resolve
  rw [same, Catalog.resolveWithin, Catalog.resolveWithin, bare left, bare right, left, right]

theorem SameReference.userType? (h : SameReference c x x') : c.userType? x = c.userType? x' := by
  obtain ⟨id, left, right⟩ := h.type
  rw [Catalog.userType?_user left, Catalog.userType?_user right]

theorem SameReference.typeRef (h : SameReference c x x') (package : String) :
    Go.typeRef c package x = Go.typeRef c package x' := by
  obtain ⟨id, left, right⟩ := h.type
  have resolve := h.resolve
  obtain ⟨_, required, default⟩ := x
  obtain ⟨_, required', default'⟩ := x'
  obtain rfl := left
  obtain rfl := right
  unfold Go.typeRef Catalog.isObject
  rw [resolve]
  rfl

theorem SameReference.isEmpty (h : SameReference c x x') : x.isEmpty = x'.isEmpty := by
  obtain ⟨id, left, right⟩ := h.type
  unfold Attribute.isEmpty
  rw [left, right]

theorem objectParts_swap (x y x' y' : Attribute) {source target : Attribute}
    {sourceFields fields : List Member} :
    objectParts f convert ⟨x', y', e, e', declares, depth, position⟩ source target sourceFields
        fields =
      objectParts f convert ⟨x, y, e, e', declares, depth, position⟩ source target sourceFields
        fields := by
  induction fields with
  | nil => rfl
  | cons field rest ih =>
    unfold objectParts
    rw [ih]

theorem unionCases_swap (x y x' y' : Attribute) {targetMembers members : List Member}
    {seen : List String} :
    unionCases f convert ⟨x', y', e, e', declares, depth, position⟩ targetMembers seen members =
      unionCases f convert ⟨x, y, e, e', declares, depth, position⟩ targetMembers seen members := by
  induction members generalizing seen with
  | nil => rfl
  | cons member rest ih =>
    unfold unionCases
    simp only [ih]

theorem convertNode_congr (left : SameReference f.catalog x x')
    (right : SameReference f.catalog y y') (away : position ≠ .nested) :
    convertNode f convert ⟨x', y', e, e', declares, depth, position⟩ =
      convertNode f convert ⟨x, y, e, e', declares, depth, position⟩ := by
  have sourceRef : f.sourceRef x' = f.sourceRef x := (left.typeRef f.source.package).symm
  have targetRef : f.targetRef y' = f.targetRef y := (right.typeRef f.target.package).symm
  unfold convertNode
  simp only [← left.resolve, ← right.resolve, ← left.isEmpty, ← right.isEmpty, away, false_and,
    if_false, Frame.cast, sourceRef, targetRef, convertObject, objectParts_swap x y x' y',
    literalOpening, convertArray, convertMap, convertUnion, unionCases_swap x y x' y']

theorem convertWithin_congr (left : SameReference f.catalog x x')
    (right : SameReference f.catalog y y') (steps : Nat) :
    convertWithin f steps (Contract.helperTask x' y') =
      convertWithin f steps (Contract.helperTask x y) := by
  cases steps with
  | zero => rfl
  | succ steps => exact convertNode_congr left right nofun

/-- Helpers of one pair of types have one body where all that is below is spelled alike. -/
theorem HelperCode.Converts.body_eq {f' : Frame} {h h' : HelperCode} (converts : h.Converts f x y)
    (converts' : h'.Converts f' x' y') (frame : f' = f.respelled f'.source f'.target)
    (alike : SpelledAlike f f'.source f'.target x y) (left : SameReference f.catalog x x')
    (right : SameReference f.catalog y y') : h.body = h'.body := by
  obtain ⟨steps, body, s, last, run, made⟩ := converts.body
  obtain ⟨steps', body', s', last', run', made'⟩ := converts'.body
  have catalog : f'.catalog = f.catalog := by
    rw [frame]
    rfl
  -- both are made again where the names of both are taken
  let r : Emitted := { names := last.names ++ last'.names }
  have plain := plain_helperTask x y
  have plain' := plain_helperTask x' y'
  have replayed : replay.Holds [] Go.blockCalls _ _ :=
    replay_convertWithin steps steps' plain alike
  have replayed' : replay.Holds [] Go.blockCalls _ _ :=
    replay_convertWithin steps' steps plain' (.self f' x' y')
  have first := (replayed s body last run).2 r (List.subset_append_left _ _)
  have second := (replayed' s' body' last' run').2 r (List.subset_append_right _ _)
  have self : f'.respelled f'.source f'.target = f' := rfl
  rw [← frame] at first
  rw [self, convertWithin_congr (catalog ▸ left) (catalog ▸ right), Nat.add_comm, first] at second
  obtain ⟨rfl, -⟩ := (Prod.mk.injEq ..).mp (Except.ok.inj second)
  have guard : f'.sourceRef x' = f.sourceRef x := by
    have here : (f.respelled f'.source f'.target).sourceRef x = f.sourceRef x := alike.source_here
    rw [← frame] at here
    rw [← here]
    exact ((catalog ▸ left : SameReference f'.catalog x x').typeRef f'.source.package).symm
  rw [made, made', guarded, guarded, guard]

end SameReference

end Toolbridge.Conversion
