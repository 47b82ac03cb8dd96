import Toolbridge.Proofs.Conversion.Account
import Toolbridge.Proofs.Conversion.Contract
import Mathlib.Data.List.Perm.Basic

set_option autoImplicit false

/-!
# The helpers of a conversion

The name of a helper is taken before its body is built, so calls are written to helpers that are not
there yet. A run that succeeds has nevertheless added one helper for each name that it took, and
whatever is called, in its result or in a body that it added, is a name that is taken in the end.
For a whole conversion these names are just those of its helpers.
-/
namespace Toolbridge.Conversion

open Go (Stmt blockCalls)

/-- The helpers that a run adds: one for each name that it takes, all of them `good`, and nothing is
called in them but what is taken in the end. -/
structure Gain (good : HelperCode → Prop) (s s' : Emitted) (added : List HelperCode) : Prop where
  helpers : s'.helpers = s.helpers ++ added
  names : s'.names.Perm (added.map (·.name) ++ s.names)
  nodup : s.names.Nodup → s'.names.Nodup
  good : ∀ h ∈ added, good h
  closed : ∀ h ∈ added, blockCalls h.body ⊆ s'.names

section Gain

variable {good : HelperCode → Prop} {s s' s'' : Emitted} {added more : List HelperCode}

theorem Gain.subset (h : Gain good s s' added) : s.names ⊆ s'.names := by
  intro n mem
  exact h.names.mem_iff.mpr (List.mem_append_right _ mem)

theorem Gain.nothing (s : Emitted) : Gain good s s [] where
  helpers := (List.append_nil _).symm
  names := .refl _
  nodup := id
  good := nofun
  closed := nofun

theorem Gain.trans (h : Gain good s s' added) (h' : Gain good s' s'' more) :
    Gain good s s'' (added ++ more) where
  helpers := by rw [h'.helpers, h.helpers, List.append_assoc]
  names := by
    have later : s''.names.Perm (more.map (·.name) ++ (added.map (·.name) ++ s.names)) :=
      h'.names.trans (h.names.append_left _)
    have swapped : (more.map (·.name) ++ (added.map (·.name) ++ s.names)).Perm
        (added.map (·.name) ++ (more.map (·.name) ++ s.names)) := by
      rw [← List.append_assoc, ← List.append_assoc]
      exact List.perm_append_comm.append_right _
    rw [List.map_append, List.append_assoc]
    exact later.trans swapped
  nodup := fun distinct => h'.nodup (h.nodup distinct)
  good := fun x mem => (List.mem_append.mp mem).elim (h.good x) (h'.good x)
  closed := by
    intro x mem
    rcases List.mem_append.mp mem with first | later
    · exact List.Subset.trans (h.closed x first) h'.subset
    · exact h'.closed x later

/-- A helper is added after those that its body needed, under a name that was taken before. -/
theorem Gain.helper {x : HelperCode} (fresh : x.name ∉ s.names)
    (h : Gain good { s with names := x.name :: s.names } s' added) (here : good x)
    (calls : blockCalls x.body ⊆ s'.names) :
    Gain good s { s' with helpers := s'.helpers ++ [x] } (added ++ [x]) where
  helpers := by
    change s'.helpers ++ [x] = s.helpers ++ (added ++ [x])
    rw [h.helpers, List.append_assoc]
  names := by
    have front : (added ++ [x]).map (·.name) ++ s.names =
        added.map (·.name) ++ (x.name :: s.names) := by simp
    rw [front]
    exact h.names
  nodup := fun distinct => h.nodup (List.nodup_cons.mpr ⟨fresh, distinct⟩)
  good := by
    intro y mem
    rcases List.mem_append.mp mem with first | last
    · exact h.good y first
    · rw [List.mem_singleton.mp last]
      exact here
  closed := by
    intro y mem
    rcases List.mem_append.mp mem with first | last
    · exact h.closed y first
    · rw [List.mem_singleton.mp last]
      exact calls

end Gain

/-- The account of what a run adds and of what its result calls. -/
def tally (good : HelperCode → Prop) : Account where
  Holds := fun known calls m _ => ∀ s x s', known ⊆ s.names → m s = .ok (x, s') →
    (∃ added, Gain good s s' added) ∧ calls x ⊆ s'.names
  pure := by
    intro α known calls x told s y s' taken run
    cases run
    exact ⟨⟨[], .nothing s⟩, List.Subset.trans told taken⟩
  fail := by
    intro α known calls e s x s' taken run
    cases run
  bind := by
    intro α β known calls calls' m m' g g' first next s y s' taken run
    rw [Contract.bind_run] at run
    cases start : m s with
    | error e =>
      rw [start] at run
      cases run
    | ok r =>
      obtain ⟨x, between⟩ := r
      rw [start] at run
      obtain ⟨⟨added, gain⟩, told⟩ := first s x between taken start
      have known' : calls x ++ known ⊆ between.names :=
        List.append_subset.mpr ⟨told, List.Subset.trans taken gain.subset⟩
      obtain ⟨⟨more, gain'⟩, told'⟩ := next x between y s' known' run
      exact ⟨⟨added ++ more, gain.trans gain'⟩, told'⟩

def guarded (f : Frame) (x : Attribute) (body : List Stmt) : List Stmt :=
  if Go.isPointerRef (f.sourceRef x) then .returnNilIfNil "v" :: body else body

structure HelperCode.Converts (h : HelperCode) (f : Frame) (x y : Attribute) : Prop where
  name : h.name = f.helperName x y
  paramType : h.paramType = f.sourceRef x
  resultType : h.resultType = f.targetRef y
  body : ∃ depth body s s', convertWithin f depth (Contract.helperTask x y) s = .ok (body, s') ∧
    h.body = guarded f x body

theorem blockCalls_guarded (f : Frame) (x : Attribute) (body : List Stmt) :
    blockCalls (guarded f x body) = blockCalls body := by
  unfold guarded
  split <;> rfl

/-- The pair of a task is one that a conversion of `a` into `b` comes to, below them if nested. -/
structure Task.Under (t : Task) (c : Catalog) (a b : Attribute) : Prop where
  met : Relation.ReflTransGen (LeadsTo c) (a, b) (t.source, t.target)
  below : t.position = .nested → Relation.TransGen (LeadsTo c) (a, b) (t.source, t.target)

def MadeAtPlace (f : Frame) (a b : Attribute) (h : HelperCode) : Prop :=
  ∃ x y, Place f.catalog a b x y ∧ h.Converts f x y

section Runs

variable {f : Frame} {a b : Attribute} {t : Task} {known : List String}

theorem plain_helperTask (x y : Attribute) : (Contract.helperTask x y).Plain := ⟨rfl, rfl⟩

theorem tally_requireHelper {depth : Nat} {x y : Attribute} (place : Place f.catalog a b x y)
    (body : (tally (MadeAtPlace f a b)).Holds [] blockCalls
      (convertWithin f depth (Contract.helperTask x y))
      (convertWithin f depth (Contract.helperTask x y))) :
    (tally (MadeAtPlace f a b)).Holds known (fun name => [name])
      (requireHelper f (convertWithin f depth) x y)
      (requireHelper f (convertWithin f depth) x y) := by
  intro s name s' _ run
  by_cases old : f.helperName x y ∈ s.names
  · rw [Contract.requireHelper_known old] at run
    cases run
    refine ⟨⟨[], .nothing s⟩, ?_⟩
    simpa using old
  · rw [Contract.requireHelper_new old] at run
    cases start : convertWithin f depth (Contract.helperTask x y)
        { s with names := f.helperName x y :: s.names } with
    | error e =>
      rw [start] at run
      cases run
    | ok r =>
      obtain ⟨stmts, between⟩ := r
      rw [start] at run
      cases run
      obtain ⟨⟨added, gain⟩, told⟩ := body _ stmts between (List.nil_subset _) start
      let helper : HelperCode :=
        ⟨f.helperName x y, f.sourceRef x, f.targetRef y, guarded f x stmts⟩
      have fresh : helper.name ∉ s.names := old
      refine ⟨⟨_, gain.helper fresh ?_ ?_⟩, ?_⟩
      · exact ⟨x, y, place, rfl, rfl, rfl, depth, stmts, _, _, start, rfl⟩
      · change blockCalls (guarded f x stmts) ⊆ between.names
        rw [blockCalls_guarded]
        exact told
      · have taken : f.helperName x y ∈ between.names := gain.subset List.mem_cons_self
        simpa using taken

theorem tally_convertWithin (depth : Nat) (plain : t.Plain) (under : t.Under f.catalog a b) :
    (tally (MadeAtPlace f a b)).Holds known blockCalls (convertWithin f depth t)
      (convertWithin f depth t) := by
  induction depth generalizing t known with
  | zero =>
    intro s x s' _ run
    cases run
  | succ depth ih =>
    have alike : SpelledAlike f f.source f.target t.source t.target := .self f _ _
    refine holds_convertNode alike plain ?_ ?_
    · intro q step known source target declares level sourcePlain targetPlain
      refine ih ⟨sourcePlain, targetPlain⟩ ⟨under.met.tail step, fun _ => ?_⟩
      exact .tail' under.met step
    · intro nested needed
      have place : Place f.catalog a b t.source t.target := ⟨under.below nested, needed⟩
      exact tally_requireHelper place (ih (plain_helperTask _ _) ⟨under.met, nofun⟩)

end Runs

def Code.calls (code : Code) : List String :=
  blockCalls code.body ++ code.helpers.flatMap fun h => blockCalls h.body

/-- A finished conversion has its helpers under different names, one for each name that is called,
and each converts a pair that is called somewhere. -/
structure Complete (c : Catalog) (r : ConversionRequest) (code : Code) : Prop where
  distinct : (code.helpers.map (·.name)).Nodup
  called : code.calls ⊆ code.helpers.map (·.name)
  made : ∀ h ∈ code.helpers, MadeAtPlace (frameOf c r) r.source r.target h

theorem build_eq_ok {c : Catalog} {r : ConversionRequest} {code : Code} :
    build c r = .ok code ↔ ∃ emitted, convertWithin (frameOf c r) (c.depthBound r.source r.target)
      (taskOf r) {} = .ok (code.body, emitted) ∧ code.helpers = emitted.helpers := by
  unfold build
  cases convertWithin (frameOf c r) (c.depthBound r.source r.target) (taskOf r) {} with
  | error e => simp
  | ok built =>
    obtain ⟨body, emitted⟩ := built
    constructor
    · intro same
      cases same
      exact ⟨emitted, rfl, rfl⟩
    · rintro ⟨emitted', same, helpers⟩
      cases same
      change Except.ok (Code.mk code.body emitted.helpers) = .ok code
      rw [← helpers]

theorem complete_of_build {c : Catalog} {r : ConversionRequest} {code : Code}
    (built : build c r = .ok code) : Complete c r code := by
  obtain ⟨emitted, run, helpers⟩ := build_eq_ok.mp built
  have under : (taskOf r).Under (frameOf c r).catalog r.source r.target := ⟨.refl, nofun⟩
  have account : (tally (MadeAtPlace (frameOf c r) r.source r.target)).Holds [] blockCalls _ _ :=
    tally_convertWithin (c.depthBound r.source r.target) ⟨rfl, rfl⟩ under
  obtain ⟨⟨added, gain⟩, told⟩ := account {} code.body emitted (List.nil_subset _) run
  have all : code.helpers = added := by
    rw [helpers, gain.helpers]
    rfl
  have names : emitted.names.Perm (code.helpers.map (·.name)) := by
    rw [all]
    simpa using gain.names
  have finished : emitted.names ⊆ code.helpers.map (·.name) := names.subset
  refine ⟨names.nodup_iff.mp (gain.nodup .nil), ?_, fun h mem => gain.good h (all ▸ mem)⟩
  intro n mem
  rcases List.mem_append.mp mem with body | helper
  · exact finished (told body)
  · obtain ⟨h, memH, call⟩ := List.mem_flatMap.mp helper
    exact finished (gain.closed h (all ▸ memH) call)

end Toolbridge.Conversion
