import Toolbridge.Command.Script
import Toolbridge.Proofs.Files.Places
import Toolbridge.Proofs.Plan.Rearrangement
import Mathlib.Data.List.Nodup

set_option autoImplicit false

namespace Toolbridge

open Files

theorem Planner.path_of_planned {c : Catalog} {root : String} {s : Toolset} {p : Plan}
    (planned : (planToolset c root s).outcome = .ok (some p)) :
    ∃ specsDir, s.specsDir = some specsDir ∧ p.path = planPath specsDir := by
  cases directory : s.specsDir.filter fun dir => !dir.isEmpty with
  | none =>
    have nothing : (planToolset c root s).outcome = .ok none := planWith_nothing (.inl directory)
    exact nomatch planned.symm.trans nothing
  | some specsDir =>
    obtain ⟨service, source, -⟩ := planWith_ok (Conversion.engine_steady c) planned
    obtain ⟨-, file⟩ :=
      (planWith_ok_iff (Conversion.engine_steady c) directory source).mp planned
    refine ⟨specsDir, (Option.filter_eq_some_iff.mp directory).1, ?_⟩
    unfold fileOf at file
    split at file
    · cases file
    · generalize ImportBlock.assemble _ _ = assembled at file
      cases assembled with
      | error e => cases file
      | ok imports =>
        cases file
        rfl

namespace FileTree

def performAll (t : FileTree) (actions : List Action) : Except FileError FileTree :=
  actions.foldlM perform t

theorem performAll_append {t t' : FileTree} {first later : List Action}
    (done : t.performAll (first ++ later) = .ok t') :
    ∃ between, t.performAll first = .ok between ∧ between.performAll later = .ok t' := by
  unfold performAll at done
  rw [List.foldlM_append] at done
  exact bind_ok done

end FileTree

namespace Outcome

theorem performed_of_done {failure : Option Failure} {printed : String} {t : FileTree}
    {actions : List Action} (done : (ofActions failure printed t actions).exitCode = 0) :
    failure = none ∧ t.performAll actions = .ok (ofActions failure printed t actions).files := by
  induction actions generalizing printed t with
  | nil =>
    cases failure with
    | none => exact ⟨rfl, rfl⟩
    | some f => cases done
  | cons a rest ih =>
    unfold ofActions at done ⊢
    unfold FileTree.performAll
    rw [List.foldlM_cons]
    cases performed : t.perform a with
    | error e =>
      rw [performed] at done
      cases done
    | ok next =>
      rw [performed] at done
      exact ih done

end Outcome

namespace Command

variable {d : Design} {root : String} {out : String} {toolsets : List Toolset}
  {plans : List Plan} {p q : Plan}
  {t t' : FileTree} {place : Place}

theorem planned_of_planOf {s : Toolset} {o : Option Plan} (planned : planOf d root s = .ok o) :
    (planToolset d.catalog root s).outcome = .ok o := by
  unfold planOf at planned
  cases outcome : (planToolset d.catalog root s).outcome with
  | error e =>
    rw [outcome] at planned
    cases planned
  | ok o' =>
    rw [outcome] at planned
    cases planned
    rfl

def plansOf (d : Design) (root : String) (toolsets : List Toolset) : List Plan :=
  toolsets.filterMap fun s => (planOf d root s).toOption.join

theorem mem_plansOf :
    p ∈ plansOf d root toolsets ↔ ∃ s ∈ toolsets, planOf d root s = .ok (some p) := by
  unfold plansOf
  rw [List.mem_filterMap]
  refine exists_congr fun s => and_congr_right fun _ => ?_
  cases planOf d root s with
  | error failure => exact iff_of_false nofun nofun
  | ok o => exact ⟨congrArg Except.ok, Except.ok.inj⟩

theorem plansOf_cons {s : Toolset} {o : Option Plan} (planned : planOf d root s = .ok o) :
    plansOf d root (s :: toolsets) = o.toList ++ plansOf d root toolsets := by
  unfold plansOf
  rw [List.filterMap_cons, planned]
  cases o <;> rfl

theorem renderScript_whole {directory : Option String}
    (whole : (renderScript d root directory toolsets).failure = none) :
    (∀ s ∈ toolsets, ∃ o, planOf d root s = .ok o) ∧
      (renderScript d root directory toolsets).actions =
        (plansOf d root toolsets).flatMap (fileActions directory) := by
  induction toolsets with
  | nil => exact ⟨nofun, rfl⟩
  | cons s rest ih =>
    unfold renderScript at whole ⊢
    cases planned : planOf d root s with
    | error failure =>
      rw [planned] at whole
      cases whole
    | ok o =>
      rw [planned] at whole
      rw [plansOf_cons planned]
      cases o with
      | none =>
        obtain ⟨later, actions⟩ := ih whole
        exact ⟨List.forall_mem_cons.mpr ⟨⟨none, planned⟩, later⟩, actions⟩
      | some p =>
        obtain ⟨later, actions⟩ := ih whole
        exact ⟨List.forall_mem_cons.mpr ⟨⟨some p, planned⟩, later⟩,
          congrArg (fileActions directory p ++ ·) actions⟩

def target (workingDirectory : Place) (out : String) (p : Plan) : Place :=
  placeOf workingDirectory (joinPath out p.path)

def lastAt (workingDirectory : Place) (out : String) (plans : List Plan) (place : Place) :
    Option Plan :=
  plans.reverse.find? fun p => target workingDirectory out p = place

section LastAt

variable {workingDirectory : Place}

theorem lastAt_cons :
    lastAt workingDirectory out (p :: plans) place = (lastAt workingDirectory out plans place).or
      (if target workingDirectory out p = place then some p else none) := by
  unfold lastAt
  rw [List.reverse_cons, List.find?_append, List.find?_singleton]
  simp only [decide_eq_true_eq]

theorem lastAt_single :
    lastAt workingDirectory out [p] place =
      if target workingDirectory out p = place then some p else none := by
  rw [lastAt_cons]
  rfl

theorem lastAt_some (last : lastAt workingDirectory out plans place = some q) :
    q ∈ plans ∧ target workingDirectory out q = place :=
  ⟨List.mem_reverse.mp (List.mem_of_find?_eq_some last),
    of_decide_eq_true (List.find?_some (p := fun p => target workingDirectory out p = place) last)⟩

theorem exists_lastAt (workingDirectory : Place) (out : String) (mem : p ∈ plans) :
    ∃ q, lastAt workingDirectory out plans (target workingDirectory out p) = some q := by
  refine Option.isSome_iff_exists.mp (List.find?_isSome.mpr ⟨p, List.mem_reverse.mpr mem, ?_⟩)
  exact decide_eq_true rfl

theorem lastAt_of_nodup (apart : (plans.map (target workingDirectory out)).Nodup)
    (mem : p ∈ plans) :
    lastAt workingDirectory out plans (target workingDirectory out p) = some p := by
  obtain ⟨q, last⟩ := exists_lastAt workingDirectory out mem
  obtain ⟨memQ, same⟩ := lastAt_some last
  rw [last, List.inj_on_of_nodup_map apart memQ mem same]

end LastAt

/-- How the files of plans come into a tree: at each place the last one, next to what was there. -/
structure Written (t t' : FileTree) (out : String) (plans : List Plan) : Prop where
  keeps : t.KeepsDirectories t'
  opens : ∀ p ∈ plans, t'.Opens (joinPath out p.path)
  last : ∀ place q, lastAt t.workingDirectory out plans place = some q →
    t'.get? place = some (.file (Go.render q))
  others : ∀ place text, lastAt t.workingDirectory out plans place = none →
    t.get? place = some (.file text) → t'.get? place = some (.file text)

theorem written_nothing (t : FileTree) (out : String) : Written t t out [] :=
  ⟨.refl t, nofun, nofun, fun _ _ _ => id⟩

theorem written_plan (done : t.performAll (fileActions (some out) p) = .ok t') :
    Written t t' out [p] := by
  unfold FileTree.performAll fileActions at done
  rw [List.foldlM_cons] at done
  obtain ⟨made, making, done⟩ := bind_ok done
  rw [List.foldlM_cons] at done
  obtain ⟨written, writing, done⟩ := bind_ok done
  cases done
  have grows := FileTree.makeDirectories_grows making
  obtain ⟨opens, keeps, here, elsewhere⟩ := FileTree.opens_of_write writing
  rw [grows.workingDirectory] at here elsewhere
  refine ⟨grows.keepsDirectories.trans keeps, fun q mem => ?_, fun place q last => ?_,
    fun place text untouched old => ?_⟩
  · rw [List.mem_singleton.mp mem]
    exact opens
  · rw [lastAt_single] at last
    split at last
    · rename_i same
      cases last
      rw [← same]
      exact here
    · cases last
  · rw [lastAt_single] at untouched
    split at untouched
    · cases untouched
    · rename_i apart
      rw [elsewhere place (Ne.symm apart)]
      exact grows.kept place _ old

theorem Written.next {between : FileTree} (first : Written t between out [p])
    (rest : Written between t' out plans) : Written t t' out (p :: plans) := by
  have later := rest.last
  have others := rest.others
  rw [first.keeps.workingDirectory] at later others
  refine ⟨first.keeps.trans rest.keeps, fun q mem => ?_, fun place q last => ?_,
    fun place text untouched old => ?_⟩
  · rcases List.mem_cons.mp mem with rfl | mem
    · exact (first.opens q List.mem_cons_self).keeps rest.keeps
    · exact rest.opens q mem
  · rw [lastAt_cons, ← lastAt_single] at last
    rcases Option.or_eq_some_iff.mp last with there | ⟨notLater, own⟩
    · exact later place q there
    · exact others place _ notLater (first.last place q own)
  · rw [lastAt_cons, ← lastAt_single] at untouched
    obtain ⟨later, here⟩ := Option.or_eq_none_iff.mp untouched
    exact others place text later (first.others place text here old)

theorem written_of_performAll
    (done : t.performAll (plans.flatMap (fileActions (some out))) = .ok t') :
    Written t t' out plans := by
  induction plans generalizing t with
  | nil =>
    cases done
    exact written_nothing _ out
  | cons p rest ih =>
    rw [List.flatMap_cons] at done
    obtain ⟨between, first, later⟩ := FileTree.performAll_append done
    exact (written_plan first).next (ih later)

/-- What the path of a plan leads to in the end: the text of the last plan at its place, hence its
own text where all places are different. -/
structure Leaves (t t' : FileTree) (out : String) (plans : List Plan) (p : Plan) : Prop where
  last : ∃ q, lastAt t.workingDirectory out plans (target t.workingDirectory out p) = some q ∧
    t'.read (joinPath out p.path) = .ok (Go.render q)
  own : (plans.map (target t.workingDirectory out)).Nodup →
    t'.read (joinPath out p.path) = .ok (Go.render p)

theorem Written.read (written : Written t t' out plans) (mem : p ∈ plans)
    (last : lastAt t.workingDirectory out plans (target t.workingDirectory out p) = some q) :
    t'.read (joinPath out p.path) = .ok (Go.render q) := by
  rw [(written.opens p mem).read, written.keeps.workingDirectory]
  exact written.last _ q last

theorem Written.leaves (written : Written t t' out plans) (mem : p ∈ plans) :
    Leaves t t' out plans p := by
  obtain ⟨q, last⟩ := exists_lastAt t.workingDirectory out mem
  exact ⟨⟨q, last, written.read mem last⟩,
    fun apart => written.read mem (lastAt_of_nodup apart mem)⟩

end Command

section Run

variable {args : List String} {path out : String} {root : Option String} {t : FileTree}

theorem ofArguments_render {d : Design} {used : String}
    (asked : Invocation.ofArguments args = .run (.render path root (some out)))
    (loaded : (Command.render path root (some out)).load (t.read path) = .ok (d, used)) :
    Outcome.ofArguments args t =
      Outcome.ofActions (Command.renderScript d used (some out) d.toolsets).failure "" t
        (Command.renderScript d used (some out) d.toolsets).actions := by
  have script : (Command.render path root (some out)).script (t.read path) =
      Command.renderScript d used (some out) d.toolsets := by
    rw [Command.script, loaded]
  unfold Outcome.ofArguments
  rw [asked]
  dsimp only [Command.designPath]
  rw [script]

theorem loaded_of_done (asked : Invocation.ofArguments args = .run (.render path root (some out)))
    (done : (Outcome.ofArguments args t).exitCode = 0) :
    ∃ d used, (Command.render path root (some out)).load (t.read path) = .ok (d, used) := by
  cases loaded : (Command.render path root (some out)).load (t.read path) with
  | ok r => exact ⟨r.1, r.2, rfl⟩
  | error failure =>
    unfold Outcome.ofArguments at done
    rw [asked] at done
    dsimp only [Command.designPath, Command.script] at done
    rw [loaded] at done
    cases done

end Run

/-- Rendering into a directory that succeeds plans all toolsets and leaves at the path of each plan
the text of the last plan whose path names the same place. -/
theorem rendered_files {args : List String} {path out : String} {root : Option String}
    {t : FileTree} (asked : Invocation.ofArguments args = .run (.render path root (some out)))
    (done : (Outcome.ofArguments args t).exitCode = 0) :
    ∃ d used, (Command.render path root (some out)).load (t.read path) = .ok (d, used) ∧
      ∀ s ∈ d.toolsets, ∃ o, Command.planOf d used s = .ok o ∧ ∀ p, o = some p →
        (∃ specsDir, s.specsDir = some specsDir ∧ p.path = Planner.planPath specsDir) ∧
          Command.Leaves t (Outcome.ofArguments args t).files out
            (Command.plansOf d used d.toolsets) p := by
  obtain ⟨d, used, loaded⟩ := loaded_of_done asked done
  refine ⟨d, used, loaded, fun s mem => ?_⟩
  rw [ofArguments_render asked loaded] at done ⊢
  obtain ⟨whole, performed⟩ := Outcome.performed_of_done done
  obtain ⟨planned, actions⟩ := Command.renderScript_whole whole
  rw [actions] at performed
  have written := Command.written_of_performAll performed
  rw [actions]
  obtain ⟨o, plan⟩ := planned s mem
  refine ⟨o, plan, ?_⟩
  rintro p rfl
  exact ⟨Planner.path_of_planned (Command.planned_of_planOf plan),
    written.leaves (Command.mem_plansOf.mpr ⟨s, mem, plan⟩)⟩

/-! Two toolsets, whose generated packages may be given one directory. -/
namespace TwoToolsets

def yaml (second : String) : String :=
  "service: \x7bname: a\x7d\nroot: r\ntoolsets:\n" ++
    "- \x7bname: x, specs_dir: s, tools: &t [\x7bname: e, args: int, method: \x7bname: E, " ++
      "payload: int, payload_ref: int, result_ref: int\x7d\x7d]\x7d\n" ++
    "- \x7bname: y, specs_dir: " ++ second ++ ", tools: *t\x7d\n"

def args : List String := ["render", "-dd", "-oo"]

def command : Command := .render "d" none (some "o")

theorem asked : Invocation.ofArguments args = .run command := by decide

def tree (second : String) : FileTree := .ofFiles [] [(["d"], yaml second)]

def run (second : String) : Outcome := .ofArguments args (tree second)

def summary? (second : String) : Option (Nat × List (String × Bool)) :=
  (command.load ((tree second).read "d")).toOption.map fun (d, root) =>
    let script := Command.renderScript d root (some "o") d.toolsets
    let outcome := Outcome.ofActions script.failure "" (tree second) script.actions
    (outcome.exitCode, (Command.plansOf d root d.toolsets).map fun p =>
      (p.path, (outcome.files.read (joinPath "o" p.path)).toOption == some (Go.render p)))

theorem run_of_summary {second : String} {code : Nat} {files : List (String × Bool)}
    (h : summary? second = some (code, files)) :
    ∃ d root, command.load ((tree second).read "d") = .ok (d, root) ∧
      (run second).exitCode = code ∧ (Command.plansOf d root d.toolsets).map (fun p =>
        (p.path, ((run second).files.read (joinPath "o" p.path)).toOption ==
          some (Go.render p))) = files := by
  unfold summary? at h
  cases loaded : command.load ((tree second).read "d") with
  | error failure =>
    rw [loaded] at h
    cases h
  | ok r =>
    rw [loaded] at h
    obtain ⟨rfl, rfl⟩ := (Prod.mk.injEq ..).mp (Option.some.inj h)
    have same : run second = _ := ofArguments_render asked loaded
    exact ⟨r.1, r.2, rfl, by rw [same], by rw [same]⟩

/-- With one directory the file of the first toolset is lost. -/
theorem first_overwritten :
    (run "s").exitCode = 0 ∧ ∃ d root, command.load ((tree "s").read "d") = .ok (d, root) ∧
      ∃ s ∈ d.toolsets, ∃ p, Command.planOf d root s = .ok (some p) ∧ p.path = "s/transforms.go" ∧
        (run "s").files.read "o/s/transforms.go" ≠ .ok (Go.render p) := by
  have computed : summary? "s" =
      some (0, [("s/transforms.go", false), ("s/transforms.go", true)]) := by
    decide +kernel
  obtain ⟨d, root, loaded, code, files⟩ := run_of_summary computed
  refine ⟨code, d, root, loaded, ?_⟩
  cases plans : Command.plansOf d root d.toolsets with
  | nil =>
    rw [plans] at files
    cases files
  | cons p rest =>
    rw [plans, List.map_cons, List.cons.injEq, Prod.mk.injEq] at files
    obtain ⟨⟨path, lost⟩, -⟩ := files
    have mem : p ∈ Command.plansOf d root d.toolsets := plans ▸ List.mem_cons_self
    obtain ⟨s, memS, planned⟩ := Command.mem_plansOf.mp mem
    refine ⟨s, memS, p, planned, path, fun kept => ?_⟩
    have joined : joinPath "o" p.path = "o/s/transforms.go" := by
      rw [path]
      decide +kernel
    rw [joined, kept] at lost
    simp [Except.toOption] at lost

/-- With two directories both files are kept. -/
theorem both_kept :
    Invocation.ofArguments args = .run command ∧ (run "u").exitCode = 0 ∧
      ∃ d root, command.load ((tree "u").read "d") = .ok (d, root) ∧
        (Command.plansOf d root d.toolsets).map (·.path) = ["s/transforms.go", "u/transforms.go"] ∧
        ∀ p ∈ Command.plansOf d root d.toolsets,
          (run "u").files.read (joinPath "o" p.path) = .ok (Go.render p) := by
  have computed : summary? "u" =
      some (0, [("s/transforms.go", true), ("u/transforms.go", true)]) := by
    decide +kernel
  obtain ⟨d, root, loaded, done, files⟩ := run_of_summary computed
  obtain ⟨d', root', loaded', leaves⟩ := rendered_files asked done
  obtain ⟨rfl, rfl⟩ := (Prod.mk.injEq ..).mp (Except.ok.inj (loaded.symm.trans loaded'))
  have paths : (Command.plansOf d root d.toolsets).map (·.path) =
      ["s/transforms.go", "u/transforms.go"] := by
    have firsts := congrArg (List.map Prod.fst) files
    rwa [List.map_map] at firsts
  have home : (tree "u").workingDirectory = [] := by decide +kernel
  have apart : ((Command.plansOf d root d.toolsets).map
      (Command.target (tree "u").workingDirectory "o")).Nodup := by
    have places : (Command.plansOf d root d.toolsets).map (Command.target [] "o") =
        ["s/transforms.go", "u/transforms.go"].map fun path => placeOf [] (joinPath "o" path) := by
      rw [← paths, List.map_map]
      rfl
    rw [home, places]
    decide +kernel
  refine ⟨asked, done, d, root, loaded, paths, fun p mem => ?_⟩
  obtain ⟨s, memS, planned⟩ := Command.mem_plansOf.mp mem
  obtain ⟨o, planned', left⟩ := leaves s memS
  rw [planned] at planned'
  exact (left p (Except.ok.inj planned').symm).2.own apart

end TwoToolsets

end Toolbridge
