import Toolbridge.Proofs.Go.ValidNames
import Toolbridge.Proofs.Import.Allocation

set_option autoImplicit false

namespace Toolbridge

section Numbered

variable {base : String}

theorem keyword_undigited : ∀ word ∈ Go.keywords, word.toList.any Char.isDigit = false := by
  decide

theorem Go.IsPackageName.append {digits : String} (h : IsPackageName base)
    (filled : digits.toList ≠ []) (all : ∀ ch ∈ digits.toList, ch.isDigit) :
    IsPackageName (base ++ digits) where
  spelled := by
    obtain ⟨first, rest, chars, letter, others⟩ := h.spelled
    refine ⟨first, rest ++ digits.toList, ?_, letter, fun ch mem => ?_⟩
    · rw [String.toList_append, chars, List.cons_append]
    · rcases List.mem_append.mp mem with front | back
      · exact others ch front
      · exact .inr (all ch back)
  free := by
    intro keyword
    obtain ⟨ch, mem⟩ := List.exists_mem_of_ne_nil _ filled
    have digit : (base ++ digits).toList.any Char.isDigit = true :=
      List.any_eq_true.mpr ⟨ch, by simp [mem], all ch mem⟩
    rw [keyword_undigited _ keyword] at digit
    cases digit

theorem isPackageName_numbered (h : Go.IsPackageName base) (n : Nat) :
    Go.IsPackageName (numbered base n) := by
  cases n with
  | zero => exact h
  | succ n =>
    refine h.append ?_ (toString_digits (n + 2))
    rw [Nat.toString_eq_ofList_toDigits, String.toList_ofList]
    exact Nat.toDigits_ne_nil

theorem FirstFree.isPackageName {Taken : String → Prop} {segment name : String}
    (h : FirstFree Taken (Go.packageName segment) name) : Go.IsPackageName name := by
  obtain ⟨n, rfl, -⟩ := h
  exact isPackageName_numbered (Go.isPackageName_packageName segment) n

end Numbered

namespace ImportBlock

variable {b b' : ImportBlock} {asked : String → String → Prop} {path name : String}

theorem add_derives (new : b.nameOf? path = none) :
    Go.IsPackageName (b.add path).1 ∧
      (b.add path).2.entries = b.entries ++ [⟨path, some (b.add path).1⟩] := by
  unfold add
  rw [new]
  exact ⟨(b.freeName_firstFree _).isPackageName, rfl⟩

/-- Every entry has a name, and Go takes it or its path asked for it. -/
def Spelled (asked : String → String → Prop) (entries : List Import) : Prop :=
  ∀ i ∈ entries, ∃ name, i.name = some name ∧ (Go.IsPackageName name ∨ asked i.path name)

theorem spelled_nil : Spelled asked [] := nofun

theorem Spelled.add (h : Spelled asked b.entries) (path : String) :
    Spelled asked (b.add path).2.entries := by
  cases new : b.nameOf? path with
  | some name =>
    unfold ImportBlock.add
    rw [new]
    exact h
  | none =>
    obtain ⟨valid, entries⟩ := add_derives new
    intro i mem
    rw [entries] at mem
    rcases List.mem_append.mp mem with old | here
    · exact h i old
    · obtain rfl := List.mem_singleton.mp here
      exact ⟨_, rfl, .inl valid⟩

theorem Spelled.addNamed (h : Spelled asked b.entries) (given : asked path name)
    (ok : b.addNamed path name = (b', none)) : Spelled asked b'.entries := by
  intro i mem
  rcases mem_addNamed ok mem with old | rfl
  · exact h i old
  · exact ⟨name, rfl, .inr given⟩

theorem Spelled.after {claim : Claim} (h : Spelled asked b.entries)
    (given : ∀ path name, claim = .named path name → asked path name) :
    Spelled asked (b.after claim).entries := by
  cases claim with
  | derived path => exact h.add path
  | named path name =>
    change Spelled asked (b.addNamed path name).1.entries
    cases answer : (b.addNamed path name).2 with
    | none => exact h.addNamed (given path name rfl) (Prod.ext rfl answer)
    | some e => rwa [addNamed_unchanged answer]

theorem Spelled.foldl {claims : List Claim} (h : Spelled asked b.entries)
    (given : ∀ path name, .named path name ∈ claims → asked path name) :
    Spelled asked (claims.foldl ImportBlock.after b).entries := by
  induction claims generalizing b with
  | nil => exact h
  | cons claim rest ih =>
    have here : Spelled asked (b.after claim).entries :=
      h.after fun path name same => given path name (same ▸ List.mem_cons_self)
    exact ih here fun path name mem => given path name (List.mem_cons_of_mem _ mem)

variable {pending : List (String × List String)} {names : List String}

theorem Spelled.addAllNamed (h : Spelled asked b.entries) (given : ∀ name ∈ names, asked path name)
    (ok : b.addAllNamed path names = .ok b') : Spelled asked b'.entries := by
  intro i mem
  rcases mem_addAllNamed ok mem with old | ⟨name, here, rfl⟩
  · exact h i old
  · exact ⟨name, rfl, .inr (given name here)⟩

theorem Spelled.addPending (h : Spelled asked b.entries)
    (given : ∀ e ∈ pending, ∀ name ∈ e.2, asked e.1 name)
    (ok : b.addPending pending = .ok b') : Spelled asked b'.entries := by
  induction pending generalizing b with
  | nil =>
    cases ok
    exact h
  | cons e rest ih =>
    obtain ⟨path, names⟩ := e
    obtain ⟨here, later⟩ := List.forall_mem_cons.mp given
    cases names with
    | nil => exact ih (h.add path) later ok
    | cons name names =>
      unfold ImportBlock.addPending at ok
      split at ok
      · cases ok
      · rename_i middle added
        exact ih (h.addAllNamed here added) later ok

theorem Spelled.start {first : Import} (given : ∀ name ∈ first.name, asked first.path name)
    (ok : ImportBlock.start first = .ok b) : Spelled asked b.entries := by
  unfold ImportBlock.start at ok
  split at ok
  · rename_i name named
    split at ok
    · cases ok
    · rename_i led added
      cases ok
      exact spelled_nil.addNamed (given name named) added
  · cases ok
    exact spelled_nil.add first.path

/-- The names in an assembled block that nobody asked for are valid. -/
theorem assemble_spelled {first : Import} {asked imports : List Import}
    (ok : assemble first (PendingImports.addAll {} asked) = .ok imports) :
    Spelled (fun path name => ⟨path, some name⟩ ∈ first :: asked) imports := by
  obtain ⟨led, reserved, full, started, held, added, rfl⟩ := assemble_eq_ok ok
  have start : Spelled (fun path name => ⟨path, some name⟩ ∈ first :: asked) led.entries := by
    refine Spelled.start (fun name named => ?_) started
    rw [← Option.mem_def.mp named]
    exact List.mem_cons_self
  rw [← entries_reservePending held] at start
  refine start.addPending (fun e mem name asks => List.mem_cons_of_mem _ ?_) added
  have origin : PendingImports.ComesFrom asked e :=
    PendingImports.comesFrom_addAll (p := {}) (fun _ => id) nofun e (List.mem_filter.mp mem).1
  exact origin.named name asks

/-- Identifiers and package names are valid whatever text they are made from, and so are all names
that import blocks derive, numbered or not. -/
theorem names_from_any_text :
    (∀ text, Go.ValidNames text) ∧
      (∀ (b : ImportBlock) path, b.nameOf? path = none →
        Go.IsPackageName (b.add path).1 ∧
          (b.add path).2.entries = b.entries ++ [⟨path, some (b.add path).1⟩]) ∧
      ∀ claims, Spelled (fun path name => .named path name ∈ claims) (run claims).entries := by
  refine ⟨Go.validNames, fun b path => add_derives, fun claims => ?_⟩
  exact spelled_nil.foldl fun _ _ => id

/-! Texts with two words each, and paths that end in a keyword. -/
namespace Worded

def claims : List Claim :=
  [.derived "example.com/lib/go", .named "example.com/my" "my_lib", .derived "example.com/x/Go!"]

theorem words_and_keywords :
    (∀ exported, Go.identifier exported "by id" = Go.identifier exported "-by--id-") ∧
      (run claims).nameOf? "example.com/go" = none ∧
      ((run claims).add "example.com/go").1 = "pkggo3" ∧ Go.IsPackageName "pkggo3" ∧
      Spelled (fun path name => .named path name ∈ claims) (run claims).entries := by
  obtain ⟨texts, blocks, runs⟩ := names_from_any_text
  have split : Go.Runs "by id".toList [['b', 'y'], ['i', 'd']] :=
    Go.runs_iff.mpr (by decide +kernel)
  have split' : Go.Runs "-by--id-".toList [['b', 'y'], ['i', 'd']] :=
    Go.runs_iff.mpr (by decide +kernel)
  have new : (run claims).nameOf? "example.com/go" = none := by decide +kernel
  have third : ((run claims).add "example.com/go").1 = "pkggo3" := by decide +kernel
  refine ⟨(texts "by id").byRuns _ _ split split', new, third, ?_, runs claims⟩
  rw [← third]
  exact (blocks (run claims) "example.com/go" new).1

end Worded

end ImportBlock
end Toolbridge
