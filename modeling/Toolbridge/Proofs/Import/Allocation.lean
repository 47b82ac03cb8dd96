import Toolbridge.Proofs.Import.Holders

set_option autoImplicit false

namespace Toolbridge.ImportBlock

/-- What can be asked of a block: a derived name for a path, or a name of its own. -/
inductive Claim where
  | derived (path : String)
  | named (path name : String)

def after (b : ImportBlock) : Claim → ImportBlock
  | .derived path => (b.add path).2
  | .named path name => (b.addNamed path name).1

def run (claims : List Claim) : ImportBlock := claims.foldl after {}

/-- A name that is held has an entry. -/
def Listed (b : ImportBlock) : Prop :=
  ∀ path name, b.holder? name = some path → ⟨path, some name⟩ ∈ b.entries

/-- What is known of a block between two claims. -/
structure Allocates (b : ImportBlock) : Prop where
  distinct : (b.entries.map (·.name)).Nodup
  inStep : ∀ path name, b.holder? name = some path ↔ ⟨path, some name⟩ ∈ b.entries
  grows : ∀ claim, b.entries <+: (b.after claim).entries
  bound : ∀ path, ⟨path, some (b.add path).1⟩ ∈ (b.add path).2.entries
  known : ∀ path, (∃ i ∈ b.entries, i.path = path) → ∃ name,
    b.entries.find? (·.path == path) = some ⟨path, some name⟩ ∧ b.add path = (name, b)
  derived : ∀ path, (∀ i ∈ b.entries, i.path ≠ path) → ∃ name,
    FirstFree (fun x => some x ∈ b.entries.map (·.name)) (baseName path) name ∧
      (b.add path).1 = name ∧ (b.add path).2.entries = b.entries ++ [⟨path, some name⟩]
  granted : ∀ path name b', b.addNamed path name = (b', none) →
    ⟨path, some name⟩ ∈ b'.entries ∧
      (b'.entries = b.entries ∨ b'.entries = b.entries ++ [⟨path, some name⟩])
  refused : ∀ path name e, (b.addNamed path name).2 = some e ↔
    ∃ other, other ≠ path ∧ ⟨other, some name⟩ ∈ b.entries ∧ e = ⟨name, other, path⟩
  unchanged : ∀ path name e, (b.addNamed path name).2 = some e → (b.addNamed path name).1 = b
  repeated : ∀ path name b', b.addNamed path name = (b', none) → b'.addNamed path name = (b', none)

variable {b b' : ImportBlock} {path name : String}

theorem after_cases (b : ImportBlock) (claim : Claim) :
    (∃ path, b.after claim = (b.add path).2) ∨
      (∃ path name, b.addNamed path name = (b.after claim, none)) ∨ b.after claim = b := by
  cases claim with
  | derived path => exact .inl ⟨path, rfl⟩
  | named path name =>
    cases asked : (b.addNamed path name).2 with
    | none => exact .inr (.inl ⟨path, name, Prod.ext rfl asked⟩)
    | some e => exact .inr (.inr (addNamed_unchanged asked))

theorem after_grows (b : ImportBlock) (claim : Claim) : b.entries <+: (b.after claim).entries := by
  rcases b.after_cases claim with ⟨path, same⟩ | ⟨path, name, ok⟩ | same
  · rw [same]
    exact add_grows b path
  · exact (addNamed_grows ok).1
  · exact same.symm ▸ List.prefix_refl _

theorem InStep.after (h : b.InStep) (claim : Claim) : (b.after claim).InStep := by
  rcases b.after_cases claim with ⟨path, same⟩ | ⟨path, name, ok⟩ | same
  · rw [same]
    exact h.add path
  · exact h.addNamed ok
  · rwa [same]

theorem Listed.append (h : b.Listed) (entries : b.entries ⊆ b'.entries)
    (new : ⟨path, some name⟩ ∈ b'.entries)
    (holders : ∀ x, b'.holder? x = if x = name then some path else b.holder? x) : b'.Listed := by
  intro p x held
  rw [holders] at held
  by_cases here : x = name
  · rw [if_pos here] at held
    rwa [here, ← Option.some.inj held]
  · rw [if_neg here] at held
    exact entries (h p x held)

theorem Listed.addNamed (h : b.Listed) (ok : b.addNamed path name = (b', none)) : b'.Listed := by
  obtain ⟨grows, there⟩ := addNamed_grows ok
  obtain ⟨held, reserved, same, -⟩ := addNamed_eq_ok ok
  exact h.append grows.subset there fun x => by rw [same, holder?_reserve reserved]

theorem Listed.add (h : b.Listed) (step : b.InStep) (path : String) : (b.add path).2.Listed := by
  by_cases known : ∃ i ∈ b.entries, i.path = path
  · obtain ⟨name, -, same⟩ := step.add_known known
    rw [same]
    exact h
  · obtain ⟨name, -, added⟩ := add_new fun i mem here => known ⟨i, mem, here⟩
    rw [added]
    refine h.append (List.subset_append_left _ _) ?_ fun x => holder?_cons ..
    exact List.mem_append_right _ List.mem_cons_self

theorem Listed.after (h : b.Listed) (step : b.InStep) (claim : Claim) :
    (b.after claim).Listed := by
  rcases b.after_cases claim with ⟨path, same⟩ | ⟨path, name, ok⟩ | same
  · rw [same]
    exact h.add step path
  · exact h.addNamed ok
  · rwa [same]

theorem InStep.holder?_iff (h : b.InStep) (listed : b.Listed) (path name : String) :
    b.holder? name = some path ↔ ⟨path, some name⟩ ∈ b.entries :=
  ⟨listed path name, h.held⟩

theorem InStep.held_iff (h : b.InStep) (listed : b.Listed) (name : String) :
    b.Held name ↔ some name ∈ b.entries.map (·.name) := by
  constructor
  · rintro ⟨path, held⟩
    exact List.mem_map.mpr ⟨_, listed path name held, rfl⟩
  · intro mem
    obtain ⟨⟨path, given⟩, there, same⟩ := List.mem_map.mp mem
    obtain rfl : given = some name := same
    exact ⟨path, h.held there⟩

theorem InStep.add_bound (h : b.InStep) (path : String) :
    ⟨path, some (b.add path).1⟩ ∈ (b.add path).2.entries := by
  by_cases known : ∃ i ∈ b.entries, i.path = path
  · obtain ⟨name, first, same⟩ := h.add_known known
    rw [same]
    exact List.mem_of_find?_eq_some first
  · obtain ⟨name, -, added⟩ := add_new fun i mem here => known ⟨i, mem, here⟩
    rw [added]
    exact List.mem_append_right _ List.mem_cons_self

theorem addNamed_again (ok : b.addNamed path name = (b', none)) :
    b'.addNamed path name = (b', none) := by
  have held := holds_addNamed ok
  have there := (addNamed_grows ok).2
  have reserved : b'.reserve path name = (b', none) := by
    unfold reserve
    rw [held]
    exact Prod.ext rfl (if_pos rfl)
  unfold addNamed
  rw [reserved]
  exact if_pos (List.contains_iff_mem.mpr there)

theorem InStep.allocates (h : b.InStep) (listed : b.Listed) : b.Allocates where
  distinct := h.distinct
  inStep := h.holder?_iff listed
  grows := b.after_grows
  bound := h.add_bound
  known := fun _ known => h.add_known known
  derived := by
    intro path new
    obtain ⟨name, free, added⟩ := add_new new
    rw [added]
    exact ⟨name, free.congr (h.held_iff listed), rfl, rfl⟩
  granted := by
    intro path name b' ok
    refine ⟨(addNamed_grows ok).2, ?_⟩
    obtain ⟨-, -, -, entries⟩ := addNamed_eq_ok ok
    rw [entries]
    by_cases known : ⟨path, some name⟩ ∈ b.entries
    · exact .inl (if_pos known)
    · exact .inr (if_neg known)
  refused := by
    intro path name e
    rw [addNamed_refused]
    constructor
    · rintro ⟨other, held, different, rfl⟩
      exact ⟨other, different, listed other name held, rfl⟩
    · rintro ⟨other, different, mem, rfl⟩
      exact ⟨other, h.held mem, different, rfl⟩
  unchanged := fun _ _ _ => addNamed_unchanged
  repeated := fun _ _ _ => addNamed_again

theorem run_append (claims more : List Claim) :
    run (claims ++ more) = more.foldl after (run claims) := List.foldl_append

theorem foldl_after_inStep (claims : List Claim) (h : b.InStep) (listed : b.Listed) :
    (claims.foldl after b).InStep ∧ (claims.foldl after b).Listed := by
  induction claims generalizing b with
  | nil => exact ⟨h, listed⟩
  | cons claim rest ih => exact ih (h.after claim) (listed.after h claim)

theorem foldl_after_grows (claims : List Claim) (b : ImportBlock) :
    b.entries <+: (claims.foldl after b).entries := by
  induction claims generalizing b with
  | nil => exact List.prefix_refl _
  | cons claim rest ih => exact (b.after_grows claim).trans (ih (b.after claim))

/-- Over a whole run of claims names are handed out as they should be, and the entries that there
are stay in their places. -/
theorem run_allocates (claims : List Claim) :
    (run claims).Allocates ∧ ∀ more, (run claims).entries <+: (run (claims ++ more)).entries := by
  obtain ⟨inStep, listed⟩ := foldl_after_inStep claims inStep_empty (b := {}) nofun
  refine ⟨inStep.allocates listed, fun more => ?_⟩
  rw [run_append]
  exact foldl_after_grows more (run claims)

example : (run [.named "example.com/z" "foo", .derived "example.com/v2/foo",
    .derived "example.com/foo2", .named "example.com/y" "foo2", .derived "example.com/v2/foo",
    .named "example.com/v2/foo" "bar"]).entries =
      [⟨"example.com/z", some "foo"⟩, ⟨"example.com/v2/foo", some "foo2"⟩,
        ⟨"example.com/foo2", some "foo22"⟩, ⟨"example.com/v2/foo", some "bar"⟩] := by
  decide +kernel

end Toolbridge.ImportBlock
