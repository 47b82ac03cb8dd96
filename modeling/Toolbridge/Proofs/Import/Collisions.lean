import Toolbridge.Proofs.Import.Assembly

set_option autoImplicit false

namespace Toolbridge.ImportBlock

variable {b b' : ImportBlock} {path name : String} {names : List String} {e : NameCollision}
  {pending : List (String × List String)}

/-- Two of the imports ask for the name, for different paths. -/
def Contested (imports : List Import) (name : String) : Prop :=
  ∃ path other, path ≠ other ∧ ⟨path, some name⟩ ∈ imports ∧ ⟨other, some name⟩ ∈ imports

/-- Another path asks for the name that is derived for a first import without one. -/
def LeadContested (first : Import) (asked : List Import) : Prop :=
  first.name = none ∧ ∃ path, path ≠ first.path ∧ ⟨path, some (baseName first.path)⟩ ∈ asked

theorem reserveAll_refused (refused : b.reserveAll path names = .error e) :
    e.path = path ∧ e.name ∈ names ∧ e.existing ≠ path ∧ b.holder? e.name = some e.existing := by
  induction names generalizing b with
  | nil => cases refused
  | cons name rest ih =>
    unfold reserveAll at refused
    split at refused
    · rename_i collision here
      obtain rfl := Except.error.inj refused
      obtain ⟨other, held, apart, rfl⟩ := reserve_refused.mp (congrArg Prod.snd here)
      exact ⟨rfl, List.mem_cons_self, apart, held⟩
    · rename_i middle reserved
      obtain ⟨same, mem, apart, held⟩ := ih refused
      have before := ((reserve_holder?_iff reserved).mp held).resolve_right fun own => apart own.1
      exact ⟨same, List.mem_cons_of_mem _ mem, apart, before⟩

theorem reservePending_refused (refused : b.reservePending pending = .error e) :
    e.existing ≠ e.path ∧ PendingImports.Asks pending e.path e.name ∧
      (b.holder? e.name = some e.existing ∨ PendingImports.Asks pending e.existing e.name) := by
  induction pending generalizing b with
  | nil => cases refused
  | cons entry rest ih =>
    obtain ⟨path, names⟩ := entry
    unfold reservePending at refused
    split at refused
    · rename_i collision here
      obtain rfl := Except.error.inj refused
      obtain ⟨rfl, mem, apart, held⟩ := reserveAll_refused here
      exact ⟨apart, ⟨names, List.mem_cons_self, mem⟩, .inl held⟩
    · rename_i middle reserved
      have later : ∀ {p x : String}, PendingImports.Asks rest p x →
          PendingImports.Asks ((path, names) :: rest) p x :=
        fun ⟨found, mem, there⟩ => ⟨found, List.mem_cons_of_mem _ mem, there⟩
      obtain ⟨apart, asks, held | other⟩ := ih refused
      · rcases (reserveAll_holder?_iff reserved).mp held with old | ⟨same, mem⟩
        · exact ⟨apart, later asks, .inl old⟩
        · exact ⟨apart, later asks, .inr ⟨names, same ▸ List.mem_cons_self, mem⟩⟩
      · exact ⟨apart, later asks, .inr (later other)⟩

theorem addAllNamed_granted (held : ∀ n ∈ names, b.holder? n = some path) :
    ∃ b', b.addAllNamed path names = .ok b' := by
  induction names generalizing b with
  | nil => exact ⟨b, rfl⟩
  | cons name rest ih =>
    rcases added : b.addNamed path name with ⟨middle, _ | e⟩
    · obtain ⟨b', ok⟩ := ih (b := middle) fun n mem =>
        keeps_addNamed added n path (held n (List.mem_cons_of_mem _ mem))
      refine ⟨b', ?_⟩
      rw [addAllNamed, added]
      exact ok
    · obtain ⟨other, there, apart, -⟩ := addNamed_refused.mp (congrArg Prod.snd added)
      rw [held name List.mem_cons_self] at there
      exact absurd (Option.some.inj there).symm apart

theorem addPending_granted
    (held : ∀ p x, PendingImports.Asks pending p x → b.holder? x = some p) :
    ∃ b', b.addPending pending = .ok b' := by
  induction pending generalizing b with
  | nil => exact ⟨b, rfl⟩
  | cons entry rest ih =>
    obtain ⟨path, names⟩ := entry
    obtain ⟨middle, served⟩ : ∃ middle, b.serve (path, names) = .ok middle := by
      cases names with
      | nil => exact ⟨_, rfl⟩
      | cons name names =>
        exact addAllNamed_granted fun n mem => held path n ⟨_, List.mem_cons_self, mem⟩
    obtain ⟨b', ok⟩ := ih (b := middle) fun p x ⟨found, mem, there⟩ =>
      (serve_onward served).keeps x p (held p x ⟨found, List.mem_cons_of_mem _ mem, there⟩)
    exact ⟨b', addPending_cons.mpr ⟨middle, served, ok⟩⟩

section Whole

variable {first : Import} {asked imports : List Import}

def lead (first : Import) : Import := ⟨first.path, some first.leadName⟩

theorem start_holder?_iff {led : ImportBlock} (started : start first = .ok led) {x p : String} :
    led.holder? x = some p ↔ x = first.leadName ∧ p = first.path := by
  obtain ⟨led', started', inStep, entries, held⟩ := start_leads first
  rw [started] at started'
  obtain rfl := Except.ok.inj started'
  have leads : led.holder? first.leadName = some first.path :=
    inStep.held (entries ▸ List.mem_cons_self)
  constructor
  · intro here
    obtain rfl := (held x).mp ⟨p, here⟩
    exact ⟨rfl, Option.some.inj (here.symm.trans leads)⟩
  · rintro ⟨rfl, rfl⟩
    exact leads

/-- The only step that can fail is the one that reserves what was asked for. -/
theorem assemble_refused
    (refused : assemble first (PendingImports.addAll {} asked) = .error e) :
    ∃ led, start first = .ok led ∧ led.reservePending (pendingFor first asked) = .error e := by
  obtain ⟨led, started, -⟩ := start_leads first
  refine ⟨led, started, ?_⟩
  unfold assemble at refused
  rw [started] at refused
  simp only [bind, Except.bind] at refused
  cases reserved : led.reservePending (pendingFor first asked) with
  | error collision =>
    rw [pendingFor] at reserved
    rw [reserved] at refused
    dsimp only at refused
    exact congrArg _ (Except.error.inj refused)
  | ok held =>
    obtain ⟨full, added⟩ := addPending_granted fun p x asks =>
      (reservePending_holder?_iff reserved).mpr (.inr asks)
    rw [pendingFor] at reserved added
    rw [reserved] at refused
    dsimp only at refused
    rw [added] at refused
    cases refused

/-- What is reported is a name that two paths ask for, where the first import counts with the name
under which it leads. -/
theorem collision_of_refused
    (refused : assemble first (PendingImports.addAll {} asked) = .error e) :
    e.existing ≠ e.path ∧ ⟨e.path, some e.name⟩ ∈ asked ∧
      ⟨e.existing, some e.name⟩ ∈ lead first :: asked := by
  obtain ⟨led, started, reserving⟩ := assemble_refused refused
  obtain ⟨apart, asks, held | other⟩ := reservePending_refused reserving
  · obtain ⟨named, path⟩ := (start_holder?_iff started).mp held
    refine ⟨apart, asks_pendingFor.mp asks, List.mem_cons.mpr (.inl ?_)⟩
    rw [lead, named, path]
  · exact ⟨apart, asks_pendingFor.mp asks, List.mem_cons_of_mem _ (asks_pendingFor.mp other)⟩

theorem not_contested_of_assembled
    (ok : assemble first (PendingImports.addAll {} asked) = .ok imports) :
    ¬ Contested (lead first :: asked) name := by
  obtain ⟨led, reserved, full, started, held, -, -⟩ := assemble_eq_ok ok
  have holds : ∀ p, ⟨p, some name⟩ ∈ lead first :: asked → reserved.holder? name = some p := by
    intro p mem
    refine (reservePending_holder?_iff held).mpr ?_
    rcases List.mem_cons.mp mem with same | mem
    · obtain ⟨rfl, named⟩ := (Import.mk.injEq ..).mp same
      exact .inl ((start_holder?_iff started).mpr ⟨Option.some.inj named, rfl⟩)
    · exact .inr (asks_pendingFor.mpr mem)
  rintro ⟨path, other, apart, here, there⟩
  exact apart (Option.some.inj ((holds path here).symm.trans (holds other there)))

theorem assemble_of_subset {less : List Import} (fewer : less ⊆ asked)
    (ok : assemble first (PendingImports.addAll {} asked) = .ok imports) :
    ∃ imports', assemble first (PendingImports.addAll {} less) = .ok imports' ∧
      imports'.map (·.path) ⊆ imports.map (·.path) := by
  cases outcome : assemble first (PendingImports.addAll {} less) with
  | error e =>
    obtain ⟨apart, requested, existing⟩ := collision_of_refused outcome
    have contested : Contested (lead first :: asked) e.name :=
      ⟨e.existing, e.path, apart, List.cons_subset_cons _ fewer existing,
        List.mem_cons_of_mem _ (fewer requested)⟩
    exact absurd contested (not_contested_of_assembled ok)
  | ok imports' =>
    obtain ⟨_, _, making, rfl⟩ := making_of_assemble ok
    obtain ⟨_, _, making', rfl⟩ := making_of_assemble outcome
    refine ⟨_, rfl, fun path mem => making.mem_paths.mpr ?_⟩
    exact (making'.mem_paths.mp mem).imp_right fun there => List.map_subset _ fewer there

theorem mem_lead {p x : String} :
    ⟨p, some x⟩ ∈ lead first :: asked ↔
      (p = first.path ∧ x = first.leadName) ∨ ⟨p, some x⟩ ∈ asked := by
  rw [List.mem_cons, lead, Import.mk.injEq, Option.some.injEq]

theorem contested_lead_iff :
    (∃ name, Contested (lead first :: asked) name) ↔
      (∃ name, Contested (first :: asked) name) ∨ LeadContested first asked := by
  cases given : first.name with
  | some name =>
    have same : lead first = first := by
      obtain ⟨path, own⟩ := first
      obtain rfl : own = some name := given
      rfl
    rw [same]
    refine (or_iff_left ?_).symm
    rintro ⟨unnamed, -⟩
    rw [given] at unnamed
    cases unnamed
  | none =>
    have derived : first.leadName = baseName first.path := by
      rw [Import.leadName, given, Option.getD_none]
    have unnamed : ∀ {p x : String}, ⟨p, some x⟩ ∈ first :: asked → ⟨p, some x⟩ ∈ asked := by
      intro p x mem
      refine (List.mem_cons.mp mem).resolve_left fun same => ?_
      rw [← same] at given
      cases given
    unfold Contested LeadContested
    simp only [mem_lead, derived]
    constructor
    · rintro ⟨name, p, q, apart, ⟨rfl, rfl⟩ | here, ⟨rfl, same⟩ | there⟩
      · exact absurd rfl apart
      · exact .inr ⟨given, q, apart.symm, there⟩
      · exact .inr ⟨given, p, apart, same ▸ here⟩
      · exact .inl ⟨name, p, q, apart, List.mem_cons_of_mem _ here, List.mem_cons_of_mem _ there⟩
    · rintro (⟨name, p, q, apart, here, there⟩ | ⟨-, p, apart, here⟩)
      · exact ⟨name, p, q, apart, .inr (unnamed here), .inr (unnamed there)⟩
      · exact ⟨baseName first.path, p, first.path, apart, .inr here, .inl ⟨rfl, rfl⟩⟩

end Whole

/-- A block cannot be assembled just if two paths ask for one name, or one asks for the name that is
derived for the first import; other derived names give way to what is asked for. -/
theorem assemble_fails_iff (first : Import) (asked : List Import) :
    ((∃ e, assemble first (PendingImports.addAll {} asked) = .error e) ↔
      (∃ name, Contested (first :: asked) name) ∨ LeadContested first asked) ∧
    (∀ e, assemble first (PendingImports.addAll {} asked) = .error e →
      e.existing ≠ e.path ∧ ⟨e.path, some e.name⟩ ∈ asked ∧
        ⟨e.existing, some e.name⟩ ∈ lead first :: asked) ∧
    ∀ imports, assemble first (PendingImports.addAll {} asked) = .ok imports →
      ∀ path, Nameless first asked path → ∃ name, ⟨path, some name⟩ ∈ imports ∧
        FirstFree (TakenBefore first asked imports path) (baseName path) name := by
  refine ⟨?_, fun e refused => collision_of_refused refused, fun imports ok path nameless => ?_⟩
  · rw [← contested_lead_iff]
    constructor
    · rintro ⟨e, refused⟩
      obtain ⟨apart, requested, existing⟩ := collision_of_refused refused
      exact ⟨e.name, e.existing, e.path, apart, existing, List.mem_cons_of_mem _ requested⟩
    · rintro ⟨name, contested⟩
      cases outcome : assemble first (PendingImports.addAll {} asked) with
      | error e => exact ⟨e, rfl⟩
      | ok imports => exact absurd contested (not_contested_of_assembled outcome)
  · obtain ⟨reserved, full, making, rfl⟩ := making_of_assemble ok
    obtain ⟨name, once, free⟩ := making.assembled.derived path nameless
    have mem : ⟨path, some name⟩ ∈ full.entries.filter (·.path = path) := by
      rw [once]
      exact List.mem_cons_self
    exact ⟨name, (List.mem_filter.mp mem).1, free⟩

/-! A first import without a name of its own, and a custom package that is to be called like it. -/
namespace Preempted

def first : Import := ⟨"example.com/a/foo", none⟩

def custom : Import := ⟨"example.com/z/custom", some "foo"⟩

theorem custom_refused :
    assemble first (PendingImports.addAll {} [custom]) =
        .error ⟨"foo", "example.com/a/foo", "example.com/z/custom"⟩ ∧
      ∀ name, ¬ Contested [first, custom] name := by
  refine ⟨by decide +kernel, ?_⟩
  rintro name ⟨path, other, apart, here, there⟩
  have paths : ∀ {p : String}, ⟨p, some name⟩ ∈ [first, custom] → p = custom.path := by
    intro p mem
    rcases List.mem_cons.mp mem with same | mem
    · cases same
    · exact congrArg Import.path (List.mem_singleton.mp mem)
  exact apart ((paths here).trans (paths there).symm)

example : assemble ⟨"example.com/gen/alpha", some "alpha"⟩
    (PendingImports.addAll {} [first, custom]) =
      .ok [⟨"example.com/gen/alpha", some "alpha"⟩, ⟨"example.com/a/foo", some "foo2"⟩,
        custom] := by
  decide +kernel

end Preempted

end Toolbridge.ImportBlock
