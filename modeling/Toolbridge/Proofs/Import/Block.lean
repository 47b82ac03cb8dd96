import Toolbridge.Import.Block
import Mathlib.Data.List.Basic

set_option autoImplicit false

namespace Toolbridge

namespace PendingImports

def Asks (entries : List (String × List String)) (path name : String) : Prop :=
  ∃ names, (path, names) ∈ entries ∧ name ∈ names

variable {entries : List (String × List String)} {path name : String}

theorem mem_foldr_insertName {given names : List String} (mem : name ∈ given ∨ name ∈ names) :
    name ∈ given.foldr Text.insertName names := by
  induction given with
  | nil => exact mem.resolve_left List.not_mem_nil
  | cons other rest ih =>
    rw [List.foldr_cons, Text.mem_insertName]
    rcases mem with mem | mem
    · exact (List.mem_cons.mp mem).imp id fun later => ih (.inl later)
    · exact .inr (ih (.inr mem))

theorem asks_insert_self (entries : List (String × List String)) (path name : String) :
    Asks (insert path (some name) entries) path name := by
  induction entries with
  | nil => exact ⟨[name], List.mem_cons_self, List.mem_cons_self⟩
  | cons e rest ih =>
    obtain ⟨other, names⟩ := e
    unfold insert
    split
    · exact ⟨[name], List.mem_cons_self, List.mem_cons_self⟩
    · split
      · rename_i same
        obtain rfl := same
        exact ⟨_, List.mem_cons_self, mem_foldr_insertName (.inl List.mem_cons_self)⟩
      · obtain ⟨found, mem, memName⟩ := ih
        exact ⟨found, List.mem_cons_of_mem _ mem, memName⟩

theorem Asks.insert {other : String} {given : Option String} (h : Asks entries path name) :
    Asks (insert other given entries) path name := by
  induction entries with
  | nil =>
    obtain ⟨names, mem, -⟩ := h
    cases mem
  | cons e rest ih =>
    obtain ⟨next, held⟩ := e
    obtain ⟨names, mem, memName⟩ := h
    unfold PendingImports.insert
    split
    · exact ⟨names, List.mem_cons_of_mem _ mem, memName⟩
    · split
      · rcases List.mem_cons.mp mem with same | later
        · obtain ⟨rfl, rfl⟩ := Prod.mk.injEq .. ▸ same
          exact ⟨_, List.mem_cons_self, mem_foldr_insertName (.inr memName)⟩
        · exact ⟨names, List.mem_cons_of_mem _ later, memName⟩
      · rcases List.mem_cons.mp mem with same | later
        · exact ⟨names, same ▸ List.mem_cons_self, memName⟩
        · obtain ⟨found, memFound, memName⟩ := ih ⟨names, later, memName⟩
          exact ⟨found, List.mem_cons_of_mem _ memFound, memName⟩

theorem Asks.addAll {p : PendingImports} {imports : List Import} (h : Asks p.entries path name) :
    Asks (p.addAll imports).entries path name := by
  induction imports generalizing p with
  | nil => exact h
  | cons i rest ih => exact ih (p := p.add i) h.insert

theorem asks_addAll {p : PendingImports} {imports : List Import}
    (mem : ⟨path, some name⟩ ∈ imports) : Asks (p.addAll imports).entries path name := by
  induction imports generalizing p with
  | nil => cases mem
  | cons i rest ih =>
    rcases List.mem_cons.mp mem with rfl | later
    · exact Asks.addAll (p := p.add ⟨path, some name⟩) (asks_insert_self _ _ _)
    · exact ih (p := p.add i) later

theorem addAll_append (p : PendingImports) (left right : List Import) :
    (p.addAll left).addAll right = p.addAll (left ++ right) := by
  simp only [addAll, List.foldl_append]

theorem Asks.besides {p : PendingImports} (first : String) (h : Asks p.entries path name) :
    Asks (p.besides first) path name := by
  obtain ⟨names, mem, memName⟩ := h
  refine ⟨names, List.mem_filter.mpr ⟨mem, ?_⟩, memName⟩
  cases names with
  | nil => cases memName
  | cons _ _ => simp

/-- An entry that comes from imports asked for, without names only if one of them has none. -/
structure ComesFrom (imports : List Import) (e : String × List String) : Prop where
  named : ∀ name ∈ e.2, ⟨e.1, some name⟩ ∈ imports
  nameless : e.2 = [] → ⟨e.1, none⟩ ∈ imports

theorem comesFrom_new {i : Import} {imports : List Import} (asked : i ∈ imports) :
    ComesFrom imports (i.path, i.name.toList) := by
  obtain ⟨path, name⟩ := i
  cases name with
  | none => exact ⟨nofun, fun _ => asked⟩
  | some name =>
    refine ⟨fun other mem => ?_, nofun⟩
    rwa [List.mem_singleton.mp mem]

theorem ComesFrom.more {i : Import} {imports : List Import} {names : List String}
    (asked : i ∈ imports) (h : ComesFrom imports (i.path, names)) :
    ComesFrom imports (i.path, i.name.toList.foldr Text.insertName names) := by
  obtain ⟨path, name⟩ := i
  cases name with
  | none => exact h
  | some name =>
    have there : name ∈ Text.insertName name names := Text.mem_insertName.mpr (.inl rfl)
    refine ⟨fun other mem => ?_, fun empty => ?_⟩
    · rcases Text.mem_insertName.mp mem with rfl | old
      · exact asked
      · exact h.named other old
    · change Text.insertName name names = [] at empty
      rw [empty] at there
      cases there

theorem comesFrom_insert {i : Import} {imports : List Import} (asked : i ∈ imports)
    (all : ∀ e ∈ entries, ComesFrom imports e) :
    ∀ e ∈ insert i.path i.name entries, ComesFrom imports e := by
  induction entries with
  | nil =>
    intro e mem
    rw [List.mem_singleton.mp mem]
    exact comesFrom_new asked
  | cons first rest ih =>
    obtain ⟨other, names⟩ := first
    have here := all (other, names) List.mem_cons_self
    have later := fun e mem => all e (List.mem_cons_of_mem _ mem)
    intro e mem
    unfold insert at mem
    split at mem
    · rcases List.mem_cons.mp mem with rfl | mem
      · exact comesFrom_new asked
      · exact all e mem
    · split at mem
      · rename_i same
        obtain rfl := same
        rcases List.mem_cons.mp mem with rfl | mem
        · exact here.more asked
        · exact later e mem
      · rcases List.mem_cons.mp mem with rfl | mem
        · exact here
        · exact ih later e mem

theorem comesFrom_addAll {p : PendingImports} {imports more : List Import}
    (asked : ∀ i ∈ more, i ∈ imports) (all : ∀ e ∈ p.entries, ComesFrom imports e) :
    ∀ e ∈ (p.addAll more).entries, ComesFrom imports e := by
  induction more generalizing p with
  | nil => exact all
  | cons i rest ih =>
    refine ih (p := p.add i) (fun j mem => asked j (List.mem_cons_of_mem _ mem)) ?_
    exact comesFrom_insert (asked i List.mem_cons_self) all

end PendingImports

namespace ImportBlock

variable {b b' : ImportBlock} {path name : String}

theorem entries_reserve (h : b.reserve path name = (b', none)) : b'.entries = b.entries := by
  unfold reserve at h
  split at h <;> obtain ⟨rfl, -⟩ := Prod.mk.inj h <;> rfl

theorem addNamed_grows (h : b.addNamed path name = (b', none)) :
    b.entries <+: b'.entries ∧ ⟨path, some name⟩ ∈ b'.entries := by
  unfold addNamed at h
  split at h
  · cases h
  · rename_i held reserved
    rw [← entries_reserve reserved]
    split at h
    · rename_i known
      cases h
      exact ⟨List.prefix_refl _, List.contains_iff_mem.mp known⟩
    · cases h
      exact ⟨List.prefix_append _ _, List.mem_append_right _ List.mem_cons_self⟩

theorem add_grows (b : ImportBlock) (path : String) : b.entries <+: (b.add path).2.entries := by
  unfold add
  split
  · exact List.prefix_refl _
  · exact List.prefix_append _ _

theorem addAllNamed_grows {names : List String} (h : b.addAllNamed path names = .ok b') :
    b.entries <+: b'.entries ∧ ∀ name ∈ names, ⟨path, some name⟩ ∈ b'.entries := by
  induction names generalizing b with
  | nil =>
    cases h
    exact ⟨List.prefix_refl _, nofun⟩
  | cons name rest ih =>
    unfold addAllNamed at h
    split at h
    · cases h
    · rename_i middle added
      obtain ⟨before, there⟩ := addNamed_grows added
      obtain ⟨after, others⟩ := ih h
      refine ⟨before.trans after, fun other mem => ?_⟩
      rcases List.mem_cons.mp mem with rfl | later
      · exact after.subset there
      · exact others other later

theorem addPending_grows {pending : List (String × List String)}
    (h : b.addPending pending = .ok b') :
    b.entries <+: b'.entries ∧
      ∀ path name, PendingImports.Asks pending path name → ⟨path, some name⟩ ∈ b'.entries := by
  induction pending generalizing b with
  | nil =>
    cases h
    refine ⟨List.prefix_refl _, fun path name asks => ?_⟩
    obtain ⟨names, mem, -⟩ := asks
    cases mem
  | cons e rest ih =>
    obtain ⟨path, names⟩ := e
    cases names with
    | nil =>
      obtain ⟨after, others⟩ := ih (b := (b.add path).2) h
      refine ⟨(add_grows b path).trans after, fun other name asks => ?_⟩
      obtain ⟨names, mem, memName⟩ := asks
      rcases List.mem_cons.mp mem with same | later
      · obtain ⟨-, rfl⟩ := Prod.mk.injEq .. ▸ same
        cases memName
      · exact others other name ⟨names, later, memName⟩
    | cons name names =>
      unfold addPending at h
      split at h
      · cases h
      · rename_i middle added
        obtain ⟨before, here⟩ := addAllNamed_grows added
        obtain ⟨after, others⟩ := ih h
        refine ⟨before.trans after, fun other given asks => ?_⟩
        obtain ⟨found, mem, memName⟩ := asks
        rcases List.mem_cons.mp mem with same | later
        · obtain ⟨rfl, rfl⟩ := Prod.mk.injEq .. ▸ same
          exact after.subset (here given memName)
        · exact others other given ⟨found, later, memName⟩

theorem entries_reserveAll {names : List String} (h : b.reserveAll path names = .ok b') :
    b'.entries = b.entries := by
  induction names generalizing b with
  | nil =>
    cases h
    rfl
  | cons name rest ih =>
    unfold reserveAll at h
    split at h
    · cases h
    · rename_i middle reserved
      rw [ih h, entries_reserve reserved]

theorem entries_reservePending {pending : List (String × List String)}
    (h : b.reservePending pending = .ok b') : b'.entries = b.entries := by
  induction pending generalizing b with
  | nil =>
    cases h
    rfl
  | cons e rest ih =>
    obtain ⟨path, names⟩ := e
    unfold reservePending at h
    split at h
    · cases h
    · rename_i middle reserved
      rw [ih h, entries_reserveAll reserved]

theorem assemble_eq_ok {first : Import} {pending : PendingImports} {imports : List Import}
    (h : assemble first pending = .ok imports) :
    ∃ led reserved full, start first = .ok led ∧
      led.reservePending (pending.besides first.path) = .ok reserved ∧
      reserved.addPending (pending.besides first.path) = .ok full ∧ full.entries = imports := by
  unfold assemble at h
  simp only [bind, Except.bind] at h
  split at h
  · cases h
  · rename_i led started
    split at h
    · cases h
    · rename_i reserved held
      split at h
      · cases h
      · rename_i full added
        exact ⟨led, reserved, full, started, held, added, Except.ok.inj h⟩

theorem start_named (path name : String) :
    ∃ led, start ⟨path, some name⟩ = .ok led ∧ led.entries = [⟨path, some name⟩] :=
  ⟨_, rfl, rfl⟩

theorem mem_addNamed {i : Import} (h : b.addNamed path name = (b', none)) (mem : i ∈ b'.entries) :
    i ∈ b.entries ∨ i = ⟨path, some name⟩ := by
  unfold addNamed at h
  split at h
  · cases h
  · rename_i held reserved
    rw [← entries_reserve reserved]
    split at h
    · cases h
      exact .inl mem
    · cases h
      exact (List.mem_append.mp mem).imp id List.mem_singleton.mp

theorem mem_add {i : Import} (mem : i ∈ (b.add path).2.entries) :
    i ∈ b.entries ∨ i.path = path := by
  unfold add at mem
  split at mem
  · exact .inl mem
  · rcases List.mem_append.mp mem with old | new
    · exact .inl old
    · rw [List.mem_singleton.mp new]
      exact .inr rfl

theorem mem_addAllNamed {names : List String} {i : Import}
    (h : b.addAllNamed path names = .ok b') (mem : i ∈ b'.entries) :
    i ∈ b.entries ∨ ∃ name ∈ names, i = ⟨path, some name⟩ := by
  induction names generalizing b with
  | nil =>
    cases h
    exact .inl mem
  | cons name rest ih =>
    unfold addAllNamed at h
    split at h
    · cases h
    · rename_i middle added
      rcases ih h with before | ⟨other, later, same⟩
      · rcases mem_addNamed added before with old | new
        · exact .inl old
        · exact .inr ⟨name, List.mem_cons_self, new⟩
      · exact .inr ⟨other, List.mem_cons_of_mem _ later, same⟩

/-- The entry lets the import in, under one of its names or, if it has none, under any. -/
def Admits (e : String × List String) (i : Import) : Prop :=
  i.path = e.1 ∧ (e.2 = [] ∨ ∃ name ∈ e.2, i.name = some name)

theorem mem_addPending {pending : List (String × List String)} {i : Import}
    (h : b.addPending pending = .ok b') (mem : i ∈ b'.entries) :
    i ∈ b.entries ∨ ∃ e ∈ pending, Admits e i := by
  induction pending generalizing b with
  | nil =>
    cases h
    exact .inl mem
  | cons e rest ih =>
    obtain ⟨path, names⟩ := e
    cases names with
    | nil =>
      rcases ih (b := (b.add path).2) h with before | ⟨e, later, admits⟩
      · rcases mem_add before with old | new
        · exact .inl old
        · exact .inr ⟨(path, []), List.mem_cons_self, new, .inl rfl⟩
      · exact .inr ⟨e, List.mem_cons_of_mem _ later, admits⟩
    | cons name names =>
      unfold addPending at h
      split at h
      · cases h
      · rename_i middle added
        rcases ih h with before | ⟨e, later, admits⟩
        · rcases mem_addAllNamed added before with old | ⟨given, memName, rfl⟩
          · exact .inl old
          · refine .inr ⟨(path, name :: names), List.mem_cons_self, rfl, ?_⟩
            exact .inr ⟨given, memName, rfl⟩
        · exact .inr ⟨e, List.mem_cons_of_mem _ later, admits⟩

theorem assemble_holds {pending : PendingImports} {imports : List Import}
    (h : assemble ⟨path, some name⟩ pending = .ok imports) :
    imports.head? = some ⟨path, some name⟩ ∧
      ∀ other given, PendingImports.Asks pending.entries other given →
        ⟨other, some given⟩ ∈ imports := by
  obtain ⟨led, reserved, full, started, held, added, rfl⟩ := assemble_eq_ok h
  obtain ⟨led', started', single⟩ := start_named path name
  rw [started] at started'
  obtain rfl := Except.ok.inj started'
  obtain ⟨grows, there⟩ := addPending_grows added
  rw [entries_reservePending held, single] at grows
  refine ⟨?_, fun other given asks => there other given (asks.besides path)⟩
  obtain ⟨rest, whole⟩ := grows
  rw [← whole]
  rfl

theorem assemble_only {asked imports : List Import} {i : Import}
    (h : assemble ⟨path, some name⟩ (PendingImports.addAll {} asked) = .ok imports)
    (mem : i ∈ imports) : i = ⟨path, some name⟩ ∨ i ∈ asked ∨ ⟨i.path, none⟩ ∈ asked := by
  obtain ⟨led, reserved, full, started, held, added, rfl⟩ := assemble_eq_ok h
  obtain ⟨led', started', single⟩ := start_named path name
  rw [started] at started'
  obtain rfl := Except.ok.inj started'
  rcases mem_addPending added mem with old | ⟨e, memE, same, named⟩
  · rw [entries_reservePending held, single] at old
    exact .inl (List.mem_singleton.mp old)
  · have origin : PendingImports.ComesFrom asked e :=
      PendingImports.comesFrom_addAll (p := {}) (fun _ => id) nofun e (List.mem_filter.mp memE).1
    rcases named with empty | ⟨given, memName, named⟩
    · exact .inr (.inr (same ▸ origin.nameless empty))
    · have asks := origin.named given memName
      rw [← same, ← named] at asks
      exact .inr (.inl asks)

end ImportBlock
end Toolbridge
