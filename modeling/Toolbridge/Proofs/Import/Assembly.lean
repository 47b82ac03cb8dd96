import Toolbridge.Proofs.Import.Holders
import Toolbridge.Proofs.Import.Pending

set_option autoImplicit false

namespace Toolbridge

/-- The order by path and name. -/
def Import.Before (i j : Import) : Prop :=
  i.path < j.path ∨ i.path = j.path ∧ ∃ m, i.name = some m ∧ ∃ n, j.name = some n ∧ m < n

/-- The name under which an import leads a block. -/
def Import.leadName (first : Import) : String := first.name.getD (baseName first.path)

namespace ImportBlock

variable {b b' : ImportBlock} {path name : String} {pending : List (String × List String)}

theorem reserve_holder?_iff (ok : b.reserve path name = (b', none)) {x p : String} :
    b'.holder? x = some p ↔ b.holder? x = some p ∨ p = path ∧ x = name := by
  constructor
  · intro held
    rw [holder?_reserve ok] at held
    by_cases here : x = name
    · rw [if_pos here] at held
      exact .inr ⟨(Option.some.inj held).symm, here⟩
    · rw [if_neg here] at held
      exact .inl held
  · rintro (held | ⟨rfl, rfl⟩)
    · exact keeps_reserve ok x p held
    · rw [holder?_reserve ok, if_pos rfl]

theorem reserveAll_holder?_iff {names : List String} (ok : b.reserveAll path names = .ok b')
    {x p : String} : b'.holder? x = some p ↔ b.holder? x = some p ∨ p = path ∧ x ∈ names := by
  induction names generalizing b with
  | nil =>
    cases ok
    simp
  | cons name rest ih =>
    unfold reserveAll at ok
    split at ok
    · cases ok
    · rename_i middle reserved
      rw [ih ok, reserve_holder?_iff reserved, List.mem_cons, or_assoc, ← and_or_left]

theorem reservePending_holder?_iff (ok : b.reservePending pending = .ok b') {x p : String} :
    b'.holder? x = some p ↔ b.holder? x = some p ∨ PendingImports.Asks pending p x := by
  induction pending generalizing b with
  | nil =>
    cases ok
    simp [PendingImports.Asks]
  | cons e rest ih =>
    obtain ⟨path, names⟩ := e
    unfold reservePending at ok
    split at ok
    · cases ok
    · rename_i middle reserved
      rw [ih ok, reserveAll_holder?_iff reserved, or_assoc]
      unfold PendingImports.Asks
      simp only [List.mem_cons, Prod.mk.injEq, or_and_right, exists_or, and_assoc,
        exists_and_left, exists_eq_left]

theorem InStep.reservePending (h : b.InStep) (ok : b.reservePending pending = .ok b') :
    b'.InStep :=
  h.of_grown (entries_reservePending ok) fun _ _ held =>
    (reservePending_holder?_iff ok).mpr (.inl held)

/-- The entries for one path: under each of its names or, if it has none, under a derived one. -/
def serve (b : ImportBlock) : String × List String → Except NameCollision ImportBlock
  | (path, []) => .ok (b.add path).2
  | (path, name :: names) => b.addAllNamed path (name :: names)

theorem addAllNamed_cons {names : List String}
    (ok : b.addAllNamed path (name :: names) = .ok b') :
    ∃ middle, b.addNamed path name = (middle, none) ∧ middle.addAllNamed path names = .ok b' := by
  unfold addAllNamed at ok
  split at ok
  · cases ok
  · rename_i middle added
    exact ⟨middle, added, ok⟩

theorem addPending_cons {e : String × List String} :
    b.addPending (e :: pending) = .ok b' ↔
      ∃ middle, b.serve e = .ok middle ∧ middle.addPending pending = .ok b' := by
  obtain ⟨path, names⟩ := e
  cases names with
  | nil => exact ⟨fun ok => ⟨_, rfl, ok⟩, fun ⟨_, served, ok⟩ => by cases served; exact ok⟩
  | cons name names =>
    rw [addPending]
    cases added : b.addAllNamed path (name :: names) with
    | error e => simp [serve, added]
    | ok middle => simp [serve, added]

theorem addPending_append {rest : List (String × List String)}
    (ok : b.addPending (pending ++ rest) = .ok b') :
    ∃ middle, b.addPending pending = .ok middle ∧ middle.addPending rest = .ok b' := by
  induction pending generalizing b with
  | nil => exact ⟨b, rfl, ok⟩
  | cons e more ih =>
    obtain ⟨next, served, ok⟩ := addPending_cons.mp ok
    obtain ⟨middle, before, after⟩ := ih ok
    exact ⟨middle, addPending_cons.mpr ⟨next, served, before⟩, after⟩

/-- Names stay with their paths, and the entries in step with the holders. -/
structure Onward (b b' : ImportBlock) : Prop where
  inStep : b.InStep → b'.InStep
  keeps : ∀ x p, b.holder? x = some p → b'.holder? x = some p

theorem Onward.trans {b'' : ImportBlock} (h : Onward b b') (h' : Onward b' b'') : Onward b b'' :=
  ⟨fun step => h'.inStep (h.inStep step), fun x p held => h'.keeps x p (h.keeps x p held)⟩

theorem addAllNamed_onward {names : List String} (ok : b.addAllNamed path names = .ok b') :
    Onward b b' := by
  induction names generalizing b with
  | nil =>
    cases ok
    exact ⟨id, fun _ _ => id⟩
  | cons name rest ih =>
    obtain ⟨middle, added, ok⟩ := addAllNamed_cons ok
    exact Onward.trans ⟨fun step => step.addNamed added, keeps_addNamed added⟩ (ih ok)

theorem serve_onward {e : String × List String} (ok : b.serve e = .ok b') : Onward b b' := by
  obtain ⟨path, names⟩ := e
  cases names with
  | nil =>
    cases ok
    exact ⟨fun step => step.add path, b.keeps_add path⟩
  | cons name names => exact addAllNamed_onward ok

theorem addPending_onward (ok : b.addPending pending = .ok b') : Onward b b' := by
  induction pending generalizing b with
  | nil =>
    cases ok
    exact ⟨id, fun _ _ => id⟩
  | cons e rest ih =>
    obtain ⟨middle, served, ok⟩ := addPending_cons.mp ok
    exact (serve_onward served).trans (ih ok)

/-- Appended entries in order, each for one of the paths. -/
structure Follows (paths : List String) (b b' : ImportBlock) (new : List Import) : Prop where
  entries : b'.entries = b.entries ++ new
  ordered : new.Pairwise Import.Before
  among : ∀ i ∈ new, i.path ∈ paths

theorem follows_nothing (paths : List String) (b : ImportBlock) : Follows paths b b [] :=
  ⟨(List.append_nil _).symm, .nil, nofun⟩

theorem Follows.trans {paths more : List String} {b'' : ImportBlock} {new later : List Import}
    (h : Follows paths b b' new) (h' : Follows more b' b'' later)
    (below : ∀ p ∈ paths, ∀ q ∈ more, p < q) : Follows (paths ++ more) b b'' (new ++ later) where
  entries := by rw [h'.entries, h.entries, List.append_assoc]
  ordered := by
    refine List.pairwise_append.mpr ⟨h.ordered, h'.ordered, fun i mem j mem' => .inl ?_⟩
    exact below i.path (h.among i mem) j.path (h'.among j mem')
  among := by
    intro i mem
    rcases List.mem_append.mp mem with early | late
    · exact List.mem_append_left _ (h.among i early)
    · exact List.mem_append_right _ (h'.among i late)

theorem addAllNamed_follows {names : List String} (sorted : names.Pairwise (· < ·))
    (ok : b.addAllNamed path names = .ok b') :
    ∃ new, Follows [path] b b' new ∧ ∀ i ∈ new, ∃ n ∈ names, i = ⟨path, some n⟩ := by
  induction names generalizing b with
  | nil =>
    cases ok
    exact ⟨[], follows_nothing _ _, nofun⟩
  | cons name rest ih =>
    obtain ⟨below, sorted⟩ := List.pairwise_cons.mp sorted
    obtain ⟨middle, added, ok⟩ := addAllNamed_cons ok
    obtain ⟨new, follows, named⟩ := ih sorted ok
    have later : ∀ i ∈ new, ∃ n ∈ name :: rest, i = ⟨path, some n⟩ := by
      intro i mem
      obtain ⟨n, memN, same⟩ := named i mem
      exact ⟨n, List.mem_cons_of_mem _ memN, same⟩
    obtain ⟨-, -, -, entries⟩ := addNamed_eq_ok added
    by_cases known : ⟨path, some name⟩ ∈ b.entries
    · rw [if_pos known] at entries
      exact ⟨new, ⟨entries ▸ follows.entries, follows.ordered, follows.among⟩, later⟩
    · rw [if_neg known] at entries
      refine ⟨⟨path, some name⟩ :: new, ⟨?_, ?_, ?_⟩, ?_⟩
      · rw [follows.entries, entries, List.append_assoc, List.singleton_append]
      · refine List.pairwise_cons.mpr ⟨fun i mem => ?_, follows.ordered⟩
        obtain ⟨n, memN, rfl⟩ := named i mem
        exact .inr ⟨rfl, name, rfl, n, rfl, below n memN⟩
      · exact List.forall_mem_cons.mpr ⟨List.mem_singleton_self _, follows.among⟩
      · exact List.forall_mem_cons.mpr ⟨⟨name, List.mem_cons_self, rfl⟩, later⟩

theorem add_follows (b : ImportBlock) (path : String) :
    ∃ new, Follows [path] b (b.add path).2 new := by
  unfold add
  split
  · exact ⟨[], follows_nothing _ b⟩
  · exact ⟨[_], rfl, List.pairwise_singleton _ _, List.forall_mem_singleton.mpr List.mem_cons_self⟩

theorem serve_follows {e : String × List String} (sorted : e.2.Pairwise (· < ·))
    (ok : b.serve e = .ok b') : ∃ new, Follows [e.1] b b' new := by
  obtain ⟨path, names⟩ := e
  cases names with
  | nil =>
    cases ok
    exact b.add_follows path
  | cons name names =>
    obtain ⟨new, follows, -⟩ := addAllNamed_follows sorted ok
    exact ⟨new, follows⟩

theorem addPending_follows (canonical : PendingImports.Canonical pending)
    (ok : b.addPending pending = .ok b') : ∃ new, Follows (pending.map (·.1)) b b' new := by
  induction pending generalizing b with
  | nil =>
    cases ok
    exact ⟨[], follows_nothing _ _⟩
  | cons e rest ih =>
    obtain ⟨middle, served, ok⟩ := addPending_cons.mp ok
    obtain ⟨new, here⟩ := serve_follows (canonical.names e List.mem_cons_self) served
    obtain ⟨later, there⟩ := ih canonical.tail ok
    exact ⟨new ++ later, here.trans there (List.forall_mem_singleton.mpr canonical.below)⟩

theorem holder?_of_addAllNamed {names : List String} (ok : b.addAllNamed path names = .ok b')
    {x p : String} (held : b'.holder? x = some p) :
    b.holder? x = some p ∨ p = path ∧ x ∈ names := by
  induction names generalizing b with
  | nil =>
    cases ok
    exact .inl held
  | cons name rest ih =>
    obtain ⟨middle, added, ok⟩ := addAllNamed_cons ok
    obtain ⟨kept, reserved, same, -⟩ := addNamed_eq_ok added
    rcases ih ok with before | ⟨rfl, later⟩
    · rw [same] at before
      rcases (reserve_holder?_iff reserved).mp before with old | ⟨rfl, rfl⟩
      · exact .inl old
      · exact .inr ⟨rfl, List.mem_cons_self⟩
    · exact .inr ⟨rfl, List.mem_cons_of_mem _ later⟩

theorem holder?_of_add {x p : String} (held : (b.add path).2.holder? x = some p) :
    b.holder? x = some p ∨ p = path ∧ ⟨path, some x⟩ ∈ (b.add path).2.entries := by
  unfold add at held ⊢
  split at held
  · exact .inl held
  · rw [holder?_cons] at held
    split at held
    · rename_i here
      obtain rfl := here
      exact .inr ⟨(Option.some.inj held).symm, List.mem_append_right _ List.mem_cons_self⟩
    · exact .inl held

/-- The path holds the name since it was served: the name was asked for, or there was none. -/
def Served (e : String × List String) (b' : ImportBlock) (x p : String) : Prop :=
  p = e.1 ∧ (x ∈ e.2 ∨ e.2 = [] ∧ ⟨p, some x⟩ ∈ b'.entries)

theorem holder?_of_serve {e : String × List String} (ok : b.serve e = .ok b') {x p : String}
    (held : b'.holder? x = some p) : b.holder? x = some p ∨ Served e b' x p := by
  obtain ⟨path, names⟩ := e
  cases names with
  | nil =>
    cases ok
    rcases holder?_of_add held with old | ⟨rfl, there⟩
    · exact .inl old
    · exact .inr ⟨rfl, .inr ⟨rfl, there⟩⟩
  | cons name names =>
    rcases holder?_of_addAllNamed ok held with old | ⟨rfl, mem⟩
    · exact .inl old
    · exact .inr ⟨rfl, .inl mem⟩

theorem holder?_of_addPending (ok : b.addPending pending = .ok b') {x p : String}
    (held : b'.holder? x = some p) :
    b.holder? x = some p ∨ ∃ e ∈ pending, Served e b' x p := by
  induction pending generalizing b with
  | nil =>
    cases ok
    exact .inl held
  | cons e rest ih =>
    obtain ⟨middle, served, ok⟩ := addPending_cons.mp ok
    rcases ih ok with before | ⟨f, mem, later⟩
    · rcases holder?_of_serve served before with old | ⟨rfl, asked | ⟨none, there⟩⟩
      · exact .inl old
      · exact .inr ⟨e, List.mem_cons_self, rfl, .inl asked⟩
      · have grows := (addPending_grows ok).1
        exact .inr ⟨e, List.mem_cons_self, rfl, .inr ⟨none, grows.subset there⟩⟩
    · exact .inr ⟨f, List.mem_cons_of_mem _ mem, later⟩

theorem held_single (path name x : String) :
    (ImportBlock.mk [⟨path, some name⟩] [(name, path)]).Held x ↔ x = name := by
  unfold Held
  simp only [holder?_cons]
  by_cases here : x = name
  · simp [here]
  · simp [here, holder?]

theorem not_held_empty (x : String) : ¬ Held {} x := by
  rintro ⟨path, held⟩
  cases held

theorem start_leads (first : Import) :
    ∃ led, start first = .ok led ∧ led.InStep ∧
      led.entries = [⟨first.path, some first.leadName⟩] ∧
        ∀ x, led.Held x ↔ x = first.leadName := by
  obtain ⟨path, name⟩ := first
  cases name with
  | some name => exact ⟨_, rfl, inStep_empty.addNamed rfl, rfl, held_single path name⟩
  | none =>
    have step := inStep_empty.add path
    have empty : ∀ i ∈ ({} : ImportBlock).entries, i.path ≠ path := nofun
    obtain ⟨name, free, added⟩ := add_new empty
    have lead : Import.leadName ⟨path, none⟩ = name := by
      rw [Import.leadName, Option.getD_none]
      exact (firstFree_of_not (not_held_empty _)).unique free
    rw [added] at step
    rw [lead]
    refine ⟨_, ?_, step, rfl, held_single path name⟩
    unfold start
    rw [added]

/-- Asked for by no name, and not the path that leads. -/
def Nameless (first : Import) (asked : List Import) (path : String) : Prop :=
  path ≠ first.path ∧ ⟨path, none⟩ ∈ asked ∧ ∀ name, ⟨path, some name⟩ ∉ asked

/-- The first import has the name, it is asked for, or it was derived for a smaller path. -/
def TakenBefore (first : Import) (asked imports : List Import) (path x : String) : Prop :=
  x = first.leadName ∨ (∃ p, ⟨p, some x⟩ ∈ asked) ∨
    ∃ p < path, Nameless first asked p ∧ ⟨p, some x⟩ ∈ imports

structure Assembled (first : Import) (asked imports : List Import) : Prop where
  named : ∀ i ∈ imports, i.name ≠ none
  distinct : (imports.map (·.name)).Nodup
  leads : ∃ rest, imports = ⟨first.path, some first.leadName⟩ :: rest ∧
    rest.Pairwise Import.Before
  paths : ∀ path, path ∈ imports.map (·.path) ↔ path = first.path ∨ path ∈ asked.map (·.path)
  verbatim : ∀ i ∈ asked, i.name ≠ none → i ∈ imports
  derived : ∀ path, Nameless first asked path → ∃ name,
    imports.filter (·.path = path) = [⟨path, some name⟩] ∧
      FirstFree (TakenBefore first asked imports path) (baseName path) name

section Whole

variable {first : Import} {asked imports : List Import}

/-- What is pending for a block, besides a nameless request for its first path. -/
def pendingFor (first : Import) (asked : List Import) : List (String × List String) :=
  (PendingImports.addAll {} asked).besides first.path

theorem pendingFor_canonical : PendingImports.Canonical (pendingFor first asked) :=
  (PendingImports.asked_canonical asked).filter _

theorem asks_pendingFor {x : String} :
    PendingImports.Asks (pendingFor first asked) path x ↔ ⟨path, some x⟩ ∈ asked := by
  rw [← PendingImports.asks_asked]
  refine ⟨fun asks => ?_, fun asks => asks.besides first.path⟩
  obtain ⟨names, mem, there⟩ := asks
  exact ⟨names, (List.mem_filter.mp mem).1, there⟩

theorem mem_pendingFor_nameless :
    (path, []) ∈ pendingFor first asked ↔ Nameless first asked path := by
  unfold pendingFor PendingImports.besides Nameless
  rw [List.mem_filter, PendingImports.mem_asked_nameless, and_comm]
  simp

theorem mem_paths_pendingFor (mem : path ∈ (pendingFor first asked).map (·.1)) :
    path ∈ asked.map (·.path) := by
  obtain ⟨e, here, rfl⟩ := List.mem_map.mp mem
  have there := PendingImports.mem_paths_asked.mp
    (List.mem_map.mpr ⟨e, (List.mem_filter.mp here).1, rfl⟩)
  exact List.mem_map.mpr there

/-- How a block comes about: it is led, the names asked for are held, and then the rest follows. -/
structure Making (first : Import) (asked : List Import) (reserved full : ImportBlock) : Prop where
  inStep : reserved.InStep
  entries : reserved.entries = [⟨first.path, some first.leadName⟩]
  held : ∀ x, reserved.Held x ↔ x = first.leadName ∨ ∃ p, ⟨p, some x⟩ ∈ asked
  made : reserved.addPending (pendingFor first asked) = .ok full

theorem making_of_assemble (ok : assemble first (PendingImports.addAll {} asked) = .ok imports) :
    ∃ reserved full, Making first asked reserved full ∧ full.entries = imports := by
  obtain ⟨led, reserved, full, started, held, added, same⟩ := assemble_eq_ok ok
  obtain ⟨led', started', inStep, entries, leads⟩ := start_leads first
  rw [started] at started'
  obtain rfl := Except.ok.inj started'
  refine ⟨reserved, full, ⟨inStep.reservePending held, ?_, fun x => ?_, added⟩, same⟩
  · rw [entries_reservePending held, entries]
  · rw [← leads]
    unfold Held
    simp only [reservePending_holder?_iff held, exists_or]
    exact or_congr_right (exists_congr fun p => asks_pendingFor)

theorem Making.held_cases {reserved full middle : ImportBlock}
    {done rest : List (String × List String)} {x : String} (h : Making first asked reserved full)
    (split : pendingFor first asked = done ++ rest)
    (before : reserved.addPending done = .ok middle) (held : middle.Held x) :
    reserved.Held x ∨ ∃ p ∈ done.map (·.1), Nameless first asked p ∧
      ⟨p, some x⟩ ∈ middle.entries := by
  obtain ⟨p, held⟩ := held
  rcases holder?_of_addPending before held with old | ⟨⟨path, names⟩, mem, rfl, served⟩
  · exact .inl ⟨p, old⟩
  · have pending : (p, names) ∈ pendingFor first asked := by
      rw [split]
      exact List.mem_append_left _ mem
    rcases served with there | ⟨rfl, there⟩
    · exact .inl ((h.held x).mpr (.inr ⟨p, asks_pendingFor.mp ⟨names, pending, there⟩⟩))
    · have unnamed := mem_pendingFor_nameless.mp pending
      exact .inr ⟨p, List.mem_map.mpr ⟨_, mem, rfl⟩, unnamed, there⟩

/-- The block at the turn of a path for which no name was asked. -/
structure Turn (first : Import) (asked : List Import) (full : ImportBlock) (path : String)
    (middle : ImportBlock) (name : String) (later : List Import) : Prop where
  inStep : middle.InStep
  free : FirstFree middle.Held (baseName path) name
  entries : full.entries = middle.entries ++ ⟨path, some name⟩ :: later
  before : ∀ i ∈ middle.entries, i.path ≠ path
  after : ∀ i ∈ later, path < i.path
  held : ∀ x, middle.Held x ↔ (x = first.leadName ∨ ∃ p, ⟨p, some x⟩ ∈ asked) ∨
    ∃ p < path, Nameless first asked p ∧ ⟨p, some x⟩ ∈ middle.entries

theorem Making.turn {reserved full : ImportBlock} (h : Making first asked reserved full)
    (nameless : Nameless first asked path) : ∃ middle name later,
      Turn first asked full path middle name later := by
  have canonical : PendingImports.Canonical (pendingFor first asked) := pendingFor_canonical
  obtain ⟨done, rest, split⟩ := List.append_of_mem (mem_pendingFor_nameless.mpr nameless)
  have made := h.made
  rw [split] at made canonical
  obtain ⟨middle, before, made⟩ := addPending_append made
  obtain ⟨sorted, sortedRest, apart⟩ := List.pairwise_append.mp canonical.paths
  have canonicalDone : PendingImports.Canonical done :=
    ⟨sorted, fun e mem => canonical.names e (List.mem_append_left _ mem)⟩
  have canonicalRest : PendingImports.Canonical ((path, []) :: rest) :=
    ⟨sortedRest, fun e mem => canonical.names e (List.mem_append_right _ mem)⟩
  have early : ∀ p ∈ done.map (·.1), p < path := by
    intro p mem
    obtain ⟨e, here, rfl⟩ := List.mem_map.mp mem
    exact apart e here _ List.mem_cons_self
  have onward := addPending_onward before
  have inStep := onward.inStep h.inStep
  obtain ⟨new, follows⟩ := addPending_follows canonicalDone before
  have others : ∀ i ∈ middle.entries, i.path ≠ path := by
    intro i mem
    rw [follows.entries, h.entries] at mem
    rcases List.mem_cons.mp mem with rfl | mem
    · exact nameless.1.symm
    · exact (early i.path (follows.among i mem)).ne
  obtain ⟨name, free, added⟩ := add_new others
  obtain ⟨next, served, made⟩ := addPending_cons.mp made
  obtain rfl := Except.ok.inj served
  rw [added] at made
  obtain ⟨later, followsLater⟩ := addPending_follows canonicalRest.tail made
  refine ⟨middle, name, later, inStep, free, ?_, others, fun i mem => ?_, fun x => ?_⟩
  · rw [followsLater.entries, List.append_assoc, List.singleton_append]
  · exact canonicalRest.below i.path (followsLater.among i mem)
  · rw [← h.held]
    constructor
    · intro held
      rcases h.held_cases split before held with old | ⟨p, mem, unnamed, there⟩
      · exact .inl old
      · exact .inr ⟨p, early p mem, unnamed, there⟩
    · rintro (⟨p, held⟩ | ⟨p, -, -, there⟩)
      · exact ⟨p, onward.keeps x p held⟩
      · exact ⟨p, inStep.held there⟩

theorem Turn.once {full middle : ImportBlock} {later : List Import}
    (h : Turn first asked full path middle name later) :
    full.entries.filter (·.path = path) = [⟨path, some name⟩] := by
  have before : middle.entries.filter (·.path = path) = [] :=
    List.filter_eq_nil_iff.mpr fun i mem => by simpa using h.before i mem
  have after : later.filter (·.path = path) = [] :=
    List.filter_eq_nil_iff.mpr fun i mem => by simpa using (h.after i mem).ne'
  rw [h.entries, List.filter_append, before, List.filter_cons_of_pos (by simp), after,
    List.nil_append]

theorem Turn.earlier {full middle : ImportBlock} {later : List Import} {i : Import}
    (h : Turn first asked full path middle name later) (mem : i ∈ full.entries)
    (less : i.path < path) : i ∈ middle.entries := by
  rw [h.entries] at mem
  rcases List.mem_append.mp mem with early | late
  · exact early
  · rcases List.mem_cons.mp late with rfl | late
    · exact absurd less (lt_irrefl _)
    · exact absurd (less.trans (h.after i late)) (lt_irrefl _)

theorem Turn.firstFree {full middle : ImportBlock} {later : List Import}
    (h : Turn first asked full path middle name later) :
    FirstFree (TakenBefore first asked full.entries path) (baseName path) name := by
  refine h.free.congr fun x => ?_
  rw [h.held, or_assoc]
  unfold TakenBefore
  refine or_congr_right (or_congr_right (exists_congr fun p => and_congr_right fun less => ?_))
  refine and_congr_right fun _ => ⟨fun mem => ?_, fun mem => h.earlier mem less⟩
  rw [h.entries]
  exact List.mem_append_left _ mem

theorem Making.verbatim {reserved full : ImportBlock} (h : Making first asked reserved full)
    {i : Import} (mem : i ∈ asked) (named : i.name ≠ none) : i ∈ full.entries := by
  obtain ⟨path, given⟩ := i
  obtain ⟨name, rfl⟩ := Option.ne_none_iff_exists'.mp named
  exact (addPending_grows h.made).2 path name (asks_pendingFor.mpr mem)

theorem Making.leads {reserved full : ImportBlock} (h : Making first asked reserved full) :
    ∃ rest, full.entries = ⟨first.path, some first.leadName⟩ :: rest ∧
      rest.Pairwise Import.Before ∧ ∀ i ∈ rest, i.path ∈ asked.map (·.path) := by
  obtain ⟨rest, follows⟩ := addPending_follows pendingFor_canonical h.made
  refine ⟨rest, ?_, follows.ordered, fun i mem => mem_paths_pendingFor (follows.among i mem)⟩
  rw [follows.entries, h.entries, List.singleton_append]

theorem Making.mem_paths {reserved full : ImportBlock} (h : Making first asked reserved full) :
    path ∈ full.entries.map (·.path) ↔ path = first.path ∨ path ∈ asked.map (·.path) := by
  obtain ⟨rest, entries, -, among⟩ := h.leads
  constructor
  · intro mem
    rw [entries, List.map_cons] at mem
    rcases List.mem_cons.mp mem with lead | later
    · exact .inl lead
    · obtain ⟨i, here, rfl⟩ := List.mem_map.mp later
      exact .inr (among i here)
  · have lead : first.path ∈ full.entries.map (·.path) := by
      rw [entries]
      exact List.mem_cons_self
    rintro (rfl | mem)
    · exact lead
    · by_cases leading : path = first.path
      · exact leading ▸ lead
      · by_cases named : ∃ name, ⟨path, some name⟩ ∈ asked
        · obtain ⟨name, there⟩ := named
          exact List.mem_map.mpr ⟨_, h.verbatim there nofun, rfl⟩
        · -- then it was asked for without a name, and its turn comes
          have unnamed : ∀ name, ⟨path, some name⟩ ∉ asked := fun name there => named ⟨name, there⟩
          obtain ⟨⟨p, given⟩, there, rfl⟩ := List.mem_map.mp mem
          obtain rfl : given = none := by
            by_contra some
            obtain ⟨name, rfl⟩ := Option.ne_none_iff_exists'.mp some
            exact unnamed name there
          obtain ⟨middle, name, later, turn⟩ := h.turn ⟨leading, there, unnamed⟩
          refine List.mem_map.mpr ⟨⟨p, some name⟩, ?_, rfl⟩
          rw [turn.entries]
          exact List.mem_append_right _ List.mem_cons_self

theorem Making.assembled {reserved full : ImportBlock} (h : Making first asked reserved full) :
    Assembled first asked full.entries := by
  have inStep := (addPending_onward h.made).inStep h.inStep
  obtain ⟨rest, entries, ordered, -⟩ := h.leads
  refine ⟨fun i mem unnamed => ?_, inStep.distinct, ⟨rest, entries, ordered⟩, fun path => h.mem_paths,
    fun i mem named => h.verbatim mem named, fun path nameless => ?_⟩
  · obtain ⟨name, same, -⟩ := inStep.named i mem
    rw [unnamed] at same
    cases same
  · obtain ⟨middle, name, later, turn⟩ := h.turn nameless
    exact ⟨name, turn.once, turn.firstFree⟩

end Whole

/-- What an assembled block holds, and that it depends on the set of imports asked for only. -/
theorem assemble_block (first : Import) (asked : List Import) :
    (∀ imports, assemble first (PendingImports.addAll {} asked) = .ok imports →
      Assembled first asked imports) ∧
    ∀ others, (∀ i, i ∈ asked ↔ i ∈ others) →
      assemble first (PendingImports.addAll {} asked) =
        assemble first (PendingImports.addAll {} others) := by
  refine ⟨fun imports ok => ?_, fun others same => by rw [PendingImports.addAll_congr same]⟩
  obtain ⟨reserved, full, making, rfl⟩ := making_of_assemble ok
  exact making.assembled

/-! Paths that all want one name, and one whose base looks like a numbered form of it. -/
namespace Crowded

def first : Import := ⟨"example.com/gen/foo", none⟩

def asked : List Import :=
  [⟨"example.com/z/foo2", none⟩, ⟨"example.com/v2/foo", none⟩, ⟨"example.com/y", some "foo3"⟩,
    ⟨"example.com/v1/foo", none⟩, ⟨"example.com/gen/foo", some "gen"⟩, ⟨"example.com/y", none⟩]

def imports : List Import :=
  [⟨"example.com/gen/foo", some "foo"⟩, ⟨"example.com/gen/foo", some "gen"⟩,
    ⟨"example.com/v1/foo", some "foo2"⟩, ⟨"example.com/v2/foo", some "foo4"⟩,
    ⟨"example.com/y", some "foo3"⟩, ⟨"example.com/z/foo2", some "foo22"⟩]

theorem crowded_block :
    assemble first (PendingImports.addAll {} asked) = .ok imports ∧ Assembled first asked imports ∧
      assemble first (PendingImports.addAll {} (asked.reverse ++ asked)) = .ok imports := by
  obtain ⟨whole, order⟩ := assemble_block first asked
  have ok : assemble first (PendingImports.addAll {} asked) = .ok imports := by decide +kernel
  have same : ∀ i, i ∈ asked ↔ i ∈ asked.reverse ++ asked := fun i => by simp
  exact ⟨ok, whole imports ok, order (asked.reverse ++ asked) same ▸ ok⟩

end Crowded

end ImportBlock
end Toolbridge
