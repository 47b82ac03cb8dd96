import Toolbridge.Proofs.Import.Block
import Toolbridge.Proofs.Text.NameSet

set_option autoImplicit false

/-!
# Imports asked for, as a set

Imports that are asked for are kept in the order of their paths, each with the names that were asked
for in order. So what is kept depends on the set of imports that were asked for and on nothing else.
-/
namespace Toolbridge.PendingImports

/-- Paths and names both stand in strictly increasing order. -/
structure Canonical (entries : List (String × List String)) : Prop where
  paths : entries.Pairwise fun e f => e.1 < f.1
  names : ∀ e ∈ entries, e.2.Pairwise (· < ·)

variable {entries others : List (String × List String)} {path : String} {name : Option String}

theorem foldr_insertName_pairwise {names : List String} (given : List String)
    (h : names.Pairwise (· < ·)) : (given.foldr Text.insertName names).Pairwise (· < ·) := by
  induction given with
  | nil => exact h
  | cons other rest ih => exact Text.insertName_pairwise other ih

theorem toList_pairwise (name : Option String) : name.toList.Pairwise (· < ·) := by
  cases name with
  | none => exact .nil
  | some name => exact List.pairwise_singleton _ _

theorem mem_paths_insert {p : String} :
    p ∈ (insert path name entries).map (·.1) ↔ p = path ∨ p ∈ entries.map (·.1) := by
  induction entries with
  | nil => simp [insert]
  | cons e rest ih =>
    obtain ⟨other, names⟩ := e
    unfold insert
    split
    · simp
    · split
      · rename_i same
        simp [same]
      · rw [List.map_cons, List.mem_cons, ih, List.map_cons, List.mem_cons, or_left_comm]

theorem Canonical.tail {e : String × List String} (h : Canonical (e :: entries)) :
    Canonical entries :=
  ⟨(List.pairwise_cons.mp h.paths).2, fun f mem => h.names f (List.mem_cons_of_mem _ mem)⟩

theorem Canonical.cons {e : String × List String} (h : Canonical entries)
    (below : ∀ p ∈ entries.map (·.1), e.1 < p) (names : e.2.Pairwise (· < ·)) :
    Canonical (e :: entries) := by
  refine ⟨List.pairwise_cons.mpr ⟨fun f mem => below f.1 (List.mem_map.mpr ⟨f, mem, rfl⟩), h.paths⟩,
    fun f mem => ?_⟩
  rcases List.mem_cons.mp mem with rfl | later
  · exact names
  · exact h.names f later

theorem Canonical.below {e : String × List String} (h : Canonical (e :: entries)) :
    ∀ p ∈ entries.map (·.1), e.1 < p := by
  intro p mem
  obtain ⟨f, here, rfl⟩ := List.mem_map.mp mem
  exact (List.pairwise_cons.mp h.paths).1 f here

theorem Canonical.insert (h : Canonical entries) (path : String) (name : Option String) :
    Canonical (insert path name entries) := by
  induction entries with
  | nil => exact h.cons nofun (toList_pairwise name)
  | cons e rest ih =>
    obtain ⟨other, names⟩ := e
    have below : ∀ p ∈ rest.map (·.1), other < p := h.below
    unfold PendingImports.insert
    split
    · rename_i less
      refine h.cons (fun p mem => ?_) (toList_pairwise name)
      rcases List.mem_cons.mp mem with rfl | later
      · exact less
      · exact less.trans (below p later)
    · split
      · rename_i same
        refine h.tail.cons below (foldr_insertName_pairwise _ ?_)
        exact h.names (other, names) List.mem_cons_self
      · rename_i notLess different
        refine (ih h.tail).cons (fun p mem => ?_) (h.names (other, names) List.mem_cons_self)
        rcases mem_paths_insert.mp mem with rfl | later
        · exact lt_of_le_of_ne (le_of_not_gt notLess) (Ne.symm different)
        · exact below p later

theorem Canonical.filter (h : Canonical entries) (keep : String × List String → Bool) :
    Canonical (entries.filter keep) :=
  ⟨h.paths.filter keep, fun e mem => h.names e (List.mem_filter.mp mem).1⟩

theorem Canonical.distinct (h : Canonical entries) : (entries.map (·.1)).Nodup :=
  List.pairwise_map.mpr (h.paths.imp fun less => less.ne)

theorem Canonical.names_eq {names names' : List String} (h : Canonical entries)
    (mem : (path, names) ∈ entries) (mem' : (path, names') ∈ entries) : names = names' := by
  have same := List.inj_on_of_nodup_map h.distinct mem mem' rfl
  exact (Prod.mk.inj same).2

/-- Entries in canonical order are told apart by the paths and the names that are asked for. -/
theorem Canonical.subset (h : Canonical entries) (h' : Canonical others)
    (paths : ∀ p, p ∈ entries.map (·.1) ↔ p ∈ others.map (·.1))
    (asks : ∀ p n, Asks entries p n ↔ Asks others p n) : entries ⊆ others := by
  rintro ⟨path, names⟩ mem
  obtain ⟨⟨p, names'⟩, mem', rfl⟩ :=
    List.mem_map.mp ((paths path).mp (List.mem_map.mpr ⟨_, mem, rfl⟩))
  have sorted : names.Pairwise (· < ·) := h.names _ mem
  have sorted' : names'.Pairwise (· < ·) := h'.names _ mem'
  have same : names = names' := by
    refine sorted.eq_of_mem_iff sorted' fun n => ⟨fun here => ?_, fun here => ?_⟩
    · obtain ⟨found, memFound, there⟩ := (asks p n).mp ⟨names, mem, here⟩
      rwa [h'.names_eq mem' memFound]
    · obtain ⟨found, memFound, there⟩ := (asks p n).mpr ⟨names', mem', here⟩
      rwa [h.names_eq mem memFound]
  rwa [same]

theorem Canonical.ext (h : Canonical entries) (h' : Canonical others)
    (paths : ∀ p, p ∈ entries.map (·.1) ↔ p ∈ others.map (·.1))
    (asks : ∀ p n, Asks entries p n ↔ Asks others p n) : entries = others := by
  have irrefl : Std.Irrefl fun e f : String × List String => e.1 < f.1 :=
    ⟨fun e => lt_irrefl e.1⟩
  have antisymm : Std.Antisymm fun e f : String × List String => e.1 < f.1 :=
    ⟨fun e f less more => absurd (less.trans more) (lt_irrefl e.1)⟩
  refine h.paths.eq_of_mem_iff h'.paths fun e => ⟨fun mem => ?_, fun mem => ?_⟩
  · exact h.subset h' paths asks mem
  · exact h'.subset h (fun p => (paths p).symm) (fun p n => (asks p n).symm) mem

theorem addAll_canonical {p : PendingImports} (imports : List Import)
    (h : Canonical p.entries) : Canonical (p.addAll imports).entries := by
  induction imports generalizing p with
  | nil => exact h
  | cons i rest ih => exact ih (p := p.add i) (h.insert i.path i.name)

theorem mem_paths_addAll {p : PendingImports} {imports : List Import} {x : String} :
    x ∈ (p.addAll imports).entries.map (·.1) ↔
      (∃ i ∈ imports, i.path = x) ∨ x ∈ p.entries.map (·.1) := by
  induction imports generalizing p with
  | nil => simp [addAll]
  | cons i rest ih =>
    have step : x ∈ (p.add i).entries.map (·.1) ↔ x = i.path ∨ x ∈ p.entries.map (·.1) :=
      mem_paths_insert
    change x ∈ ((p.add i).addAll rest).entries.map (·.1) ↔ _
    rw [ih, step, List.exists_mem_cons_iff, or_left_comm, ← or_assoc, eq_comm (a := x)]

variable {asked : List Import}

theorem asked_canonical (asked : List Import) : Canonical (addAll {} asked).entries :=
  addAll_canonical asked ⟨.nil, nofun⟩

theorem mem_paths_asked {x : String} :
    x ∈ (addAll {} asked).entries.map (·.1) ↔ ∃ i ∈ asked, i.path = x := by
  rw [mem_paths_addAll]
  exact or_iff_left List.not_mem_nil

theorem asks_asked {name : String} :
    Asks (addAll {} asked).entries path name ↔ ⟨path, some name⟩ ∈ asked := by
  refine ⟨fun asks => ?_, asks_addAll⟩
  obtain ⟨names, mem, memName⟩ := asks
  exact (comesFrom_addAll (p := {}) (fun _ => id) nofun _ mem).named name memName

theorem mem_asked_nameless :
    (path, []) ∈ (addAll {} asked).entries ↔
      ⟨path, none⟩ ∈ asked ∧ ∀ name, ⟨path, some name⟩ ∉ asked := by
  constructor
  · intro mem
    have comes := comesFrom_addAll (p := {}) (fun _ => id) nofun _ mem
    refine ⟨comes.nameless rfl, fun name asks => ?_⟩
    obtain ⟨names, mem', there⟩ := asks_asked.mpr asks
    rw [(asked_canonical asked).names_eq mem' mem] at there
    cases there
  · rintro ⟨nameless, unnamed⟩
    obtain ⟨⟨p, names⟩, mem, rfl⟩ := List.mem_map.mp (mem_paths_asked.mpr ⟨_, nameless, rfl⟩)
    cases names with
    | nil => exact mem
    | cons name names => exact absurd (asks_asked.mp ⟨_, mem, List.mem_cons_self⟩) (unnamed name)

/-- Order and repetition do not count. -/
theorem addAll_congr {other : List Import} (same : ∀ i, i ∈ asked ↔ i ∈ other) :
    addAll {} asked = addAll {} other := by
  have entries : (addAll {} asked).entries = (addAll {} other).entries := by
    refine (asked_canonical asked).ext (asked_canonical other) (fun p => ?_) fun p n => ?_
    · simp only [mem_paths_asked, same]
    · rw [asks_asked, asks_asked, same]
  exact congrArg PendingImports.mk entries

end Toolbridge.PendingImports
