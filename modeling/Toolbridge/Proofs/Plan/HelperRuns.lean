import Toolbridge.Proofs.Plan.HelperSet

set_option autoImplicit false

namespace Toolbridge.HelperSet

/-- What can be done to a set. -/
inductive Operation where
  | insert (h : Helper)
  | extend (helpers : List Helper)

def after (s : HelperSet) : Operation → HelperSet
  | .insert h => (s.insert h).1
  | .extend helpers => (s.extend helpers).1

def run (ops : List Operation) : HelperSet := ops.foldl after {}

/-- The set after helpers were inserted one by one, some of them perhaps in vain. -/
def insertAll (s : HelperSet) (helpers : List Helper) : HelperSet :=
  helpers.foldl (fun s h => (s.insert h).1) s

def Refuses (s : HelperSet) (h : Helper) : Prop := ∃ e, (s.insert h).2 = .error e

/-- Inserted one by one, some helper is refused. -/
def Conflicts (s : HelperSet) (helpers : List Helper) : Prop :=
  ∃ earlier h later, helpers = earlier ++ h :: later ∧ (s.insertAll earlier).Refuses h

/-- The helpers that an extension gets to, up to the first that is refused. -/
def reached (s : HelperSet) : List Helper → List Helper
  | [] => []
  | h :: rest =>
    match s.insert h with
    | (s', .ok _) => h :: s'.reached rest
    | (_, .error _) => [h]

def offered (s : HelperSet) : List Operation → List Helper
  | [] => []
  | .insert h :: rest => h :: (s.after (.insert h)).offered rest
  | .extend helpers :: rest =>
    s.reached helpers ++ (s.after (.extend helpers)).offered rest

def firsts : List Helper → List Helper
  | [] => []
  | h :: rest => h :: (firsts rest).filter (·.name ≠ h.name)

/-- What is known of a set between two operations. -/
structure KeepsSignatures (s : HelperSet) : Prop extends InStep s where
  added : ∀ h, (s.insert h).2 = .ok true ↔ h.name ∉ s.names
  held : ∀ h, (s.insert h).2 = .ok false ↔ s.Holds h
  refused : ∀ h e, (s.insert h).2 = .error e ↔ ∃ g ∈ s.helpers, g.name = h.name ∧
    (g.paramType ≠ h.paramType ∨ g.resultType ≠ h.resultType) ∧
      e = ⟨h.name, g.signature.text, h.signature.text⟩
  grown : ∀ h, (s.insert h).2 = .ok true → (s.insert h).1 = s.enter h
  unchanged : ∀ h, (s.insert h).2 ≠ .ok true → (s.insert h).1 = s
  extended : ∀ helpers, ¬ s.Conflicts helpers → s.extend helpers = (s.insertAll helpers, none)
  stopped : ∀ helpers, s.Conflicts helpers → ∃ earlier h later e,
    helpers = earlier ++ h :: later ∧ ¬ s.Conflicts earlier ∧
      ((s.insertAll earlier).insert h).2 = .error e ∧
        s.extend helpers = (s.insertAll earlier, some e)
  size : s.size = s.names.length
  isEmpty : s.isEmpty = true ↔ s.helpers = []
  anyOrder : ∀ helpers others, helpers.Perm others → (s.Conflicts helpers ↔ s.Conflicts others)

variable {s s' : HelperSet} {h : Helper} {helpers : List Helper}

theorem Holds.agrees (held : s.Holds h) (inStep : s.InStep) {g : Helper} (mem : g ∈ s.helpers)
    (name : g.name = h.name) : g.signature = h.signature := by
  obtain ⟨g', mem', same⟩ := held
  have one := List.inj_on_of_nodup_map inStep.distinct mem mem' (name.trans same.name.symm)
  rw [one]
  exact (Helper.sameHead_iff.mp same).2

theorem insert_added (inStep : s.InStep) : (s.insert h).2 = .ok true ↔ h.name ∉ s.names := by
  rcases insert_cases inStep h with ⟨fresh, done⟩ | ⟨held, done⟩ | ⟨g, mem, name, -, done⟩ <;>
    rw [done]
  · exact iff_of_true rfl fresh
  · exact iff_of_false nofun (not_not_intro held.name_mem)
  · exact iff_of_false nofun (not_not_intro (List.mem_map.mpr ⟨g, mem, name⟩))

theorem insert_held (inStep : s.InStep) : (s.insert h).2 = .ok false ↔ s.Holds h := by
  rcases insert_cases inStep h with
    ⟨fresh, done⟩ | ⟨held, done⟩ | ⟨g, mem, name, different, done⟩ <;> rw [done]
  · exact iff_of_false nofun fun held => fresh held.name_mem
  · exact iff_of_true rfl held
  · exact iff_of_false nofun fun held => different (held.agrees inStep mem name)

theorem insert_refused (inStep : s.InStep) {e : HelperConflict} :
    (s.insert h).2 = .error e ↔ ∃ g ∈ s.helpers, g.name = h.name ∧ g.signature ≠ h.signature ∧
      e = ⟨h.name, g.signature.text, h.signature.text⟩ := by
  rcases insert_cases inStep h with
    ⟨fresh, done⟩ | ⟨held, done⟩ | ⟨g, mem, name, different, done⟩ <;> rw [done]
  · refine iff_of_false nofun ?_
    rintro ⟨g, mem, name, -⟩
    exact fresh (List.mem_map.mpr ⟨g, mem, name⟩)
  · refine iff_of_false nofun ?_
    rintro ⟨g, mem, name, different, -⟩
    exact different (held.agrees inStep mem name)
  · constructor
    · intro error
      exact ⟨g, mem, name, different, (Except.error.inj error).symm⟩
    · rintro ⟨g', mem', name', -, rfl⟩
      rw [List.inj_on_of_nodup_map inStep.distinct mem mem' (name.trans name'.symm)]

theorem insert_grown (new : (s.insert h).2 = .ok true) : (s.insert h).1 = s.enter h := by
  unfold insert at new ⊢
  cases found : s.signature? h.name with
  | none => rfl
  | some held =>
    rw [found] at new
    dsimp only at new
    split at new <;> cases new

theorem insert_unchanged (old : (s.insert h).2 ≠ .ok true) : (s.insert h).1 = s := by
  unfold insert at old ⊢
  cases found : s.signature? h.name with
  | none =>
    rw [found] at old
    exact absurd rfl old
  | some held =>
    dsimp only
    split <;> rfl

theorem insert_fst (inStep : s.InStep) (h : Helper) :
    (s.insert h).1 = if h.name ∈ s.names then s else s.enter h := by
  split
  · rename_i known
    exact insert_unchanged fun new => (insert_added inStep).mp new known
  · rename_i fresh
    exact insert_grown ((insert_added inStep).mpr fresh)

theorem insertAll_append (earlier later : List Helper) :
    s.insertAll (earlier ++ later) = (s.insertAll earlier).insertAll later :=
  List.foldl_append

/-- What is added is the first helper of each name that was not there. -/
theorem helpers_insertAll (inStep : s.InStep) (helpers : List Helper) :
    (s.insertAll helpers).helpers =
      s.helpers ++ (firsts helpers).filter (fun h => h.name ∉ s.names) := by
  induction helpers generalizing s with
  | nil => exact (List.append_nil _).symm
  | cons h rest ih =>
    change ((s.insert h).1.insertAll rest).helpers = _
    rw [ih (inStep.insert h), insert_fst inStep, firsts]
    by_cases known : h.name ∈ s.names
    · rw [if_pos known, List.filter_cons_of_neg (by simpa using known), List.filter_filter]
      -- a name that is not there is not the name of `h`, so nothing more is left out
      refine congrArg (s.helpers ++ ·) (List.filter_congr fun g _ => ?_)
      have apart : g.name ∉ s.names → g.name ≠ h.name := fun fresh same => fresh (same ▸ known)
      simpa using apart
    · rw [if_neg known, List.filter_cons_of_pos (by simpa using known), List.filter_filter,
        names_enter]
      change (s.helpers ++ [h]) ++ _ = _
      rw [List.append_assoc, List.singleton_append]
      refine congrArg (s.helpers ++ h :: ·) (List.filter_congr fun g _ => ?_)
      simp [not_or, Bool.and_comm]

theorem conflicts_nil : ¬ s.Conflicts [] := by
  rintro ⟨earlier, h, later, parts, -⟩
  simp at parts

theorem conflicts_cons {rest : List Helper} :
    s.Conflicts (h :: rest) ↔ s.Refuses h ∨ (s.insert h).1.Conflicts rest := by
  constructor
  · rintro ⟨earlier, g, later, parts, refused⟩
    cases earlier with
    | nil =>
      obtain ⟨rfl, -⟩ := List.cons.inj parts
      exact .inl refused
    | cons first earlier =>
      obtain ⟨rfl, rfl⟩ := List.cons.inj parts
      exact .inr ⟨earlier, g, later, rfl, refused⟩
  · rintro (refused | ⟨earlier, g, later, rfl, refused⟩)
    · exact ⟨[], h, rest, rfl, refused⟩
    · exact ⟨h :: earlier, g, later, rfl, refused⟩

/-- An extension inserts one by one and stops at the first helper that is refused. -/
theorem extend_cases (s : HelperSet) (helpers : List Helper) :
    (¬ s.Conflicts helpers ∧ s.extend helpers = (s.insertAll helpers, none)) ∨
      ∃ earlier h later e, helpers = earlier ++ h :: later ∧ ¬ s.Conflicts earlier ∧
        ((s.insertAll earlier).insert h).2 = .error e ∧
          s.extend helpers = (s.insertAll earlier, some e) := by
  induction helpers generalizing s with
  | nil => exact .inl ⟨conflicts_nil, rfl⟩
  | cons h rest ih =>
    cases answer : (s.insert h).2 with
    | error e =>
      have done : s.insert h = (s, .error e) :=
        Prod.ext (insert_unchanged (answer ▸ nofun)) answer
      exact .inr ⟨[], h, rest, e, rfl, conflicts_nil, answer, extend_cons_of_error done⟩
    | ok new =>
      have done : s.insert h = ((s.insert h).1, .ok new) := Prod.ext rfl answer
      have accepted : ¬ s.Refuses h := by
        rintro ⟨e, refused⟩
        rw [answer] at refused
        cases refused
      rw [conflicts_cons, extend_cons_of_ok done]
      rcases ih (s.insert h).1 with ⟨free, whole⟩ | ⟨earlier, g, later, e, rfl, free, refused, part⟩
      · exact .inl ⟨not_or.mpr ⟨accepted, free⟩, whole⟩
      · refine .inr ⟨h :: earlier, g, later, e, rfl, ?_, refused, part⟩
        exact conflicts_cons.not.mpr (not_or.mpr ⟨accepted, free⟩)

theorem conflicts_iff_extend : s.Conflicts helpers ↔ (s.extend helpers).2 ≠ none := by
  rcases s.extend_cases helpers with ⟨free, whole⟩ | ⟨earlier, h, later, e, rfl, -, refused, part⟩
  · rw [whole]
    exact iff_of_false free (fun conflict => conflict rfl)
  · rw [part]
    exact iff_of_true ⟨earlier, h, later, rfl, e, refused⟩ nofun

/-- Helpers conflict just if two of them disagree, those held counted in. -/
theorem conflicts_iff (inStep : s.InStep) :
    s.Conflicts helpers ↔ ¬ Agreeing (s.helpers ++ helpers) := by
  rw [conflicts_iff_extend, ne_eq, extend_none_iff inStep]

theorem InStep.keepsSignatures (inStep : s.InStep) : s.KeepsSignatures where
  toInStep := inStep
  added := fun _ => insert_added inStep
  held := fun _ => insert_held inStep
  refused := by
    intro h e
    simp only [insert_refused inStep, ne_eq, Helper.signature_eq_iff, not_and_or]
  grown := fun _ => insert_grown
  unchanged := fun _ => insert_unchanged
  extended := by
    intro helpers free
    rcases s.extend_cases helpers with ⟨-, whole⟩ | ⟨earlier, h, later, e, rfl, -, refused, -⟩
    · exact whole
    · exact absurd ⟨earlier, h, later, rfl, e, refused⟩ free
  stopped := by
    intro helpers conflict
    exact (s.extend_cases helpers).resolve_left fun whole => whole.1 conflict
  size := (List.length_map _).symm
  isEmpty := List.isEmpty_iff
  anyOrder := by
    intro helpers others perm
    have same : ∀ g, g ∈ s.helpers ++ helpers ↔ g ∈ s.helpers ++ others := fun g => by
      rw [List.mem_append, List.mem_append, perm.mem_iff]
    rw [conflicts_iff inStep, conflicts_iff inStep]
    unfold Agreeing
    simp only [same]

theorem InStep.after (inStep : s.InStep) : ∀ op, (s.after op).InStep
  | .insert h => inStep.insert h
  | .extend helpers => inStep.extend helpers

theorem InStep.foldl_after (inStep : s.InStep) (ops : List Operation) :
    (ops.foldl HelperSet.after s).InStep := by
  induction ops generalizing s with
  | nil => exact inStep
  | cons op rest ih => exact ih (inStep.after op)

theorem after_extend (s : HelperSet) (helpers : List Helper) :
    s.after (.extend helpers) = s.insertAll (s.reached helpers) := by
  induction helpers generalizing s with
  | nil => rfl
  | cons h rest ih =>
    change (s.extend (h :: rest)).1 = _
    unfold reached
    cases done : s.insert h with
    | mk s' answer =>
      have first : ∀ more, s.insertAll (h :: more) = s'.insertAll more := by
        intro more
        change (s.insert h).1.insertAll more = _
        rw [done]
      cases answer with
      | error e =>
        rw [extend_cons_of_error done]
        exact (first []).symm
      | ok new =>
        rw [extend_cons_of_ok done]
        exact (ih s').trans (first _).symm

theorem foldl_after (ops : List Operation) (s : HelperSet) :
    ops.foldl after s = s.insertAll (s.offered ops) := by
  induction ops generalizing s with
  | nil => rfl
  | cons op rest ih =>
    rw [List.foldl_cons, ih]
    cases op with
    | insert h => rfl
    | extend helpers =>
      rw [offered, insertAll_append, ← after_extend]

/-- Over a whole run the table and the list stay in step, each name stands for one signature, and
what is held are the first helpers of their names among those that were offered. -/
theorem run_keeps_signatures (ops : List Operation) :
    (run ops).KeepsSignatures ∧ (run ops).helpers = firsts (offered {} ops) := by
  refine ⟨(inStep_empty.foldl_after ops).keepsSignatures, ?_⟩
  have filled : run ops = insertAll {} (offered {} ops) := foldl_after ops {}
  rw [filled, helpers_insertAll inStep_empty]
  exact List.filter_eq_self.mpr fun _ _ => rfl

end Toolbridge.HelperSet
