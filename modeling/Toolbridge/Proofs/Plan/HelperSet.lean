import Toolbridge.HelperSet
import Mathlib.Data.List.Nodup

set_option autoImplicit false

/-!
# What a set of helpers holds

The table of signatures and the list of helpers stay in step, so a set grows only by helpers of
names that it does not have. After an extension without conflict each helper that was asked for is
held under its name and signature, by itself or by an earlier one. Helpers of which any two with one
name have one signature never conflict.
-/
namespace Toolbridge

structure Helper.SameHead (h g : Helper) : Prop where
  name : h.name = g.name
  paramType : h.paramType = g.paramType
  resultType : h.resultType = g.resultType

theorem Helper.SameHead.refl (h : Helper) : h.SameHead h := ⟨rfl, rfl, rfl⟩

theorem Helper.SameHead.symm {h g : Helper} (same : h.SameHead g) : g.SameHead h :=
  ⟨same.name.symm, same.paramType.symm, same.resultType.symm⟩

theorem Helper.SameHead.trans {h g k : Helper} (same : h.SameHead g) (same' : g.SameHead k) :
    h.SameHead k :=
  ⟨same.name.trans same'.name, same.paramType.trans same'.paramType,
    same.resultType.trans same'.resultType⟩

theorem Helper.signature_eq_iff {h g : Helper} :
    h.signature = g.signature ↔ h.paramType = g.paramType ∧ h.resultType = g.resultType := by
  rw [signature, signature, Signature.mk.injEq]

theorem Helper.sameHead_iff {h g : Helper} :
    h.SameHead g ↔ h.name = g.name ∧ h.signature = g.signature := by
  rw [signature_eq_iff]
  exact ⟨fun same => ⟨same.1, same.2, same.3⟩, fun ⟨name, param, result⟩ => ⟨name, param, result⟩⟩

namespace HelperSet

def names (s : HelperSet) : List String := s.helpers.map (·.name)

def Holds (s : HelperSet) (h : Helper) : Prop := ∃ g ∈ s.helpers, g.SameHead h

/-- The table has the names of the list and no others, each once and with the signature of its one
helper. -/
structure InStep (s : HelperSet) : Prop where
  distinct : s.names.Nodup
  keys : (s.signatures.map (·.1)).Perm s.names
  table : ∀ name signature, s.signature? name = some signature ↔
    ∃ h ∈ s.helpers, h.name = name ∧ h.signature = signature

variable {s s' : HelperSet} {h g : Helper} {name : String} {helpers : List Helper}

theorem inStep_empty : InStep {} := ⟨List.nodup_nil, .nil, fun _ _ => iff_of_false nofun nofun⟩

theorem InStep.unknown (inStep : s.InStep) : s.signature? name = none ↔ name ∉ s.names := by
  rw [Option.eq_none_iff_forall_not_mem]
  simp only [Option.mem_def, inStep.table, names, List.mem_map]
  constructor
  · rintro unknown ⟨h, mem, rfl⟩
    exact unknown _ ⟨h, mem, rfl, rfl⟩
  · rintro fresh _ ⟨h, mem, rfl, -⟩
    exact fresh ⟨h, mem, rfl⟩

theorem Holds.name_mem (held : s.Holds h) : h.name ∈ s.names := by
  obtain ⟨g, mem, same⟩ := held
  exact List.mem_map.mpr ⟨g, mem, same.name⟩

theorem names_enter : (s.enter h).names = s.names ++ [h.name] := List.map_append

theorem signature?_enter :
    (s.enter h).signature? name =
      if name = h.name then some h.signature else s.signature? name := by
  unfold signature? enter
  rw [List.lookup_cons]
  by_cases same : name = h.name
  · rw [if_pos same, beq_iff_eq.mpr same]
  · rw [if_neg same, beq_eq_false_iff_ne.mpr same]

theorem InStep.enter (inStep : s.InStep) (fresh : h.name ∉ s.names) : (s.enter h).InStep where
  distinct := by
    rw [names_enter, List.nodup_append]
    refine ⟨inStep.distinct, List.nodup_singleton _, fun n left m right same => ?_⟩
    rw [List.mem_singleton.mp right] at same
    exact fresh (same ▸ left)
  keys := by
    rw [names_enter]
    exact (inStep.keys.cons h.name).trans (List.perm_append_singleton h.name s.names).symm
  table := by
    intro name signature
    -- the new name is told by its new entry, all others by the table as it was
    have parts : (∃ g ∈ (s.enter h).helpers, g.name = name ∧ g.signature = signature) ↔
        (∃ g ∈ s.helpers, g.name = name ∧ g.signature = signature) ∨
          h.name = name ∧ h.signature = signature := by
      simp [HelperSet.enter, or_and_right, exists_or]
    rw [signature?_enter, parts, ← inStep.table]
    by_cases same : name = h.name
    · have unknown : s.signature? h.name = none := inStep.unknown.mpr fresh
      simp [same, unknown]
    · simp [same, Ne.symm same]

theorem insert_cases (inStep : s.InStep) (h : Helper) :
    (h.name ∉ s.names ∧ s.insert h = (s.enter h, .ok true)) ∨
      (s.Holds h ∧ s.insert h = (s, .ok false)) ∨
      ∃ g ∈ s.helpers, g.name = h.name ∧ g.signature ≠ h.signature ∧
        s.insert h = (s, .error ⟨h.name, g.signature.text, h.signature.text⟩) := by
  unfold insert
  cases found : s.signature? h.name with
  | none => exact .inl ⟨inStep.unknown.mp found, rfl⟩
  | some held =>
    obtain ⟨g, mem, name, rfl⟩ := (inStep.table _ _).mp found
    dsimp only
    split
    · rename_i same
      exact .inr (.inl ⟨⟨g, mem, Helper.sameHead_iff.mpr ⟨name, same⟩⟩, rfl⟩)
    · rename_i different
      exact .inr (.inr ⟨g, mem, name, different, rfl⟩)

theorem InStep.insert (inStep : s.InStep) (h : Helper) : (s.insert h).1.InStep := by
  rcases insert_cases inStep h with ⟨fresh, done⟩ | ⟨-, done⟩ | ⟨g, -, -, -, done⟩ <;> rw [done]
  · exact inStep.enter fresh
  · exact inStep
  · exact inStep

theorem extend_cons_of_ok {new : Bool} (done : s.insert h = (s', .ok new)) :
    s.extend (h :: helpers) = s'.extend helpers := by
  rw [extend, done]

theorem extend_cons_of_error {e : HelperConflict} (done : s.insert h = (s', .error e)) :
    s.extend (h :: helpers) = (s', some e) := by
  rw [extend, done]

theorem InStep.extend (inStep : s.InStep) (helpers : List Helper) :
    (s.extend helpers).1.InStep := by
  induction helpers generalizing s with
  | nil => exact inStep
  | cons h rest ih =>
    have next := inStep.insert h
    cases done : s.insert h with
    | mk s' answer =>
      rw [done] at next
      cases answer with
      | error e => rwa [extend_cons_of_error done]
      | ok new =>
        rw [extend_cons_of_ok done]
        exact ih next

/-- What the set `s'` holds after the helpers were inserted into `s`. -/
structure Took (s : HelperSet) (helpers : List Helper) (s' : HelperSet) : Prop where
  kept : s.helpers ⊆ s'.helpers
  held : ∀ h ∈ helpers, s'.Holds h
  origin : s'.helpers ⊆ s.helpers ++ helpers

theorem took_enter (s : HelperSet) (h : Helper) : s.Took [h] (s.enter h) where
  kept := List.subset_append_left _ _
  held := by
    intro g mem
    rw [List.mem_singleton.mp mem]
    exact ⟨h, List.mem_append_right _ List.mem_cons_self, .refl h⟩
  origin := List.Subset.refl _

theorem took_held (held : s.Holds h) : s.Took [h] s where
  kept := List.Subset.refl _
  held := by
    intro g mem
    rwa [List.mem_singleton.mp mem]
  origin := List.subset_append_left _ _

theorem Took.trans {s'' : HelperSet} {first rest : List Helper} (took : s.Took first s')
    (took' : s'.Took rest s'') : s.Took (first ++ rest) s'' where
  kept := List.Subset.trans took.kept took'.kept
  held := by
    intro h mem
    rcases List.mem_append.mp mem with early | late
    · obtain ⟨g, here, same⟩ := took.held h early
      exact ⟨g, took'.kept here, same⟩
    · exact took'.held h late
  origin := by
    intro h mem
    rw [← List.append_assoc]
    rcases List.mem_append.mp (took'.origin mem) with early | late
    · exact List.mem_append_left _ (took.origin early)
    · exact List.mem_append_right _ late

theorem took_extend (inStep : s.InStep) (ok : (s.extend helpers).2 = none) :
    s.Took helpers (s.extend helpers).1 := by
  induction helpers generalizing s with
  | nil => exact ⟨List.Subset.refl _, nofun, List.subset_append_left _ _⟩
  | cons h rest ih =>
    rcases insert_cases inStep h with ⟨fresh, done⟩ | ⟨held, done⟩ | ⟨g, -, -, -, done⟩
    · rw [extend_cons_of_ok done] at ok ⊢
      exact (took_enter s h).trans (ih (inStep.enter fresh) ok)
    · rw [extend_cons_of_ok done] at ok ⊢
      exact (took_held held).trans (ih inStep ok)
    · rw [extend_cons_of_error done] at ok
      cases ok

/-- Any two helpers of one name have one signature. -/
def Agreeing (helpers : List Helper) : Prop :=
  ∀ h ∈ helpers, ∀ g ∈ helpers, h.name = g.name → h.SameHead g

theorem Agreeing.of_subset {more : List Helper} (agree : Agreeing more) (fewer : helpers ⊆ more) :
    Agreeing helpers := fun h mem g mem' => agree h (fewer mem) g (fewer mem')

theorem extend_agreeing (inStep : s.InStep) (agree : Agreeing (s.helpers ++ helpers)) :
    (s.extend helpers).2 = none := by
  induction helpers generalizing s with
  | nil => rfl
  | cons h rest ih =>
    rcases insert_cases inStep h with ⟨fresh, done⟩ | ⟨-, done⟩ | ⟨g, mem, name, different, -⟩
    · rw [extend_cons_of_ok done]
      refine ih (inStep.enter fresh) (agree.of_subset ?_)
      change (s.helpers ++ [h]) ++ rest ⊆ _
      rw [List.append_assoc, List.singleton_append]
      exact List.Subset.refl _
    · rw [extend_cons_of_ok done]
      refine ih inStep (agree.of_subset ?_)
      exact List.append_subset.mpr ⟨List.subset_append_left _ _,
        List.subset_append_of_subset_right _ (List.subset_cons_self _ _)⟩
    · have asked : h ∈ s.helpers ++ h :: rest := List.mem_append_right _ List.mem_cons_self
      have same := agree g (List.mem_append_left _ mem) h asked name
      exact absurd (Helper.sameHead_iff.mp same).2 different

/-- Conflicts come from helpers of one name and different signatures only. -/
theorem extend_none_iff (inStep : s.InStep) :
    (s.extend helpers).2 = none ↔ Agreeing (s.helpers ++ helpers) := by
  refine ⟨fun settled h mem g mem' name => ?_, extend_agreeing inStep⟩
  have took := took_extend inStep settled
  have held : ∀ k ∈ s.helpers ++ helpers, (s.extend helpers).1.Holds k := by
    intro k there
    rcases List.mem_append.mp there with old | new
    · exact ⟨k, took.kept old, .refl k⟩
    · exact took.held k new
  -- both are held, and by one helper since no name is held twice
  obtain ⟨h', here, same⟩ := held h mem
  obtain ⟨g', here', same'⟩ := held g mem'
  have one : h' = g' := List.inj_on_of_nodup_map (inStep.extend helpers).distinct here here'
    (same.name.trans (name.trans same'.name.symm))
  exact same.symm.trans (one ▸ same')

theorem extend_empty_none : (extend {} helpers).2 = none ↔ Agreeing helpers :=
  extend_none_iff inStep_empty

theorem extend_append (s : HelperSet) (first rest : List Helper) :
    s.extend (first ++ rest) =
      match s.extend first with
      | (s', none) => s'.extend rest
      | stopped => stopped := by
  induction first generalizing s with
  | nil => rfl
  | cons h first ih =>
    rw [List.cons_append]
    cases done : s.insert h with
    | mk s' answer =>
      cases answer with
      | error e => rw [extend_cons_of_error done, extend_cons_of_error done]
      | ok new =>
        rw [extend_cons_of_ok done, extend_cons_of_ok done]
        exact ih s'

theorem extend_append_none {first rest : List Helper} :
    (s.extend (first ++ rest)).2 = none ↔
      (s.extend first).2 = none ∧ ((s.extend first).1.extend rest).2 = none := by
  rw [extend_append]
  rcases s.extend first with ⟨s', _ | e⟩
  · exact (and_iff_right rfl).symm
  · exact iff_of_false nofun fun both => nomatch both.1

end HelperSet

theorem Helper.existsUnique_of_nodup {helpers : List Helper} {name : String}
    (distinct : (helpers.map (·.name)).Nodup) (mem : name ∈ helpers.map (·.name)) :
    ∃! h, h ∈ helpers ∧ h.name = name := by
  obtain ⟨h, here, rfl⟩ := List.mem_map.mp mem
  refine ⟨h, ⟨here, rfl⟩, fun g there => ?_⟩
  exact List.inj_on_of_nodup_map distinct there.1 here there.2

end Toolbridge
