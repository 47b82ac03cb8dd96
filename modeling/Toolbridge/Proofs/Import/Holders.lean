import Toolbridge.Proofs.Import.Block
import Toolbridge.Proofs.Import.Numbering

set_option autoImplicit false

/-!
# Entries and holders

A block says twice which path has which name: in its entries, and in the table of holders, where a
name may stand before it has an entry. The two stay in step, whatever is asked of the block, and so
no two entries have one name.
-/
namespace Toolbridge

/-- The name that is derived for a path if it is free. -/
def baseName (path : String) : String := Go.packageName (lastSegment '/' path)

namespace ImportBlock

variable {b b' : ImportBlock} {path name : String} {e : NameCollision}

theorem holder?_cons (entries : List Import) (holders : List (String × String)) (x : String) :
    (ImportBlock.mk entries ((name, path) :: holders)).holder? x =
      if x = name then some path else (ImportBlock.mk entries holders).holder? x := by
  unfold holder?
  rw [List.lookup_cons]
  by_cases same : x = name
  · rw [if_pos same, beq_iff_eq.mpr same]
  · rw [if_neg same, beq_eq_false_iff_ne.mpr same]

theorem reserve_refused :
    (b.reserve path name).2 = some e ↔
      ∃ other, b.holder? name = some other ∧ other ≠ path ∧ e = ⟨name, other, path⟩ := by
  unfold reserve
  cases b.holder? name with
  | none => simp
  | some other =>
    by_cases same : other = path
    · simp [same]
    · simp only [if_neg same, Option.some.injEq, exists_eq_left', ne_eq]
      exact ⟨fun given => ⟨same, given.symm⟩, fun given => given.2.symm⟩

theorem reserve_unchanged (refused : (b.reserve path name).2 = some e) :
    (b.reserve path name).1 = b := by
  unfold reserve at refused ⊢
  cases held : b.holder? name with
  | none =>
    rw [held] at refused
    cases refused
  | some other => rfl

theorem holder?_reserve (ok : b.reserve path name = (b', none)) (x : String) :
    b'.holder? x = if x = name then some path else b.holder? x := by
  unfold reserve at ok
  cases held : b.holder? name with
  | none =>
    rw [held] at ok
    obtain ⟨rfl, -⟩ := Prod.mk.inj ok
    exact holder?_cons ..
  | some other =>
    rw [held] at ok
    obtain ⟨rfl, granted⟩ := Prod.mk.inj ok
    have same : other = path := by_contra fun apart => by simp [apart] at granted
    by_cases here : x = name
    · rw [if_pos here, here, held, same]
    · rw [if_neg here]

theorem addNamed_snd (b : ImportBlock) (path name : String) :
    (b.addNamed path name).2 = (b.reserve path name).2 := by
  unfold addNamed
  rcases b.reserve path name with ⟨held, _ | e⟩
  · dsimp only
    split <;> rfl
  · rfl

theorem addNamed_refused :
    (b.addNamed path name).2 = some e ↔
      ∃ other, b.holder? name = some other ∧ other ≠ path ∧ e = ⟨name, other, path⟩ := by
  rw [addNamed_snd, reserve_refused]

theorem addNamed_unchanged (refused : (b.addNamed path name).2 = some e) :
    (b.addNamed path name).1 = b := by
  rw [addNamed_snd] at refused
  have done : b.reserve path name = (b, some e) := Prod.ext (reserve_unchanged refused) refused
  rw [addNamed, done]

theorem addNamed_eq_ok (ok : b.addNamed path name = (b', none)) :
    ∃ held, b.reserve path name = (held, none) ∧ b'.holder? = held.holder? ∧
      b'.entries = if ⟨path, some name⟩ ∈ b.entries then b.entries
        else b.entries ++ [⟨path, some name⟩] := by
  unfold addNamed at ok
  rcases reserved : b.reserve path name with ⟨held, _ | e⟩
  · rw [reserved] at ok
    dsimp only at ok
    rw [← entries_reserve reserved]
    refine ⟨held, rfl, ?_⟩
    by_cases known : ⟨path, some name⟩ ∈ held.entries
    · rw [if_pos (List.contains_iff_mem.mpr known)] at ok
      cases ok
      exact ⟨rfl, (if_pos known).symm⟩
    · rw [if_neg (fun contained => known (List.contains_iff_mem.mp contained))] at ok
      cases ok
      exact ⟨rfl, (if_neg known).symm⟩
  · rw [reserved] at ok
    cases ok

/-- Every entry has a name, which its path holds, and there is no entry twice. -/
structure InStep (b : ImportBlock) : Prop where
  named : ∀ i ∈ b.entries, ∃ name, i.name = some name ∧ b.holder? name = some i.path
  nodup : b.entries.Nodup

theorem inStep_empty : InStep {} := ⟨nofun, .nil⟩

theorem InStep.held (h : b.InStep) (mem : ⟨path, some name⟩ ∈ b.entries) :
    b.holder? name = some path := by
  obtain ⟨given, same, holds⟩ := h.named _ mem
  obtain rfl := Option.some.inj same
  exact holds

theorem InStep.distinct (h : b.InStep) : (b.entries.map (·.name)).Nodup := by
  refine h.nodup.map_on fun i mem j mem' same => ?_
  obtain ⟨iPath, iName⟩ := i
  obtain ⟨jPath, jName⟩ := j
  obtain ⟨name, rfl, holds⟩ := h.named _ mem
  obtain rfl : some name = jName := same
  obtain rfl : iPath = jPath := Option.some.inj (holds.symm.trans (h.held mem'))
  rfl

theorem InStep.of_grown (h : b.InStep) (entries : b'.entries = b.entries)
    (keeps : ∀ x p, b.holder? x = some p → b'.holder? x = some p) : b'.InStep := by
  refine ⟨fun i mem => ?_, entries ▸ h.nodup⟩
  obtain ⟨given, same, holds⟩ := h.named i (entries ▸ mem)
  exact ⟨given, same, keeps given i.path holds⟩

theorem InStep.append (h : b.InStep) (fresh : ⟨path, some name⟩ ∉ b.entries)
    (entries : b'.entries = b.entries ++ [⟨path, some name⟩]) (holds : b'.holder? name = some path)
    (keeps : ∀ x p, b.holder? x = some p → b'.holder? x = some p) : b'.InStep := by
  refine ⟨fun i mem => ?_, ?_⟩
  · rw [entries] at mem
    rcases List.mem_append.mp mem with old | new
    · obtain ⟨given, same, held⟩ := h.named i old
      exact ⟨given, same, keeps given i.path held⟩
    · rw [List.mem_singleton.mp new]
      exact ⟨name, rfl, holds⟩
  · rw [entries]
    refine List.nodup_append.mpr ⟨h.nodup, List.nodup_singleton _, fun i left j right => ?_⟩
    rw [List.mem_singleton.mp right]
    exact fun same => fresh (same ▸ left)

theorem keeps_reserve (ok : b.reserve path name = (b', none)) :
    ∀ x p, b.holder? x = some p → b'.holder? x = some p := by
  intro x p held
  rw [holder?_reserve ok]
  by_cases here : x = name
  · -- the reservation went through, so the name was held by this path
    obtain rfl := here
    by_cases same : p = path
    · rw [if_pos rfl, same]
    · have refused := reserve_refused.mpr ⟨p, held, same, rfl⟩
      rw [ok] at refused
      cases refused
  · rw [if_neg here, held]

theorem keeps_addNamed (ok : b.addNamed path name = (b', none)) :
    ∀ x p, b.holder? x = some p → b'.holder? x = some p := by
  obtain ⟨held, reserved, same, -⟩ := addNamed_eq_ok ok
  rw [same]
  exact keeps_reserve reserved

theorem holds_addNamed (ok : b.addNamed path name = (b', none)) : b'.holder? name = some path := by
  obtain ⟨held, reserved, same, -⟩ := addNamed_eq_ok ok
  rw [same, holder?_reserve reserved, if_pos rfl]

theorem InStep.addNamed (h : b.InStep) (ok : b.addNamed path name = (b', none)) : b'.InStep := by
  obtain ⟨-, -, -, entries⟩ := addNamed_eq_ok ok
  by_cases known : ⟨path, some name⟩ ∈ b.entries
  · rw [if_pos known] at entries
    exact h.of_grown entries (keeps_addNamed ok)
  · rw [if_neg known] at entries
    exact h.append known entries (holds_addNamed ok) (keeps_addNamed ok)

theorem InStep.nameOf?_known (h : b.InStep) (known : ∃ i ∈ b.entries, i.path = path) :
    ∃ name, b.entries.find? (·.path == path) = some ⟨path, some name⟩ ∧
      b.nameOf? path = some name := by
  obtain ⟨i, mem, here⟩ := known
  unfold nameOf?
  cases found : b.entries.find? (·.path == path) with
  | none =>
    have nowhere := List.find?_eq_none.mp found i mem
    exact absurd (beq_iff_eq.mpr here) nowhere
  | some first =>
    obtain ⟨firstPath, firstName⟩ := first
    have same : firstPath = path :=
      eq_of_beq (List.find?_some (p := fun j : Import => j.path == path) found)
    obtain ⟨name, rfl, -⟩ := h.named _ (List.mem_of_find?_eq_some found)
    exact ⟨name, by rw [same], rfl⟩

theorem nameOf?_new (new : ∀ i ∈ b.entries, i.path ≠ path) : b.nameOf? path = none := by
  unfold nameOf?
  rw [List.find?_eq_none.mpr fun i mem => by simpa using new i mem]
  rfl

theorem InStep.add_known (h : b.InStep) (known : ∃ i ∈ b.entries, i.path = path) :
    ∃ name, b.entries.find? (·.path == path) = some ⟨path, some name⟩ ∧ b.add path = (name, b) := by
  obtain ⟨name, first, given⟩ := h.nameOf?_known known
  refine ⟨name, first, ?_⟩
  unfold add
  rw [given]

theorem add_new (new : ∀ i ∈ b.entries, i.path ≠ path) :
    ∃ name, FirstFree b.Held (baseName path) name ∧
      b.add path = (name, ⟨b.entries ++ [⟨path, some name⟩], (name, path) :: b.holders⟩) := by
  refine ⟨_, b.freeName_firstFree (baseName path), ?_⟩
  unfold add
  rw [nameOf?_new new]
  rfl

theorem ne_freeName {x p : String} (held : b.holder? x = some p) (base : String) :
    x ≠ b.freeName base := by
  rintro rfl
  obtain ⟨-, -, free, -⟩ := b.freeName_firstFree base
  exact free ⟨p, held⟩

theorem keeps_add (b : ImportBlock) (path : String) :
    ∀ x p, b.holder? x = some p → (b.add path).2.holder? x = some p := by
  intro x p held
  unfold add
  split
  · exact held
  · rw [holder?_cons, if_neg (ne_freeName held _)]
    exact held

theorem InStep.add (h : b.InStep) (path : String) : (b.add path).2.InStep := by
  by_cases known : ∃ i ∈ b.entries, i.path = path
  · obtain ⟨name, -, same⟩ := h.add_known known
    rw [same]
    exact h
  · have new : ∀ i ∈ b.entries, i.path ≠ path := fun i mem here => known ⟨i, mem, here⟩
    obtain ⟨name, -, added⟩ := add_new new
    have keeps := b.keeps_add path
    rw [added] at keeps ⊢
    refine h.append (fun mem => new _ mem rfl) rfl ?_ keeps
    rw [holder?_cons, if_pos rfl]

end ImportBlock
end Toolbridge
