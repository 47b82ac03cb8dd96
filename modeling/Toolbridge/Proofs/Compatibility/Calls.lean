import Toolbridge.Proofs.Compatibility.Agreement

set_option autoImplicit false

namespace Toolbridge

namespace Compatibility

structure Visit where
  assumed : Assumed := []
  left : Attribute
  right : Attribute

namespace Visit

def look (c : Catalog) (v : Visit) : Itinerary := itinerary c v.assumed v.left v.right

def verdict (c : Catalog) (depth : Nat) (v : Visit) : Verdict :=
  judge c depth v.assumed v.left v.right

def EndsWithin (c : Catalog) (depth : Nat) (v : Visit) : Prop := v.verdict c depth ≠ .unfinished

/-- `w` is visited from `v` once the pairs before it have agreed. -/
def Calls (c : Catalog) (v w : Visit) : Prop :=
  ∃ before after depth, (v.look c).pairs = before ++ (w.left, w.right) :: after ∧
    Verdict.along (judge c depth) true (v.look c).assumed before = .agreed w.assumed

/-- A call from a visit at which no two user types meet, so that nothing new is assumed. -/
def OneSided (c : Catalog) (v w : Visit) : Prop :=
  v.Calls c w ∧ (c.userType? v.left = none ∨ c.userType? v.right = none)

end Visit

section Along

variable {J K : Assumed → Attribute → Attribute → Verdict} {agrees : Bool} {s : Assumed}
  {pairs : List Pair}

theorem along_congr (same : ∀ s x y, J s x y ≠ .unfinished → K s x y = J s x y)
    (ends : Verdict.along J agrees s pairs ≠ .unfinished) :
    Verdict.along K agrees s pairs = Verdict.along J agrees s pairs := by
  induction pairs generalizing s with
  | nil => rfl
  | cons p rest ih =>
    rw [along_cons] at ends
    rw [along_cons, along_cons]
    have head : J s p.1 p.2 ≠ .unfinished := by
      intro stuck
      rw [stuck] at ends
      exact ends rfl
    rw [same _ _ _ head]
    cases first : J s p.1 p.2 with
    | agreed s =>
      rw [first] at ends
      exact ih ends
    | parted => rfl
    | unfinished => exact absurd first head

theorem along_append {before after : List Pair} :
    Verdict.along J agrees s (before ++ after) =
      match Verdict.along J true s before with
      | .agreed s => Verdict.along J agrees s after
      | stop => stop := by
  induction before generalizing s with
  | nil => rfl
  | cons p rest ih =>
    rw [List.cons_append, along_cons, along_cons]
    cases J s p.1 p.2 with
    | agreed s => exact ih
    | _ => rfl

theorem along_unfinished (stuck : Verdict.along J agrees s pairs = .unfinished) :
    ∃ before p after s', pairs = before ++ p :: after ∧
      Verdict.along J true s before = .agreed s' ∧ J s' p.1 p.2 = .unfinished := by
  induction pairs generalizing s with
  | nil =>
    rw [along_nil] at stuck
    split at stuck <;> cases stuck
  | cons p rest ih =>
    rw [along_cons] at stuck
    cases first : J s p.1 p.2 with
    | agreed s' =>
      rw [first] at stuck
      obtain ⟨before, q, after, last, rfl, agreed, there⟩ := ih stuck
      refine ⟨p :: before, q, after, last, rfl, ?_, there⟩
      rw [along_cons, first]
      exact agreed
    | parted =>
      rw [first] at stuck
      cases stuck
    | unfinished => exact ⟨[], p, rest, s, rfl, rfl, first⟩

end Along

section Depth

variable {c : Catalog} {n m : Nat} {v w : Visit}

theorem judge_succ {assumed : Assumed} {a b : Attribute}
    (ends : judge c n assumed a b ≠ .unfinished) :
    judge c (n + 1) assumed a b = judge c n assumed a b := by
  induction n generalizing assumed a b with
  | zero => exact absurd rfl ends
  | succ n ih => exact along_congr (fun _ _ _ => ih) ends

theorem judge_of_le {assumed : Assumed} {a b : Attribute} (le : n ≤ m)
    (ends : judge c n assumed a b ≠ .unfinished) : judge c m assumed a b = judge c n assumed a b := by
  induction le with
  | refl => rfl
  | step _ ih =>
    rw [← ih] at ends
    rw [judge_succ ends, ih]

theorem along_judge_of_le {agrees : Bool} {s : Assumed} {pairs : List Pair} (le : n ≤ m)
    (ends : Verdict.along (judge c n) agrees s pairs ≠ .unfinished) :
    Verdict.along (judge c m) agrees s pairs = Verdict.along (judge c n) agrees s pairs :=
  along_congr (fun _ _ _ => judge_of_le le) ends

namespace Visit

theorem not_endsWithin_zero : ¬ v.EndsWithin c 0 := fun ends => ends rfl

theorem EndsWithin.of_le (h : v.EndsWithin c n) (le : n ≤ m) : v.EndsWithin c m := by
  change judge c m v.assumed v.left v.right ≠ .unfinished
  rw [judge_of_le le h]
  exact h

theorem EndsWithin.calls (h : v.EndsWithin c (n + 1)) (call : v.Calls c w) :
    w.EndsWithin c n := by
  obtain ⟨before, after, depth, split, agreed⟩ := call
  change Verdict.along (judge c n) (v.look c).agrees (v.look c).assumed (v.look c).pairs ≠ _ at h
  rw [split, along_append] at h
  -- both depths take the pairs before to the same assumptions
  have same : Verdict.along (judge c n) true (v.look c).assumed before = .agreed w.assumed := by
    have endsHere : Verdict.along (judge c n) true (v.look c).assumed before ≠ .unfinished := by
      intro stuck
      rw [stuck] at h
      exact h rfl
    have endsThere : Verdict.along (judge c depth) true (v.look c).assumed before ≠ .unfinished := by
      rw [agreed]
      nofun
    rcases Nat.le_total n depth with le | le
    · rw [← along_judge_of_le le endsHere]
      exact agreed
    · rw [along_judge_of_le le endsThere]
      exact agreed
  rw [same] at h
  intro stuck
  refine h ?_
  dsimp only
  rw [along_cons, show judge c n w.assumed w.left w.right = .unfinished from stuck]

theorem exists_calls (stuck : ¬ v.EndsWithin c (n + 1)) :
    ∃ w, v.Calls c w ∧ ¬ w.EndsWithin c n := by
  obtain ⟨before, p, after, s, split, agreed, there⟩ :=
    along_unfinished (Classical.not_not.mp stuck)
  exact ⟨⟨s, p.1, p.2⟩, ⟨before, after, n, split, agreed⟩, fun ends => ends there⟩

theorem EndsWithin.reached (h : v.EndsWithin c n) (path : Relation.ReflTransGen (Calls c) v w) :
    w.EndsWithin c n := by
  induction path with
  | refl => exact h
  | tail _ call ih =>
    cases n with
    | zero => exact absurd ih not_endsWithin_zero
    | succ n => exact (ih.calls call).of_le (Nat.le_succ n)

theorem not_endsWithin_of_cycle (cycle : Relation.TransGen (Calls c) v v) (n : Nat) :
    ¬ v.EndsWithin c n := by
  induction n with
  | zero => exact not_endsWithin_zero
  | succ n ih =>
    intro ends
    obtain ⟨w, call, path⟩ := Relation.TransGen.head'_iff.mp cycle
    exact ih ((ends.calls call).reached path)

end Visit

end Depth

end Compatibility
end Toolbridge
