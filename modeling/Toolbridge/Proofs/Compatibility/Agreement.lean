import Toolbridge.Proofs.Compatibility.Shape

set_option autoImplicit false

/-!
# What an accepting comparison has seen

`AgreesWithin` says that two attributes agree down to a depth, where a pair of user types agrees if
their names are among those assumed. A comparison that accepts two attributes leaves behind the
assumptions under which they agree, and each assumption that it added is grounded: it stands for two
user types below the two attributes whose bodies agree under the same assumptions.
-/
namespace Toolbridge

namespace Compatibility

section Looks

variable {c : Catalog} {assumed : Assumed} {a b : Attribute} {t u : UserType}

theorem type_ne_none (type : c.userType? a = some t) : a.type ≠ none := by
  intro empty
  simp [Catalog.userType?, empty] at type

theorem itinerary_known (left : c.userType? a = some t) (right : c.userType? b = some u)
    (known : (t.name, u.name) ∈ assumed) : itinerary c assumed a b = { assumed } := by
  obtain ⟨ta, la⟩ := Option.ne_none_iff_exists'.mp (type_ne_none left)
  obtain ⟨tb, lb⟩ := Option.ne_none_iff_exists'.mp (type_ne_none right)
  simp [itinerary, la, lb, left, right, known]

theorem itinerary_new (left : c.userType? a = some t) (right : c.userType? b = some u)
    (new : (t.name, u.name) ∉ assumed) :
    itinerary c assumed a b =
      { assumed := (t.name, u.name) :: assumed, pairs := [(t.body, u.body)] } := by
  obtain ⟨ta, la⟩ := Option.ne_none_iff_exists'.mp (type_ne_none left)
  obtain ⟨tb, lb⟩ := Option.ne_none_iff_exists'.mp (type_ne_none right)
  simp [itinerary, la, lb, left, right, new]

theorem itinerary_left (left : c.userType? a = some t) (right : c.userType? b = none)
    (full : b.type ≠ none) : itinerary c assumed a b = { assumed, pairs := [(t.body, b)] } := by
  obtain ⟨ta, la⟩ := Option.ne_none_iff_exists'.mp (type_ne_none left)
  obtain ⟨tb, lb⟩ := Option.ne_none_iff_exists'.mp full
  simp [itinerary, la, lb, left, right]

theorem itinerary_right (left : c.userType? a = none) (right : c.userType? b = some u)
    (full : a.type ≠ none) : itinerary c assumed a b = { assumed, pairs := [(a, u.body)] } := by
  obtain ⟨ta, la⟩ := Option.ne_none_iff_exists'.mp full
  obtain ⟨tb, lb⟩ := Option.ne_none_iff_exists'.mp (type_ne_none right)
  simp [itinerary, la, lb, left, right]

theorem itinerary_left_empty (left : a.type = none) (full : b.type ≠ none) :
    itinerary c assumed a b = { assumed, agrees := false } := by
  obtain ⟨tb, lb⟩ := Option.ne_none_iff_exists'.mp full
  simp [itinerary, left, lb]

theorem itinerary_right_empty (full : a.type ≠ none) (right : b.type = none) :
    itinerary c assumed a b = { assumed, agrees := false } := by
  obtain ⟨ta, la⟩ := Option.ne_none_iff_exists'.mp full
  simp [itinerary, right, la]

theorem shapeItinerary_assumed (lr rr : List String) (ta tb : DataType) :
    (shapeItinerary assumed lr rr ta tb).assumed = assumed := by
  unfold shapeItinerary objectItinerary
  split <;> first | rfl | (split <;> rfl)

theorem itinerary_bare (left : c.userType? a = none) (right : c.userType? b = none) :
    (itinerary c assumed a b).assumed = assumed := by
  unfold itinerary
  rw [left, right]
  split <;> first | rfl | exact shapeItinerary_assumed _ _ _ _

theorem shapeItinerary_part {ta tb : DataType} (left : a.type = some ta) (right : b.type = some tb)
    (p : Pair) (mem : p ∈ (shapeItinerary assumed a.required b.required ta tb).pairs) :
    c.Part a p.1 ∧ c.Part b p.2 := by
  cases ta with
  | object l =>
    cases tb with
    | object r =>
      simp only [shapeItinerary, objectItinerary] at mem
      split at mem
      · obtain ⟨f, memF, g, found, rfl⟩ := mem_fieldPairs.mp mem
        exact ⟨.field left memF, .field right (Members.find?_mem found).1⟩
      · cases mem
    | _ => cases mem
  | array l =>
    cases tb with
    | array r =>
      rw [List.mem_singleton.mp mem]
      exact ⟨.element left, .element right⟩
    | _ => cases mem
  | map lk l =>
    cases tb with
    | map rk r =>
      rcases List.mem_cons.mp mem with rfl | mem
      · exact ⟨.key left, .key right⟩
      · rw [List.mem_singleton.mp mem]
        exact ⟨.value left, .value right⟩
    | _ => cases mem
  | union l =>
    cases tb with
    | union r =>
      simp only [shapeItinerary] at mem
      split at mem
      · obtain ⟨q, memQ, rfl⟩ := mem_memberPairs mem
        obtain ⟨memL, memR⟩ := List.of_mem_zip memQ
        exact ⟨.member left memL, .member right memR⟩
      · cases mem
    | _ => cases mem
  | _ => cases tb <;> cases mem

theorem itinerary_part (left : c.userType? a = none) (right : c.userType? b = none) (p : Pair)
    (mem : p ∈ (itinerary c assumed a b).pairs) : c.Part a p.1 ∧ c.Part b p.2 := by
  cases la : a.type with
  | none => cases lb : b.type <;> simp [itinerary, la, lb] at mem
  | some ta =>
    cases lb : b.type with
    | none => simp [itinerary, la, lb] at mem
    | some tb =>
      simp only [itinerary, la, lb, left, right] at mem
      exact shapeItinerary_part la lb p mem

theorem itinerary_reaches (p : Pair) (mem : p ∈ (itinerary c assumed a b).pairs) :
    c.Reaches a p.1 ∧ c.Reaches b p.2 := by
  cases left : c.userType? a with
  | some t =>
    cases right : c.userType? b with
    | some u =>
      by_cases known : (t.name, u.name) ∈ assumed
      · rw [itinerary_known left right known] at mem
        cases mem
      · rw [itinerary_new left right known] at mem
        rw [List.mem_singleton.mp mem]
        exact ⟨(Catalog.Part.body left).reaches, (Catalog.Part.body right).reaches⟩
    | none =>
      by_cases full : b.type = none
      · rw [itinerary_right_empty (type_ne_none left) full] at mem
        cases mem
      · rw [itinerary_left left right full] at mem
        rw [List.mem_singleton.mp mem]
        exact ⟨(Catalog.Part.body left).reaches, .refl⟩
  | none =>
    cases right : c.userType? b with
    | some u =>
      by_cases full : a.type = none
      · rw [itinerary_left_empty full (type_ne_none right)] at mem
        cases mem
      · rw [itinerary_right left right full] at mem
        rw [List.mem_singleton.mp mem]
        exact ⟨.refl, (Catalog.Part.body right).reaches⟩
    | none =>
      obtain ⟨partA, partB⟩ := itinerary_part left right p mem
      exact ⟨partA.reaches, partB.reaches⟩

end Looks

def AgreesWithin (c : Catalog) (S : Assumed) : Nat → Attribute → Attribute → Prop
  | 0, _, _ => False
  | n + 1, a, b =>
    match c.userType? a, c.userType? b with
    | some t, some u => (t.name, u.name) ∈ S
    | some t, none => AgreesWithin c S n t.body b
    | none, some u => AgreesWithin c S n a u.body
    | none, none => SameTop (AgreesWithin c S n) a b

/-- The assumption `p` stands for two user types below `a` and `b` with bodies that agree. -/
def Grounded (c : Catalog) (S : Assumed) (a b : Attribute) (p : String × String) : Prop :=
  ∃ x y t u n, c.Reaches a x ∧ c.Reaches b y ∧ c.userType? x = some t ∧ c.userType? y = some u ∧
    p = (t.name, u.name) ∧ AgreesWithin c S n t.body u.body

section Agreement

variable {c : Catalog} {S T : Assumed} {a b : Attribute} {t u : UserType} {n : Nat}

theorem agreesWithin_both (left : c.userType? a = some t) (right : c.userType? b = some u) :
    AgreesWithin c S (n + 1) a b ↔ (t.name, u.name) ∈ S := by
  simp only [AgreesWithin, left, right]

theorem agreesWithin_left (left : c.userType? a = some t) (right : c.userType? b = none) :
    AgreesWithin c S (n + 1) a b ↔ AgreesWithin c S n t.body b := by
  simp only [AgreesWithin, left, right]

theorem agreesWithin_right (left : c.userType? a = none) (right : c.userType? b = some u) :
    AgreesWithin c S (n + 1) a b ↔ AgreesWithin c S n a u.body := by
  simp only [AgreesWithin, left, right]

theorem agreesWithin_bare (left : c.userType? a = none) (right : c.userType? b = none) :
    AgreesWithin c S (n + 1) a b ↔ SameTop (AgreesWithin c S n) a b := by
  simp only [AgreesWithin, left, right]

theorem AgreesWithin.subset (h : AgreesWithin c S n a b) (sub : S ⊆ T) :
    AgreesWithin c T n a b := by
  induction n generalizing a b with
  | zero => exact h.elim
  | succ n ih =>
    cases left : c.userType? a with
    | some t =>
      cases right : c.userType? b with
      | some u => exact (agreesWithin_both left right).mpr (sub ((agreesWithin_both left right).mp h))
      | none => exact (agreesWithin_left left right).mpr (ih ((agreesWithin_left left right).mp h))
    | none =>
      cases right : c.userType? b with
      | some u => exact (agreesWithin_right left right).mpr (ih ((agreesWithin_right left right).mp h))
      | none =>
        rw [agreesWithin_bare left right] at h ⊢
        exact h.mono fun _ _ => ih

theorem Grounded.subset {p : String × String} (h : Grounded c S a b p) (sub : S ⊆ T) :
    Grounded c T a b p := by
  obtain ⟨x, y, t, u, n, reachX, reachY, left, right, same, agrees⟩ := h
  exact ⟨x, y, t, u, n, reachX, reachY, left, right, same, agrees.subset sub⟩

theorem Grounded.above {x y : Attribute} {p : String × String} (h : Grounded c S x y p)
    (reachA : c.Reaches a x) (reachB : c.Reaches b y) : Grounded c S a b p := by
  obtain ⟨x', y', t, u, n, reachX, reachY, rest⟩ := h
  exact ⟨x', y', t, u, n, reachA.trans reachX, reachB.trans reachY, rest⟩

theorem agreesWithin_of_itinerary {assumed : Assumed}
    (agrees : (itinerary c assumed a b).agrees = true)
    (known : (itinerary c assumed a b).assumed ⊆ S)
    (parts : ∀ p ∈ (itinerary c assumed a b).pairs, AgreesWithin c S n p.1 p.2) :
    AgreesWithin c S (n + 1) a b := by
  cases left : c.userType? a with
  | some t =>
    cases right : c.userType? b with
    | some u =>
      rw [agreesWithin_both left right]
      by_cases mem : (t.name, u.name) ∈ assumed
      · rw [itinerary_known left right mem] at known
        exact known mem
      · rw [itinerary_new left right mem] at known
        exact known List.mem_cons_self
    | none =>
      by_cases full : b.type = none
      · rw [itinerary_right_empty (type_ne_none left) full] at agrees
        cases agrees
      · rw [itinerary_left left right full] at parts
        exact (agreesWithin_left left right).mpr (parts _ List.mem_cons_self)
  | none =>
    cases right : c.userType? b with
    | some u =>
      by_cases full : a.type = none
      · rw [itinerary_left_empty full (type_ne_none right)] at agrees
        cases agrees
      · rw [itinerary_right left right full] at parts
        exact (agreesWithin_right left right).mpr (parts _ List.mem_cons_self)
    | none =>
      rw [agreesWithin_bare left right]
      exact sameTop_of_itinerary left right agrees parts

theorem itinerary_none_left {assumed : Assumed} (left : c.userType? a = none) :
    (itinerary c assumed a b).assumed = assumed := by
  cases right : c.userType? b with
  | none => exact itinerary_bare left right
  | some u =>
    by_cases full : a.type = none
    · rw [itinerary_left_empty full (type_ne_none right)]
    · rw [itinerary_right left right full]

theorem itinerary_none_right {assumed : Assumed} (right : c.userType? b = none) :
    (itinerary c assumed a b).assumed = assumed := by
  cases left : c.userType? a with
  | none => exact itinerary_bare left right
  | some t =>
    by_cases full : b.type = none
    · rw [itinerary_right_empty (type_ne_none left) full]
    · rw [itinerary_left left right full]

theorem itinerary_assumed (c : Catalog) (assumed : Assumed) (a b : Attribute) :
    (itinerary c assumed a b).assumed = assumed ∨
      ∃ t u, c.userType? a = some t ∧ c.userType? b = some u ∧ (t.name, u.name) ∉ assumed ∧
        itinerary c assumed a b =
          { assumed := (t.name, u.name) :: assumed, pairs := [(t.body, u.body)] } := by
  cases left : c.userType? a with
  | none => exact .inl (itinerary_none_left left)
  | some t =>
    cases right : c.userType? b with
    | none => exact .inl (itinerary_none_right right)
    | some u =>
      by_cases mem : (t.name, u.name) ∈ assumed
      · rw [itinerary_known left right mem]
        exact .inl rfl
      · exact .inr ⟨t, u, rfl, rfl, mem, itinerary_new left right mem⟩

/-- What an accepting comparison of `a` and `b` leaves behind. -/
structure Learned (c : Catalog) (before after : Assumed) (depth : Nat) (a b : Attribute) :
    Prop where
  grows : before <:+ after
  agrees : AgreesWithin c after depth a b
  grounded : ∀ p ∈ after, p ∈ before ∨ Grounded c after a b p

theorem learned_along {before after : Assumed} {agrees : Bool} {pairs : List Pair}
    (each : ∀ s s' x y, judge c n s x y = .agreed s' → Learned c s s' n x y)
    (h : Verdict.along (judge c n) agrees before pairs = .agreed after) :
    agrees = true ∧ before <:+ after ∧ (∀ p ∈ pairs, AgreesWithin c after n p.1 p.2) ∧
      ∀ q ∈ after, q ∈ before ∨ ∃ p ∈ pairs, Grounded c after p.1 p.2 q := by
  induction pairs generalizing before with
  | nil =>
    rw [along_nil] at h
    split at h
    · rename_i yes
      cases h
      exact ⟨yes, List.suffix_refl _, nofun, fun q mem => .inl mem⟩
    · cases h
  | cons p rest ih =>
    rw [along_cons] at h
    cases first : judge c n before p.1 p.2 with
    | parted => rw [first] at h; cases h
    | unfinished => rw [first] at h; cases h
    | agreed middle =>
      rw [first] at h
      have learned := each _ _ _ _ first
      obtain ⟨yes, grows, agree, grounded⟩ := ih h
      refine ⟨yes, learned.grows.trans grows, ?_, ?_⟩
      · intro q mem
        rcases List.mem_cons.mp mem with rfl | mem
        · exact learned.agrees.subset grows.subset
        · exact agree q mem
      · intro q mem
        rcases grounded q mem with early | ⟨other, memOther, ground⟩
        · rcases learned.grounded q early with old | ground
          · exact .inl old
          · exact .inr ⟨p, List.mem_cons_self, ground.subset grows.subset⟩
        · exact .inr ⟨other, List.mem_cons_of_mem _ memOther, ground⟩

theorem learned_of_agreed {before after : Assumed}
    (h : judge c n before a b = .agreed after) : Learned c before after n a b := by
  induction n generalizing before after a b with
  | zero => cases h
  | succ n ih =>
    obtain ⟨yes, grows, agree, grounded⟩ := learned_along (fun _ _ _ _ => ih) h
    have agrees := agreesWithin_of_itinerary yes grows.subset agree
    have below : ∀ q ∈ after, q ∈ (itinerary c before a b).assumed ∨ Grounded c after a b q := by
      intro q mem
      rcases grounded q mem with old | ⟨p, memP, ground⟩
      · exact .inl old
      · obtain ⟨reachA, reachB⟩ := itinerary_reaches p memP
        exact .inr (ground.above reachA reachB)
    -- only the pair that was assumed here is new, and its bodies are what was compared
    rcases itinerary_assumed c before a b with same | ⟨t, u, left, right, -, look⟩
    · rw [same] at grows below
      exact ⟨grows, agrees, below⟩
    · rw [look] at grows below agree
      refine ⟨(List.suffix_cons _ _).trans grows, agrees, fun q mem => ?_⟩
      rcases below q mem with old | ground
      · rcases List.mem_cons.mp old with rfl | old
        · exact .inr ⟨a, b, t, u, n, .refl, .refl, left, right, rfl, agree _ List.mem_cons_self⟩
        · exact .inl old
      · exact .inr ground

end Agreement

end Compatibility
end Toolbridge
