import Toolbridge.Proofs.Attribute.Vicinity
import Toolbridge.Proofs.Compatibility.Calls

set_option autoImplicit false

/-!
# When a comparison ends

Assumptions only grow from a visit to the visits it calls, and there are finitely many of them. A
comparison that does not end therefore comes back to a visit that it is in already, and between the
two no user types met. The depth at which the comparison is given up is enough to tell.
-/
namespace Toolbridge

namespace Catalog

def nameOf (c : Catalog) (x : Attribute) : String :=
  match c.userType? x with
  | some t => t.name
  | none => ""

def namePairs (c : Catalog) (a b : Attribute) : Compatibility.Assumed :=
  (c.pairsBelow a b).map fun p => (c.nameOf p.1, c.nameOf p.2)

variable {c : Catalog} {a b x y : Attribute} {t u : UserType}

theorem mem_namePairs (reachA : c.Reaches a x) (reachB : c.Reaches b y)
    (left : c.userType? x = some t) (right : c.userType? y = some u) :
    (t.name, u.name) ∈ c.namePairs a b := by
  refine List.mem_map.mpr ⟨(x, y), mem_pairsBelow reachA reachB, ?_⟩
  simp only [nameOf, left, right]

theorem length_namePairs : (c.namePairs a b).length = c.pairBound a b := by
  rw [namePairs, List.length_map, length_pairsBelow]

end Catalog

namespace Compatibility

open Relation

variable {c : Catalog} {a b : Attribute}

theorem along_keeps {I : Assumed → Prop} {J : Assumed → Attribute → Attribute → Verdict}
    {agrees : Bool} {s s' : Assumed} {pairs : List Pair}
    (each : ∀ p ∈ pairs, ∀ s s', I s → J s p.1 p.2 = .agreed s' → I s') (holds : I s)
    (agreed : Verdict.along J agrees s pairs = .agreed s') : I s' := by
  induction pairs generalizing s with
  | nil =>
    rw [along_nil] at agreed
    split at agreed
    · cases agreed
      exact holds
    · cases agreed
  | cons p rest ih =>
    rw [along_cons] at agreed
    cases first : J s p.1 p.2 with
    | agreed middle =>
      rw [first] at agreed
      exact ih (fun q mem => each q (List.mem_cons_of_mem _ mem))
        (each p List.mem_cons_self s middle holds first) agreed
    | parted =>
      rw [first] at agreed
      cases agreed
    | unfinished =>
      rw [first] at agreed
      cases agreed

theorem judge_keeps {I : Assumed → Prop} {x y : Attribute} {n : Nat} {s s' : Assumed}
    (look : ∀ x y s, c.Reaches a x → c.Reaches b y → I s → I (itinerary c s x y).assumed)
    (reachA : c.Reaches a x) (reachB : c.Reaches b y) (holds : I s)
    (agreed : judge c n s x y = .agreed s') : I s' := by
  induction n generalizing x y s s' with
  | zero => cases agreed
  | succ n ih =>
    refine along_keeps (fun p mem s s' holds agreed => ?_) (look x y s reachA reachB holds) agreed
    obtain ⟨partX, partY⟩ := itinerary_reaches p mem
    exact ih (reachA.trans partX) (reachB.trans partY) holds agreed

def Sound (c : Catalog) (a b : Attribute) (s : Assumed) : Prop :=
  s.Nodup ∧ s ⊆ c.namePairs a b

theorem Sound.length_le {s : Assumed} (h : Sound c a b s) : s.length ≤ c.pairBound a b := by
  rw [← Catalog.length_namePairs]
  exact h.1.length_le_of_subset h.2

theorem Sound.look {x y : Attribute} {s : Assumed} (h : Sound c a b s) (reachA : c.Reaches a x)
    (reachB : c.Reaches b y) : Sound c a b (itinerary c s x y).assumed := by
  rcases itinerary_assumed c s x y with same | ⟨t, u, left, right, new, look⟩
  · rw [same]
    exact h
  · rw [look]
    refine ⟨List.nodup_cons.mpr ⟨new, h.1⟩, fun p mem => ?_⟩
    rcases List.mem_cons.mp mem with rfl | mem
    · exact Catalog.mem_namePairs reachA reachB left right
    · exact h.2 mem

theorem itinerary_grows (c : Catalog) (s : Assumed) (x y : Attribute) :
    s <:+ (itinerary c s x y).assumed := by
  rcases itinerary_assumed c s x y with same | ⟨t, u, -, -, -, look⟩
  · exact ⟨[], same.symm⟩
  · rw [look]
    exact List.suffix_cons _ _

namespace Visit

variable {v w start : Visit}

structure Belongs (c : Catalog) (a b : Attribute) (v : Visit) : Prop where
  left : c.Reaches a v.left
  right : c.Reaches b v.right
  sound : Sound c a b v.assumed

theorem Belongs.calls (h : v.Belongs c a b) (call : v.Calls c w) : w.Belongs c a b := by
  obtain ⟨before, after, depth, split, agreed⟩ := call
  have part : ∀ p ∈ before ++ (w.left, w.right) :: after,
      c.Reaches v.left p.1 ∧ c.Reaches v.right p.2 := by
    intro p mem
    rw [← split] at mem
    exact itinerary_reaches p mem
  obtain ⟨reachL, reachR⟩ :=
    part (w.left, w.right) (List.mem_append_right _ List.mem_cons_self)
  refine ⟨h.left.trans reachL, h.right.trans reachR, ?_⟩
  refine along_keeps (fun p mem s s' sound agreed => ?_) (h.sound.look h.left h.right) agreed
  obtain ⟨partL, partR⟩ := part p (List.mem_append_left _ mem)
  exact judge_keeps (fun _ _ _ reachA reachB sound => sound.look reachA reachB)
    (h.left.trans partL) (h.right.trans partR) sound agreed

theorem Belongs.reached (h : v.Belongs c a b) (path : ReflTransGen (Calls c) v w) :
    w.Belongs c a b := by
  induction path with
  | refl => exact h
  | tail _ call ih => exact ih.calls call

theorem Calls.grows (call : v.Calls c w) : v.assumed <:+ w.assumed := by
  obtain ⟨before, after, depth, split, agreed⟩ := call
  obtain ⟨-, grows, -, -⟩ := learned_along (fun _ _ _ _ => learned_of_agreed) agreed
  exact (itinerary_grows c v.assumed v.left v.right).trans grows

theorem grows_of_path (path : ReflTransGen (Calls c) v w) : v.assumed <:+ w.assumed := by
  induction path with
  | refl => exact List.suffix_refl _
  | tail _ call ih => exact ih.trans call.grows

/-- A visit at which two user types meet calls with more assumed, if it calls at all. -/
theorem Calls.oneSided (call : v.Calls c w) (back : ReflTransGen (Calls c) w v) :
    v.OneSided c w := by
  refine ⟨call, ?_⟩
  by_contra both
  rw [not_or] at both
  obtain ⟨t, left⟩ := Option.ne_none_iff_exists'.mp both.1
  obtain ⟨u, right⟩ := Option.ne_none_iff_exists'.mp both.2
  obtain ⟨before, after, depth, split, agreed⟩ := call
  by_cases known : (t.name, u.name) ∈ v.assumed
  · rw [look, itinerary_known left right known] at split
    simp at split
  · obtain ⟨-, grows, -, -⟩ := learned_along (fun _ _ _ _ => learned_of_agreed) agreed
    rw [look, itinerary_new left right known] at grows
    have longer := (grows.trans (grows_of_path back)).length_le
    rw [List.length_cons] at longer
    omega

theorem oneSided_of_path (path : TransGen (Calls c) v w) (back : ReflTransGen (Calls c) w v) :
    TransGen (OneSided c) v w := by
  induction path with
  | single call => exact .single (call.oneSided back)
  | tail path call ih =>
    exact .tail (ih (.head call back)) (call.oneSided (back.trans path.to_reflTransGen))

/-! A trail is a sequence of visits, each of which led to the one in front of it. -/

def Trail (c : Catalog) (start : Visit) (trail : List Visit) : Prop :=
  trail.Pairwise (fun v u => TransGen (Calls c) u v) ∧
    ∀ v ∈ trail, ReflTransGen (Calls c) start v

theorem Trail.cons {trail : List Visit} (h : Trail c start (v :: trail)) (call : v.Calls c w) :
    Trail c start (w :: v :: trail) := by
  refine ⟨List.pairwise_cons.mpr ⟨fun u mem => ?_, h.1⟩, fun u mem => ?_⟩
  · rcases List.mem_cons.mp mem with rfl | mem
    · exact .single call
    · exact .tail ((List.pairwise_cons.mp h.1).1 u mem) call
  · rcases List.mem_cons.mp mem with rfl | mem
    · exact .tail (h.2 v List.mem_cons_self) call
    · exact h.2 u mem

/-- All of a visit that can change while its assumptions only grow. -/
def mark (v : Visit) : Nat × Attribute × Attribute := (v.assumed.length, v.left, v.right)

def marks (c : Catalog) (a b : Attribute) : List (Nat × Attribute × Attribute) :=
  List.range (c.pairBound a b + 1) ×ˢ c.pairsBelow a b

theorem length_marks :
    (marks c a b).length = (c.pairBound a b + 1) * c.pairBound a b := by
  rw [marks, List.length_product, List.length_range, Catalog.length_pairsBelow]

theorem Belongs.mark_mem (h : v.Belongs c a b) : v.mark ∈ marks c a b := by
  refine List.mem_product.mpr ⟨List.mem_range.mpr ?_, Catalog.mem_pairsBelow h.left h.right⟩
  exact Nat.lt_succ_of_le h.sound.length_le

theorem eq_of_mark (path : TransGen (Calls c) v w) (same : v.mark = w.mark) : v = w := by
  obtain ⟨assumed, left, right⟩ := v
  obtain ⟨assumed', left', right'⟩ := w
  simp only [mark, Prod.mk.injEq] at same
  obtain ⟨lengths, rfl, rfl⟩ := same
  have grows := grows_of_path path.to_reflTransGen
  rw [show assumed = assumed' from grows.eq_of_length lengths]

theorem Trail.length_le {trail : List Visit} (h : Trail c start trail)
    (belongs : start.Belongs c a b)
    (acyclic : ∀ v, ReflTransGen (Calls c) start v → ¬ TransGen (Calls c) v v) :
    trail.length ≤ (c.pairBound a b + 1) * c.pairBound a b := by
  have nodup : (trail.map mark).Nodup := by
    refine List.pairwise_map.mpr (h.1.imp_of_mem fun {v u} memV _ path same => ?_)
    rw [eq_of_mark path same.symm] at path
    exact acyclic v (h.2 v memV) path
  have sub : trail.map mark ⊆ marks c a b := by
    intro m mem
    obtain ⟨v, memV, rfl⟩ := List.mem_map.mp mem
    exact (belongs.reached (h.2 v memV)).mark_mem
  rw [← length_marks, ← List.length_map (f := mark)]
  exact nodup.length_le_of_subset sub

/-- Each call lengthens the trail, so the depth that is left and the trail together are enough. -/
theorem Trail.endsWithin {trail : List Visit} (n : Nat) (h : Trail c start (v :: trail))
    (belongs : start.Belongs c a b)
    (acyclic : ∀ v, ReflTransGen (Calls c) start v → ¬ TransGen (Calls c) v v)
    (enough : (c.pairBound a b + 1) * c.pairBound a b ≤ n + trail.length) : v.EndsWithin c n := by
  induction n generalizing v trail with
  | zero =>
    have short := h.length_le belongs acyclic
    rw [List.length_cons] at short
    omega
  | succ n ih =>
    by_contra stuck
    obtain ⟨w, call, stuck⟩ := exists_calls stuck
    refine stuck (ih (h.cons call) ?_)
    rw [List.length_cons]
    omega

theorem belongs_start (c : Catalog) (a b : Attribute) : Belongs c a b ⟨[], a, b⟩ :=
  ⟨.refl, .refl, .nil, nofun⟩

theorem endsWithin_depthBound
    (acyclic : ∀ v, ReflTransGen (Calls c) ⟨[], a, b⟩ v → ¬ TransGen (Calls c) v v) :
    EndsWithin c (c.depthBound a b) ⟨[], a, b⟩ := by
  have trail : Trail c ⟨[], a, b⟩ [⟨[], a, b⟩] := by
    refine ⟨List.pairwise_singleton _ _, fun v mem => ?_⟩
    rw [List.mem_singleton.mp mem]
  refine trail.endsWithin (c.depthBound a b) (belongs_start c a b) acyclic ?_
  rw [Catalog.depthBound, Nat.mul_comm (c.pairBound a b + 1), Nat.mul_assoc]
  omega

/-- The comparison comes back to where it was, and no two user types met on the way. -/
def Recurs (c : Catalog) (start : Visit) : Prop :=
  ∃ v, ReflTransGen (Calls c) start v ∧ TransGen (OneSided c) v v

theorem recurs_iff : Recurs c start ↔
    ∃ v, ReflTransGen (Calls c) start v ∧ TransGen (Calls c) v v := by
  constructor
  · rintro ⟨v, path, cycle⟩
    exact ⟨v, path, TransGen.mono (fun _ _ call => call.1) _ _ cycle⟩
  · rintro ⟨v, path, cycle⟩
    exact ⟨v, path, oneSided_of_path cycle .refl⟩

theorem EndsWithin.not_recurs {n : Nat} (h : start.EndsWithin c n) : ¬ Recurs c start := by
  rw [recurs_iff]
  rintro ⟨v, path, cycle⟩
  exact not_endsWithin_of_cycle cycle n (h.reached path)

theorem endsWithin_of_not_recurs (h : ¬ Recurs c ⟨[], a, b⟩) :
    EndsWithin c (c.depthBound a b) ⟨[], a, b⟩ := by
  rw [recurs_iff] at h
  exact endsWithin_depthBound fun v path cycle => h ⟨v, path, cycle⟩

end Visit

theorem endsWithin_iff {n : Nat} {leftPath rightPath : String} :
    compareWithin c n [] a b leftPath rightPath ≠ .error .unfinished ↔
      Visit.EndsWithin c n ⟨[], a, b⟩ :=
  (compareWithin_eq_unfinished leftPath rightPath).not

/-- The comparison ends unless it comes back to a call that it is in, with user types met on one
side at a time only. -/
theorem ends_iff_not_recurs (c : Catalog) (a b : Attribute) (leftLabel rightLabel : String) :
    (∃ n, compareWithin c n [] a b leftLabel rightLabel ≠ .error .unfinished) ↔
      ¬ Visit.Recurs c ⟨[], a, b⟩ := by
  simp only [endsWithin_iff]
  constructor
  · rintro ⟨n, ends⟩
    exact ends.not_recurs
  · intro free
    exact ⟨_, Visit.endsWithin_of_not_recurs free⟩

/-! Two types of one shape, looked at half a turn apart: each array is compared with a user type. -/

namespace HalfTurn

def reference (id : TypeId) : Attribute := .ofType (.user id)

def arrayOf (element : Attribute) : Attribute := .ofType (.array element)

def nested (id : TypeId) : Attribute := arrayOf (arrayOf (reference id))

def catalog : Catalog := ⟨[{ name := "Left", body := nested 0 }, { name := "Right", body := nested 1 }]⟩

theorem reaches {id : TypeId} {x : Attribute} (known : (catalog.get id).body = nested id)
    (h : catalog.Reaches (arrayOf (reference id)) x) :
    x = arrayOf (reference id) ∨ x = reference id ∨ x = nested id := by
  induction h with
  | refl => exact .inl rfl
  | tail _ step ih =>
    rcases ih with rfl | rfl | rfl
    · cases step with
      | element shape =>
        cases shape
        exact .inr (.inl rfl)
      | body type => cases type
      | _ shape => cases shape
    · cases step with
      | body type =>
        cases type
        exact .inr (.inr known)
      | _ shape => cases shape
    · cases step with
      | element shape =>
        cases shape
        exact .inl rfl
      | body type => cases type
      | _ shape => cases shape

theorem noAliasCycle {id : TypeId} (known : (catalog.get id).body = nested id) :
    catalog.NoAliasCycle (arrayOf (reference id)) := by
  refine Catalog.noAliasCycle_of_bodies fun x t reach type => ?_
  rcases reaches known reach with rfl | rfl | rfl
  · cases type
  · cases type
    rw [known]
    rfl
  · cases type

theorem calls_only {a b x y : Attribute} (look : itinerary catalog [] a b = { assumed := [], pairs := [(x, y)] }) :
    Visit.Calls catalog ⟨[], a, b⟩ ⟨[], x, y⟩ := by
  refine ⟨[], [], 0, ?_, ?_⟩
  · simp only [Visit.look, look, List.nil_append]
  · simp only [Visit.look, look, along_nil, if_true]

theorem cycle : TransGen (Visit.Calls catalog) ⟨[], reference 0, arrayOf (reference 1)⟩
    ⟨[], reference 0, arrayOf (reference 1)⟩ := by
  have unfoldLeft : Visit.Calls catalog ⟨[], reference 0, arrayOf (reference 1)⟩
      ⟨[], nested 0, arrayOf (reference 1)⟩ := calls_only rfl
  have inside : Visit.Calls catalog ⟨[], nested 0, arrayOf (reference 1)⟩
      ⟨[], arrayOf (reference 0), reference 1⟩ := calls_only rfl
  have unfoldRight : Visit.Calls catalog ⟨[], arrayOf (reference 0), reference 1⟩
      ⟨[], arrayOf (reference 0), nested 1⟩ := calls_only rfl
  have back : Visit.Calls catalog ⟨[], arrayOf (reference 0), nested 1⟩
      ⟨[], reference 0, arrayOf (reference 1)⟩ := calls_only rfl
  exact (((TransGen.single unfoldLeft).tail inside).tail unfoldRight).tail back

end HalfTurn

theorem halfTurn_never_ends :
    ∃ (c : Catalog) (a b : Attribute), c.NoAliasCycle a ∧ c.NoAliasCycle b ∧
      ∀ n leftLabel rightLabel,
        compareWithin c n [] a b leftLabel rightLabel = .error .unfinished := by
  have left : HalfTurn.catalog.Part (HalfTurn.arrayOf (HalfTurn.reference 0))
      (HalfTurn.reference 0) := .element rfl
  refine ⟨HalfTurn.catalog, HalfTurn.reference 0, HalfTurn.arrayOf (HalfTurn.reference 1),
    (HalfTurn.noAliasCycle rfl).below left.reaches, HalfTurn.noAliasCycle rfl, fun n _ _ => ?_⟩
  exact not_not.mp (endsWithin_iff.not.mpr (Visit.not_endsWithin_of_cycle HalfTurn.cycle n))

/-- A comparison that is given up would not have ended within any depth. -/
theorem checkCompatible_unfinished_iff {leftLabel rightLabel : String} :
    c.checkCompatible a b leftLabel rightLabel = .error .unfinished ↔
      ∀ n, compareWithin c n [] a b leftLabel rightLabel = .error .unfinished := by
  rw [checkCompatible_eq_unfinished, ← compareWithin_eq_unfinished leftLabel rightLabel]
  constructor
  · intro stuck n
    by_contra ends
    have free := (endsWithin_iff.mp ends).not_recurs
    exact endsWithin_iff.mpr (Visit.endsWithin_of_not_recurs free) stuck
  · intro stuck
    exact stuck _

namespace Visit

variable {v w : Visit}

theorem Calls.inline (call : v.Calls c w) (right : c.userType? v.right = none) :
    (c.AliasStep v.left w.left ∧ w.right = v.right) ∨ w.right.nodes < v.right.nodes := by
  obtain ⟨before, after, depth, split, -⟩ := call
  have mem : (w.left, w.right) ∈ (v.look c).pairs := by
    rw [split]
    exact List.mem_append_right _ List.mem_cons_self
  cases left : c.userType? v.left with
  | some t =>
    by_cases full : v.right.type = none
    · rw [look, itinerary_right_empty (type_ne_none left) full] at mem
      cases mem
    · rw [look, itinerary_left left right full] at mem
      obtain ⟨body, same⟩ := Prod.mk.injEq .. ▸ List.mem_singleton.mp mem
      exact .inl ⟨⟨t, left, body.symm⟩, same⟩
  | none =>
    rcases Catalog.part_iff.mp (itinerary_part left right _ mem).2 with part | ⟨id, shape, -⟩
    · exact .inr (Attribute.nodes_lt_of_direct part)
    · rw [Catalog.userType?_user shape] at right
      cases right

theorem inline_of_path (inline : ∀ y, c.Reaches b y → c.userType? y = none)
    (belongs : v.Belongs c a b) (path : TransGen (Calls c) v w) :
    (TransGen c.AliasStep v.left w.left ∧ w.right = v.right) ∨ w.right.nodes < v.right.nodes := by
  induction path with
  | single call =>
    rcases call.inline (inline _ belongs.right) with ⟨step, same⟩ | less
    · exact .inl ⟨.single step, same⟩
    · exact .inr less
  | tail path call ih =>
    have there := belongs.reached path.to_reflTransGen
    rcases call.inline (inline _ there.right) with ⟨step, same⟩ | less
    · rcases ih with ⟨steps, before⟩ | before
      · exact .inl ⟨steps.tail step, same.trans before⟩
      · exact .inr (same ▸ before)
    · rcases ih with ⟨-, before⟩ | before
      · exact .inr (before ▸ less)
      · exact .inr (less.trans before)

end Visit

theorem ends_of_inline (acyclic : c.NoAliasCycle a)
    (inline : ∀ y, c.Reaches b y → c.userType? y = none) (leftLabel rightLabel : String) :
    ∃ n, compareWithin c n [] a b leftLabel rightLabel ≠ .error .unfinished := by
  refine (ends_iff_not_recurs c a b leftLabel rightLabel).mpr ?_
  rw [Visit.recurs_iff]
  rintro ⟨v, path, cycle⟩
  have belongs := (Visit.belongs_start c a b).reached path
  rcases Visit.inline_of_path inline belongs cycle with ⟨steps, -⟩ | less
  · exact acyclic _ belongs.left steps
  · exact Nat.lt_irrefl _ less

end Compatibility
end Toolbridge
