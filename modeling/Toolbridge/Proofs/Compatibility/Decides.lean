import Toolbridge.Proofs.Compatibility.Agreement

set_option autoImplicit false

/-!
# The comparison decides equivalence of shapes

An accepting comparison leaves assumptions that are all grounded, so agreement under them is a
bisimulation once aliases have been followed. Conversely, two attributes in a bisimulation agree at
the top wherever the comparison looks, and it never finds a difference. Both directions need that a
name stands for one type and that aliases come to an end.
-/
namespace Toolbridge

namespace Compatibility

variable {c : Catalog} {S : Assumed} {a b x y r s : Attribute}

/-- Agreement under the assumptions `S`, to any depth, between what `a` and `b` lead to. -/
def Agree (c : Catalog) (S : Assumed) (a b x y : Attribute) : Prop :=
  c.Reaches a x ∧ c.Reaches b y ∧ ∃ n, AgreesWithin c S n x y

theorem sameTop_of_agreesWithin_bare {n : Nat} (reachA : c.Reaches a x) (reachB : c.Reaches b y)
    (left : c.userType? x = none) (right : c.userType? y = none)
    (h : AgreesWithin c S n x y) : SameTop (Agree c S a b) x y := by
  cases n with
  | zero => exact h.elim
  | succ n =>
    have top := (agreesWithin_bare left right).mp h
    refine (top.parts (c := c)).mono fun u v related => ?_
    obtain ⟨agrees, partX, partY⟩ := related
    exact ⟨reachA.part partX, reachB.part partY, n, agrees⟩

/-- Aliases are followed on both sides, on two sides at once with the help of the assumptions. -/
theorem sameTop_of_settles (regularA : c.Regular a) (regularB : c.Regular b)
    (grounded : ∀ p ∈ S, Grounded c S a b p) (settlesX : c.Settles x r) (settlesY : c.Settles y s)
    (h : Agree c S a b x y) : SameTop (Agree c S a b) r s := by
  induction settlesX generalizing y with
  | here left =>
    induction settlesY with
    | here right =>
      obtain ⟨reachA, reachB, n, agrees⟩ := h
      exact sameTop_of_agreesWithin_bare reachA reachB left right agrees
    | body right _ ih =>
      obtain ⟨reachA, reachB, n, agrees⟩ := h
      cases n with
      | zero => exact agrees.elim
      | succ n =>
        exact ih ⟨reachA, reachB.part (.body right), n, (agreesWithin_right left right).mp agrees⟩
  | body left _ ih =>
    obtain ⟨reachA, reachB, n, agrees⟩ := h
    cases n with
    | zero => exact agrees.elim
    | succ n =>
      cases settlesY with
      | here right =>
        exact ih (.here right)
          ⟨reachA.part (.body left), reachB, n, (agreesWithin_left left right).mp agrees⟩
      | body right rest =>
        -- the assumption may come from another place, but there it stands for the same types
        obtain ⟨x', y', t', u', m, reachX, reachY, left', right', names, bodies⟩ :=
          grounded _ ((agreesWithin_both left right).mp agrees)
        obtain ⟨nameL, nameR⟩ := Prod.mk.injEq .. ▸ names
        have sameL := regularA.named _ _ _ _ reachA reachX left left' nameL
        have sameR := regularB.named _ _ _ _ reachB reachY right right' nameR
        rw [← sameL, ← sameR] at bodies
        exact ih rest ⟨reachA.part (.body left), reachB.part (.body right), m, bodies⟩

structure Accepted (c : Catalog) (S : Assumed) (a b : Attribute) : Prop where
  left : c.Regular a
  right : c.Regular b
  grounded : ∀ p ∈ S, Grounded c S a b p
  agree : Agree c S a b a b

theorem accepted_of_agreed {n : Nat} (regularA : c.Regular a) (regularB : c.Regular b)
    (h : judge c n [] a b = .agreed S) : Accepted c S a b := by
  have learned := learned_of_agreed h
  refine ⟨regularA, regularB, fun p mem => ?_, .refl, .refl, n, learned.agrees⟩
  exact (learned.grounded p mem).resolve_left List.not_mem_nil

theorem Accepted.sameTop (h : Accepted c S a b) (agree : Agree c S a b x y) :
    SameTop (Agree c S a b) (c.resolve x) (c.resolve y) :=
  sameTop_of_settles h.left h.right h.grounded (h.left.below agree.1).settles
    (h.right.below agree.2.1).settles agree

theorem Accepted.shapeEquivalent (h : Accepted c S a b) : c.ShapeEquivalent a b :=
  ⟨Agree c S a b, h.agree, fun _ _ agree => h.sameTop agree⟩

theorem along_ne_parted {J : Assumed → Attribute → Attribute → Verdict} {pairs : List Pair}
    (each : ∀ p ∈ pairs, ∀ assumed, J assumed p.1 p.2 ≠ .parted) (assumed : Assumed) :
    Verdict.along J true assumed pairs ≠ .parted := by
  induction pairs generalizing assumed with
  | nil => simp
  | cons p rest ih =>
    rw [along_cons]
    have head := each p List.mem_cons_self assumed
    cases first : J assumed p.1 p.2 with
    | agreed assumed => exact ih (fun q mem => each q (List.mem_cons_of_mem _ mem)) assumed
    | parted => exact absurd first head
    | unfinished => nofun

theorem type_ne_none_of_resolve (regular : c.Regular a) (bare : c.userType? a = none)
    (full : (c.resolve a).isEmpty = false) : a.type ≠ none := by
  intro empty
  rw [regular.resolve_of_none bare] at full
  simp [Attribute.isEmpty, empty] at full

theorem judge_ne_parted {R : Attribute → Attribute → Prop} (bisimulation : c.IsBisimulation R)
    (n : Nat) (assumed : Assumed) (regularA : c.Regular a) (regularB : c.Regular b)
    (top : SameTop R (c.resolve a) (c.resolve b)) : judge c n assumed a b ≠ .parted := by
  induction n generalizing a b assumed with
  | zero => nofun
  | succ n ih =>
    change (itinerary c assumed a b).verdict (judge c n) ≠ .parted
    unfold Itinerary.verdict
    cases left : c.userType? a with
    | some t =>
      have topLeft := regularA.resolve_body left ▸ top
      cases right : c.userType? b with
      | some u =>
        by_cases known : (t.name, u.name) ∈ assumed
        · rw [itinerary_known left right known]
          nofun
        · rw [itinerary_new left right known, along_single]
          refine ih _ (regularA.body left) (regularB.body right) ?_
          rw [← regularB.resolve_body right]
          exact topLeft
      | none =>
        have full : b.type ≠ none :=
          type_ne_none_of_resolve regularB right (top.isEmpty_eq ▸ regularA.resolve_full left)
        rw [itinerary_left left right full, along_single]
        exact ih _ (regularA.body left) regularB topLeft
    | none =>
      cases right : c.userType? b with
      | some u =>
        have full : a.type ≠ none :=
          type_ne_none_of_resolve regularA left (top.isEmpty_eq ▸ regularB.resolve_full right)
        rw [itinerary_right left right full, along_single]
        refine ih _ regularA (regularB.body right) ?_
        rw [← regularB.resolve_body right]
        exact top
      | none =>
        rw [regularA.resolve_of_none left, regularB.resolve_of_none right] at top
        obtain ⟨agrees, parts⟩ := itinerary_of_sameTop assumed left right top
        rw [agrees]
        refine along_ne_parted (fun p mem s => ?_) _
        obtain ⟨reachA, reachB⟩ := itinerary_reaches p mem
        exact ih s (regularA.below reachA) (regularB.below reachB)
          (bisimulation _ _ (parts p mem))

/-- Whenever the comparison ends, it accepts two attributes just if their shapes are equivalent. -/
theorem checkCompatible_iff_shapeEquivalent (leftLabel rightLabel : String)
    (regularA : c.Regular a) (regularB : c.Regular b)
    (ends : c.checkCompatible a b leftLabel rightLabel ≠ .error .unfinished) :
    c.checkCompatible a b leftLabel rightLabel = .ok () ↔ c.ShapeEquivalent a b := by
  rw [checkCompatible_eq_ok]
  constructor
  · rintro ⟨S, agreed⟩
    exact (accepted_of_agreed regularA regularB agreed).shapeEquivalent
  · rintro ⟨R, related, bisimulation⟩
    have notParted := judge_ne_parted bisimulation (c.depthBound a b) [] regularA regularB
      (bisimulation a b related)
    rw [Ne, checkCompatible_eq_unfinished] at ends
    cases h : judge c (c.depthBound a b) [] a b with
    | agreed S => exact ⟨S, rfl⟩
    | parted => exact absurd h notParted
    | unfinished => exact absurd h ends

/-! Two recursive types with one shape. -/

namespace Twins

def reference (id : TypeId) : Attribute := .ofType (.user id)

def chain (id : TypeId) : Attribute := .ofType (.object [⟨"next", reference id⟩])

def catalog : Catalog := ⟨[{ name := "Chain", body := chain 0 }, { name := "Link", body := chain 1 }]⟩

theorem reaches {id : TypeId} (known : (catalog.get id).body = chain id)
    (h : catalog.Reaches (reference id) x) : x = reference id ∨ x = chain id := by
  induction h with
  | refl => exact .inl rfl
  | tail _ step ih =>
    rcases ih with rfl | rfl
    · cases step with
      | body type =>
        cases type
        exact .inr known
      | _ shape => cases shape
    · cases step with
      | field shape mem =>
        cases shape
        rw [List.mem_singleton.mp mem]
        exact .inl rfl
      | body type => cases type
      | _ shape => cases shape

theorem regular {id : TypeId} (known : (catalog.get id).body = chain id) :
    catalog.Regular (reference id) := by
  have only : ∀ y t, catalog.Reaches (reference id) y → catalog.userType? y = some t →
      t = catalog.get id := by
    intro y t reach type
    rcases reaches known reach with rfl | rfl
    · exact (Option.some.inj type).symm
    · cases type
  refine ⟨Catalog.noAliasCycle_of_bodies fun y t reach type => ?_, ?_, fun y t reach type => ?_⟩
  · rw [only y t reach type, known]
    rfl
  · intro y z t u reachY reachZ left right _
    rw [only y t reachY left, only z u reachZ right]
  · rw [only y t reach type, known]
    rfl

end Twins

theorem twins_shapeEquivalent :
    Twins.catalog.Regular (Twins.reference 0) ∧ Twins.catalog.Regular (Twins.reference 1) ∧
      Twins.catalog.ShapeEquivalent (Twins.reference 0) (Twins.reference 1) := by
  have regularA : Twins.catalog.Regular (Twins.reference 0) := Twins.regular rfl
  have regularB : Twins.catalog.Regular (Twins.reference 1) := Twins.regular rfl
  have accepted :
      Twins.catalog.checkCompatible (Twins.reference 0) (Twins.reference 1) "" "" = .ok () := rfl
  have ends : Twins.catalog.checkCompatible (Twins.reference 0) (Twins.reference 1) "" "" ≠
      .error .unfinished := by
    rw [accepted]
    nofun
  exact ⟨regularA, regularB,
    (checkCompatible_iff_shapeEquivalent "" "" regularA regularB ends).mp accepted⟩

end Compatibility
end Toolbridge
