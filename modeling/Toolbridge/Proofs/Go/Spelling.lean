import Toolbridge.Go.TypeRef
import Toolbridge.Proofs.Attribute.Vicinity

set_option autoImplicit false

namespace Toolbridge.Go

def isIdentifierChar (ch : Char) : Bool := ch.isAlphanum || ch == '_'

section Identifiers

theorem toNat_lt_of_isAlphanum {ch : Char} (h : ch.isAlphanum) : ch.toNat < 128 := by
  change ((decide (ch.val ≥ 65 ∧ ch.val ≤ 90) || (ch.val ≥ 97 && ch.val ≤ 122)) ||
    (ch.val ≥ 48 && ch.val ≤ 57)) = true at h
  simp only [Bool.or_eq_true, Bool.and_eq_true, decide_eq_true_eq, ge_iff_le,
    UInt32.le_iff_toNat_le] at h
  change ((65 ≤ ch.toNat ∧ ch.toNat ≤ 90) ∨ (97 ≤ ch.toNat ∧ ch.toNat ≤ 122)) ∨
    (48 ≤ ch.toNat ∧ ch.toNat ≤ 57) at h
  omega

@[elab_as_elim]
theorem of_isAlphanum {P : Char → Prop} {ch : Char} (h : ch.isAlphanum)
    (ascii : ∀ n < 128, (Char.ofNat n).isAlphanum → P (Char.ofNat n)) : P ch := by
  have here := ascii ch.toNat (toNat_lt_of_isAlphanum h)
  rw [Char.ofNat_toNat] at here
  exact here h

theorem isAlphanum_cased {ch : Char} (h : ch.isAlphanum) :
    ch.toUpper.isAlphanum ∧ ch.toLower.isAlphanum :=
  of_isAlphanum h (by decide +kernel)

theorem wordsFrom_chars {word rest : List Char} (front : ∀ ch ∈ word, ch.isAlphanum) :
    ∀ w ∈ wordsFrom word rest, ∀ ch ∈ w, ch.isAlphanum := by
  have finished : ∀ ch ∈ word.reverse, ch.isAlphanum := by
    intro ch mem
    exact front ch (List.mem_reverse.mp mem)
  induction rest generalizing word with
  | nil =>
    intro w mem
    unfold wordsFrom at mem
    split at mem
    · cases mem
    · rw [List.mem_singleton.mp mem]
      exact finished
  | cons next rest ih =>
    intro w mem
    unfold wordsFrom at mem
    split at mem
    · rename_i more
      have longer : ∀ ch ∈ next :: word, ch.isAlphanum := by
        intro ch here
        rcases List.mem_cons.mp here with rfl | old
        · exact more
        · exact front ch old
      exact ih longer (fun ch here => longer ch (List.mem_reverse.mp here)) w mem
    · split at mem
      · exact ih (List.forall_mem_nil _) (List.forall_mem_nil _) w mem
      · rcases List.mem_cons.mp mem with rfl | later
        · exact finished
        · exact ih (List.forall_mem_nil _) (List.forall_mem_nil _) w later

theorem camelWord_chars {capital : Bool} {word : List Char} (chars : ∀ ch ∈ word, ch.isAlphanum) :
    ∀ ch ∈ camelWord capital word, ch.isAlphanum := by
  intro ch mem
  unfold camelWord at mem
  split at mem
  · split at mem
    · obtain ⟨old, here, rfl⟩ := List.mem_map.mp mem
      exact (isAlphanum_cased (chars old here)).1
    · obtain ⟨old, here, rfl⟩ := List.mem_map.mp mem
      exact (isAlphanum_cased (chars old here)).2
  · cases word with
    | nil => cases mem
    | cons first rest =>
      rcases List.mem_cons.mp mem with rfl | later
      · have cased := isAlphanum_cased (chars first List.mem_cons_self)
        split
        · exact cased.1
        · exact cased.2
      · exact chars ch (List.mem_cons_of_mem _ later)

theorem camelChars_chars (exported : Bool) (name : String) :
    ∀ ch ∈ camelChars exported name, ch.isAlphanum := by
  have chars : ∀ w ∈ words name, ∀ ch ∈ w, ch.isAlphanum := wordsFrom_chars (List.forall_mem_nil _)
  intro ch mem
  unfold camelChars at mem
  split at mem
  · rw [List.mem_singleton.mp mem]
    decide
  · rename_i first rest split
    rcases List.mem_append.mp mem with head | tail
    · exact camelWord_chars (chars first (split ▸ List.mem_cons_self)) ch head
    · obtain ⟨w, here, inside⟩ := List.mem_flatMap.mp tail
      exact camelWord_chars (chars w (split ▸ List.mem_cons_of_mem _ here)) ch inside

theorem identifier_chars (exported : Bool) (name : String) :
    ∀ ch ∈ (identifier exported name).toList, isIdentifierChar ch := by
  have chars : ∀ ch ∈ camelChars exported name, isIdentifierChar ch := by
    intro ch mem
    rw [isIdentifierChar, camelChars_chars exported name ch mem]
    rfl
  intro ch mem
  unfold identifier at mem
  split at mem
  · rename_i first rest split
    rw [String.toList_ofList] at mem
    rw [split] at chars
    split at mem
    · rcases List.mem_cons.mp mem with rfl | later
      · decide
      · exact chars ch later
    · exact chars ch mem
  · cases mem

end Identifiers

theorem run_unique {P : Char → Bool} {front front' run run' : List Char}
    (stop : ∀ ch ∈ front.getLast?, P ch = false) (stop' : ∀ ch ∈ front'.getLast?, P ch = false)
    (all : ∀ ch ∈ run, P ch) (all' : ∀ ch ∈ run', P ch) (same : front ++ run = front' ++ run') :
    front = front' ∧ run = run' := by
  have taken : ∀ {front run : List Char}, (∀ ch ∈ front.getLast?, P ch = false) →
      (∀ ch ∈ run, P ch) → (front ++ run).reverse.takeWhile P = run.reverse := by
    intro front run stop all
    have nothing : front.reverse.takeWhile P = [] := by
      rw [← List.head?_reverse] at stop
      cases back : front.reverse with
      | nil => rfl
      | cons last rest =>
        rw [back] at stop
        rw [List.takeWhile_cons, stop last rfl]
        rfl
    rw [List.reverse_append, List.takeWhile_append_of_pos fun ch mem => all ch
      (List.mem_reverse.mp mem), nothing, List.append_nil]
  have runs : run = run' := by
    have reversed := taken stop all
    rw [same, taken stop' all'] at reversed
    exact (List.reverse_inj.mp reversed).symm
  rw [runs] at same
  exact ⟨List.append_cancel_right same, runs⟩

section References

variable {c : Catalog} {package package' : String} {a x x' : Attribute} {id id' : TypeId}

/-- What stands in front of the identifier in the reference to a user type. -/
def stem (c : Catalog) (package : String) (x : Attribute) : String :=
  (if c.isObject x then "*" else "") ++ qualifier c package x

theorem typeRef_user (type : x.type = some (.user id)) :
    typeRef c package x = stem c package x ++ identifier true (c.get id).name := by
  obtain ⟨_, required, default⟩ := x
  obtain rfl := type
  rfl

theorem qualifier_dotted (c : Catalog) (package : String) (x : Attribute) :
    qualifier c package x = "" ∨ ∃ p, qualifier c package x = p ++ "." := by
  have each : ∀ p : String, (if p.isEmpty then "" else p ++ ".") = "" ∨
      ∃ p', (if p.isEmpty then "" else p ++ ".") = p' ++ "." := by
    intro p
    split
    · exact .inl rfl
    · exact .inr ⟨p, rfl⟩
  exact each _

theorem stem_stops (c : Catalog) (package : String) (x : Attribute) :
    ∀ ch ∈ (stem c package x).toList.getLast?, isIdentifierChar ch = false := by
  intro ch last
  unfold stem at last
  rcases qualifier_dotted c package x with none | ⟨p, dotted⟩
  · rw [none] at last
    split at last
    · cases last
      decide
    · cases last
  · have dot : ".".toList = ['.'] := rfl
    rw [dotted, String.toList_append, String.toList_append, dot, ← List.append_assoc,
      List.getLast?_concat] at last
    cases last
    decide

theorem parts_of_typeRef_eq (type : x.type = some (.user id)) (type' : x'.type = some (.user id'))
    (same : typeRef c package x = typeRef c package' x') :
    stem c package x = stem c package' x' ∧
      identifier true (c.get id).name = identifier true (c.get id').name := by
  rw [typeRef_user type, typeRef_user type'] at same
  have chars := congrArg String.toList same
  rw [String.toList_append, String.toList_append] at chars
  obtain ⟨front, run⟩ := run_unique (stem_stops c package x) (stem_stops c package' x')
    (identifier_chars true _) (identifier_chars true _) chars
  exact ⟨String.toList_injective front, String.toList_injective run⟩

/-- For one type that is placed nowhere the reference tells the package, too. -/
theorem package_eq_of_stem_eq (type : c.userType? x = c.userType? x')
    (object : c.isObject x = c.isObject x') (unplaced : c.location? x = none)
    (same : stem c package x = stem c package' x') : package = package' := by
  have unplaced' : c.location? x' = none := by
    unfold Catalog.location? at unplaced ⊢
    rw [← type]
    exact unplaced
  unfold stem at same
  rw [object] at same
  have qualifiers := (String.append_right_inj _).mp same
  unfold qualifier at qualifiers
  rw [unplaced, unplaced'] at qualifiers
  dsimp only at qualifiers
  have dotted : ∀ p : String, p ++ "." ≠ "" := by
    intro p empty
    have chars := congrArg String.toList empty
    rw [String.toList_append] at chars
    exact List.cons_ne_nil _ _ (List.append_eq_nil_iff.mp chars).2
  split at qualifiers
  · rename_i empty
    split at qualifiers
    · rename_i empty'
      rw [String.isEmpty_iff.mp empty, String.isEmpty_iff.mp empty']
    · exact absurd qualifiers.symm (dotted _)
  · split at qualifiers
    · exact absurd qualifiers (dotted _)
    · exact (String.append_left_inj _).mp qualifiers

/-- Every user type at or below the attribute has a location. -/
def Placed (c : Catalog) (a : Attribute) : Prop :=
  ∀ x t, c.Reaches a x → c.userType? x = some t → t.location ≠ none

theorem Placed.below (h : Placed c a) (path : c.Reaches a x) : Placed c x :=
  fun y t below => h y t (path.trans below)

theorem Placed.qualifier_eq (h : Placed c a) (known : (c.userType? a).isSome) :
    qualifier c package a = qualifier c package' a := by
  obtain ⟨t, type⟩ := Option.isSome_iff_exists.mp known
  obtain ⟨l, located⟩ := Option.ne_none_iff_exists'.mp (h a t .refl type)
  have here : c.location? a = some l := by
    unfold Catalog.location?
    rw [type]
    exact located
  unfold qualifier
  rw [here]

theorem memberRefs_eq {owner : Attribute} {fields : List Member}
    (each : ∀ m ∈ fields, typeRef c package m.attr = typeRef c package' m.attr) :
    memberRefs c package owner fields = memberRefs c package' owner fields := by
  induction fields with
  | nil => rfl
  | cons m rest ih =>
    obtain ⟨name, attr⟩ := m
    unfold memberRefs
    rw [each _ List.mem_cons_self, ih fun m later => each m (List.mem_cons_of_mem _ later)]

theorem Placed.typeRef_eq (h : Placed c a) (package package' : String) :
    typeRef c package a = typeRef c package' a := by
  induction a using Attribute.direct_induction with
  | step a ih =>
    have parts : ∀ b ∈ a.direct, typeRef c package b = typeRef c package' b := by
      intro b mem
      exact ih b mem (h.below (Catalog.part_iff.mpr (.inl mem)).reaches)
    obtain ⟨type, required, default⟩ := a
    cases type with
    | none => rfl
    | some type =>
      cases type with
      | primitive => rfl
      | union => rfl
      | object fields =>
        have refs : ∀ owner, memberRefs c package owner fields = memberRefs c package' owner fields :=
          fun owner => memberRefs_eq fun m mem => parts m.attr (List.mem_map_of_mem mem)
        unfold typeRef
        rw [refs]
      | array element =>
        unfold typeRef
        rw [parts element List.mem_cons_self]
      | map key value =>
        unfold typeRef
        rw [parts key List.mem_cons_self,
          parts value (List.mem_cons_of_mem _ List.mem_cons_self)]
      | user id =>
        unfold typeRef
        rw [h.qualifier_eq rfl]
      | named name body =>
        unfold typeRef
        rw [h.qualifier_eq rfl]

theorem Placed.packageOf_eq (h : Placed c a) (side side' : Side) :
    side.packageOf c a = side'.packageOf c a := by
  unfold Side.packageOf
  cases type : c.userType? a with
  | none => rfl
  | some t =>
    obtain ⟨l, located⟩ := Option.ne_none_iff_exists'.mp (h a t .refl type)
    dsimp only
    rw [located]

end References

end Toolbridge.Go
