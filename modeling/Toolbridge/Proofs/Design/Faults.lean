import Mathlib.Data.List.Lex
import Toolbridge.Design.Loading

set_option autoImplicit false

namespace Toolbridge.Design

/-- Which items to enter on the way down from the document, in lexicographic order. -/
abbrev Place := List Nat

/-- Which faults stand at which places. -/
abbrev FaultsAt := Place → NamingFault → Prop

section Declarations

variable {α : Type} (name : α → String) (unnamed : NamingFault) (twice : String → NamingFault)
  (inner : α → FaultsAt)

/-- The faults of a list of declarations: an item without a name, an item with a name that is taken
or stands at an earlier item, and the faults inside of the items. -/
inductive DeclaredAt (taken : List String) (items : List α) : Place → NamingFault → Prop
  | unnamed {i : Nat} {a : α} (here : items[i]? = some a) (empty : name a = "") :
      DeclaredAt taken items [i] unnamed
  | twice {i : Nat} {a : α} (here : items[i]? = some a) (named : name a ≠ "")
      (again : name a ∈ taken ++ (items.take i).map name) :
      DeclaredAt taken items [i] (twice (name a))
  | inside {i : Nat} {a : α} {place : Place} {fault : NamingFault} (here : items[i]? = some a)
      (within : inner a place fault) : DeclaredAt taken items (i :: place) fault

end Declarations

inductive ToolDecl.FaultAt (toolset : String) (t : ToolDecl) : Place → NamingFault → Prop
  | incomplete {i : Nat} {p : ProjectionDecl} (here : t.serverData[i]? = some p)
      (missing : p.kind = "" ∨ p.field = "") :
      FaultAt toolset t [i] (.serverDataIncomplete toolset t.name)

def ToolsetDecl.FaultAt (s : ToolsetDecl) : FaultsAt :=
  DeclaredAt ToolDecl.name (.toolUnnamed s.name) (.toolTwice s.name) (ToolDecl.FaultAt s.name) []
    s.tools

/-- The own service stands in front of the services, and these in front of the toolsets. -/
inductive DesignDoc.FaultAt (d : DesignDoc) : Place → NamingFault → Prop
  | ownService (empty : d.service.name = "") : FaultAt d [0] .ownServiceUnnamed
  | service {place : Place} {fault : NamingFault}
      (here : DeclaredAt ServiceDecl.name .serviceUnnamed .serviceTwice (fun _ _ _ => False)
        [d.service.name] d.services place fault) : FaultAt d (1 :: place) fault
  | toolset {place : Place} {fault : NamingFault}
      (here : DeclaredAt ToolsetDecl.name .toolsetUnnamed .toolsetTwice ToolsetDecl.FaultAt []
        d.toolsets place fault) : FaultAt d (2 :: place) fault

structure DesignDoc.WellNamed (d : DesignDoc) : Prop where
  ownService : d.service.name ≠ ""
  services : ∀ s ∈ d.services, s.name ≠ "" ∧ s.name ≠ d.service.name
  servicesApart : (d.services.map (·.name)).Nodup
  toolsets : ∀ s ∈ d.toolsets, s.name ≠ ""
  toolsetsApart : (d.toolsets.map (·.name)).Nodup
  tools : ∀ s ∈ d.toolsets, ∀ t ∈ s.tools, t.name ≠ ""
  toolsApart : ∀ s ∈ d.toolsets, (s.tools.map (·.name)).Nodup
  serverData : ∀ s ∈ d.toolsets, ∀ t ∈ s.tools, ∀ p ∈ t.serverData, p.kind ≠ "" ∧ p.field ≠ ""

/-- The list starts with the fault at the first place, and is empty just if there is no fault. -/
inductive Leads (F : FaultsAt) : List NamingFault → Prop
  | nothing (faultless : ∀ place fault, ¬ F place fault) : Leads F []
  | first {place : Place} {fault : NamingFault} {rest : List NamingFault} (here : F place fault)
      (least : ∀ place' fault', F place' fault' →
        place' = place ∧ fault' = fault ∨ place < place') : Leads F (fault :: rest)

section Leads

variable {F G : FaultsAt} {faults more : List NamingFault}

theorem Leads.congr (h : Leads F faults) (same : ∀ place fault, F place fault ↔ G place fault) :
    Leads G faults := by
  obtain rfl : F = G := funext₂ fun place fault => propext (same place fault)
  exact h

theorem leads_nothing : Leads (fun _ _ => False) [] := .nothing fun _ _ => id

theorem leads_single (place : Place) (fault : NamingFault) :
    Leads (fun place' fault' => place' = place ∧ fault' = fault) [fault] :=
  .first ⟨rfl, rfl⟩ fun _ _ => .inl

theorem Leads.append (h : Leads F faults) (h' : Leads G more)
    (before : ∀ place fault place' fault', F place fault → G place' fault' → place < place') :
    Leads (fun place fault => F place fault ∨ G place fault) (faults ++ more) := by
  cases h with
  | nothing none => exact h'.congr fun place fault => (or_iff_right (none place fault)).symm
  | first here least =>
    refine .first (.inl here) fun place' fault' there => ?_
    rcases there with there | there
    · exact least place' fault' there
    · exact .inr (before _ _ _ _ here there)

/-- The order stays if the places are carried to others in their order. -/
theorem Leads.moved (h : Leads F faults) (move : Place → Place)
    (keeps : ∀ place fault place' fault', F place fault → F place' fault' → place < place' →
      move place < move place') :
    Leads (fun place fault => ∃ origin, place = move origin ∧ F origin fault) faults := by
  cases h with
  | nothing none => exact .nothing fun _ fault ⟨origin, _, there⟩ => none origin fault there
  | first here least =>
    refine .first ⟨_, rfl, here⟩ ?_
    rintro _ fault' ⟨origin, rfl, there⟩
    rcases least origin fault' there with ⟨rfl, rfl⟩ | later
    · exact .inl ⟨rfl, rfl⟩
    · exact .inr (keeps _ _ _ _ here there later)

theorem Leads.under (h : Leads F faults) (i : Nat) :
    Leads (fun place fault => ∃ origin, place = i :: origin ∧ F origin fault) faults :=
  h.moved (i :: ·) fun _ _ _ _ _ _ later => List.cons_lt_cons_iff.mpr (.inr ⟨rfl, later⟩)

theorem Leads.head?_eq_some_iff (h : Leads F faults) {fault : NamingFault} :
    faults.head? = some fault ↔
      ∃ place, F place fault ∧ ∀ earlier other, F earlier other → ¬ earlier < place := by
  cases h with
  | nothing none => exact iff_of_false nofun fun ⟨place, here, _⟩ => none place fault here
  | @first place first rest here least =>
    rw [List.head?_cons, Option.some.injEq]
    constructor
    · rintro rfl
      refine ⟨place, here, fun earlier other there before => ?_⟩
      rcases least earlier other there with ⟨rfl, -⟩ | later
      · exact lt_irrefl _ before
      · exact lt_asymm before later
    · rintro ⟨place', there, minimal⟩
      rcases least place' fault there with ⟨-, rfl⟩ | later
      · rfl
      · exact absurd later (minimal place first here)

end Leads

section Declarations

variable {α : Type} {name : α → String} {unnamed : NamingFault} {twice : String → NamingFault}
  {innerAt : α → FaultsAt} {inner : α → List NamingFault} {taken : List String} {items : List α}
  {a : α} {place : Place} {fault : NamingFault}

/-- The faults of the first item, if `used` are the names that are taken. -/
def OwnFault (name : α → String) (unnamed : NamingFault) (twice : String → NamingFault)
    (taken : List String) (a : α) (fault : NamingFault) : Prop :=
  name a = "" ∧ fault = unnamed ∨ name a ≠ "" ∧ name a ∈ taken ∧ fault = twice (name a)

theorem declaredAt_cons :
    DeclaredAt name unnamed twice innerAt taken (a :: items) place fault ↔
      ((place = [0] ∧ OwnFault name unnamed twice taken a fault) ∨
        ∃ origin, place = 0 :: origin ∧ innerAt a origin fault) ∨
      ∃ i below, place = (i + 1) :: below ∧
        DeclaredAt name unnamed twice innerAt (name a :: taken) items (i :: below) fault := by
  have later : ∀ (b : α) (i : Nat), name b ∈ taken ++ ((a :: items).take (i + 1)).map name ↔
      name b ∈ (name a :: taken) ++ (items.take i).map name := by
    intro b i
    simp only [List.take_succ_cons, List.map_cons, List.mem_append, List.mem_cons]
    exact or_left_comm.trans or_assoc.symm
  constructor
  · intro declared
    cases declared with
    | @unnamed i b here empty =>
      cases i with
      | zero =>
        cases here
        exact .inl (.inl ⟨rfl, .inl ⟨empty, rfl⟩⟩)
      | succ i => exact .inr ⟨i, [], rfl, .unnamed here empty⟩
    | @twice i b here named again =>
      cases i with
      | zero =>
        cases here
        exact .inl (.inl ⟨rfl, .inr ⟨named, by simpa using again, rfl⟩⟩)
      | succ i => exact .inr ⟨i, [], rfl, .twice here named ((later b i).mp again)⟩
    | @inside i b below fault here within =>
      cases i with
      | zero =>
        cases here
        exact .inl (.inr ⟨below, rfl, within⟩)
      | succ i => exact .inr ⟨i, below, rfl, .inside here within⟩
  · rintro ((⟨rfl, ⟨empty, rfl⟩ | ⟨named, used, rfl⟩⟩ | ⟨origin, rfl, within⟩) |
      ⟨i, below, rfl, declared⟩)
    · exact .unnamed rfl empty
    · exact .twice rfl named (by simpa using used)
    · exact .inside rfl within
    · cases declared with
      | unnamed here empty => exact .unnamed here empty
      | twice here named again => exact .twice here named ((later _ _).mpr again)
      | inside here within => exact .inside here within

theorem leads_own :
    Leads (fun place fault => place = [0] ∧ OwnFault name unnamed twice taken a fault)
      (if (name a).isEmpty then [unnamed]
        else if name a ∈ taken then [twice (name a)] else []) := by
  by_cases empty : name a = ""
  · rw [if_pos (String.isEmpty_iff.mpr empty)]
    refine (leads_single [0] unnamed).congr fun place fault => ?_
    simp [OwnFault, empty]
  · rw [if_neg (mt String.isEmpty_iff.mp empty)]
    by_cases used : name a ∈ taken
    · rw [if_pos used]
      refine (leads_single [0] (twice (name a))).congr fun place fault => ?_
      simp [OwnFault, empty, used]
    · rw [if_neg used]
      refine leads_nothing.congr fun place fault => ?_
      simp [OwnFault, empty, used]

theorem DeclaredAt.ne_nil
    (declared : DeclaredAt name unnamed twice innerAt taken items place fault) : place ≠ [] := by
  cases declared <;> exact List.cons_ne_nil _ _

def Place.next : Place → Place
  | [] => []
  | i :: below => (i + 1) :: below

theorem Place.next_lt_next {place place' : Place} (nonempty : place ≠ []) (before : place < place') :
    place.next < place'.next := by
  cases place with
  | nil => exact absurd rfl nonempty
  | cons i below =>
    cases place' with
    | nil => exact absurd before (List.not_lt_nil _)
    | cons j below' =>
      rw [List.cons_lt_cons_iff] at before
      exact List.cons_lt_cons_iff.mpr (before.imp Nat.succ_lt_succ fun ⟨same, later⟩ =>
        ⟨congrArg Nat.succ same, later⟩)

theorem leads_declared (deep : ∀ a place fault, innerAt a place fault → place ≠ [])
    (each : ∀ a ∈ items, Leads (innerAt a) (inner a)) :
    Leads (DeclaredAt name unnamed twice innerAt taken items)
      (declaredFaults name unnamed twice inner taken items) := by
  induction items generalizing taken with
  | nil =>
    refine .nothing fun place fault declared => ?_
    cases declared with
    | unnamed here => cases here
    | twice here => cases here
    | inside here => cases here
  | cons a rest ih =>
    obtain ⟨here, others⟩ := List.forall_mem_cons.mp each
    have own : Leads (fun place fault => place = [0] ∧ OwnFault name unnamed twice taken a fault)
        (if (name a).isEmpty then [unnamed]
          else if name a ∈ taken then [twice (name a)] else []) := leads_own
    -- an item comes before what is inside of it, and both come before the other items
    have first := own.append (here.under 0) (by
      rintro _ _ _ fault ⟨rfl, -⟩ ⟨origin, rfl, within⟩
      obtain ⟨i, below, rfl⟩ := List.exists_cons_of_ne_nil (deep a origin fault within)
      exact List.cons_lt_cons_iff.mpr (.inr ⟨rfl, List.nil_lt_cons _ _⟩))
    have behind : Leads (DeclaredAt name unnamed twice innerAt (name a :: taken) rest)
        (declaredFaults name unnamed twice inner (name a :: taken) rest) := ih others
    have later := behind.moved Place.next
      fun _ _ _ _ declared _ => Place.next_lt_next declared.ne_nil
    refine (first.append later ?_).congr fun place fault => ?_
    · rintro _ _ _ _ before ⟨origin, rfl, declared⟩
      obtain ⟨i, below, rfl⟩ := List.exists_cons_of_ne_nil declared.ne_nil
      rcases before with ⟨rfl, -⟩ | ⟨_, rfl, -⟩ <;>
        exact List.cons_lt_cons_iff.mpr (.inl (Nat.succ_pos i))
    · refine .trans (or_congr_right ?_) declaredAt_cons.symm
      constructor
      · rintro ⟨origin, rfl, declared⟩
        obtain ⟨i, below, rfl⟩ := List.exists_cons_of_ne_nil declared.ne_nil
        exact ⟨i, below, rfl, declared⟩
      · rintro ⟨i, below, rfl, declared⟩
        exact ⟨i :: below, rfl, declared⟩

end Declarations

theorem ProjectionDecl.isComplete_eq_false_iff {p : ProjectionDecl} :
    p.isComplete = false ↔ p.kind = "" ∨ p.field = "" := by
  unfold isComplete
  rw [Bool.and_eq_false_iff, Bool.not_eq_false', Bool.not_eq_false', String.isEmpty_iff,
    String.isEmpty_iff]

theorem leads_incomplete (fault : NamingFault) (ps : List ProjectionDecl) :
    Leads (fun place other => ∃ i p, ps[i]? = some p ∧ p.isComplete = false ∧ place = [i] ∧
      other = fault) ((ps.filter fun p => !p.isComplete).map fun _ => fault) := by
  induction ps with
  | nil => exact .nothing fun place other ⟨i, p, here, _⟩ => nomatch here
  | cons p rest ih =>
    cases complete : p.isComplete with
    | false =>
      rw [List.filter_cons_of_pos (by rw [complete]; rfl), List.map_cons]
      refine .first ⟨0, p, rfl, complete, rfl, rfl⟩ ?_
      rintro _ _ ⟨i, q, here, incomplete, rfl, rfl⟩
      cases i with
      | zero => exact .inl ⟨rfl, rfl⟩
      | succ i => exact .inr (List.cons_lt_cons_iff.mpr (.inl (Nat.succ_pos i)))
    | true =>
      rw [List.filter_cons_of_neg (by rw [complete]; decide)]
      refine (ih.moved Place.next ?_).congr fun place other => ⟨?_, ?_⟩
      · rintro _ _ _ _ ⟨i, q, -, -, rfl, -⟩ - before
        exact Place.next_lt_next (List.cons_ne_nil _ _) before
      · rintro ⟨_, rfl, i, q, here, incomplete, rfl, rfl⟩
        exact ⟨i + 1, q, here, incomplete, rfl, rfl⟩
      · rintro ⟨i, q, here, incomplete, rfl, rfl⟩
        cases i with
        | zero =>
          obtain rfl := Option.some.inj here
          exact nomatch complete.symm.trans incomplete
        | succ i => exact ⟨[i], rfl, i, q, here, incomplete, rfl, rfl⟩

theorem ToolDecl.leads_faults (toolset : String) (t : ToolDecl) :
    Leads (t.FaultAt toolset) (t.faults toolset) := by
  refine (leads_incomplete (.serverDataIncomplete toolset t.name) t.serverData).congr
    fun place fault => ⟨?_, ?_⟩
  · rintro ⟨i, p, here, incomplete, rfl, rfl⟩
    exact .incomplete here (ProjectionDecl.isComplete_eq_false_iff.mp incomplete)
  · rintro ⟨here, missing⟩
    exact ⟨_, _, here, ProjectionDecl.isComplete_eq_false_iff.mpr missing, rfl, rfl⟩

theorem ToolsetDecl.leads_faults (s : ToolsetDecl) : Leads s.FaultAt s.faults := by
  refine leads_declared (fun t place fault within => ?_) fun t _ => t.leads_faults s.name
  cases within
  exact List.cons_ne_nil _ _

theorem DesignDoc.leads_faults (d : DesignDoc) : Leads d.FaultAt d.faults := by
  have own : Leads
      (fun place fault => place = [0] ∧ d.service.name = "" ∧ fault = .ownServiceUnnamed)
      (if d.service.name.isEmpty then [.ownServiceUnnamed] else []) := by
    by_cases empty : d.service.name = ""
    · rw [if_pos (String.isEmpty_iff.mpr empty)]
      refine (leads_single [0] .ownServiceUnnamed).congr fun place fault => ?_
      rw [eq_true empty, true_and]
    · rw [if_neg (mt String.isEmpty_iff.mp empty)]
      exact .nothing fun place fault there => empty there.2.1
  have services : Leads (DeclaredAt ServiceDecl.name .serviceUnnamed .serviceTwice
      (fun _ _ _ => False) [d.service.name] d.services) _ :=
    leads_declared (fun _ _ _ => False.elim) fun _ _ => leads_nothing
  have toolsets : Leads (DeclaredAt ToolsetDecl.name .toolsetUnnamed .toolsetTwice
      ToolsetDecl.FaultAt [] d.toolsets) _ :=
    leads_declared (fun s _ _ within => DeclaredAt.ne_nil within) fun s _ => s.leads_faults
  refine ((own.append (services.under 1) ?_).append (toolsets.under 2) ?_).congr
    fun place fault => ?_
  · rintro _ _ _ _ ⟨rfl, -⟩ ⟨origin, rfl, -⟩
    exact List.cons_lt_cons_iff.mpr (.inl Nat.one_pos)
  · rintro _ _ _ _ before ⟨origin, rfl, -⟩
    rcases before with ⟨rfl, -⟩ | ⟨_, rfl, -⟩
    · exact List.cons_lt_cons_iff.mpr (.inl Nat.two_pos)
    · exact List.cons_lt_cons_iff.mpr (.inl Nat.one_lt_two)
  · constructor
    · rintro ((⟨rfl, empty, rfl⟩ | ⟨origin, rfl, here⟩) | ⟨origin, rfl, here⟩)
      · exact .ownService empty
      · exact .service here
      · exact .toolset here
    · intro there
      cases there with
      | ownService empty => exact .inl (.inl ⟨rfl, empty, rfl⟩)
      | service here => exact .inl (.inr ⟨_, rfl, here⟩)
      | toolset here => exact .inr ⟨_, rfl, here⟩

theorem ToolDecl.faults_eq_nil_iff {toolset : String} {t : ToolDecl} :
    t.faults toolset = [] ↔ ∀ p ∈ t.serverData, p.kind ≠ "" ∧ p.field ≠ "" := by
  unfold faults
  rw [List.map_eq_nil_iff, List.filter_eq_nil_iff]
  refine forall₂_congr fun p _ => ?_
  rw [Bool.not_eq_true', ProjectionDecl.isComplete_eq_false_iff, not_or]

theorem ToolsetDecl.faults_eq_nil_iff {s : ToolsetDecl} : s.faults = [] ↔
    (∀ t ∈ s.tools, t.name ≠ "" ∧ ∀ p ∈ t.serverData, p.kind ≠ "" ∧ p.field ≠ "") ∧
      (s.tools.map (·.name)).Nodup := by
  unfold faults
  rw [declaredFaults_eq_nil_iff]
  refine and_congr_left' (forall₂_congr fun t _ => and_congr_right' ?_)
  rw [ToolDecl.faults_eq_nil_iff, and_iff_right List.not_mem_nil]

theorem DesignDoc.faults_eq_nil_iff (d : DesignDoc) : d.faults = [] ↔ d.WellNamed := by
  unfold faults
  rw [List.append_eq_nil_iff, List.append_eq_nil_iff, declaredFaults_eq_nil_iff,
    declaredFaults_eq_nil_iff]
  constructor
  · rintro ⟨⟨own, services, servicesApart⟩, toolsets, toolsetsApart⟩
    have tools := fun s mem => ToolsetDecl.faults_eq_nil_iff.mp (toolsets s mem).2.2
    refine ⟨fun empty => ?_, fun s mem => ⟨(services s mem).1, ?_⟩, servicesApart,
      fun s mem => (toolsets s mem).1, toolsetsApart,
      fun s mem t memT => ((tools s mem).1 t memT).1, fun s mem => (tools s mem).2,
      fun s mem t memT => ((tools s mem).1 t memT).2⟩
    · rw [if_pos (String.isEmpty_iff.mpr empty)] at own
      cases own
    · exact fun same => (services s mem).2.1 (List.mem_singleton.mpr same)
  · intro h
    refine ⟨⟨if_neg (mt String.isEmpty_iff.mp h.ownService), fun s mem => ?_, h.servicesApart⟩,
      fun s mem => ⟨h.toolsets s mem, List.not_mem_nil, ?_⟩, h.toolsetsApart⟩
    · obtain ⟨named, apart⟩ := h.services s mem
      exact ⟨named, fun taken => apart (List.mem_singleton.mp taken), rfl⟩
    · exact ToolsetDecl.faults_eq_nil_iff.mpr
        ⟨fun t memT => ⟨h.tools s mem t memT, h.serverData s mem t memT⟩, h.toolsApart s mem⟩

theorem checkNames_eq_error_iff (d : DesignDoc) (e : DesignError) :
    d.checkNames = .error e ↔ ∃ fault, e = .naming fault ∧ d.faults.head? = some fault := by
  unfold DesignDoc.checkNames DesignDoc.firstFault?
  cases d.faults.head? with
  | none => exact iff_of_false nofun fun ⟨_, _, least⟩ => nomatch least
  | some fault =>
    rw [Except.error.injEq]
    constructor
    · exact fun same => ⟨fault, same.symm, rfl⟩
    · rintro ⟨_, same, here⟩
      cases here
      exact same.symm

/-- The check passes just the well-named designs, and of any other it reports the fault at the first
place that has one. -/
theorem checkNames_decides (d : DesignDoc) :
    (d.checkNames = .ok () ↔ d.WellNamed) ∧
    ∀ e, d.checkNames = .error e ↔ ∃ fault place, e = .naming fault ∧ d.FaultAt place fault ∧
      ∀ earlier other, d.FaultAt earlier other → ¬ earlier < place := by
  refine ⟨(checkNames_eq_ok_iff d).trans d.faults_eq_nil_iff, fun e => ?_⟩
  rw [checkNames_eq_error_iff]
  refine exists_congr fun fault => ?_
  rw [d.leads_faults.head?_eq_some_iff, exists_and_left]

example :
    let tool (kind : String) : ToolDecl :=
      { name := "read", serverData := [{ kind, field := "id" }] }
    let doc (kind : String) : DesignDoc :=
      { service := { name := "alpha" },
        toolsets := [{ name := "docs", tools := [tool kind, tool "label"] }, { name := "docs" }] }
    (doc "label").checkNames = .error (.naming (.toolTwice "docs" "read")) ∧
      (doc "").checkNames = .error (.naming (.serverDataIncomplete "docs" "read")) := by
  decide +kernel

end Toolbridge.Design
