import Toolbridge.Design.Document

set_option autoImplicit false

/-!
# Names in a design

What is declared has a name, and no two things of a kind share one: services with the design's own
service, toolsets, and the tools of a toolset. Server data has both a kind and a field. The faults of
a design stand in document order, a toolset's own before those of its tools and a tool's own before
those of its server data; the first one counts.
-/
namespace Toolbridge.Design

inductive NamingFault where
  | ownServiceUnnamed
  | serviceUnnamed
  | serviceTwice (service : String)
  | toolsetUnnamed
  | toolsetTwice (toolset : String)
  | toolUnnamed (toolset : String)
  | toolTwice (toolset tool : String)
  | serverDataIncomplete (toolset tool : String)
deriving DecidableEq, Repr

def NamingFault.message : NamingFault → String
  | .ownServiceUnnamed => "Missing required field: service.name"
  | .serviceUnnamed => "Missing required field: services[].name"
  | .serviceTwice service => "Validation error: service " ++ service ++ " is declared twice"
  | .toolsetUnnamed => "Missing required field: toolsets[].name"
  | .toolsetTwice toolset => "Validation error: toolset " ++ toolset ++ " is declared twice"
  | .toolUnnamed toolset => "Missing required field: toolsets." ++ toolset ++ ".tools[].name"
  | .toolTwice toolset tool =>
    "Validation error: tool " ++ toolset ++ "." ++ tool ++ " is declared twice"
  | .serverDataIncomplete toolset tool =>
    "Missing required field: toolsets." ++ toolset ++ ".tools." ++ tool
      ++ ".server_data[] needs both kind and field"

/-- The faults of a list of declarations, each item's own before those inside of it. `taken` holds
the names that are used up. -/
def declaredFaults {α : Type} (name : α → String) (unnamed : NamingFault)
    (twice : String → NamingFault) (inner : α → List NamingFault) :
    List String → List α → List NamingFault
  | _, [] => []
  | taken, a :: rest =>
    (if (name a).isEmpty then [unnamed] else if name a ∈ taken then [twice (name a)] else [])
      ++ inner a ++ declaredFaults name unnamed twice inner (name a :: taken) rest

def ProjectionDecl.isComplete (p : ProjectionDecl) : Bool := !p.kind.isEmpty && !p.field.isEmpty

def ToolDecl.faults (toolset : String) (t : ToolDecl) : List NamingFault :=
  (t.serverData.filter fun p => !p.isComplete).map fun _ => .serverDataIncomplete toolset t.name

def ToolsetDecl.faults (s : ToolsetDecl) : List NamingFault :=
  declaredFaults ToolDecl.name (.toolUnnamed s.name) (.toolTwice s.name) (·.faults s.name) []
    s.tools

def DesignDoc.faults (d : DesignDoc) : List NamingFault :=
  (if d.service.name.isEmpty then [.ownServiceUnnamed] else [])
    ++ declaredFaults ServiceDecl.name .serviceUnnamed .serviceTwice (fun _ => [])
      [d.service.name] d.services
    ++ declaredFaults ToolsetDecl.name .toolsetUnnamed .toolsetTwice ToolsetDecl.faults []
      d.toolsets

def DesignDoc.firstFault? (d : DesignDoc) : Option NamingFault := d.faults.head?

theorem declaredFaults_eq_nil_iff {α : Type} {name : α → String} {unnamed : NamingFault}
    {twice : String → NamingFault} {inner : α → List NamingFault} {taken : List String}
    {items : List α} :
    declaredFaults name unnamed twice inner taken items = [] ↔
      (∀ a ∈ items, name a ≠ "" ∧ name a ∉ taken ∧ inner a = [])
        ∧ (items.map name).Nodup := by
  induction items generalizing taken with
  | nil => simp [declaredFaults]
  | cons a rest ih =>
    simp only [declaredFaults, List.append_eq_nil_iff, ih, List.mem_cons, List.map_cons,
      List.nodup_cons, List.mem_map, String.isEmpty_iff]
    by_cases empty : name a = ""
    · simp [empty]
    · by_cases used : name a ∈ taken
      · simp [empty, used]
      · simp only [empty, used, if_false]
        grind

end Toolbridge.Design
