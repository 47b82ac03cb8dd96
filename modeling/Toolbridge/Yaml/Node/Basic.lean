set_option autoImplicit false

/-!
# YAML nodes

A document as a tree of nodes. A reference stands for an anchored node, which may be one of those
around it, so anchored nodes are kept in a table and looked up on reading.

Anchors are numbered by how many names there were when they came up. An anchor of a name used before
takes the number of the next new name; of several nodes with one number the last to start counts.
-/
namespace Toolbridge.Yaml

inductive Node where
  | scalar (text : String) (plain : Bool) (tag : Option String)
  | sequence (items : List Node) (tag : Option String)
  | mapping (pairs : List (Node × Node)) (tag : Option String)
  | reference (number : Nat)
deriving Inhabited

def Node.nothing (tag : Option String) : Node := .scalar "" true tag

/-- A node with an anchor, and the place in the document where it starts. -/
structure Anchored where
  number : Nat
  start : Nat
  node : Node
deriving Inhabited

/-- `size` counts every scalar and reference and both ends of every collection. -/
structure Document where
  root : Node
  anchored : List Anchored := []
  size : Nat
deriving Inhabited

def Anchored.later (best : Option Anchored) (a : Anchored) : Option Anchored :=
  match best with
  | some b => if b.start < a.start then some a else some b
  | none => some a

def Document.anchored? (d : Document) (number : Nat) : Option Node :=
  ((d.anchored.filter (·.number = number)).foldl Anchored.later none).map (·.node)

end Toolbridge.Yaml
