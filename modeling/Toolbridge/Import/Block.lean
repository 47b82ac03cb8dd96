import Toolbridge.Import.Collection
import Toolbridge.Text.NameSet

set_option autoImplicit false

/-!
# Import blocks

An import block gives every import a name that no other path holds. A name can be asked for, which
fails where another path holds it, or is derived from the last segment of the path and numbered from
two on where it is taken.

Imports are gathered in any order before the block is assembled: the first import leads, all names
asked for are reserved, and then the rest follows by path and name.
-/
namespace Toolbridge

structure NameCollision where
  name : String
  existing : String
  path : String
deriving DecidableEq, Repr

/-- The entries in order, and who holds which name. A name can be held without an entry. -/
structure ImportBlock where
  entries : List Import := []
  holders : List (String × String) := []
deriving DecidableEq, Repr, Inhabited

namespace ImportBlock

def holder? (b : ImportBlock) (name : String) : Option String := b.holders.lookup name

def nameOf? (b : ImportBlock) (path : String) : Option String :=
  (b.entries.find? (·.path == path)).bind (·.name)

/-- The block afterwards, and the collision if the name is held by another path. -/
def reserve (b : ImportBlock) (path name : String) : ImportBlock × Option NameCollision :=
  match b.holder? name with
  | some existing => (b, if existing = path then none else some ⟨name, existing, path⟩)
  | none => ({ b with holders := (name, path) :: b.holders }, none)

def addNamed (b : ImportBlock) (path name : String) : ImportBlock × Option NameCollision :=
  match b.reserve path name with
  | (b, some e) => (b, some e)
  | (b, none) =>
    if b.entries.contains ⟨path, some name⟩ then (b, none)
    else ({ b with entries := b.entries ++ [⟨path, some name⟩] }, none)

/-- The base and its numbered forms, one more than there are holders. -/
def candidates (b : ImportBlock) (base : String) : List String :=
  base :: (List.range b.holders.length).map fun i => base ++ toString (i + 2)

def freeName (b : ImportBlock) (base : String) : String :=
  ((b.candidates base).find? fun name => (b.holder? name).isNone).getD base

def add (b : ImportBlock) (path : String) : String × ImportBlock :=
  match b.nameOf? path with
  | some name => (name, b)
  | none =>
    let name := b.freeName (Go.packageName (lastSegment '/' path))
    (name, { entries := b.entries ++ [⟨path, some name⟩], holders := (name, path) :: b.holders })

end ImportBlock

/-- Imports asked for, in the order of their paths, each with the names asked for in order. -/
structure PendingImports where
  entries : List (String × List String) := []
deriving DecidableEq, Repr, Inhabited

namespace PendingImports

def insert (path : String) (name : Option String) :
    List (String × List String) → List (String × List String)
  | [] => [(path, name.toList)]
  | (other, names) :: rest =>
    if path < other then (path, name.toList) :: (other, names) :: rest
    else if path = other then (other, name.toList.foldr Text.insertName names) :: rest
    else (other, names) :: insert path name rest

def add (p : PendingImports) (i : Import) : PendingImports := ⟨insert i.path i.name p.entries⟩

def addAll (p : PendingImports) (imports : List Import) : PendingImports := imports.foldl add p

def isEmpty (p : PendingImports) : Bool := p.entries.isEmpty

def besides (p : PendingImports) (first : String) : List (String × List String) :=
  p.entries.filter fun e => e.1 != first || !e.2.isEmpty

end PendingImports

namespace ImportBlock

def reserveAll (b : ImportBlock) (path : String) :
    List String → Except NameCollision ImportBlock
  | [] => .ok b
  | name :: rest =>
    match b.reserve path name with
    | (_, some e) => .error e
    | (b, none) => b.reserveAll path rest

def reservePending (b : ImportBlock) :
    List (String × List String) → Except NameCollision ImportBlock
  | [] => .ok b
  | (path, names) :: rest =>
    match b.reserveAll path names with
    | .error e => .error e
    | .ok b => b.reservePending rest

def addAllNamed (b : ImportBlock) (path : String) :
    List String → Except NameCollision ImportBlock
  | [] => .ok b
  | name :: rest =>
    match b.addNamed path name with
    | (_, some e) => .error e
    | (b, none) => b.addAllNamed path rest

def addPending (b : ImportBlock) :
    List (String × List String) → Except NameCollision ImportBlock
  | [] => .ok b
  | (path, []) :: rest => (b.add path).2.addPending rest
  | (path, name :: names) :: rest =>
    match b.addAllNamed path (name :: names) with
    | .error e => .error e
    | .ok b => b.addPending rest

def start (first : Import) : Except NameCollision ImportBlock :=
  match first.name with
  | some name =>
    match addNamed {} first.path name with
    | (_, some e) => .error e
    | (b, none) => .ok b
  | none => .ok (add {} first.path).2

/-- Names asked for are reserved before any name is derived, so that none is taken by a derived
one. -/
def assemble (first : Import) (pending : PendingImports) :
    Except NameCollision (List Import) := do
  let block ← start first
  let block ← block.reservePending (pending.besides first.path)
  let block ← block.addPending (pending.besides first.path)
  return block.entries

end ImportBlock
end Toolbridge
