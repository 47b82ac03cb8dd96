import Toolbridge.Yaml.Node.Basic
import Toolbridge.Yaml.Token.Basic

set_option autoImplicit false

namespace Toolbridge.Yaml

structure Builder where
  ahead : List Token
  handles : List (String × String) := []
  names : List (String × Nat) := []
  anchored : List Anchored := []
  size : Nat := 0
deriving Inhabited

abbrev Build := StateT Builder Option

namespace Build

def malformed {α : Type} : Build α := fun _ => none

def peek : Build Token := fun b => b.ahead.head?.map (·, b)

def drop : Build Unit := modify fun b => { b with ahead := b.ahead.drop 1 }

def count : Build Nat := fun b => some (b.size, { b with size := b.size + 1 })

def nothing : Build Node := do
  let _ ← count
  pure (.nothing none)

def nextIn (tokens : List Token) : Build Bool := do
  let t ← peek
  pure (tokens.contains t)

/-- Numbers an anchor; a reference from inside its own node finds it. -/
def nameAnchor (name : String) : Build Nat := do
  let b ← get
  let number := b.names.length
  let names := if (b.names.lookup name).isSome then
      b.names.map fun n => if n.1 = name then (name, number) else n
    else b.names ++ [(name, number)]
  set { b with names }
  pure number

def anchorName? : Build (Option String) := do
  match ← peek with
  | .anchor name =>
    drop
    pure (some name)
  | _ => pure none

def tag? : Build (Option (String × String)) := do
  match ← peek with
  | .tag handle suffix =>
    drop
    pure (some (handle, suffix))
  | _ => pure none

def properties : Build (Option String × Option (String × String)) := do
  match ← anchorName? with
  | some name => pure (some name, ← tag?)
  | none =>
    match ← tag? with
    | some t => pure (← anchorName?, some t)
    | none => pure (none, none)

def resolveTag : Option (String × String) → Build (Option String)
  | none => pure none
  | some (handle, suffix) => do
    if handle.isEmpty then pure (some suffix)
    else
      match (← get).handles.lookup handle with
      | some start => pure (some (start ++ suffix))
      | none => malformed

/-- Readers of the parts of a collection, for `node` as the reader of its nodes, which is told
whether block style is allowed and whether a sequence may stand without a start. -/
abbrev NodeReader := Bool → Bool → Build Node

def nodeUnless (node : NodeReader) (tokens : List Token) (block indentless : Bool) : Build Node := do
  if ← nextIn tokens then nothing else node block indentless

def blockItems (node : NodeReader) : Nat → Build (List Node)
  | 0 => malformed
  | fuel + 1 => do
    match ← peek with
    | .blockEntry =>
      drop
      let item ← nodeUnless node [.blockEntry, .blockEnd] true false
      pure (item :: (← blockItems node fuel))
    | .blockEnd =>
      drop
      pure []
    | _ => malformed

def indentlessItems (node : NodeReader) : Nat → Build (List Node)
  | 0 => malformed
  | fuel + 1 => do
    match ← peek with
    | .blockEntry =>
      drop
      let item ← nodeUnless node [.blockEntry, .key, .value, .blockEnd] true false
      pure (item :: (← indentlessItems node fuel))
    | _ => pure []

def blockValue (node : NodeReader) : Build Node := do
  match ← peek with
  | .value =>
    drop
    nodeUnless node [.key, .value, .blockEnd] true true
  | _ => nothing

def blockPairs (node : NodeReader) : Nat → Build (List (Node × Node))
  | 0 => malformed
  | fuel + 1 => do
    match ← peek with
    | .key =>
      drop
      let key ← nodeUnless node [.key, .value, .blockEnd] true true
      let value ← blockValue node
      pure ((key, value) :: (← blockPairs node fuel))
    | .blockEnd =>
      drop
      pure []
    | _ => malformed

def separator (first : Bool) : Build Unit := do
  if first then pure ()
  else
    match ← peek with
    | .flowEntry => drop
    | _ => malformed

/-- The key of a single pair; a missing one takes the token behind it along. -/
def singleKey (node : NodeReader) : Build Node := do
  if ← nextIn [.value, .flowEntry, .flowSequenceEnd] then
    drop
    nothing
  else node false false

def singleValue (node : NodeReader) : Build Node := do
  match ← peek with
  | .value =>
    drop
    nodeUnless node [.flowEntry, .flowSequenceEnd] false false
  | _ => nothing

def singlePair (node : NodeReader) : Build Node := do
  drop
  let _ ← count
  let key ← singleKey node
  let value ← singleValue node
  let _ ← count
  pure (.mapping [(key, value)] none)

def flowItems (node : NodeReader) : Nat → Bool → Build (List Node)
  | 0, _ => malformed
  | fuel + 1, first => do
    match ← peek with
    | .flowSequenceEnd =>
      drop
      pure []
    | _ =>
      separator first
      match ← peek with
      | .flowSequenceEnd =>
        drop
        pure []
      | .key =>
        let item ← singlePair node
        pure (item :: (← flowItems node fuel false))
      | _ =>
        let item ← node false false
        pure (item :: (← flowItems node fuel false))

def flowValue (node : NodeReader) : Build Node := do
  match ← peek with
  | .value =>
    drop
    nodeUnless node [.flowEntry, .flowMappingEnd] false false
  | _ => nothing

def flowPairs (node : NodeReader) : Nat → Bool → Build (List (Node × Node))
  | 0, _ => malformed
  | fuel + 1, first => do
    match ← peek with
    | .flowMappingEnd =>
      drop
      pure []
    | _ =>
      separator first
      match ← peek with
      | .flowMappingEnd =>
        drop
        pure []
      | .key =>
        drop
        let key ← nodeUnless node [.value, .flowEntry, .flowMappingEnd] false false
        let value ← flowValue node
        pure ((key, value) :: (← flowPairs node fuel false))
      | _ =>
        let key ← node false false
        let value ← nothing
        pure ((key, value) :: (← flowPairs node fuel false))

def sequence (items : Build (List Node)) (tag : Option String) : Build Node := do
  let _ ← count
  let items ← items
  let _ ← count
  pure (.sequence items tag)

def mapping (pairs : Build (List (Node × Node))) (tag : Option String) : Build Node := do
  let _ ← count
  let pairs ← pairs
  let _ ← count
  pure (.mapping pairs tag)

def content (node : NodeReader) (fuel : Nat) (block indentless bare : Bool) (tag : Option String) :
    Build Node := do
  match ← peek with
  | .scalar text plain =>
    drop
    let _ ← count
    pure (.scalar text plain tag)
  | .flowSequenceStart =>
    drop
    sequence (flowItems node fuel true) tag
  | .flowMappingStart =>
    drop
    mapping (flowPairs node fuel true) tag
  | t =>
    if indentless ∧ t = .blockEntry then sequence (indentlessItems node fuel) tag
    else if block ∧ t = .blockSequenceStart then
      drop
      sequence (blockItems node fuel) tag
    else if block ∧ t = .blockMappingStart then
      drop
      mapping (blockPairs node fuel) tag
    else if bare then malformed
    else
      let _ ← count
      pure (.nothing tag)

/-- A node down to a depth; `fuel` bounds the length of its collections. -/
def node (fuel : Nat) : Nat → NodeReader
  | 0, _, _ => malformed
  | depth + 1, block, indentless => do
    match ← peek with
    | .reference name =>
      drop
      let _ ← count
      match (← get).names.lookup name with
      | some number => pure (.reference number)
      | none => malformed
    | _ =>
      let (anchor, tag) ← properties
      let fullTag ← resolveTag tag
      let bare := anchor.isNone && tag.isNone
      match anchor with
      | none => content (node fuel depth) fuel block indentless bare fullTag
      | some name =>
        let number ← nameAnchor name
        let start := (← get).size
        let result ← content (node fuel depth) fuel block indentless bare fullTag
        modify fun b => { b with anchored := ⟨number, start, result⟩ :: b.anchored }
        pure result

/-- The directives before a document. Only versions 1.1 and 1.2 are known, and neither a version nor
a handle may be declared twice. -/
def directives : Nat → Bool → Build Unit
  | 0, _ => malformed
  | fuel + 1, versioned => do
    match ← peek with
    | .versionDirective major minor =>
      drop
      if versioned ∨ major ≠ 1 ∨ (minor ≠ 1 ∧ minor ≠ 2) then malformed else directives fuel true
    | .tagDirective handle start =>
      drop
      let b ← get
      if (b.handles.lookup handle).isSome then malformed
      else
        set { b with handles := b.handles ++ [(handle, start)] }
        directives fuel versioned
    | _ => pure ()

def defaultHandles : List (String × String) :=
  [("!", "!"), ("!!", "tag:yaml.org,2002:")]

def skipEnds : Nat → Build Unit
  | 0 => malformed
  | fuel + 1 => do
    match ← peek with
    | .documentEnd =>
      drop
      skipEnds fuel
    | _ => pure ()

def root (fuel : Nat) : Build Node := do
  let result ← match ← peek with
    | .versionDirective _ _ | .tagDirective _ _ | .documentStart => do
      directives fuel false
      match ← peek with
      | .documentStart =>
        drop
        modify fun b => { b with handles := b.handles ++ defaultHandles }
        match ← peek with
        | .versionDirective _ _ | .tagDirective _ _ | .documentStart | .documentEnd
        | .streamEnd => nothing
        | _ => node fuel fuel true false
      | _ => malformed
    | .streamEnd => malformed
    | _ => do
      modify fun b => { b with handles := defaultHandles }
      node fuel fuel true false
  skipEnds fuel
  match ← peek with
  | .streamEnd => pure result
  | _ => malformed

end Build

def Document.ofTokens? (tokens : List Token) : Option Document :=
  match Build.root (tokens.length + 1) { ahead := tokens } with
  | some (root, b) => some { root, anchored := b.anchored, size := b.size }
  | none => none

end Toolbridge.Yaml
