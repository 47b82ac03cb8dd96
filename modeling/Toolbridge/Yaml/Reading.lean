import Toolbridge.Keyed
import Toolbridge.Yaml.Node.Basic
import Toolbridge.Yaml.Value

set_option autoImplicit false

namespace Toolbridge.Yaml

abbrev Reading := StateT Nat Option

namespace Reading

def fail {α : Type} : Reading α := fun _ => none

def depthLimit : Nat := 128

def follow (d : Document) : Node → Reading Node
  | .reference number => do
    let followed ← get
    if 100 * d.size < followed + 1 then fail
    else
      set (followed + 1)
      match d.anchored? number with
      | some node => pure node
      | none => fail
  | node => pure node

def text (d : Document) (n : Node) : Reading String := do
  match ← follow d n with
  | .scalar text _ _ => pure text
  | _ => fail

/-- Whether a node stands for nothing: a plain scalar that is empty or spells null. -/
def isAbsent : Node → Reading Bool
  | .scalar text true none => pure (text.isEmpty || isNull text)
  | .scalar text true (some tag) =>
    if tag = "tag:yaml.org,2002:null" then if isNull text then pure true else fail
    else pure false
  | _ => pure false

def optional {α : Type} (d : Document) (read : Node → Reading α) (n : Node) :
    Reading (Option α) := do
  let node ← follow d n
  if ← isAbsent node then pure none else some <$> read node

def deeper {α : Type} (depth : Nat) (read : Nat → Reading α) : Reading α :=
  match depth with
  | 0 => fail
  | depth + 1 => read depth

def isBlankScalar : Node → Bool
  | .scalar text plain _ => plain && text.isEmpty
  | _ => false

def listOf {α : Type} (d : Document) (depth : Nat) (read : Nat → Node → Reading α) (n : Node) :
    Reading (List α) := do
  match ← follow d n with
  | .sequence items _ => deeper depth fun depth => items.mapM (read depth)
  | node => if isBlankScalar node then pure [] else fail

/-- Pairs with spelled keys in the order in which the keys came up first, the last value of each. -/
def keyedOf {α : Type} (d : Document) (depth : Nat) (read : Nat → Node → Reading α) (n : Node) :
    Reading (List (String × α)) := do
  match ← follow d n with
  | .mapping pairs _ => deeper depth fun depth => do
    let entries ← pairs.mapM fun (k, v) => do
      let name ← text d k
      let value ← read depth v
      pure (name, value)
    pure (Keyed.ofList entries)
  | node => if isBlankScalar node then pure [] else fail

/-- The entries of a record under the known names, none of them twice. Others are passed over. -/
def entriesOf (d : Document) (known : List String) :
    List (Node × Node) → Reading (List (String × Node))
  | [] => pure []
  | (k, v) :: rest => do
    let name ← text d k
    let others ← entriesOf d known rest
    if !known.contains name then pure others
    else if (others.lookup name).isSome then fail
    else pure ((name, v) :: others)

def record {α : Type} (d : Document) (depth : Nat) (known : List String)
    (read : Nat → List (String × Node) → Reading α) (n : Node) : Reading α := do
  match ← follow d n with
  | .mapping pairs _ => deeper depth fun depth => do
    read depth (← entriesOf d known pairs)
  | node => if isBlankScalar node then read depth [] else fail

def required {α : Type} (entries : List (String × Node)) (name : String)
    (read : Node → Reading α) : Reading α :=
  match entries.lookup name with
  | some n => read n
  | none => fail

def orElse {α : Type} (entries : List (String × Node)) (name : String) (fallback : α)
    (read : Node → Reading α) : Reading α :=
  match entries.lookup name with
  | some n => read n
  | none => pure fallback

def optionalEntry {α : Type} (d : Document) (entries : List (String × Node)) (name : String)
    (read : Node → Reading α) : Reading (Option α) :=
  orElse entries name none (optional d read)

def isLocalTag (tag : Option String) : Bool := (tag.bind (·.toList.head?)) == some '!'

def value (d : Document) : Nat → Node → Reading Value
  | depth, n => do
    match ← follow d n with
    | .scalar text plain tag =>
      match Value.ofScalar? text plain tag with
      | some v => pure v
      | none => fail
    | .sequence items tag =>
      match depth with
      | 0 => fail
      | depth + 1 =>
        if isLocalTag tag then fail else .sequence <$> items.mapM (value d depth)
    | .mapping pairs tag =>
      match depth with
      | 0 => fail
      | depth + 1 =>
        if isLocalTag tag then fail
        else
          .mapping <$> pairs.mapM fun (k, v) => do
            let k ← value d depth k
            let v ← value d depth v
            pure (k, v)
    | .reference _ => fail

end Reading
end Toolbridge.Yaml
