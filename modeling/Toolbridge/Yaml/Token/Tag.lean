import Toolbridge.Json.Value
import Toolbridge.Yaml.Token.Basic
import Toolbridge.Yaml.Token.Scalar

set_option autoImplicit false

namespace Toolbridge.Yaml

def isTagChar (verbatim : Bool) (c : Char) : Bool :=
  isNameChar c || ";/?:@&=+$.%!~*'()".toList.contains c || (verbatim && ",[]".toList.contains c)

/-- The bytes behind percent signs make up one character in UTF-8. -/
def percentBytes : Nat → List Char → List UInt8 × List Char
  | 0, cs => ([], cs)
  | n + 1, '%' :: a :: b :: rest =>
    match hexDigit? a, hexDigit? b with
    | some x, some y =>
      let (bytes, rest) := percentBytes n rest
      (UInt8.ofNat (16 * x + y) :: bytes, rest)
    | _, _ => ([], '%' :: a :: b :: rest)
  | _ + 1, cs => ([], cs)

def utf8Width (b : Nat) : Nat :=
  if b < 0x80 then 1 else if b / 0x20 = 6 then 2 else if b / 0x10 = 14 then 3
  else if b / 8 = 30 then 4 else 0

def percentChar? (cs : List Char) : Option (Char × List Char) :=
  match percentBytes 1 cs with
  | ([first], _) =>
    let width := utf8Width first.toNat
    let (bytes, rest) := percentBytes width cs
    if width = 0 ∨ bytes.length < width then none
    else
      match String.fromUTF8? (ByteArray.mk bytes.toArray) with
      | some s =>
        match s.toList with
        | [c] => some (c, rest)
        | _ => none
      | none => none
  | _ => none

/-- The longest run of tag characters, escapes resolved. -/
def tagText? (verbatim : Bool) : Nat → Cursor → Option (List Char × Cursor)
  | 0, c => some ([], c)
  | fuel + 1, c =>
    if c.nextIs '%' then do
      let (x, rest) ← percentChar? c.rest
      let (text, c) ← tagText? verbatim fuel (c.advance (c.rest.length - rest.length))
      some (x :: text, c)
    else
      match c.rest with
      | x :: _ =>
        if isTagChar verbatim x then do
          let (text, c) ← tagText? verbatim fuel (c.advance 1)
          some (x :: text, c)
        else some ([], c)
      | [] => some ([], c)

def tagRun? (verbatim : Bool) (c : Cursor) : Option (List Char × Cursor) :=
  tagText? verbatim (c.rest.length + 1) c

def tagHandle? (c : Cursor) : Option (List Char × Cursor) :=
  if c.nextIs '!' then
    let (name, c) := (c.advance 1).span isNameChar
    if c.nextIs '!' then some ('!' :: (name ++ ['!']), c.advance 1) else some ('!' :: name, c)
  else none

def endsTag (flow : Bool) (c : Cursor) : Bool := c.atGap || (flow && c.nextIs ',')

/-- A tag as its handle and the rest: verbatim, with a handle, or behind a single mark. -/
def tag? (flow : Bool) (c : Cursor) : Option (Token × Cursor) := do
  let (handle, suffix, c) ←
    if (c.advance 1).nextIs '<' then do
      let (suffix, c) ← tagRun? true (c.advance 2)
      if suffix.isEmpty || !c.nextIs '>' then none else some ([], suffix, c.advance 1)
    else do
      let (handle, c) ← tagHandle? c
      let (suffix, c) ← tagRun? false c
      if handle.length ≠ 1 ∧ handle.getLast? = some '!' then
        if suffix.isEmpty then none else some (handle, suffix, c)
      else
        let suffix := handle.drop 1 ++ suffix
        if suffix.isEmpty then some ([], ['!'], c) else some (['!'], suffix, c)
  if endsTag flow c then some (.tag (String.ofList handle) (String.ofList suffix), c) else none

def anchorName? (c : Cursor) : Option (String × Cursor) :=
  let (name, c) := (c.advance 1).span isNameChar
  if name.isEmpty then none
  else if c.atGap || c.next fun x => "?:,]\x7d%@`".toList.contains x then
    some (String.ofList name, c)
  else none

def versionNumber? (c : Cursor) : Option (Nat × Cursor) :=
  let (digits, c) := c.span Char.isDigit
  if digits.isEmpty ∨ 9 < digits.length then none
  else some (digits.foldl (fun n d => 10 * n + (d.toNat - 48)) 0, c)

def version? (c : Cursor) : Option (Token × Cursor) := do
  let (major, c) ← versionNumber? (c.skipWhile isBlank)
  if c.nextIs '.' then
    let (minor, c) ← versionNumber? (c.advance 1)
    some (.versionDirective major minor, c)
  else none

def tagDirective? (c : Cursor) : Option (Token × Cursor) := do
  let (handle, c) ← tagHandle? (c.skipWhile isBlank)
  if handle.length ≠ 1 ∧ handle.getLast? ≠ some '!' then none
  else if !c.next isBlank then none
  else
    let (start, c) ← tagRun? true (c.skipWhile isBlank)
    if start.isEmpty || !c.atGap then none
    else some (.tagDirective (String.ofList handle) (String.ofList start), c)

def directive? (c : Cursor) : Option (Token × Cursor) := do
  let (name, c) := (c.advance 1).span isNameChar
  if !c.atGap then none
  else
    let (token, c) ←
      if name = "YAML".toList then version? c
      else if name = "TAG".toList then tagDirective? c
      else none
    let c := (c.skipWhile isBlank).skipComment
    if c.atLineEnd then some (token, c.skipBreak) else none

end Toolbridge.Yaml
