import Toolbridge.Yaml.Token.Tag

set_option autoImplicit false

/-!
# From YAML text to tokens

A key of a mapping is known as such only by the colon behind it. Until then every place where a key
may start is remembered, at most one for each level of flow collections, and is given up at the end
of its line or after 1024 characters. Block collections start and end where the column of a token
rises above and falls below that of the collection around it.
-/
namespace Toolbridge.Yaml

/-- A place where a key may start, and the number of tokens before it. A required one has to be a
key. -/
structure SimpleKey where
  required : Bool
  tokens : Nat
  index : Nat
  line : Nat
  column : Nat
deriving Inhabited

structure Lexer where
  cursor : Cursor
  indent : Int := -1
  indents : List Int := []
  keyAllowed : Bool := true
  /-- One entry for each level of flow collections and one for the block level, innermost first. -/
  keys : List (Option SimpleKey) := [none]
  tokens : List Token := []
  count : Nat := 0
deriving Inhabited

namespace Lexer

def inFlow (l : Lexer) : Bool := 1 < l.keys.length

def push (l : Lexer) (t : Token) : Lexer :=
  { l with tokens := t :: l.tokens, count := l.count + 1 }

/-- Puts a token in front of all but the first `number` tokens. -/
def insertAt (l : Lexer) (number : Nat) (t : Token) : Lexer :=
  let later := l.count - number
  { l with tokens := l.tokens.take later ++ t :: l.tokens.drop later, count := l.count + 1 }

def token (l : Lexer) (t : Token) (width : Nat) : Lexer :=
  { l.push t with cursor := l.cursor.advance width }

/-- A new block collection starts where the column is further in than that of the one around it. -/
def roll (l : Lexer) (column number : Nat) (t : Token) : Lexer :=
  if l.inFlow || decide ((column : Int) ≤ l.indent) then l
  else { l.insertAt number t with indent := column, indents := l.indent :: l.indents }

def unrollFrom (column : Int) (tokens : List Token) (count : Nat) (indent : Int) :
    List Int → List Token × Nat × Int × List Int
  | [] => (tokens, count, indent, [])
  | outer :: rest =>
    if column < indent then unrollFrom column (.blockEnd :: tokens) (count + 1) outer rest
    else (tokens, count, indent, outer :: rest)

/-- Ends the block collections that stand further in than the column. -/
def unroll (l : Lexer) (column : Int) : Lexer :=
  if l.inFlow then l
  else
    let (tokens, count, indent, indents) := unrollFrom column l.tokens l.count l.indent l.indents
    { l with tokens, count, indent, indents }

/-- Gives up the key of the innermost level. -/
def dropKey? (l : Lexer) : Option Lexer :=
  match l.keys with
  | some key :: rest => if key.required then none else some { l with keys := none :: rest }
  | _ => some l

def saveKey? (l : Lexer) : Option Lexer :=
  if l.keyAllowed then do
    let required := !l.inFlow && l.indent = (l.cursor.column : Int)
    let l ← l.dropKey?
    let key : SimpleKey := ⟨required, l.count, l.cursor.index, l.cursor.line, l.cursor.column⟩
    some { l with keys := some key :: l.keys.drop 1 }
  else some l

def isStale (c : Cursor) (key : SimpleKey) : Bool :=
  key.line < c.line || key.index + 1024 < c.index

def dropStale? (c : Cursor) : List (Option SimpleKey) → Option (List (Option SimpleKey))
  | [] => some []
  | none :: rest => (dropStale? c rest).map (none :: ·)
  | some key :: rest =>
    if isStale c key then
      if key.required then none else (dropStale? c rest).map (none :: ·)
    else (dropStale? c rest).map (some key :: ·)

/-- Past blanks, comments and line breaks. Tabs do not count as blanks where a key may start in block
style, and a new line in block style may start a key. -/
def skipFrom (flow : Bool) : Nat → Bool → Cursor → Bool × Cursor
  | 0, keyAllowed, c => (keyAllowed, c)
  | fuel + 1, keyAllowed, c =>
    let c := if c.index = 0 ∧ c.nextIs '\ufeff' then c.advance 1 else c
    let c := c.skipWhile fun x => x = ' ' || ((flow || !keyAllowed) && x = '\t')
    let c := c.skipComment
    if c.next isBreak then skipFrom flow fuel (keyAllowed || !flow) c.skipBreak
    else (keyAllowed, c)

def skip (l : Lexer) : Lexer :=
  let (keyAllowed, cursor) := skipFrom l.inFlow (l.cursor.rest.length + 1) l.keyAllowed l.cursor
  { l with keyAllowed, cursor }

def endStream? (l : Lexer) : Option Lexer := do
  let l ← (l.unroll (-1)).dropKey?
  some ({ l with keyAllowed := false }.push .streamEnd)

def directive? (l : Lexer) : Option Lexer := do
  let l ← (l.unroll (-1)).dropKey?
  let (t, cursor) ← Yaml.directive? l.cursor
  some { l.push t with cursor, keyAllowed := false }

def documentMark? (l : Lexer) (t : Token) : Option Lexer := do
  let l ← (l.unroll (-1)).dropKey?
  some ({ l with keyAllowed := false }.token t 3)

def openFlow? (l : Lexer) (t : Token) : Option Lexer := do
  let l ← l.saveKey?
  some ({ l with keys := none :: l.keys, keyAllowed := true }.token t 1)

def closeFlow? (l : Lexer) (t : Token) : Option Lexer := do
  let l ← l.dropKey?
  let keys := if l.inFlow then l.keys.drop 1 else l.keys
  some ({ l with keys, keyAllowed := false }.token t 1)

def flowEntry? (l : Lexer) : Option Lexer := do
  let l ← l.dropKey?
  some ({ l with keyAllowed := true }.token .flowEntry 1)

/-- The start of a block collection at the cursor, which has to be a place for one. -/
def rollHere? (l : Lexer) (t : Token) : Option Lexer :=
  if l.inFlow then some l
  else if l.keyAllowed then some (l.roll l.cursor.column l.count t)
  else none

def blockEntry? (l : Lexer) : Option Lexer := do
  let l ← l.rollHere? .blockSequenceStart
  let l ← l.dropKey?
  some ({ l with keyAllowed := true }.token .blockEntry 1)

def key? (l : Lexer) : Option Lexer := do
  let l ← l.rollHere? .blockMappingStart
  let l ← l.dropKey?
  some ({ l with keyAllowed := !l.inFlow }.token .key 1)

def value? (l : Lexer) : Option Lexer :=
  match l.keys with
  | some key :: rest =>
    let l := (l.insertAt key.tokens .key).roll key.column key.tokens .blockMappingStart
    some ({ l with keys := none :: rest, keyAllowed := false }.token .value 1)
  | _ => do
    let l ← l.rollHere? .blockMappingStart
    some ({ l with keyAllowed := !l.inFlow }.token .value 1)

def withText (l : Lexer) (text : List Char) (plain : Bool) (cursor : Cursor) : Lexer :=
  { l.push (.scalar (String.ofList text) plain) with cursor }

def anchor? (l : Lexer) (make : String → Token) : Option Lexer := do
  let l ← l.saveKey?
  let (name, cursor) ← anchorName? l.cursor
  some { l.push (make name) with cursor, keyAllowed := false }

def tag? (l : Lexer) : Option Lexer := do
  let l ← l.saveKey?
  let (t, cursor) ← Yaml.tag? l.inFlow l.cursor
  some { l.push t with cursor, keyAllowed := false }

def block? (l : Lexer) (literal : Bool) : Option Lexer := do
  let l ← l.dropKey?
  let (text, cursor) ← Yaml.block? literal l.indent l.cursor
  some ({ l with keyAllowed := true }.withText text false cursor)

def quoted? (l : Lexer) (single : Bool) : Option Lexer := do
  let l ← l.saveKey?
  let (text, cursor) ← Yaml.quoted? single l.cursor
  some ({ l with keyAllowed := false }.withText text false cursor)

def plain? (l : Lexer) : Option Lexer := do
  let l ← l.saveKey?
  let (text, broken, cursor) ←
    plainWords? l.inFlow (l.indent + 1) (l.cursor.rest.length + 1) [] {} l.cursor
  some ({ l with keyAllowed := broken }.withText text true cursor)

/-- A plain scalar may start with an indicator only where that cannot be one. -/
def startsPlain (flow : Bool) (c : Char) (rest : List Char) : Bool :=
  if isBlank c then false
  else if c = '-' then !(rest.head?.any isBlank)
  else if c = '?' || c = ':' then !flow && !Cursor.endsWord rest
  else !(",[]\x7b\x7d#&*!|>'\"%@`".toList.contains c)

/-- The next token, with those that its place implies. -/
def next? (l : Lexer) : Option Lexer := do
  let l := l.skip
  let keys ← dropStale? l.cursor l.keys
  let l := { l with keys }.unroll l.cursor.column
  match l.cursor.rest with
  | [] => l.endStream?
  | c :: rest =>
    if l.cursor.column = 0 ∧ c = '%' then l.directive?
    else if l.cursor.atMark '-' then l.documentMark? .documentStart
    else if l.cursor.atMark '.' then l.documentMark? .documentEnd
    else if c = '[' then l.openFlow? .flowSequenceStart
    else if c = '\x7b' then l.openFlow? .flowMappingStart
    else if c = ']' then l.closeFlow? .flowSequenceEnd
    else if c = '\x7d' then l.closeFlow? .flowMappingEnd
    else if c = ',' then l.flowEntry?
    else if c = '-' ∧ Cursor.endsWord rest then l.blockEntry?
    else if c = '?' ∧ (l.inFlow ∨ Cursor.endsWord rest) then l.key?
    else if c = ':' ∧ (l.inFlow ∨ Cursor.endsWord rest) then l.value?
    else if c = '*' then l.anchor? .reference
    else if c = '&' then l.anchor? .anchor
    else if c = '!' then l.tag?
    else if c = '|' ∧ !l.inFlow then l.block? true
    else if c = '>' ∧ !l.inFlow then l.block? false
    else if c = '\'' then l.quoted? true
    else if c = '"' then l.quoted? false
    else if startsPlain l.inFlow c rest then l.plain?
    else none

/-- Runs to the end of the stream. Every token takes up some of the text. -/
def run? : Nat → Lexer → Option (List Token)
  | 0, _ => none
  | fuel + 1, l => do
    let l ← l.next?
    if l.tokens.head? = some .streamEnd then some l.tokens.reverse else run? fuel l

end Lexer

def Token.ofText? (text : String) : Option (List Token) :=
  let cs := match text.toList with
    | '\ufeff' :: rest => rest
    | cs => cs
  if cs.all isAllowed then Lexer.run? (cs.length + 1) { cursor := { rest := cs } } else none

end Toolbridge.Yaml
