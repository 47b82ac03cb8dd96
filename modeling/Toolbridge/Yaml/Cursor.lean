set_option autoImplicit false

namespace Toolbridge.Yaml

def isBreak (c : Char) : Bool :=
  c = '\n' || c = '\r' || c = '\u0085' || c = '\u2028' || c = '\u2029'

def isBlank (c : Char) : Bool := c = ' ' || c = '\t'

def isNameChar (c : Char) : Bool := c.isAlphanum || c = '_' || c = '-'

/-- A text may hold no control characters but tabs and line breaks. -/
def isAllowed (c : Char) : Bool :=
  let n := c.toNat
  n = 0x9 || n = 0xa || n = 0xd || (0x20 ≤ n && n ≤ 0x7e) || n = 0x85 || (0xa0 ≤ n && n ≤ 0xd7ff)
    || (0xe000 ≤ n && n ≤ 0xfffd) || (0x10000 ≤ n && n ≤ 0x10ffff)

structure Cursor where
  rest : List Char
  index : Nat := 0
  line : Nat := 0
  column : Nat := 0
deriving Inhabited

namespace Cursor

def next (c : Cursor) (p : Char → Bool) : Bool :=
  match c.rest with
  | x :: _ => p x
  | [] => false

def nextIs (c : Cursor) (x : Char) : Bool := c.next (· = x)

def endsWord : List Char → Bool
  | [] => true
  | x :: _ => isBlank x || isBreak x

def atGap (c : Cursor) : Bool := endsWord c.rest

def atLineEnd (c : Cursor) : Bool :=
  match c.rest with
  | [] => true
  | x :: _ => isBreak x

def advance (c : Cursor) (n : Nat) : Cursor :=
  { c with rest := c.rest.drop n, index := c.index + n, column := c.column + n }

def span (c : Cursor) (p : Char → Bool) : List Char × Cursor :=
  let run := c.rest.takeWhile p
  (run, c.advance run.length)

def skipWhile (c : Cursor) (p : Char → Bool) : Cursor := (c.span p).2

def skipComment (c : Cursor) : Cursor :=
  if c.nextIs '#' then c.skipWhile fun x => !isBreak x else c

def newLine (c : Cursor) (rest : List Char) (n : Nat) : Cursor :=
  { rest, index := c.index + n, line := c.line + 1, column := 0 }

/-- The line break here, as it counts in a text: the separators stand for themselves, every other
break is a newline. -/
def break? (c : Cursor) : Option (Char × Cursor) :=
  match c.rest with
  | '\r' :: '\n' :: rest => some ('\n', c.newLine rest 2)
  | x :: rest =>
    if x = '\u2028' ∨ x = '\u2029' then some (x, c.newLine rest 1)
    else if isBreak x then some ('\n', c.newLine rest 1)
    else none
  | [] => none

def skipBreak (c : Cursor) : Cursor :=
  match c.break? with
  | some (_, c) => c
  | none => c

def atMark (c : Cursor) (x : Char) : Bool :=
  c.column = 0 &&
    match c.rest with
    | a :: b :: d :: rest => a = x && b = x && d = x && endsWord rest
    | _ => false

def atDocumentMark (c : Cursor) : Bool := c.atMark '-' || c.atMark '.'

end Cursor
end Toolbridge.Yaml
