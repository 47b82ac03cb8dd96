import Toolbridge.Yaml.Cursor

set_option autoImplicit false

namespace Toolbridge.Yaml

/-- Blanks and line breaks between the words of a scalar. Blanks count only on a single line. -/
structure Gap where
  blanks : List Char := []
  firstBreak : Option Char := none
  otherBreaks : List Char := []
  broken : Bool := false
deriving Inhabited

/-- A single newline folds into a space, more of them lose the first. -/
def Gap.text (g : Gap) : List Char :=
  if g.broken then
    match g.firstBreak with
    | some '\n' => if g.otherBreaks.isEmpty then [' '] else g.otherBreaks
    | first => first.toList ++ g.otherBreaks
  else g.blanks

/-- Reads on through blanks and breaks. With `indent`, a tab may not stand left of that column once
the line was broken. -/
def Gap.read? (indent : Option Int) : Nat → Gap → Cursor → Option (Gap × Cursor)
  | 0, g, c => some (g, c)
  | fuel + 1, g, c =>
    if c.next isBlank then
      let misplaced := match indent with
        | some n => g.broken && decide ((c.column : Int) < n) && c.nextIs '\t'
        | none => false
      if misplaced then none
      else
        let blanks := if g.broken then g.blanks else g.blanks ++ c.rest.take 1
        Gap.read? indent fuel { g with blanks } (c.advance 1)
    else
      match c.break? with
      | none => some (g, c)
      | some (x, c) =>
        if g.broken then
          Gap.read? indent fuel { g with otherBreaks := g.otherBreaks ++ [x] } c
        else Gap.read? indent fuel { g with blanks := [], firstBreak := some x, broken := true } c

def isFlowIndicator (x : Char) : Bool :=
  x = ',' || x = '[' || x = ']' || x = '\x7b' || x = '\x7d'

/-- The characters of a plain scalar up to the next gap or indicator, the last one first. A colon in
a flow collection may not stand right before an indicator. -/
def plainWord? (flow : Bool) (word : List Char) : List Char → Option (List Char)
  | [] => some word
  | x :: rest =>
    if isBlank x || isBreak x then some word
    else if flow && x = ':' && (match rest with
        | y :: _ => isFlowIndicator y || y = '?'
        | [] => false) then none
    else if x = ':' && Cursor.endsWord rest then some word
    else if flow && isFlowIndicator x then some word
    else plainWord? flow (x :: word) rest

/-- The words of a plain scalar; `gap` stands before the next one. Tells as well whether the scalar
ends behind a line break. -/
def plainWords? (flow : Bool) (indent : Int) :
    Nat → List Char → Gap → Cursor → Option (List Char × Bool × Cursor)
  | 0, text, gap, c => some (text, gap.broken, c)
  | fuel + 1, text, gap, c =>
    if c.atDocumentMark || c.nextIs '#' then some (text, gap.broken, c)
    else
      match plainWord? flow [] c.rest with
      | none => none
      | some [] => some (text, gap.broken, c)
      | some word =>
        let text := text ++ gap.text ++ word.reverse
        let c := c.advance word.length
        match Gap.read? (some indent) (c.rest.length + 1) {} c with
        | none => none
        | some (gap, after) =>
          if !c.atGap || c.rest.isEmpty then some (text, false, c)
          else if !flow && decide ((after.column : Int) < indent) then
            some (text, gap.broken, after)
          else plainWords? flow indent fuel text gap after

def hexDigit? (c : Char) : Option Nat :=
  if '0' ≤ c ∧ c ≤ '9' then some (c.toNat - 48)
  else if 'a' ≤ c ∧ c ≤ 'f' then some (c.toNat - 87)
  else if 'A' ≤ c ∧ c ≤ 'F' then some (c.toNat - 55)
  else none

def hexValue? (n : Nat) : List Char → Option Nat
  | [] => some n
  | c :: rest => (hexDigit? c).bind fun d => hexValue? (16 * n + d) rest

def codeEscape? (count : Nat) (rest : List Char) : Option Char :=
  if rest.length < count then none
  else
    (hexValue? 0 (rest.take count)).bind fun n =>
      if (0xD800 ≤ n ∧ n ≤ 0xDFFF) ∨ 0x10FFFF < n then none else some (Char.ofNat n)

/-- The character behind a backslash in a double quoted scalar, and how many characters say so. -/
def escape? : List Char → Option (Char × Nat)
  | [] => none
  | c :: rest =>
    match c with
    | '0' => some ('\x00', 1)
    | 'a' => some ('\x07', 1)
    | 'b' => some ('\x08', 1)
    | 't' => some ('\t', 1)
    | '\t' => some ('\t', 1)
    | 'n' => some ('\n', 1)
    | 'v' => some ('\x0b', 1)
    | 'f' => some ('\x0c', 1)
    | 'r' => some ('\r', 1)
    | 'e' => some ('\x1b', 1)
    | ' ' => some (' ', 1)
    | '"' => some ('"', 1)
    | '/' => some ('/', 1)
    | '\\' => some ('\\', 1)
    | 'N' => some ('\u0085', 1)
    | '_' => some ('\u00a0', 1)
    | 'L' => some ('\u2028', 1)
    | 'P' => some ('\u2029', 1)
    | 'x' => (codeEscape? 2 rest).map (·, 3)
    | 'u' => (codeEscape? 4 rest).map (·, 5)
    | 'U' => (codeEscape? 8 rest).map (·, 9)
    | _ => none

/-- The characters of a quoted scalar up to the next gap or the closing quote. An escaped line break
ends the word as well and leaves a broken gap. -/
def quotedWord? (single : Bool) : Nat → List Char → Cursor → Option (List Char × Gap × Cursor)
  | 0, word, c => some (word, {}, c)
  | fuel + 1, word, c =>
    match c.rest with
    | [] => some (word, {}, c)
    | x :: rest =>
      if isBlank x || isBreak x then some (word, {}, c)
      else if single then
        if x = '\'' then
          match rest with
          | '\'' :: _ => quotedWord? single fuel ('\'' :: word) (c.advance 2)
          | _ => some (word, {}, c)
        else quotedWord? single fuel (x :: word) (c.advance 1)
      else if x = '"' then some (word, {}, c)
      else if x = '\\' then
        if (c.advance 1).next isBreak then
          some (word, { broken := true }, (c.advance 1).skipBreak)
        else
          match escape? rest with
          | some (y, n) => quotedWord? single fuel (y :: word) (c.advance (n + 1))
          | none => none
      else quotedWord? single fuel (x :: word) (c.advance 1)

def quotedTail? (single : Bool) : Nat → List Char → Cursor → Option (List Char × Cursor)
  | 0, _, _ => none
  | fuel + 1, text, c =>
    if c.atDocumentMark || c.rest.isEmpty then none
    else
      match quotedWord? single (c.rest.length + 1) [] c with
      | none => none
      | some (word, gap, c) =>
        let text := text ++ word.reverse
        if c.nextIs (if single then '\'' else '"') then some (text, c.advance 1)
        else
          match Gap.read? none (c.rest.length + 1) gap c with
          | none => none
          | some (gap, c) => quotedTail? single fuel (text ++ gap.text) c

def quoted? (single : Bool) (c : Cursor) : Option (List Char × Cursor) :=
  quotedTail? single (c.rest.length + 1) [] (c.advance 1)

inductive Chomping where
  | strip | clip | keep
deriving DecidableEq, Repr, Inhabited

def chomping? (c : Cursor) : Option (Chomping × Cursor) :=
  if c.nextIs '+' then some (.keep, c.advance 1)
  else if c.nextIs '-' then some (.strip, c.advance 1)
  else none

def increment? (c : Cursor) : Option (Nat × Cursor) :=
  match c.rest with
  | x :: _ => if x.isDigit then some (x.toNat - 48, c.advance 1) else none
  | [] => none

/-- The indicators behind `|` or `>`, in either order; an increment of zero is malformed. -/
def blockHeader? (c : Cursor) : Option (Chomping × Nat × Cursor) :=
  let (chomping, increment, c) : Chomping × Option Nat × Cursor :=
    match chomping? c with
    | some (chomping, c) =>
      match increment? c with
      | some (n, c) => (chomping, some n, c)
      | none => (chomping, none, c)
    | none =>
      match increment? c with
      | some (n, c) =>
        match chomping? c with
        | some (chomping, c) => (chomping, some n, c)
        | none => (.clip, some n, c)
      | none => (.clip, none, c)
  if increment = some 0 then none else some (chomping, increment.getD 0, c)

/-- Empty lines before the next line of a block scalar. `indent` is the column of its lines, or zero
while that is not known; `widest` is the furthest column of the lines so far. -/
def blockBreaks? (indent : Nat) :
    Nat → Nat → List Char → Cursor → Option (Nat × List Char × Cursor)
  | 0, widest, breaks, c => some (widest, breaks, c)
  | fuel + 1, widest, breaks, c =>
    let spaces := (c.rest.takeWhile (· = ' ')).length
    let c := c.advance (if indent = 0 then spaces else min spaces (indent - c.column))
    let widest := max widest c.column
    if (indent = 0 || decide (c.column < indent)) && c.nextIs '\t' then none
    else
      match c.break? with
      | none => some (widest, breaks, c)
      | some (x, c) => blockBreaks? indent fuel widest (breaks ++ [x]) c

/-- The lines of a block scalar. `lead` is the break before the next line, `breaks` are the empty
lines behind it, and `blank` tells that the line before starts with a blank. -/
def blockLines? (literal : Bool) (indent : Nat) : Nat → List Char → Option Char → List Char →
    Bool → Cursor → Option (List Char × Option Char × List Char × Cursor)
  | 0, text, lead, breaks, _, c => some (text, lead, breaks, c)
  | fuel + 1, text, lead, breaks, blank, c =>
    if c.column = indent ∧ c.rest ≠ [] then
      let blankNow := c.next isBlank
      let joined :=
        if !literal && lead == some '\n' && !blank && !blankNow then
          if breaks.isEmpty then [' '] else []
        else lead.toList
      let (line, c) := c.span fun x => !isBreak x
      let text := text ++ joined ++ breaks ++ line
      let (lead, c) := match c.break? with
        | some (x, c) => (some x, c)
        | none => (none, c)
      match blockBreaks? indent (c.rest.length + 1) 0 [] c with
      | none => none
      | some (_, breaks, c) => blockLines? literal indent fuel text lead breaks blankNow c
    else some (text, lead, breaks, c)

/-- A block scalar, `parent` being the column of the collection it stands in. -/
def block? (literal : Bool) (parent : Int) (c : Cursor) : Option (List Char × Cursor) := do
  let (chomping, increment, c) ← blockHeader? (c.advance 1)
  let c := (c.skipWhile isBlank).skipComment
  if !c.atLineEnd then none
  else
    let c := c.skipBreak
    let known := if increment = 0 then 0 else (max parent 0).toNat + increment
    let (widest, breaks, c) ← blockBreaks? known (c.rest.length + 1) 0 [] c
    let indent := if known = 0 then max (max widest (parent + 1).toNat) 1 else known
    let (text, lead, breaks, c) ←
      blockLines? literal indent (c.rest.length + 1) [] none breaks false c
    let text := if chomping = .strip then text else text ++ lead.toList
    some (if chomping = .keep then text ++ breaks else text, c)

end Toolbridge.Yaml
