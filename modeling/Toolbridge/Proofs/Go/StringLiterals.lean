import Mathlib.Data.List.Basic
import Toolbridge.Json.Reader
import Toolbridge.Text.Quoted

set_option autoImplicit false

namespace Toolbridge.Go

/-- The number that so many digits write, behind those read before, and what is left. -/
def digits? (base : Nat) : Nat → Nat → List Char → Option (Nat × List Char)
  | 0, n, rest => some (n, rest)
  | _ + 1, _, [] => none
  | count + 1, n, ch :: rest =>
    ((Json.hexValue? ch).filter (· < base)).bind fun digit =>
      digits? base count (base * n + digit) rest

def byte? (n : Nat) : Option (List UInt8) := if n < 256 then some [UInt8.ofNat n] else none

def codePoint? (n : Nat) : Option (List UInt8) :=
  if n.isValidChar then some (String.utf8EncodeChar (Char.ofNat n)) else none

def numeral? (base count : Nat) (value? : Nat → Option (List UInt8)) (cs : List Char) :
    Option (List UInt8 × List Char) :=
  (digits? base count 0 cs).bind fun (n, rest) => (value? n).map (·, rest)

/-- What stands behind a backslash, and what is left. -/
def escape? : List Char → Option (List UInt8 × List Char)
  | [] => none
  | ch :: rest =>
    match ch with
    | 'a' => some ([0x07], rest)
    | 'b' => some ([0x08], rest)
    | 'f' => some ([0x0c], rest)
    | 'n' => some ([0x0a], rest)
    | 'r' => some ([0x0d], rest)
    | 't' => some ([0x09], rest)
    | 'v' => some ([0x0b], rest)
    | '\\' => some ([0x5c], rest)
    | '"' => some ([0x22], rest)
    | 'x' => numeral? 16 2 byte? rest
    | 'u' => numeral? 16 4 codePoint? rest
    | 'U' => numeral? 16 8 codePoint? rest
    | _ => numeral? 8 3 byte? (ch :: rest)

theorem digits?_rest {base count n m : Nat} {cs rest : List Char}
    (h : digits? base count n cs = some (m, rest)) : rest.length ≤ cs.length := by
  induction count generalizing n cs with
  | zero =>
    cases h
    exact Nat.le_refl _
  | succ count ih =>
    cases cs with
    | nil => cases h
    | cons ch cs =>
      obtain ⟨digit, -, h⟩ := Option.bind_eq_some_iff.mp h
      exact Nat.le_succ_of_le (ih h)

theorem numeral?_rest {base count : Nat} {value? : Nat → Option (List UInt8)}
    {cs rest : List Char} {bytes : List UInt8}
    (h : numeral? base count value? cs = some (bytes, rest)) : rest.length ≤ cs.length := by
  obtain ⟨⟨n, left⟩, digits, h⟩ := Option.bind_eq_some_iff.mp h
  obtain ⟨_, -, same⟩ := Option.map_eq_some_iff.mp h
  cases same
  exact digits?_rest digits

theorem escape?_rest {cs rest : List Char} {bytes : List UInt8}
    (h : escape? cs = some (bytes, rest)) : rest.length ≤ cs.length := by
  unfold escape? at h
  split at h
  · cases h
  · rename_i ch behind
    have shorter : behind.length ≤ (ch :: behind).length := Nat.le_succ _
    split at h
    case h_10 | h_11 | h_12 => exact Nat.le_trans (numeral?_rest h) shorter
    case h_13 => exact numeral?_rest h
    all_goals
      cases h
      exact shorter

/-- The bytes of a literal whose opening quote has been read. -/
def body? : List Char → Option (List UInt8)
  | [] => none
  | ch :: rest =>
    if ch = '"' then if rest.isEmpty then some [] else none
    else if ch = '\n' then none
    else if ch = '\\' then
      match _h : escape? rest with
      | none => none
      | some (bytes, behind) => (body? behind).map (bytes ++ ·)
    else (body? rest).map (String.utf8EncodeChar ch ++ ·)
termination_by cs => cs.length
decreasing_by
  · exact Nat.lt_succ_of_le (escape?_rest _h)
  · exact Nat.lt_succ_self _

/-- The value of a text that is an interpreted string literal. -/
def stringValue? (literal : String) : Option (List UInt8) :=
  match literal.toList with
  | '"' :: rest => body? rest
  | _ => none

section Reading

variable {ch : Char} {rest : List Char}

theorem body?_escape : body? ('\\' :: rest) =
    (escape? rest).bind fun (bytes, behind) => (body? behind).map (bytes ++ ·) := by
  rw [body?, if_neg (by decide), if_neg (by decide), if_pos rfl]
  split <;> rename_i read <;> rw [read] <;> rfl

theorem body?_plain (unquoted : ch ≠ '"') (unbroken : ch ≠ '\n') (unescaped : ch ≠ '\\') :
    body? (ch :: rest) = (body? rest).map (String.utf8EncodeChar ch ++ ·) := by
  rw [body?, if_neg unquoted, if_neg unbroken, if_neg unescaped]

end Reading

/-- A character that Go reads again where it stands in quoted text. -/
def Kept (ch : Char) : Prop :=
  Text.isVisible ch = true ∨ ch = '\t' ∨ ch = '\r' ∨ ch = '\n'

instance (ch : Char) : Decidable (Kept ch) := inferInstanceAs (Decidable (_ ∨ _))

open Text (escapeChar)

/-- How a character is written in quoted text. -/
inductive Written (ch : Char) : List Char → Prop
  | self (unquoted : ch ≠ '"') (unbroken : ch ≠ '\n') (unescaped : ch ≠ '\\')
      (visible : Text.isVisible ch = true) : Written ch [ch]
  | short {letter : Char} (kept : Kept ch)
      (read : ∀ rest, escape? (letter :: rest) = some (String.utf8EncodeChar ch, rest)) :
      Written ch ['\\', letter]
  | zero (null : ch = '\x00') : Written ch ['\\', '0']
  | number {digits : List Char} (lost : ¬ Kept ch) :
      Written ch ('\\' :: 'u' :: '\x7b' :: digits)

theorem written_escapeChar (ch : Char) : Written ch (escapeChar ch) := by
  unfold escapeChar
  split_ifs with null tab carriage line slash quote visible
  · exact .zero null
  · subst tab
    exact .short (by decide) fun _ => rfl
  · subst carriage
    exact .short (by decide) fun _ => rfl
  · subst line
    exact .short (by decide) fun _ => rfl
  · subst slash
    exact .short (by decide) fun _ => rfl
  · subst quote
    exact .short (by decide) fun _ => rfl
  · exact .self quote line slash visible
  · refine .number ?_
    rintro (shown | rfl | rfl | rfl)
    · exact visible shown
    · exact tab rfl
    · exact carriage rfl
    · exact line rfl

theorem exists_written (ch : Char) : ∃ text, escapeChar ch = text ∧ Written ch text :=
  ⟨_, rfl, written_escapeChar ch⟩

def utf8 (cs : List Char) : List UInt8 := cs.flatMap String.utf8EncodeChar

theorem toUTF8_toList (s : String) : s.toUTF8.data.toList = utf8 s.toList := by
  conv => lhs; rw [← String.ofList_toList (s := s)]
  rw [String.toUTF8_eq_toByteArray, String.toByteArray_ofList]
  exact List.toList_data_toByteArray

def closed (cs : List Char) : List Char := cs.flatMap escapeChar ++ ['"']

section Characters

variable {ch d : Char} {cs rest : List Char} {bytes : List UInt8}

theorem closed_cons (ch : Char) (cs : List Char) :
    closed (ch :: cs) = escapeChar ch ++ closed cs := by
  rw [closed, List.flatMap_cons, List.append_assoc]
  rfl

theorem utf8_cons (ch : Char) (cs : List Char) :
    utf8 (ch :: cs) = String.utf8EncodeChar ch ++ utf8 cs := List.flatMap_cons

theorem body?_kept (kept : Kept ch) :
    body? (escapeChar ch ++ rest) = (body? rest).map (String.utf8EncodeChar ch ++ ·) := by
  obtain ⟨text, same, here⟩ := exists_written ch
  rw [same]
  cases here with
  | self unquoted unbroken unescaped => exact body?_plain unquoted unbroken unescaped
  | short _ read =>
    rw [List.cons_append, List.cons_append, List.nil_append, body?_escape, read]
    rfl
  | zero null =>
    subst null
    exact absurd kept (by decide)
  | number lost => exact absurd kept lost

theorem body?_closed (kept : ∀ ch ∈ cs, Kept ch) : body? (closed cs) = some (utf8 cs) := by
  induction cs with
  | nil =>
    rw [closed, List.flatMap_nil, List.nil_append, body?, if_pos rfl]
    rfl
  | cons ch cs ih =>
    obtain ⟨here, later⟩ := List.forall_mem_cons.mp kept
    rw [closed_cons, body?_kept here, ih later, utf8_cons]
    rfl

/-- A number in braces is no escape. -/
theorem body?_number (digits : List Char) : body? ('\\' :: 'u' :: '\x7b' :: digits) = none := by
  rw [body?_escape]
  rfl

theorem closed_digit {digit : Nat} (read : Json.hexValue? d = some digit)
    (quoted : closed cs = d :: rest) : ∃ more, cs = d :: more ∧ rest = closed more := by
  cases cs with
  | nil =>
    obtain ⟨rfl, -⟩ := List.cons.inj quoted
    cases read
  | cons ch more =>
    rw [closed_cons] at quoted
    obtain ⟨text, same, here⟩ := exists_written ch
    rw [same] at quoted
    cases here with
    | self =>
      obtain ⟨rfl, rfl⟩ := List.cons.inj quoted
      exact ⟨more, rfl, rfl⟩
    | _ =>
      obtain ⟨rfl, -⟩ := List.cons.inj quoted
      cases read

theorem digits?_closed {base count n m : Nat}
    (read : digits? base count n (closed cs) = some (m, rest)) :
    ∃ taken more, cs = taken ++ more ∧ taken.length = count ∧ rest = closed more := by
  induction count generalizing n cs with
  | zero =>
    cases read
    exact ⟨[], cs, rfl, rfl, rfl⟩
  | succ count ih =>
    obtain ⟨d, behind, quoted⟩ : ∃ d behind, closed cs = d :: behind := by
      cases quoted : closed cs with
      | nil =>
        rw [quoted] at read
        cases read
      | cons d behind => exact ⟨d, behind, rfl⟩
    rw [quoted] at read
    obtain ⟨digit, value, read⟩ := Option.bind_eq_some_iff.mp read
    obtain ⟨value, -⟩ := Option.filter_eq_some_iff.mp value
    obtain ⟨more, rfl, rfl⟩ := closed_digit value quoted
    obtain ⟨taken, more, rfl, length, rfl⟩ := ih read
    exact ⟨d :: taken, more, rfl, congrArg (· + 1) length, rfl⟩

/-- A zero is read only as one byte together with two digits behind it. -/
theorem body?_zero (read : body? ('\\' :: '0' :: closed cs) = some bytes) :
    ∃ taken more byte inner, cs = taken ++ more ∧ taken.length = 2 ∧
      body? (closed more) = some inner ∧ bytes = byte :: inner := by
  rw [body?_escape] at read
  obtain ⟨⟨own, behind⟩, escape, read⟩ := Option.bind_eq_some_iff.mp read
  obtain ⟨inner, here, rfl⟩ := Option.map_eq_some_iff.mp read
  obtain ⟨⟨n, left⟩, digits, value⟩ := Option.bind_eq_some_iff.mp escape
  obtain ⟨_, byte, same⟩ := Option.map_eq_some_iff.mp value
  cases same
  have others : digits? 8 2 0 (closed cs) = some (n, behind) := digits
  obtain ⟨taken, more, rfl, length, rfl⟩ := digits?_closed others
  unfold byte? at byte
  split at byte
  · cases byte
    exact ⟨taken, more, _, inner, rfl, length, here, rfl⟩
  · cases byte

theorem length_le_utf8 (cs : List Char) : cs.length ≤ (utf8 cs).length := by
  induction cs with
  | nil => exact Nat.le_refl _
  | cons ch cs ih =>
    have positive : 0 < (String.utf8EncodeChar ch).length := by
      rw [String.length_utf8EncodeChar]
      exact ch.utf8Size_pos
    rw [utf8_cons, List.length_append, List.length_cons]
    omega

/-- A literal that is read has fewer bytes than its characters stand for, unless all of them are
kept. The zero takes two more characters with it, so the induction is on how many there are. -/
theorem length_of_body?_closed (read : body? (closed cs) = some bytes) :
    bytes.length ≤ (utf8 cs).length ∧ (bytes.length = (utf8 cs).length → ∀ ch ∈ cs, Kept ch) := by
  induction size : cs.length using Nat.strongRecOn generalizing cs bytes with
  | ind size ih =>
    subst size
    cases cs with
    | nil =>
      rw [closed, List.flatMap_nil, List.nil_append, body?, if_pos rfl] at read
      cases read
      exact ⟨Nat.le_refl _, fun _ _ mem => absurd mem List.not_mem_nil⟩
    | cons ch cs =>
      rw [closed_cons] at read
      rw [utf8_cons, List.length_append]
      by_cases kept : Kept ch
      · rw [body?_kept kept] at read
        obtain ⟨inner, here, rfl⟩ := Option.map_eq_some_iff.mp read
        obtain ⟨shorter, later⟩ := ih _ (Nat.lt_succ_self _) here rfl
        rw [List.length_append]
        refine ⟨Nat.add_le_add_left shorter _, fun equal => List.forall_mem_cons.mpr ⟨kept, ?_⟩⟩
        exact later (Nat.add_left_cancel equal)
      · obtain ⟨text, same, here⟩ := exists_written ch
        rw [same] at read
        cases here with
        | self _ _ _ visible => exact absurd (.inl visible) kept
        | short kept' => exact absurd kept' kept
        | number =>
          rw [List.cons_append, List.cons_append, List.cons_append, body?_number] at read
          cases read
        | zero =>
          obtain ⟨taken, more, byte, inner, rfl, two, here, rfl⟩ := body?_zero read
          have fewer : more.length < (ch :: (taken ++ more)).length := by
            rw [List.length_cons, List.length_append]
            omega
          obtain ⟨shorter, -⟩ := ih _ fewer here rfl
          have whole :
              (utf8 (taken ++ more)).length = (utf8 taken).length + (utf8 more).length := by
            rw [utf8, List.flatMap_append, List.length_append]
            rfl
          have digits : taken.length ≤ (utf8 taken).length := length_le_utf8 taken
          rw [whole, List.length_cons]
          exact ⟨by omega, fun equal => absurd equal (by omega)⟩

end Characters

/-- Quoted text is a literal for what it was before just if all its characters are kept. -/
theorem stringValue?_quote_iff (s : String) :
    stringValue? (Text.quote s) = some s.toUTF8.data.toList ↔ ∀ ch ∈ s.toList, Kept ch := by
  have quoted : stringValue? (Text.quote s) = body? (closed s.toList) := by
    rw [stringValue?, Text.quote, String.toList_ofList]
    rfl
  rw [quoted, toUTF8_toList]
  exact ⟨fun read => (length_of_body?_closed read).2 rfl, body?_closed⟩

example : stringValue? (Text.quote "\x00\t") = none ∧
    stringValue? (Text.quote "\x0007\t") = some [0x07, 0x09] := by
  decide +kernel

end Toolbridge.Go
