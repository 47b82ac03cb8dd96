import Toolbridge.Text.Printable

set_option autoImplicit false

namespace Toolbridge.Text

def hexDigit (n : Nat) : Char :=
  if n < 10 then Char.ofNat (48 + n) else Char.ofNat (87 + n)

def hexDigits (n : Nat) : List Char :=
  if n < 16 then [hexDigit n] else hexDigits (n / 16) ++ [hexDigit (n % 16)]

def escapeChar (c : Char) : List Char :=
  if c = '\x00' then ['\\', '0']
  else if c = '\t' then ['\\', 't']
  else if c = '\r' then ['\\', 'r']
  else if c = '\n' then ['\\', 'n']
  else if c = '\\' then ['\\', '\\']
  else if c = '"' then ['\\', '"']
  else if isVisible c then [c]
  else ['\\', 'u', '\x7b'] ++ hexDigits c.toNat ++ ['\x7d']

def quoteChars (cs : List Char) : List Char :=
  '"' :: (cs.flatMap escapeChar ++ ['"'])

def quote (s : String) : String :=
  String.ofList (quoteChars s.toList)

def quoteList (names : List String) : String :=
  "[" ++ String.intercalate ", " (names.map quote) ++ "]"

def quoteSet (names : List String) : String :=
  "\x7b" ++ String.intercalate ", " (names.map quote) ++ "\x7d"

end Toolbridge.Text
