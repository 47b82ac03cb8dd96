import Toolbridge.Json.Value
import Toolbridge.Number.Shortest
import Toolbridge.Text.Quoted

set_option autoImplicit false

namespace Toolbridge.Json

def Number.text : Number → String
  | .int n => toString n
  | .float bits => Number.floatText bits

def escapeChar (c : Char) : List Char :=
  if c = '"' then ['\\', '"']
  else if c = '\\' then ['\\', '\\']
  else if c = '\n' then ['\\', 'n']
  else if c = '\r' then ['\\', 'r']
  else if c = '\t' then ['\\', 't']
  else if c.toNat = 8 then ['\\', 'b']
  else if c.toNat = 12 then ['\\', 'f']
  else if c.toNat < 0x20 then
    ['\\', 'u', '0', '0', Text.hexDigit (c.toNat / 16), Text.hexDigit (c.toNat % 16)]
  else [c]

def stringText (s : String) : String :=
  String.ofList ('"' :: (s.toList.flatMap escapeChar ++ ['"']))

mutual
def Value.compact : Value → String
  | .null => "null"
  | .bool b => if b then "true" else "false"
  | .number n => n.text
  | .string s => stringText s
  | .array items => "[" ++ String.intercalate "," (compactItems items) ++ "]"
  | .object fields => "\x7b" ++ String.intercalate "," (compactFields fields) ++ "\x7d"
def compactItems : List Value → List String
  | [] => []
  | v :: rest => v.compact :: compactItems rest
def compactFields : List (String × Value) → List String
  | [] => []
  | (name, v) :: rest => (stringText name ++ ":" ++ v.compact) :: compactFields rest
end

def lineAt (level : Nat) : String :=
  "\n" ++ String.ofList (List.replicate (2 * level) ' ')

def bracketed (opening closing : String) (level : Nat) (items : List String) : String :=
  if items.isEmpty then opening ++ closing
  else opening ++ String.intercalate "," (items.map (lineAt (level + 1) ++ ·))
    ++ lineAt level ++ closing

mutual
def Value.pretty (level : Nat) : Value → String
  | .array items => bracketed "[" "]" level (prettyItems (level + 1) items)
  | .object fields => bracketed "\x7b" "\x7d" level (prettyFields (level + 1) fields)
  | .null => "null"
  | .bool b => if b then "true" else "false"
  | .number n => n.text
  | .string s => stringText s
def prettyItems (level : Nat) : List Value → List String
  | [] => []
  | v :: rest => v.pretty level :: prettyItems level rest
def prettyFields (level : Nat) : List (String × Value) → List String
  | [] => []
  | (name, v) :: rest => (stringText name ++ ": " ++ v.pretty level) :: prettyFields level rest
end

end Toolbridge.Json
