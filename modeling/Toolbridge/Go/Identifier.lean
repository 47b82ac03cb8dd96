set_option autoImplicit false

/-!
# Go identifiers

Identifiers and package names made from arbitrary text. Only the runs of ASCII letters and digits
count; an identifier joins them in camel case and writes common initialisms in capitals.
-/
namespace Toolbridge.Go

def initialisms : List String :=
  ["ACL", "API", "ASCII", "CPU", "CSS", "DNS", "EOF", "GUID", "HTML", "HTTP", "HTTPS", "ID",
   "IP", "JSON", "JWT", "LHS", "QPS", "RAM", "RHS", "RPC", "SLA", "SMTP", "SQL", "SSH", "TCP",
   "TLS", "TTL", "UDP", "UI", "UID", "UUID", "URI", "URL", "UTF8", "VM", "XML", "XMPP", "XSRF",
   "XSS"]

def keywords : List String :=
  ["break", "case", "chan", "const", "continue", "default", "defer", "else", "fallthrough", "for",
   "func", "go", "goto", "if", "import", "interface", "map", "package", "range", "return",
   "select", "struct", "switch", "type", "var"]

def isWordChar (c : Char) : Bool := c.isAlphanum

/-- `word` holds the run under way, the last character first. -/
def wordsFrom (word : List Char) : List Char → List (List Char)
  | [] => if word.isEmpty then [] else [word.reverse]
  | c :: rest =>
    if isWordChar c then wordsFrom (c :: word) rest
    else if word.isEmpty then wordsFrom [] rest
    else word.reverse :: wordsFrom [] rest

def words (name : String) : List (List Char) := wordsFrom [] name.toList

def camelWord (capital : Bool) (word : List Char) : List Char :=
  if initialisms.contains (String.ofList (word.map Char.toUpper)) then
    if capital then word.map Char.toUpper else word.map Char.toLower
  else
    match word with
    | [] => []
    | c :: rest => (if capital then c.toUpper else c.toLower) :: rest

def camelChars (exported : Bool) (name : String) : List Char :=
  match words name with
  | [] => ['v']
  | first :: rest => camelWord exported first ++ rest.flatMap (camelWord true)

/-- The identifier for `name`: `by_id` becomes `ByID` if exported, otherwise `byID`. A text without
any word becomes `v`, and an identifier does not start with a digit. -/
def identifier (exported : Bool) (name : String) : String :=
  match camelChars exported name with
  | c :: rest => String.ofList (if c.isDigit then '_' :: c :: rest else c :: rest)
  | [] => ""

def packageChars (segment : String) : List Char :=
  (segment.toList.filter isWordChar).map Char.toLower

def packageName (segment : String) : String :=
  match packageChars segment with
  | [] => "pkg"
  | c :: rest =>
    if c.isDigit || keywords.contains (String.ofList (c :: rest)) then
      "pkg" ++ String.ofList (c :: rest)
    else String.ofList (c :: rest)

end Toolbridge.Go
