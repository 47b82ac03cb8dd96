set_option autoImplicit false

namespace Toolbridge

inductive Command where
  /-- Prints the plans of all toolsets, or of one. -/
  | plan (design : String) (root toolset : Option String)
  /-- Prints the generated files, or writes them under a directory. -/
  | render (design : String) (root out : Option String)
deriving DecidableEq, Repr

inductive Invocation where
  | run (command : Command)
  | help
  | misuse
deriving DecidableEq, Repr

namespace Invocation

structure Flag where
  name : String
  letter : Char
  mayBeEmpty : Bool
deriving DecidableEq, Repr

def planFlags : List Flag := [⟨"design", 'd', false⟩, ⟨"root", 'r', true⟩, ⟨"toolset", 't', true⟩]

def renderFlags : List Flag := [⟨"design", 'd', false⟩, ⟨"root", 'r', true⟩, ⟨"out", 'o', false⟩]

inductive Argument where
  | help
  | flag (flag : Flag) (attached : Option String)
  | endOfFlags
  | unknown
deriving DecidableEq, Repr

def longArgument (flags : List Flag) (cs : List Char) : Argument :=
  let name := String.ofList (cs.takeWhile (· ≠ '='))
  let attached := match cs.dropWhile (· ≠ '=') with
    | [] => none
    | _ :: value => some (String.ofList value)
  if name = "help" then if attached.isNone then .help else .unknown
  else
    match flags.find? (·.name == name) with
    | some f => .flag f attached
    | none => .unknown

def attachedValue : List Char → Option String
  | [] => none
  | '=' :: value => some (String.ofList value)
  | value => some (String.ofList value)

/-- Whatever follows the letter that asks for help does not matter. -/
def shortArgument (flags : List Flag) (letter : Char) (rest : List Char) : Argument :=
  if letter = 'h' then .help
  else
    match flags.find? (·.letter == letter) with
    | some f => .flag f (attachedValue rest)
    | none => .unknown

def argument (flags : List Flag) (arg : String) : Argument :=
  match arg.toList with
  | ['-', '-'] => .endOfFlags
  | '-' :: '-' :: cs => longArgument flags cs
  | '-' :: letter :: rest => shortArgument flags letter rest
  | _ => .unknown

def isValue (arg : String) : Bool := arg == "-" || arg.toList.head? != some '-'

abbrev Values := List (String × String)

def accepts (values : Values) (f : Flag) (value : String) : Bool :=
  (values.lookup f.name).isNone && (f.mayBeEmpty || !value.isEmpty)

inductive Given where
  | values (values : Values)
  | help
  | misuse
deriving DecidableEq, Repr

/-- Reads arguments from left to right; the first that asks for help or is wrong decides. -/
def given (flags : List Flag) (values : Values) : List String → Given
  | [] => .values values
  | arg :: rest =>
    match argument flags arg with
    | .help => .help
    | .unknown => .misuse
    | .endOfFlags => if rest.isEmpty then .values values else .misuse
    | .flag f (some value) =>
      if accepts values f value then given flags ((f.name, value) :: values) rest else .misuse
    | .flag f none =>
      match rest with
      | [] => .misuse
      | value :: rest =>
        if isValue value && accepts values f value then
          given flags ((f.name, value) :: values) rest
        else .misuse

def withDesign (make : String → Values → Command) : Given → Invocation
  | .help => .help
  | .misuse => .misuse
  | .values values =>
    match values.lookup "design" with
    | some design => .run (make design values)
    | none => .misuse

def commandNames : List String := ["plan", "render", "help"]

def ofArguments : List String → Invocation
  | [] => .misuse
  | name :: rest =>
    if name = "plan" then
      withDesign (fun design vs => .plan design (vs.lookup "root") (vs.lookup "toolset"))
        (given planFlags [] rest)
    else if name = "render" then
      withDesign (fun design vs => .render design (vs.lookup "root") (vs.lookup "out"))
        (given renderFlags [] rest)
    else if name = "help" then
      match rest with
      | [] => .help
      | [command] => if commandNames.contains command then .help else .misuse
      | _ => .misuse
    else if argument [] name = .help then .help
    else .misuse

def usage : String :=
  "Usage: agentgen <plan|render> --design <DESIGN> [--root <ROOT>]\n"
    ++ "  plan    Print the transform plan of each toolset as JSON [--toolset <TOOLSET>]\n"
    ++ "  render  Render transforms.go for each toolset [--out <OUT>]\n"
    ++ "  help    Print this message\n"

end Invocation
end Toolbridge
