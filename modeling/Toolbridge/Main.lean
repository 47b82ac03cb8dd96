import Toolbridge.Command.Script

set_option autoImplicit false

namespace Toolbridge.CommandLine

def fileError (e : IO.Error) : FileError :=
  match e with
  | .noFileOrDirectory .. => .notFound
  | .alreadyExists .. => .alreadyExists
  | .inappropriateType _ code details =>
    .other (details ++ " (os error " ++ toString code ++ ")")
  | .permissionDenied _ code details =>
    .other (details ++ " (os error " ++ toString code ++ ")")
  | e => .other (toString e)

def attempt {α : Type} (action : IO α) : IO (Except FileError α) := do
  try
    let a ← action
    pure (.ok a)
  catch e => pure (.error (fileError e))

def perform : Action → IO Unit
  | .print text => IO.print text
  | .makeDirectories path => IO.FS.createDirAll path
  | .writeFile path text => IO.FS.writeFile path text

def performAll (failure : Option Failure) : List Action → IO UInt32
  | [] =>
    match failure with
    | none => pure 0
    | some f => do
      IO.eprint f.report
      pure 1
  | a :: rest => do
    match ← attempt (perform a) with
    | .ok () => performAll failure rest
    | .error e =>
      IO.eprint (a.failure e).report
      pure 1

def run (c : Command) : IO UInt32 := do
  let text ← attempt (IO.FS.readFile c.designPath)
  let script := c.script text
  performAll script.failure script.actions

def runArguments (args : List String) : IO UInt32 := do
  match Invocation.ofArguments args with
  | .run c => run c
  | .help =>
    IO.print Invocation.usage
    pure 0
  | .misuse =>
    IO.eprint Invocation.usage
    pure 2

end Toolbridge.CommandLine

def main (args : List String) : IO UInt32 := Toolbridge.CommandLine.runArguments args
