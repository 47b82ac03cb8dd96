import Toolbridge.Command.Invocation
import Toolbridge.Design.Loading
import Toolbridge.Files.Tree
import Toolbridge.Go.File
import Toolbridge.Json.Printer
import Toolbridge.Plan.Json

set_option autoImplicit false

/-!
# What a command does

A command reads its design and then is decided: it is a script of texts to print and files to write,
which may end in a failure. Scripts are run here on a tree of files; an action that fails ends its
script.
-/
namespace Toolbridge

/-- What went wrong, and below it what that came from. -/
structure Failure where
  message : String
  causes : List String := []
deriving DecidableEq, Repr

inductive Action where
  | print (text : String)
  | makeDirectories (path : String)
  | writeFile (path text : String)
deriving DecidableEq, Repr

structure Script where
  actions : List Action := []
  failure : Option Failure := none
deriving DecidableEq, Repr

namespace Failure

/-- A text whose later lines stand as far to the right as its first, behind `label`. -/
def hanging (label text : String) : String :=
  let margin := String.ofList (label.toList.map fun _ => ' ')
  label ++ String.join (text.toList.map fun c => if c = '\n' then "\n" ++ margin else c.toString)

def numberLabel (n : Nat) : String :=
  let digits := toString n
  String.ofList (List.replicate (5 - digits.length) ' ') ++ digits ++ ": "

def causeLines : List String → List String
  | [] => []
  | [cause] => [hanging "    " cause]
  | causes => causes.zipIdx.map fun (cause, n) => hanging (numberLabel n) cause

def report (f : Failure) : String :=
  "Error: " ++ f.message
    ++ (if f.causes.isEmpty then ""
      else "\n\nCaused by:" ++ String.join ((causeLines f.causes).map ("\n" ++ ·)))
    ++ "\n"

end Failure

def PlanError.causes : PlanError → List String
  | .serverDataIncompatible _ _ _ reason => [reason.message]
  | .conversionFailed _ _ _ reason => [reason.message]
  | _ => []

def PlanError.failure (e : PlanError) : Failure := ⟨e.message, e.causes⟩

def Stop.planFailure : Stop PlanError → Failure
  | .failed e => e.failure
  | .unfinished => ⟨"the conversions of a recursive type do not end", []⟩

def FileError.designFailure (path : String) (e : FileError) : Failure :=
  ⟨"failed to load design " ++ path, ["IO error: " ++ e.message, e.message]⟩

def Design.DesignError.failure (path : String) (e : Design.DesignError) : Failure :=
  ⟨"failed to load design " ++ path,
    match e with
    | .notADocument => [e.message, Design.notADocumentText]
    | _ => [e.message]⟩

def Action.failure : Action → FileError → Failure
  | .print _, e => ⟨e.message, []⟩
  | .makeDirectories path, e => ⟨"failed to create " ++ path, [e.message]⟩
  | .writeFile path _, e => ⟨"failed to write " ++ path, [e.message]⟩

namespace Command

def designPath : Command → String
  | .plan design _ _ => design
  | .render design _ _ => design

def givenRoot : Command → Option String
  | .plan _ root _ => root
  | .render _ root _ => root

/-- The design together with the root, which the command line gives or else the design. -/
def load (c : Command) (text : Except FileError String) : Except Failure (Design × String) := do
  let text ← text.mapError (·.designFailure c.designPath)
  let d ← (Design.load text).mapError (·.failure c.designPath)
  match c.givenRoot.or d.root with
  | some root => .ok (d, root)
  | none => .error ⟨"Either --root or a design `root` must be specified", []⟩

def planOf (d : Design) (root : String) (s : Toolset) : Except Failure (Option Plan) :=
  (planToolset d.catalog root s).outcome.mapError Stop.planFailure

def chosen (d : Design) (path : String) : Option String → Except Failure (List Toolset)
  | none => .ok d.toolsets
  | some name =>
    if (d.toolset? name).isSome then .ok (d.toolsets.filter (·.name == name))
    else .error ⟨"toolset " ++ name ++ " is not declared in " ++ path, []⟩

def planJson (d : Design) (root : String) (s : Toolset) : Except Failure Json.Value := do
  let p ← planOf d root s
  pure (Json.objectOf [("toolset", .string s.name), ("plan", (p.map (·.json)).getD .null)])

/-- Nothing is printed unless all plans can be made. -/
def planScript (d : Design) (root path : String) (only : Option String) : Script :=
  match chosen d path only >>= (·.mapM (planJson d root)) with
  | .ok plans => { actions := [.print ((Json.Value.array plans).pretty 0 ++ "\n")] }
  | .error failure => { failure := some failure }

def fileActions (out : Option String) (p : Plan) : List Action :=
  match out with
  | none => [.print ("// " ++ p.path ++ "\n" ++ Go.render p)]
  | some directory =>
    let target := Files.joinPath directory p.path
    [.makeDirectories (Files.parentPath target), .writeFile target (Go.render p)]

/-- Toolset by toolset; what comes before a failure is done. -/
def renderScript (d : Design) (root : String) (out : Option String) : List Toolset → Script
  | [] => {}
  | s :: rest =>
    match planOf d root s with
    | .error failure => { failure := some failure }
    | .ok none => renderScript d root out rest
    | .ok (some p) =>
      let later := renderScript d root out rest
      { later with actions := fileActions out p ++ later.actions }

def script (c : Command) (text : Except FileError String) : Script :=
  match c.load text with
  | .error failure => { failure := some failure }
  | .ok (d, root) =>
    match c with
    | .plan design _ toolset => planScript d root design toolset
    | .render _ _ out => renderScript d root out d.toolsets

end Command

structure Outcome where
  exitCode : Nat
  printed : String := ""
  reported : String := ""
  files : FileTree

namespace FileTree

def perform (t : FileTree) : Action → Except FileError FileTree
  | .print _ => .ok t
  | .makeDirectories path => t.makeDirectories path
  | .writeFile path text => t.write path text

end FileTree

def Action.printed : Action → String
  | .print text => text
  | _ => ""

namespace Outcome

def ended (printed : String) (t : FileTree) : Option Failure → Outcome
  | none => { exitCode := 0, printed, files := t }
  | some failure => { exitCode := 1, printed, reported := failure.report, files := t }

def ofActions (failure : Option Failure) (printed : String) (t : FileTree) :
    List Action → Outcome
  | [] => ended printed t failure
  | a :: rest =>
    match t.perform a with
    | .ok next => ofActions failure (printed ++ a.printed) next rest
    | .error e => ended printed t (some (a.failure e))

/-- Runs a command line on a tree of files. Misuse ends with 2 and a failure with 1. -/
def ofArguments (args : List String) (t : FileTree) : Outcome :=
  match Invocation.ofArguments args with
  | .help => { exitCode := 0, files := t }
  | .misuse => { exitCode := 2, files := t }
  | .run c =>
    let script := c.script (t.read c.designPath)
    ofActions script.failure "" t script.actions

end Outcome
end Toolbridge
