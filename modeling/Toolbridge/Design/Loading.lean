import Toolbridge.Design.Naming
import Toolbridge.Design.Resolution

set_option autoImplicit false

namespace Toolbridge.Design

inductive DesignError where
  | notADocument
  | naming (fault : NamingFault)
  | resolution (error : ResolutionError)
deriving DecidableEq, Repr

def notADocumentText : String := "the text is not a design document"

def DesignError.message : DesignError → String
  | .notADocument => "YAML parsing error: " ++ notADocumentText
  | .naming fault => fault.message
  | .resolution error => error.message

def DesignDoc.read (text : String) : Except DesignError DesignDoc :=
  match DesignDoc.ofYaml? text with
  | some d => .ok d
  | none => .error .notADocument

def DesignDoc.checkNames (d : DesignDoc) : Except DesignError Unit :=
  match d.firstFault? with
  | some fault => .error (.naming fault)
  | none => .ok ()

def DesignDoc.design (d : DesignDoc) : Except DesignError Design :=
  d.resolve.mapError .resolution

def load (text : String) : Except DesignError Design := do
  let d ← DesignDoc.read text
  d.checkNames
  d.design

theorem checkNames_eq_ok_iff (d : DesignDoc) : d.checkNames = .ok () ↔ d.faults = [] := by
  unfold DesignDoc.checkNames DesignDoc.firstFault?
  cases d.faults <;> simp

end Toolbridge.Design
