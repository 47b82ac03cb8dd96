import Toolbridge.Conversion.Basic

set_option autoImplicit false

namespace Toolbridge

structure HelperConflict where
  name : String
  existing : String
  requested : String
deriving DecidableEq, Repr

structure Signature where
  paramType : String
  resultType : String
deriving DecidableEq, Repr

def Signature.text (s : Signature) : String := "func(" ++ s.paramType ++ ") " ++ s.resultType

def Helper.signature (h : Helper) : Signature := ⟨h.paramType, h.resultType⟩

structure HelperSet where
  signatures : List (String × Signature) := []
  helpers : List Helper := []
deriving DecidableEq, Repr, Inhabited

namespace HelperSet

def signature? (s : HelperSet) (name : String) : Option Signature := s.signatures.lookup name

def enter (s : HelperSet) (h : Helper) : HelperSet where
  signatures := (h.name, h.signature) :: s.signatures
  helpers := s.helpers ++ [h]

/-- The set afterwards, and whether the helper is new. -/
def insert (s : HelperSet) (h : Helper) : HelperSet × Except HelperConflict Bool :=
  match s.signature? h.name with
  | some held =>
    if held = h.signature then (s, .ok false)
    else (s, .error ⟨h.name, held.text, h.signature.text⟩)
  | none => (s.enter h, .ok true)

/-- Inserts one after another up to the first conflict, together with what came before it. -/
def extend (s : HelperSet) : List Helper → HelperSet × Option HelperConflict
  | [] => (s, none)
  | h :: rest =>
    match s.insert h with
    | (s, .ok _) => s.extend rest
    | (s, .error e) => (s, some e)

def size (s : HelperSet) : Nat := s.helpers.length

def isEmpty (s : HelperSet) : Bool := s.helpers.isEmpty

end HelperSet
end Toolbridge
