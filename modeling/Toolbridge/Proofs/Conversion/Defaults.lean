import Toolbridge.Proofs.Conversion.Assignments
import Toolbridge.Proofs.Go.StringLiterals

set_option autoImplicit false

namespace Toolbridge.Conversion

open Go (Stmt)

structure TextDefault (f : Frame) (p : Task) (x y : Member) (s : String) : Prop where
  inPlace : ¬ p.Called f.catalog
  fields : ∃ left right, (f.catalog.resolve p.source).type = some (.object left) ∧
    (f.catalog.resolve p.target).type = some (.object right) ∧ y ∈ right ∧
      Members.find? left y.name = some x
  primitive : BothPrimitive f.catalog x.attr y.attr
  pointer : f.catalog.isPrimitivePointer (f.catalog.resolve p.source) x.name f.source.useDefault =
    true
  value : f.catalog.isPrimitivePointer (f.catalog.resolve p.target) y.name f.target.useDefault =
    false
  used : f.target.useDefault = true
  default : y.attr.default = some (.string s)

def fallback (p : Task) (x y : Member) (literal : String) : Stmt :=
  .ifNil (p.field x y).sourceExpr [⟨false, (p.field x y).targetExpr, .literal literal⟩]

section Fallbacks

variable {f : Frame} {t p : Task} {x y : Member} {s : String} {body outer : List Stmt} {c : Catalog}
  {r : ConversionRequest} {code : Code}

theorem TextDefault.parts (field : TextDefault f p x y s) :
    fallback p x y (Text.quote s) ∈ (primitiveParts f p x y).after := by
  unfold primitiveParts primitiveField
  rw [field.pointer, field.value, field.used, field.default]
  exact List.mem_cons_of_mem _ List.mem_cons_self

theorem Emits.fallback (emits : Emits f p outer) (field : TextDefault f p x y s) :
    fallback p x y (Text.quote s) ∈ outer := by
  obtain ⟨left, right, source, target, mem, found⟩ := field.fields
  obtain ⟨depth, before, after, run⟩ := emits
  cases depth with
  | zero => cases run
  | succ depth =>
    cases nodeCode_of_run run with
    | call called => exact absurd called field.inPlace
    | object _ source' target' fields =>
      cases source.symm.trans source'
      cases target.symm.trans target'
      have stands := fields.primitive_stands mem found field.primitive
      exact List.mem_cons_of_mem _ (stands.subset field.parts)
    | _ _ source' => exact nomatch source.symm.trans source'

end Fallbacks

/-- The default of a field, wherever it is converted, is written as a literal that Go reads as the
default just if each character of it shows or is a tab or a line break. -/
theorem text_defaults_read_iff {c : Catalog} {r : ConversionRequest} {code : Code}
    (built : build c r = .ok code) {t p : Task} {body outer : List Stmt}
    (whole : code.Whole c r t body) (inside : Inside (frameOf c r) t body p outer) {x y : Member}
    {s : String} (field : TextDefault (frameOf c r) p x y s) :
    ∃ literal, fallback p x y literal ∈ outer ∧
      (Go.stringValue? literal = some s.toUTF8.data.toList ↔ ∀ ch ∈ s.toList, Go.Kept ch) :=
  ⟨Text.quote s, (inside.emits (whole.emits built)).fallback field, Go.stringValue?_quote_iff s⟩

/-! A note that may be missing, read into a field with a text for its default. -/
namespace Noted

def text : Attribute := .ofType (.primitive .string)

def request (s : String) : ConversionRequest :=
  { source := .ofType (.object [⟨"note", text⟩])
    target := .ofType (.object [⟨"note", { text with default := some (.string s) }⟩])
    sourceVar := "v", targetVar := "res", sourceSide := ⟨"", true⟩, targetSide := ⟨"", true⟩,
    helperPrefix := "", byReference := true }

def frame (s : String) : Frame := frameOf ⟨[]⟩ (request s)

theorem note_defaults (s : String) : TextDefault (frame s) (taskOf (request s)) ⟨"note", text⟩
    ⟨"note", { text with default := some (.string s) }⟩ s where
  inPlace := nofun
  fields := ⟨_, _, rfl, rfl, List.mem_cons_self, rfl⟩
  primitive := ⟨rfl, rfl⟩
  pointer := rfl
  value := rfl
  used := rfl
  default := rfl

theorem exists_code (s : String) : ∃ code, build ⟨[]⟩ (request s) = .ok code := ⟨_, rfl⟩

def givenDefault (s literal : String) : Stmt :=
  fallback (taskOf (request s)) ⟨"note", text⟩
    ⟨"note", { text with default := some (.string s) }⟩ literal

theorem tab_read :
    ∃ code, build ⟨[]⟩ (request "\t\"a\\") = .ok code ∧
      ∃ literal, givenDefault "\t\"a\\" literal ∈ code.body ∧
        Go.stringValue? literal = some "\t\"a\\".toUTF8.data.toList := by
  obtain ⟨code, built⟩ := exists_code "\t\"a\\"
  obtain ⟨literal, stands, read⟩ := text_defaults_read_iff built .body .whole (note_defaults _)
  have kept : ("\t\"a\\".toList.all fun ch => decide (Go.Kept ch)) = true := by decide +kernel
  refine ⟨code, built, literal, stands, read.mpr fun ch mem => ?_⟩
  exact of_decide_eq_true (List.all_eq_true.mp kept ch mem)

def escapeLiteral : String := "\"\\u\x7b1b\x7d\""

def escapeText : String :=
  "res := struct \x7b Note string \x7d\x7b\x7d\n" ++
    "if v.Note != nil \x7b\n\tres.Note = *v.Note\n\x7d\n" ++
    "if v.Note == nil \x7b\n\tres.Note = " ++ escapeLiteral ++ "\n\x7d\n"

/-- The escape character does not show, so its number stands in the literal, in braces. -/
theorem escape_unread :
    ∃ code, build ⟨[]⟩ (request "\x1b") = .ok code ∧ code.render = ⟨escapeText, []⟩ ∧
      givenDefault "\x1b" escapeLiteral ∈ code.body ∧ Go.stringValue? escapeLiteral = none := by
  have written : engine ⟨[]⟩ [] (request "\x1b") = .ok ⟨escapeText, []⟩ := by decide +kernel
  obtain ⟨code, built, rendered⟩ := engine_eq_ok.mp written
  have quoted : Text.quote "\x1b" = escapeLiteral := by decide +kernel
  have whole : code.Whole ⟨[]⟩ (request "\x1b") _ _ := .body
  have stands := (whole.emits built).fallback (note_defaults "\x1b")
  rw [quoted] at stands
  exact ⟨code, built, rendered, stands, Go.body?_number _⟩

end Noted

end Toolbridge.Conversion
