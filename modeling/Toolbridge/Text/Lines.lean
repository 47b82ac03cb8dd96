import Toolbridge.Text.CharRange

set_option autoImplicit false

namespace Toolbridge.Text

def whiteSpace : CharRanges :=
  [(0x9, 0xd), (0x20, 0x20), (0x85, 0x85), (0xa0, 0xa0), (0x1680, 0x1680), (0x2000, 0x200a),
   (0x2028, 0x2029), (0x202f, 0x202f), (0x205f, 0x205f), (0x3000, 0x3000)]

def isBlank (s : String) : Bool :=
  s.toList.all whiteSpace.contains

theorem isBlank_eq_false_of_mem {s : String} {c : Char} (hc : c ∈ s.toList)
    (h : whiteSpace.contains c = false) : isBlank s = false := by
  simp only [isBlank, List.all_eq_false]
  exact ⟨c, hc, by simp [h]⟩

/-- Pieces between newlines; `line` holds the piece under way, the last character first. A carriage
return right before a newline belongs to the line break, and nothing follows a final newline. -/
def linesFrom (line : List Char) : List Char → List (List Char)
  | [] => if line.isEmpty then [] else [line.reverse]
  | '\n' :: rest =>
    (match line with
      | '\r' :: body => body.reverse
      | _ => line.reverse) :: linesFrom [] rest
  | c :: rest => linesFrom (c :: line) rest

/-- Every line one tab to the right and closed by a newline; an empty line stays empty. -/
def indentChars (cs : List Char) : List Char :=
  (linesFrom [] cs).flatMap fun line =>
    if line.isEmpty then ['\n'] else '\t' :: (line ++ ['\n'])

def indent (s : String) : String :=
  String.ofList (indentChars s.toList)

end Toolbridge.Text
