import Toolbridge.Proofs.Go.Spelling

set_option autoImplicit false

namespace Toolbridge.Go

def led (chars : List Char) : List Char :=
  if chars.head?.any Char.isDigit then '_' :: chars else chars

theorem identifier_eq (exported : Bool) (name : String) :
    identifier exported name = String.ofList (led (camelChars exported name)) := by
  unfold identifier led
  cases camelChars exported name with
  | nil => rfl
  | cons first rest => rfl

theorem led_append {chars : List Char} (filled : chars ≠ []) (more : List Char) :
    led (chars ++ more) = led chars ++ more := by
  cases chars with
  | nil => exact absurd rfl filled
  | cons first rest =>
    unfold led
    rw [List.cons_append, List.head?_cons, List.head?_cons, Option.any_some]
    cases first.isDigit <;> rfl

section Words

variable {run rest word chars : List Char} {first : Char}

theorem wordsFrom_stops (begun : List Char) (all : ∀ ch ∈ run, isWordChar ch = true)
    (filled : begun ++ run ≠ []) (stops : ∀ ch ∈ rest.head?, isWordChar ch = false) :
    wordsFrom begun (run ++ rest) = (begun.reverse ++ run) :: wordsFrom [] rest := by
  induction run generalizing begun with
  | nil =>
    have filled : begun ≠ [] := by simpa using filled
    cases rest with
    | nil => simp [wordsFrom, filled]
    | cons ch rest =>
      have apart : isWordChar ch = false := stops ch rfl
      simp [wordsFrom, apart, filled]
  | cons ch run ih =>
    have part : isWordChar ch = true := all ch List.mem_cons_self
    have others := (List.forall_mem_cons.mp all).2
    have later := ih (ch :: begun) others (by simp)
    simp [wordsFrom, part, later]

theorem words_led (all : ∀ ch ∈ run, ch.isAlphanum) (filled : run ≠ []) :
    words (String.ofList (led run)) = [run] := by
  have ends : ∀ ch ∈ ([] : List Char).head?, isWordChar ch = false := by simp
  have one : wordsFrom [] run = [run] := by
    simpa [wordsFrom] using wordsFrom_stops [] all filled ends
  unfold words led
  rw [String.toList_ofList]
  split
  · exact one
  · exact one

theorem wordsFrom_begun (begun : word.getLast? = some first) :
    ∃ more rest, wordsFrom word chars = (first :: more) :: rest := by
  have parted : ∀ {word : List Char}, word.getLast? = some first →
      word.isEmpty = false ∧ ∃ more, word.reverse = first :: more := by
    intro word last
    rw [← List.head?_reverse] at last
    obtain ⟨more, reversed⟩ := List.head?_eq_some_iff.mp last
    refine ⟨?_, more, reversed⟩
    cases word with
    | nil => cases reversed
    | cons _ _ => rfl
  induction chars generalizing word with
  | nil =>
    obtain ⟨filled, more, reversed⟩ := parted begun
    unfold wordsFrom
    rw [filled, if_neg Bool.false_ne_true, reversed]
    exact ⟨more, [], rfl⟩
  | cons next rest ih =>
    obtain ⟨filled, more, reversed⟩ := parted begun
    unfold wordsFrom
    split
    · refine ih ?_
      rw [List.getLast?_cons, begun]
      rfl
    · rw [filled, if_neg Bool.false_ne_true, reversed]
      exact ⟨more, _, rfl⟩

theorem words_cases (chars : List Char) :
    (chars.find? isWordChar = none ∧ wordsFrom [] chars = []) ∨
      ∃ first word rest, chars.find? isWordChar = some first ∧
        wordsFrom [] chars = (first :: word) :: rest := by
  induction chars with
  | nil => exact .inl ⟨rfl, rfl⟩
  | cons next rest ih =>
    unfold wordsFrom
    rw [List.find?_cons]
    cases isWordChar next with
    | true =>
      have begun : [next].getLast? = some next := rfl
      obtain ⟨more, others, split⟩ : ∃ more others, wordsFrom [next] rest =
          (next :: more) :: others := wordsFrom_begun begun
      exact .inr ⟨next, more, others, rfl, split⟩
    | false => exact ih

end Words

section Camel

variable {run word chars : List Char} {first : Char} {name suffix : String}

def lead (name : String) : Char := ((name.toList.find? isWordChar).map Char.toUpper).getD 'v'

theorem head?_camelWord (first : Char) (word : List Char) :
    (camelWord true (first :: word)).head? = some first.toUpper := by
  unfold camelWord
  split
  · rfl
  · rfl

theorem head?_camelChars (name : String) : (camelChars true name).head? = some (lead name) := by
  unfold camelChars lead words
  rcases words_cases name.toList with ⟨none, split⟩ | ⟨first, word, rest, found, split⟩
  · rw [none, split]
    rfl
  · rw [found, split]
    dsimp only
    rw [List.head?_append, head?_camelWord]
    rfl

theorem initialism_length : ∀ i ∈ initialisms, i.length ≤ 5 := by decide

theorem camelWord_long (long : 5 < (first :: word).length) :
    camelWord true (first :: word) = first.toUpper :: word := by
  have other : initialisms.contains (String.ofList ((first :: word).map Char.toUpper)) = false := by
    rw [Bool.eq_false_iff]
    intro known
    have short := initialism_length _ (List.contains_iff_mem.mp known)
    rw [String.length_ofList, List.length_map] at short
    omega
  unfold camelWord
  rw [other, if_neg Bool.false_ne_true]
  rfl

theorem camelChars_led (all : ∀ ch ∈ first :: word, ch.isAlphanum)
    (long : 5 < (first :: word).length) :
    camelChars true (String.ofList (led (first :: word))) = first.toUpper :: word := by
  unfold camelChars
  rw [words_led all (List.cons_ne_nil first word)]
  dsimp only
  rw [List.flatMap_nil, List.append_nil, camelWord_long long]

theorem isAlphanum_upper {ch : Char} (h : ch.isAlphanum) :
    ch.toUpper.toUpper = ch.toUpper ∧ ch.toUpper.isDigit = ch.isDigit :=
  of_isAlphanum h (by decide +kernel)

theorem identifier_led_iff (all : ∀ ch ∈ first :: word, ch.isAlphanum)
    (long : 5 < (first :: word).length) :
    identifier true (String.ofList (led (first :: word))) = String.ofList (led (first :: word)) ↔
      first.toUpper = first := by
  have digit : first.toUpper.isDigit = first.isDigit :=
    (isAlphanum_upper (all first List.mem_cons_self)).2
  rw [identifier_eq, camelChars_led all long, String.ofList_inj]
  unfold led
  rw [List.head?_cons, List.head?_cons, Option.any_some, Option.any_some, digit]
  cases first.isDigit <;> simp

theorem toUpper_lead (name : String) :
    (lead name).toUpper = lead name ↔ name.toList.any isWordChar = true := by
  unfold lead
  cases found : name.toList.find? isWordChar with
  | none =>
    refine iff_of_false (by decide) ?_
    rw [List.any_eq_true]
    rintro ⟨ch, mem, part⟩
    exact List.find?_eq_none.mp found ch mem part
  | some first =>
    have part : isWordChar first = true := List.find?_some found
    refine iff_of_true (isAlphanum_upper part).1 ?_
    exact List.any_eq_true.mpr ⟨first, List.mem_of_find?_eq_some found, part⟩

theorem identifier_suffixed_iff (all : ∀ ch ∈ suffix.toList, ch.isAlphanum)
    (long : 5 < suffix.length) :
    identifier true (identifier true name ++ suffix) = identifier true name ++ suffix ↔
      name.toList.any isWordChar = true := by
  obtain ⟨rest, chars⟩ := List.head?_eq_some_iff.mp (head?_camelChars name)
  have joined : identifier true name ++ suffix =
      String.ofList (led (lead name :: (rest ++ suffix.toList))) := by
    rw [identifier_eq, chars, ← List.cons_append, led_append (List.cons_ne_nil _ _),
      String.ofList_append, String.ofList_toList]
  have letters : ∀ ch ∈ lead name :: (rest ++ suffix.toList), ch.isAlphanum := by
    intro ch mem
    rw [← List.cons_append, ← chars] at mem
    rcases List.mem_append.mp mem with front | back
    · exact camelChars_chars true name ch front
    · exact all ch back
  rw [joined, identifier_led_iff letters, toUpper_lead]
  rw [List.length_cons, List.length_append, String.length_toList]
  omega

theorem identifier_parted {front rest : List Char} (filled : front ≠ []) :
    identifier true (String.ofList (front ++ '_' :: rest)) ≠
      String.ofList (front ++ '_' :: rest) := by
  intro same
  rw [identifier_eq, String.ofList_inj] at same
  have letters := camelChars_chars true (String.ofList (front ++ '_' :: rest))
  generalize camelChars true (String.ofList (front ++ '_' :: rest)) = chars at same letters
  have inside : '_' ∈ chars := by
    obtain ⟨first, more, rfl⟩ := List.exists_cons_of_ne_nil filled
    unfold led at same
    split at same
    · rw [(List.cons.inj same).2]
      exact List.mem_append_right _ List.mem_cons_self
    · rw [same]
      exact List.mem_append_right _ List.mem_cons_self
  exact absurd (letters '_' inside) (by decide)

end Camel

end Toolbridge.Go
