import Toolbridge.Proofs.Go.Identifiers

set_option autoImplicit false

namespace Toolbridge.Go

/-- ASCII letters, digits and underscores, but no digit in front. -/
structure IsIdentifier (name : String) : Prop where
  filled : name ≠ ""
  chars : ∀ ch ∈ name.toList, isIdentifierChar ch = true
  ascii : ∀ ch ∈ name.toList, ch.toNat < 128
  lead : ∀ ch ∈ name.toList.head?, ch.isDigit = false

/-- Small ASCII letters and digits, a letter in front, and no keyword. -/
structure IsPackageName (name : String) : Prop where
  spelled : ∃ first rest, name.toList = first :: rest ∧ first.isLower = true ∧
    ∀ ch ∈ rest, ch.isLower = true ∨ ch.isDigit = true
  free : name ∉ keywords

/-- The text has these runs of letters and digits, in order, each as long as it can be. -/
inductive Runs : List Char → List (List Char) → Prop
  | nil : Runs [] []
  | other {ch : Char} {rest : List Char} {runs : List (List Char)}
      (apart : isWordChar ch = false) (later : Runs rest runs) : Runs (ch :: rest) runs
  | run {word rest : List Char} {runs : List (List Char)} (filled : word ≠ [])
      (all : ∀ ch ∈ word, isWordChar ch = true)
      (stops : ∀ ch ∈ rest.head?, isWordChar ch = false) (later : Runs rest runs) :
      Runs (word ++ rest) (word :: runs)

section Words

variable {text : List Char} {runs : List (List Char)}

theorem Runs.words (h : Runs text runs) : wordsFrom [] text = runs := by
  induction h with
  | nil => rfl
  | other apart _ ih => simpa [wordsFrom, apart] using ih
  | run filled all stops _ ih => simp [wordsFrom_stops [] all filled stops, ih]

theorem runs_wordsFrom (begun : List Char) (begins : ∀ ch ∈ begun, isWordChar ch = true) :
    Runs (begun.reverse ++ text) (wordsFrom begun text) := by
  induction text generalizing begun with
  | nil =>
    unfold wordsFrom
    split
    · rename_i nothing
      rw [List.isEmpty_iff.mp nothing]
      exact .nil
    · rename_i something
      exact .run (by simpa using something) (by simpa using begins) (by simp) .nil
  | cons ch rest ih =>
    unfold wordsFrom
    split
    · rename_i part
      have longer : ∀ c ∈ ch :: begun, isWordChar c = true := by simpa [part] using begins
      simpa using ih _ longer
    rename_i other
    have apart : isWordChar ch = false := by simpa using other
    have later : Runs (ch :: rest) (wordsFrom [] rest) :=
      .other apart (ih [] (List.forall_mem_nil _))
    split
    · rename_i nothing
      rw [List.isEmpty_iff.mp nothing]
      exact later
    · rename_i something
      refine .run (by simpa using something) (by simpa using begins) ?_ later
      intro c here
      obtain rfl := Option.some.inj here
      exact apart

theorem runs_iff {text : String} : Runs text.toList runs ↔ words text = runs := by
  constructor
  · exact Runs.words
  · rintro rfl
    exact runs_wordsFrom [] (List.forall_mem_nil _)

theorem identifier_congr {text other : String} (same : words text = words other)
    (exported : Bool) : identifier exported text = identifier exported other := by
  unfold identifier camelChars
  rw [same]

end Words

theorem head?_led (chars : List Char) :
    (led chars).head? = if chars.head?.any Char.isDigit then some '_' else chars.head? := by
  unfold led
  split <;> rfl

theorem camelWord_ne_nil {word : List Char} (capital : Bool) (filled : word ≠ []) :
    camelWord capital word ≠ [] := by
  obtain ⟨first, rest, rfl⟩ := List.exists_cons_of_ne_nil filled
  unfold camelWord
  split <;> cases capital <;> simp

theorem camelChars_ne_nil (exported : Bool) (text : String) : camelChars exported text ≠ [] := by
  unfold camelChars words
  rcases words_cases text.toList with ⟨-, split⟩ | ⟨first, word, rest, -, split⟩
  · simp [split]
  · simp [split, camelWord_ne_nil]

theorem isIdentifier_identifier (exported : Bool) (text : String) :
    IsIdentifier (identifier exported text) where
  filled := by
    intro empty
    have chars := congrArg String.toList empty
    have filled := camelChars_ne_nil exported text
    rw [identifier_eq, String.toList_ofList, led] at chars
    split at chars
    · cases chars
    · exact filled chars
  chars := identifier_chars exported text
  ascii := by
    intro ch mem
    have fits := identifier_chars exported text ch mem
    rw [isIdentifierChar, Bool.or_eq_true, beq_iff_eq] at fits
    rcases fits with part | rfl
    · exact toNat_lt_of_isAlphanum part
    · decide
  lead := by
    intro ch here
    rw [identifier_eq, String.toList_ofList, head?_led] at here
    split at here
    · obtain rfl := Option.some.inj here
      decide
    · rename_i other
      cases digit : ch.isDigit with
      | false => rfl
      | true =>
        have first : (camelChars exported text).head? = some ch := here
        rw [first, Option.any_some] at other
        exact absurd digit other

theorem isAlphanum_small {ch : Char} (small : ch.isLower = true ∨ ch.isDigit = true) :
    ch.isAlphanum := by
  change ((ch.isUpper || ch.isLower) || ch.isDigit) = true
  rcases small with lower | digit
  · simp [lower]
  · simp [digit]

theorem toLower_small {ch : Char} (small : ch.isLower = true ∨ ch.isDigit = true) :
    ch.toLower = ch := by
  have same : ch.isLower = true ∨ ch.isDigit = true → ch.toLower = ch :=
    of_isAlphanum (isAlphanum_small small) (by decide +kernel)
  exact same small

theorem isLower_apart {ch : Char} (lower : ch.isLower = true) :
    ch.toUpper ≠ ch ∧ ch.isDigit = false := by
  have apart : ch.isLower = true → ch.toUpper ≠ ch ∧ ch.isDigit = false :=
    of_isAlphanum (isAlphanum_small (.inl lower)) (by decide +kernel)
  exact apart lower

theorem keyword_lead : ∀ word ∈ keywords, word.toList.head?.any Char.isLower = true := by decide

theorem identifier_not_keyword (text : String) : identifier true text ∉ keywords := by
  rcases words_cases text.toList with ⟨-, split⟩ | ⟨first, word, rest, found, -⟩
  · have wordless : words text = [] := split
    have same : identifier true text = "v" := by simp [identifier, camelChars, wordless]
    rw [same]
    decide
  · have part : text.toList.any isWordChar = true :=
      List.any_eq_true.mpr ⟨first, List.mem_of_find?_eq_some found, List.find?_some found⟩
    have capital : (lead text).toUpper = lead text := (toUpper_lead text).mpr part
    intro keyword
    have lower := keyword_lead _ keyword
    rw [identifier_eq, String.toList_ofList, head?_led, head?_camelChars] at lower
    split at lower
    · cases lower
    · exact (isLower_apart lower).1 capital

theorem packageChars_spelled (segment : String) :
    ∀ ch ∈ packageChars segment, ch.isLower = true ∨ ch.isDigit = true := by
  intro ch mem
  obtain ⟨old, kept, rfl⟩ := List.mem_map.mp mem
  have word : old.isAlphanum := (List.mem_filter.mp kept).2
  exact of_isAlphanum word (by decide +kernel)

theorem isPackageName_pkg {rest : List Char}
    (small : ∀ ch ∈ rest, ch.isLower = true ∨ ch.isDigit = true) :
    IsPackageName ("pkg" ++ String.ofList rest) where
  spelled := by
    refine ⟨'p', 'k' :: 'g' :: rest, by simp [String.toList_append], by decide, ?_⟩
    rw [List.forall_mem_cons, List.forall_mem_cons]
    exact ⟨by decide, by decide, small⟩
  free := by
    have others : ∀ word ∈ keywords, word.toList.take 3 ≠ ['p', 'k', 'g'] := by decide
    intro keyword
    exact others _ keyword (by simp [String.toList_append])

theorem isPackageName_packageName (segment : String) : IsPackageName (packageName segment) := by
  have spelled := packageChars_spelled segment
  unfold packageName
  split
  · have bare : IsPackageName ("pkg" ++ String.ofList []) :=
      isPackageName_pkg (List.forall_mem_nil _)
    exact bare
  · rename_i first rest chars
    rw [chars] at spelled
    split
    · exact isPackageName_pkg spelled
    · rename_i plain
      rw [Bool.or_eq_true, not_or] at plain
      obtain ⟨letter, free⟩ := plain
      refine ⟨⟨first, rest, String.toList_ofList, ?_, ?_⟩, ?_⟩
      · exact (spelled first List.mem_cons_self).resolve_right letter
      · exact fun ch mem => spelled ch (List.mem_cons_of_mem _ mem)
      · exact fun keyword => free (List.contains_iff_mem.mpr keyword)

theorem packageChars_eq {name : String}
    (spelled : ∀ ch ∈ name.toList, ch.isLower = true ∨ ch.isDigit = true) :
    packageChars name = name.toList := by
  have words : ∀ ch ∈ name.toList, isWordChar ch = true :=
    fun ch mem => isAlphanum_small (spelled ch mem)
  have same : name.toList.map Char.toLower = name.toList.map id :=
    List.map_congr_left fun ch mem => toLower_small (spelled ch mem)
  unfold packageChars
  rw [List.filter_eq_self.mpr words, same, List.map_id]

theorem IsPackageName.fixed {name : String} (h : IsPackageName name) : packageName name = name := by
  obtain ⟨⟨first, rest, chars, letter, others⟩, free⟩ := h
  have spelled : ∀ ch ∈ name.toList, ch.isLower = true ∨ ch.isDigit = true := by
    rw [chars]
    exact List.forall_mem_cons.mpr ⟨.inl letter, others⟩
  have same : String.ofList (first :: rest) = name := by rw [← chars, String.ofList_toList]
  have plain : (first.isDigit || keywords.contains (String.ofList (first :: rest))) = false := by
    rw [same, (isLower_apart letter).2]
    simpa using free
  unfold packageName
  rw [packageChars_eq spelled, chars]
  dsimp only
  rw [plain, if_neg Bool.false_ne_true, same]

/-- The package names are the texts that are package names of their own. -/
theorem packageName_eq_self_iff {name : String} :
    packageName name = name ↔ IsPackageName name := by
  constructor
  · intro same
    have valid := isPackageName_packageName name
    rwa [same] at valid
  · exact IsPackageName.fixed

/-- What the names made from a text are, whatever the text. -/
structure ValidNames (text : String) : Prop where
  spelled : ∀ exported, IsIdentifier (identifier exported text)
  exported : identifier true text ∉ keywords
  runs : ∃! runs, Runs text.toList runs
  byRuns : ∀ runs other, Runs text.toList runs → Runs other.toList runs →
    ∀ exported, identifier exported text = identifier exported other
  package : IsPackageName (packageName text)
  fixed : packageName (packageName text) = packageName text

theorem validNames (text : String) : ValidNames text where
  spelled := fun exported => isIdentifier_identifier exported text
  exported := identifier_not_keyword text
  runs := ⟨words text, runs_iff.mpr rfl, fun _ found => (runs_iff.mp found).symm⟩
  byRuns := by
    intro runs other here there exported
    refine identifier_congr ?_ exported
    rw [runs_iff.mp here, runs_iff.mp there]
  package := isPackageName_packageName text
  fixed := packageName_eq_self_iff.mpr (isPackageName_packageName text)

example : identifier false "Go!" ∈ keywords ∧ identifier true "3-d go url" = "_3DGoURL" ∧
    packageName "Go!" = "pkggo" := by
  decide +kernel

end Toolbridge.Go
