import Toolbridge.Files.Tree
import Toolbridge.Proofs.Results

set_option autoImplicit false

namespace Toolbridge

namespace Files

/-- Where a name leads from a directory. -/
def stepTo (place : Place) (name : String) : Place :=
  if name = "" ∨ name = "." then place
  else if name = ".." then place.dropLast
  else place ++ [name]

def placeFrom (place : Place) (names : List String) : Place := names.foldl stepTo place

/-- The place that a path names, absolute or from the working directory. -/
def placeOf (workingDirectory : Place) (path : String) : Place :=
  placeFrom (if isAbsolute path then [] else workingDirectory) (pathNames path)

example : placeOf ["work"] "out/gen/docs/transforms.go" =
    placeOf ["work"] "out/./gen//other/../docs/transforms.go" := by
  decide +kernel

end Files

namespace FileTree

open Files

variable {t t' t'' : FileTree} {place parent : Place} {path text : String} {names : List String}

/-- Everything that was there is there still. -/
structure Grows (t t' : FileTree) : Prop where
  workingDirectory : t'.workingDirectory = t.workingDirectory
  kept : ∀ place e, t.get? place = some e → t'.get? place = some e

structure KeepsDirectories (t t' : FileTree) : Prop where
  workingDirectory : t'.workingDirectory = t.workingDirectory
  kept : ∀ place, t.get? place = some .directory → t'.get? place = some .directory

theorem Grows.refl (t : FileTree) : t.Grows t := ⟨rfl, fun _ _ => id⟩

theorem Grows.trans (h : t.Grows t') (h' : t'.Grows t'') : t.Grows t'' :=
  ⟨h'.workingDirectory.trans h.workingDirectory,
    fun place e here => h'.kept place e (h.kept place e here)⟩

theorem Grows.keepsDirectories (h : t.Grows t') : t.KeepsDirectories t' :=
  ⟨h.workingDirectory, fun place => h.kept place .directory⟩

theorem KeepsDirectories.refl (t : FileTree) : t.KeepsDirectories t :=
  (Grows.refl t).keepsDirectories

theorem KeepsDirectories.trans (h : t.KeepsDirectories t') (h' : t'.KeepsDirectories t'') :
    t.KeepsDirectories t'' :=
  ⟨h'.workingDirectory.trans h.workingDirectory,
    fun place here => h'.kept place (h.kept place here)⟩

theorem KeepsDirectories.start (h : t.KeepsDirectories t') (path : String) :
    t'.start path = t.start path := by
  rw [FileTree.start, FileTree.start, h.workingDirectory]

theorem grows_put (free : t.get? place = none) (e : Entry) : t.Grows (t.put place e) := by
  refine ⟨rfl, fun other entry here => ?_⟩
  have apart : other ≠ place := by
    rintro rfl
    rw [free] at here
    cases here
  rw [get?_put_of_ne apart, here]

theorem keepsDirectories_put (file : t.get? place ≠ some .directory) (e : Entry) :
    t.KeepsDirectories (t.put place e) := by
  refine ⟨rfl, fun other here => ?_⟩
  have apart : other ≠ place := by
    rintro rfl
    exact file here
  rw [get?_put_of_ne apart, here]

theorem makeFrom_grows (made : t.makeFrom place names = .ok t') : t.Grows t' := by
  fun_induction makeFrom t place names with
  | case1 =>
    cases made
    exact .refl _
  | case2 t place name rest here ih => exact ih made
  | case3 t place rest here ih => exact ih made
  | case4 => cases made
  | case5 t place name rest here up short free ih => exact (grows_put free _).trans (ih made)
  | case6 t place name rest here up short found ih => exact ih made
  | case7 => cases made
  | case8 => cases made

theorem makeDirectories_grows (made : t.makeDirectories path = .ok t') : t.Grows t' := by
  obtain ⟨names, -, made⟩ := bind_ok made
  exact makeFrom_grows made

theorem walk_directory (walked : t.walk place names = .ok (.directory parent)) :
    parent = placeFrom place names := by
  fun_induction walk t place names with
  | case1 place =>
    cases walked
    rfl
  | case2 place name rest here ih =>
    rw [ih walked, placeFrom, placeFrom, List.foldl_cons, stepTo, if_pos here]
  | case3 place rest here ih =>
    rw [ih walked, placeFrom, placeFrom, List.foldl_cons, stepTo, if_neg here, if_pos rfl]
  | case4 => cases walked
  | case5 => cases walked
  | case6 place name rest here up short found ih =>
    rw [ih walked, placeFrom, placeFrom, List.foldl_cons, stepTo, if_neg here, if_neg up]
  | case7 => cases walked
  | case8 => cases walked

theorem walk_append (walked : t.walk place names = .ok (.directory parent)) (more : List String) :
    t.walk place (names ++ more) = t.walk parent more := by
  fun_induction walk t place names with
  | case1 place =>
    cases walked
    rfl
  | case2 place name rest here ih => rw [List.cons_append, walk, if_pos here, ih walked]
  | case3 place rest here ih => rw [List.cons_append, walk, if_neg here, if_pos rfl, ih walked]
  | case4 => cases walked
  | case5 => cases walked
  | case6 place name rest here up short found ih =>
    rw [List.cons_append, walk, if_neg here, if_neg up, if_neg short, found]
    exact ih walked
  | case7 => cases walked
  | case8 => cases walked

theorem KeepsDirectories.walk (keeps : t.KeepsDirectories t')
    (walked : t.walk place names = .ok (.directory parent)) :
    t'.walk place names = .ok (.directory parent) := by
  fun_induction FileTree.walk t place names with
  | case1 place =>
    cases walked
    rfl
  | case2 place name rest here ih => rw [FileTree.walk, if_pos here, ih walked]
  | case3 place rest here ih => rw [FileTree.walk, if_neg here, if_pos rfl, ih walked]
  | case4 => cases walked
  | case5 => cases walked
  | case6 place name rest here up short found ih =>
    rw [FileTree.walk, if_neg here, if_neg up, if_neg short, keeps.kept _ found]
    exact ih walked
  | case7 => cases walked
  | case8 => cases walked

/-- The path leads to a name in a directory that is there. -/
structure Leads (t : FileTree) (path : String) (parent : Place) (name : String) : Prop where
  front : ∃ front, walkable path = .ok (front ++ [name]) ∧
    t.walk (t.start path) front = .ok (.directory parent)
  stays : ¬ (name = "" ∨ name = ".")
  up : name ≠ ".."
  short : ¬ isTooLong name = true

/-- The directory that the path leads through is there. -/
def Opens (t : FileTree) (path : String) : Prop := ∃ parent name, t.Leads path parent name

theorem pathNames_of_walkable (walkable : walkable path = .ok names) : names = pathNames path := by
  unfold FileTree.walkable at walkable
  split at walkable
  · cases walkable
  split at walkable
  · cases walkable
  split at walkable
  · cases walkable
  · cases walkable
    rfl

theorem Leads.placeOf {name : String} (leads : t.Leads path parent name) :
    placeOf t.workingDirectory path = parent ++ [name] := by
  obtain ⟨front, names, walked⟩ := leads.front
  rw [Files.placeOf, ← pathNames_of_walkable names, placeFrom, List.foldl_append]
  change stepTo (placeFrom (t.start path) front) name = _
  rw [← walk_directory walked, stepTo, if_neg leads.stays, if_neg leads.up]

theorem Leads.keeps {name : String} (leads : t.Leads path parent name)
    (keeps : t.KeepsDirectories t') : t'.Leads path parent name := by
  obtain ⟨front, names, walked⟩ := leads.front
  refine ⟨⟨front, names, ?_⟩, leads.stays, leads.up, leads.short⟩
  rw [keeps.start]
  exact keeps.walk walked

theorem Opens.keeps (opens : t.Opens path) (keeps : t.KeepsDirectories t') : t'.Opens path := by
  obtain ⟨parent, name, leads⟩ := opens
  exact ⟨parent, name, leads.keeps keeps⟩

theorem Opens.read (opens : t.Opens path) :
    t.read path = .ok text ↔ t.get? (placeOf t.workingDirectory path) = some (.file text) := by
  obtain ⟨parent, name, leads⟩ := opens
  rw [leads.placeOf]
  obtain ⟨front, names, walked⟩ := leads.front
  have ends : t.walk (t.start path) (front ++ [name]) = t.walk parent [name] :=
    walk_append walked [name]
  unfold FileTree.read
  rw [names]
  change (t.walk (t.start path) (front ++ [name]) >>= _ : Except FileError String) = _ ↔ _
  rw [ends, walk, if_neg leads.stays, if_neg leads.up, if_neg leads.short]
  cases there : t.get? (parent ++ [name]) with
  | none => exact iff_of_false nofun nofun
  | some e =>
    cases e with
    | directory =>
      change (Except.error FileError.isADirectory : Except FileError String) = _ ↔ _
      exact iff_of_false nofun nofun
    | file found =>
      change (Except.ok found : Except FileError String) = .ok text ↔ _
      rw [Except.ok.injEq, Option.some.injEq, Entry.file.injEq]

theorem write_eq_ok (written : t.write path text = .ok t') :
    ∃ parent name, t.Leads path parent name ∧ t.get? (parent ++ [name]) ≠ some .directory ∧
      t' = t.put (parent ++ [name]) (.file text) := by
  obtain ⟨names', names, written⟩ := bind_ok written
  obtain ⟨found, walked, written⟩ := bind_ok written
  cases found with
  | file old => cases written
  | directory parent =>
    change t.writeAt parent (names'.getLastD "") text = .ok t' at written
    rcases List.eq_nil_or_concat names' with rfl | ⟨front, name, rfl⟩
    · cases written
    rw [List.concat_eq_append] at names walked written
    rw [List.getLastD_concat] at written
    rw [List.dropLast_concat] at walked
    unfold writeAt at written
    split at written
    · cases written
    rename_i ordinary
    split at written
    · cases written
    rename_i short
    split at written
    · cases written
    rename_i notDirectory
    cases written
    have stays : ¬ (name = "" ∨ name = ".") := fun stays => ordinary (stays.imp id .inl)
    have up : name ≠ ".." := fun up => ordinary (.inr (.inr up))
    exact ⟨parent, name, ⟨⟨front, names, walked⟩, stays, up, short⟩, notDirectory, rfl⟩

theorem opens_of_write (written : t.write path text = .ok t') :
    t'.Opens path ∧ t.KeepsDirectories t' ∧
      t'.get? (placeOf t.workingDirectory path) = some (.file text) ∧
      ∀ place, place ≠ placeOf t.workingDirectory path → t'.get? place = t.get? place := by
  obtain ⟨parent, name, leads, notDirectory, rfl⟩ := write_eq_ok written
  have keeps := keepsDirectories_put notDirectory (.file text)
  have filled : parent ++ [name] ≠ [] := List.append_ne_nil_of_right_ne_nil _ (List.cons_ne_nil _ _)
  rw [leads.placeOf]
  exact ⟨⟨parent, name, leads.keeps keeps⟩, keeps, get?_put_self filled _,
    fun place apart => get?_put_of_ne apart _⟩

end FileTree
end Toolbridge
