import Toolbridge.Files.Path

set_option autoImplicit false

/-!
# Trees of files

Files and directories by the names that lead to them from the root, which is a directory itself. A
path is walked name by name, from the root or from the working directory; each name but the last has
to lead to a directory.
-/
namespace Toolbridge

inductive FileError where
  | notFound
  | alreadyExists
  | notADirectory
  | isADirectory
  | nameTooLong
  | zeroInPath
  | other (text : String)
deriving DecidableEq, Repr

def FileError.message : FileError → String
  | .notFound => "No such file or directory (os error 2)"
  | .alreadyExists => "File exists (os error 17)"
  | .notADirectory => "Not a directory (os error 20)"
  | .isADirectory => "Is a directory (os error 21)"
  | .nameTooLong => "File name too long (os error 36)"
  | .zeroInPath => "file name contained an unexpected NUL byte"
  | .other text => text

namespace Files

abbrev Place := List String

inductive Entry where
  | directory
  | file (text : String)
deriving DecidableEq, Repr, Inhabited

end Files

open Files

structure FileTree where
  entries : List (Place × Entry) := []
  workingDirectory : Place := []
deriving Inhabited

namespace FileTree

def get? (t : FileTree) (place : Place) : Option Entry :=
  if place = [] then some .directory else t.entries.lookup place

def put (t : FileTree) (place : Place) (e : Entry) : FileTree :=
  { t with entries := (place, e) :: t.entries.filter (·.1 != place) }

def isTooLong (name : String) : Bool := 255 < name.utf8ByteSize

def walkable (path : String) : Except FileError (List String) :=
  if path.toList.contains '\x00' then .error .zeroInPath
  else if path.isEmpty then .error .notFound
  else if 4095 < path.utf8ByteSize then .error .nameTooLong
  else .ok (pathNames path)

def start (t : FileTree) (path : String) : Place :=
  if isAbsolute path then [] else t.workingDirectory

inductive Found where
  | directory (place : Place)
  | file (text : String)

def walk (t : FileTree) : Place → List String → Except FileError Found
  | place, [] => .ok (.directory place)
  | place, name :: rest =>
    if name = "" ∨ name = "." then t.walk place rest
    else if name = ".." then t.walk place.dropLast rest
    else if isTooLong name then .error .nameTooLong
    else
      match t.get? (place ++ [name]) with
      | none => .error .notFound
      | some .directory => t.walk (place ++ [name]) rest
      | some (.file text) => if rest.isEmpty then .ok (.file text) else .error .notADirectory

def read (t : FileTree) (path : String) : Except FileError String := do
  let names ← walkable path
  match ← t.walk (t.start path) names with
  | .file text => .ok text
  | .directory _ => .error .isADirectory

def makeFrom (t : FileTree) : Place → List String → Except FileError FileTree
  | _, [] => .ok t
  | place, name :: rest =>
    if name = "" ∨ name = "." then t.makeFrom place rest
    else if name = ".." then t.makeFrom place.dropLast rest
    else if isTooLong name then .error .nameTooLong
    else
      match t.get? (place ++ [name]) with
      | none => (t.put (place ++ [name]) .directory).makeFrom (place ++ [name]) rest
      | some .directory => t.makeFrom (place ++ [name]) rest
      | some (.file _) =>
        if rest.isEmpty then .error .alreadyExists else .error .notADirectory

def makeDirectories (t : FileTree) (path : String) : Except FileError FileTree := do
  let names ← walkable path
  t.makeFrom (t.start path) names

/-- Puts a file into a directory that is there already, in place of an older one. -/
def writeAt (t : FileTree) (place : Place) (name text : String) : Except FileError FileTree :=
  if name = "" ∨ name = "." ∨ name = ".." then .error .isADirectory
  else if isTooLong name then .error .nameTooLong
  else
    match t.get? (place ++ [name]) with
    | some .directory => .error .isADirectory
    | _ => .ok (t.put (place ++ [name]) (.file text))

def write (t : FileTree) (path text : String) : Except FileError FileTree := do
  let names ← walkable path
  match ← t.walk (t.start path) names.dropLast with
  | .directory place => t.writeAt place (names.getLastD "") text
  | .file _ => .error .notADirectory

def ofFiles (workingDirectory : Place) (files : List (Place × String)) : FileTree :=
  files.foldl (fun t (names, text) =>
    ((t.makeFrom workingDirectory names.dropLast).toOption.getD t).put (workingDirectory ++ names)
      (.file text))
    { workingDirectory }

def files (t : FileTree) : List (Place × String) :=
  t.entries.filterMap fun (place, e) =>
    match e with
    | .file text =>
      if t.workingDirectory.isPrefixOf place then
        some (place.drop t.workingDirectory.length, text)
      else none
    | .directory => none

theorem get?_put_self {t : FileTree} {place : Place} (h : place ≠ []) (e : Entry) :
    (t.put place e).get? place = some e := by
  simp [get?, put, h]

theorem lookup_filter_of_ne {place other : Place} (h : other ≠ place)
    (entries : List (Place × Entry)) :
    (entries.filter (·.1 != place)).lookup other = entries.lookup other := by
  induction entries with
  | nil => rfl
  | cons head rest ih =>
    obtain ⟨key, e⟩ := head
    by_cases k : key = place
    · have h' : (other == place) = false := by simpa using h
      simp [k, List.lookup_cons, h', ih]
    · simp [k, List.lookup_cons, ih]

theorem get?_put_of_ne {t : FileTree} {place other : Place} (h : other ≠ place) (e : Entry) :
    (t.put place e).get? other = t.get? other := by
  have h' : (other == place) = false := by simpa using h
  simp [get?, put, List.lookup_cons, h', lookup_filter_of_ne h]

end FileTree
end Toolbridge
