set_option autoImplicit false

namespace Toolbridge.Files

/-- What lies between the slashes, the name under way held with its last character first. -/
def namesFrom (name : List Char) : List Char → List (List Char)
  | [] => [name.reverse]
  | '/' :: rest => name.reverse :: namesFrom [] rest
  | c :: rest => namesFrom (c :: name) rest

def pathNames (path : String) : List String := (namesFrom [] path.toList).map String.ofList

def isAbsolute (path : String) : Bool := path.toList.head? == some '/'

def joinPath (directory path : String) : String :=
  if isAbsolute path || directory.isEmpty then path
  else if directory.toList.getLast? = some '/' then directory ++ path
  else directory ++ "/" ++ path

/-- Without slashes and single points at the end, for a path given backwards. A point that is all of
the path stays. -/
def trimHere : List Char → List Char
  | '/' :: rest => trimHere rest
  | '.' :: '/' :: rest => trimHere rest
  | cs => cs

def parentPath (path : String) : String :=
  let directory := trimHere (path.toList.reverse.dropWhile (· ≠ '/'))
  if directory.isEmpty && isAbsolute path then "/" else String.ofList directory.reverse

end Toolbridge.Files
