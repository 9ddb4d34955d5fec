import RowGate.Text.Split

namespace RowGate
namespace FilePath

/-!
# Paths of files

A path is the names that lead to a file, with slashes between them; one that
begins with a slash starts at the root.  A single dot stays where it is and two
dots lead back.  Empty names do not count.
-/

/-- Whether a path starts at the root. -/
def isAbsolute (path : String) : Bool :=
  path.toList.head? = some '/'

/-- The names of a path, dots among them. -/
def names (path : String) : List String :=
  ((Text.pieces '/' path.toList).filter (· ≠ [])).map String.ofList

/-- Whether a path ends in a slash. -/
def endsInSlash (path : String) : Bool :=
  path.toList.getLast? = some '/'

/-- Names as one text. -/
def joined (names : List String) : String :=
  "/".intercalate names

/-- The path of a name, which may be a path of its own, from a base. -/
def join (base name : String) : String :=
  if isAbsolute name ∨ base = "" then name
  else if endsInSlash base then base ++ name
  else base ++ "/" ++ name

/-- The names that matter for what is above a path: a single dot does so at the
beginning of a relative path only. -/
def steps (path : String) : List String :=
  match names path with
  | first :: rest =>
      let behind := rest.filter (· ≠ ".")
      if first = "." ∧ isAbsolute path then behind else first :: behind
  | [] => []

/-- The beginnings of a list of names, the shortest first. -/
def beginnings (names : List String) : List (List String) :=
  (List.range (names.length + 1)).map names.take

/-- The paths above one, the nearest first, down to the root or to the empty
path. -/
def ancestors (path : String) : List String :=
  let start := if isAbsolute path then "/" else ""
  (beginnings (steps path).dropLast).reverse.map fun names => start ++ joined names

end FilePath
end RowGate
