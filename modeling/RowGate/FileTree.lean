import RowGate.FilePath
import RowGate.Keyed

namespace RowGate

/-!
# Trees of files

Settings and sessions live in files.  A tree of files maps places, which are
lists of names from the root, to texts and directories.  Relative paths start at
a directory of the tree, its home.  The operations fail as those of an operating
system do: on a missing name, on a file in the place of a directory, on a
directory in the place of a file, and on texts that are no names of files.
-/

/-- Why an operation on files failed. -/
inductive FileError where
  | notFound
  | occupied
  | notDirectory
  | isDirectory
  | nameTooLong
  | zeroByte
deriving DecidableEq, Repr

namespace FileError

/-- The wording of a file error. -/
def message : FileError → String
  | notFound => "No such file or directory (os error 2)"
  | occupied => "File exists (os error 17)"
  | notDirectory => "Not a directory (os error 20)"
  | isDirectory => "Is a directory (os error 21)"
  | nameTooLong => "File name too long (os error 36)"
  | zeroByte => "file name contained an unexpected NUL byte"

end FileError

/-- What a path leads to. -/
inductive FileEntry where
  | file (content : String)
  | directory
deriving DecidableEq, Repr

/-- The entries below the root, each under the names that lead to it, and the
place where relative paths start. -/
structure FileTree where
  entries : Keyed FileEntry
  home : List String

namespace FileTree

/-- The entry at a place. -/
def entry? (tree : FileTree) (place : List String) : Option FileEntry :=
  if place = [] then some .directory else tree.entries.get? (FilePath.joined place)

/-- Put an entry at a place. -/
def put (tree : FileTree) (place : List String) (entry : FileEntry) : FileTree :=
  { tree with entries := tree.entries.insert (FilePath.joined place) entry }

/-- The tree whose only directories lead to its home. -/
def within (home : List String) : FileTree :=
  let places := (FilePath.beginnings home).tail
  places.foldl (fun tree place => tree.put place .directory) ⟨.empty, home⟩

/-- The tree without files. -/
def empty : FileTree :=
  within ["home"]

/-! ## Places of paths -/

/-- The most bytes of a name. -/
def maxName : Nat := 255

/-- The most bytes of a path. -/
def maxPath : Nat := 4095

/-- One name further from a place; a dot stays there, and two dots lead back. -/
def step (place : List String) (name : String) : Except FileError (List String) :=
  if maxName < name.utf8ByteSize then .error .nameTooLong
  else if name = "." then .ok place
  else if name = ".." then .ok place.dropLast
  else .ok (place ++ [name])

/-- The place at the end of names that lead through directories only. -/
def enter (tree : FileTree) (place : List String) : List String → Except FileError (List String)
  | [] => .ok place
  | name :: rest =>
      (step place name).bind fun next =>
        match tree.entry? next with
        | some .directory => enter tree next rest
        | some (.file _) => .error .notDirectory
        | none => .error .notFound

/-- The place where a path starts. -/
def start (tree : FileTree) (path : String) : List String :=
  if FilePath.isAbsolute path then [] else tree.home

/-- Refuse a text that is no path. -/
def checkPath (path : String) : Except FileError Unit :=
  if path.toList.contains (Char.ofNat 0) then .error .zeroByte
  else if maxPath < path.utf8ByteSize then .error .nameTooLong
  else if path = "" then .error .notFound
  else .ok ()

/-- The place of a path.  All names but the last have to be directories, and the
last one too where a slash stands behind it. -/
def locate (tree : FileTree) (path : String) : Except FileError (List String) :=
  (checkPath path).bind fun _ =>
    let names := FilePath.names path
    match if FilePath.endsInSlash path then none else names.getLast? with
    | none => tree.enter (tree.start path) names
    | some last => (tree.enter (tree.start path) names.dropLast).bind fun place => step place last

/-- What a path leads to. -/
def find (tree : FileTree) (path : String) : Except FileError FileEntry :=
  (tree.locate path).bind fun place =>
    match tree.entry? place with
    | some entry => .ok entry
    | none => .error .notFound

/-- Whether a path leads to an entry. -/
def contains (tree : FileTree) (path : String) : Bool :=
  (tree.find path).toOption.isSome

/-- Whether a path leads to a directory. -/
def isDirectory (tree : FileTree) (path : String) : Bool :=
  (tree.find path).toOption == some .directory

/-! ## Files -/

/-- Read a file. -/
def read (tree : FileTree) (path : String) : Except FileError String :=
  (tree.find path).bind fun entry =>
    match entry with
    | .file content => .ok content
    | .directory => .error .isDirectory

/-- Write a file, in place of the one that is there. -/
def write (tree : FileTree) (path content : String) : Except FileError FileTree :=
  (tree.locate path).bind fun place =>
    match tree.entry? place with
    | some .directory => .error .isDirectory
    | _ => .ok (tree.put place (.file content))

/-- Remove a file. -/
def remove (tree : FileTree) (path : String) : Except FileError FileTree :=
  (tree.locate path).bind fun place =>
    match tree.entry? place with
    | some (.file _) => .ok { tree with entries := tree.entries.erase (FilePath.joined place) }
    | some .directory => .error .isDirectory
    | none => .error .notFound

/-- Give a file another path, in place of the file that is there. -/
def rename (tree : FileTree) (source target : String) : Except FileError FileTree :=
  (tree.read source).bind fun content =>
    (tree.write target content).bind fun written => written.remove source

/-! ## Directories -/

/-- Make a directory in one that is there.  Dots at the end of a path name no
new directory. -/
def createDirectory (tree : FileTree) (path : String) : Except FileError FileTree :=
  (checkPath path).bind fun _ =>
    let names := FilePath.names path
    (tree.enter (tree.start path) names.dropLast).bind fun place =>
      match names.getLast? with
      | none | some "." | some ".." => .error .occupied
      | some last =>
          (step place last).bind fun next =>
            if (tree.entry? next).isSome then .error .occupied else .ok (tree.put next .directory)

/-- Make a directory, or leave the one that is there. -/
def ensureDirectory (tree : FileTree) (path : String) : Except FileError FileTree :=
  match tree.createDirectory path with
  | .ok made => .ok made
  | .error error => if tree.isDirectory path then .ok tree else .error error

/-- Make a directory after the nearest of those above it that is missing.  What
has been made stays when a later step fails. -/
def createThrough (tree : FileTree) (path : String) :
    (above : List String) → Except FileError Unit × FileTree
  | [] =>
      match tree.ensureDirectory path with
      | .ok made => (.ok (), made)
      | .error error => (.error error, tree)
  | next :: others =>
      match tree.ensureDirectory path with
      | .ok made => (.ok (), made)
      | .error .notFound =>
          let below := createThrough tree next others
          match below.1, below.2.ensureDirectory path with
          | .error error, _ => (.error error, below.2)
          | .ok _, .ok made => (.ok (), made)
          | .ok _, .error error => (.error error, below.2)
      | .error error => (.error error, tree)

/-- Make a directory and those above it.  The empty path needs none. -/
def createDirectories (tree : FileTree) (path : String) : Except FileError Unit × FileTree :=
  if path = "" then (.ok (), tree)
  else tree.createThrough path ((FilePath.ancestors path).filter (· ≠ ""))

/-! ## Whole trees -/

/-- Add a file and the directories that lead to it, if there is room for them. -/
def add (tree : FileTree) (path content : String) : FileTree :=
  let made := (tree.createDirectories ((FilePath.ancestors path).headD "")).2
  (made.write path content).toOption.getD made

/-- A tree of files with given paths and texts. -/
def ofFiles (files : List (String × String)) : FileTree :=
  files.foldl (fun tree file => tree.add file.1 file.2) empty

/-- The files at home and below it with their texts, in the order of their
places. -/
def files (tree : FileTree) : List (String × String) :=
  tree.entries.entries.filterMap fun entry =>
    let place := FilePath.names entry.1
    match entry.2 with
    | .file content =>
        if tree.home.isPrefixOf place then
          some (FilePath.joined (place.drop tree.home.length), content)
        else none
    | .directory => none

end FileTree
end RowGate
