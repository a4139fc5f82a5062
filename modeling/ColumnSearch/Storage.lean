/-!
# Files

What a command may read: the files of a working directory. A path is a list of components; those
that stay in place are skipped, and those that go up leave the directory they stand in. A path that
ends in a separator, or stays in place at its end, names only a directory.
-/

namespace ColumnSearch

/-- An entry of a working directory. -/
inductive Entry where
  | file (content : ByteArray)
  | directory

/-- How the files named by paths are read. -/
structure Storage where
  /-- The text of the file of this name, if it can be read as text. -/
  read : String → Option String
  /-- There is a file of this name. -/
  isFile : String → Bool

namespace Path

/-- The components of a path, divided by separators. -/
def components (path : String) : List String :=
  (path.toList.splitOn '/').map String.ofList

/-- The components that move. -/
def movingComponents (path : String) : List String :=
  (components path).filter fun component => component ≠ "" ∧ component ≠ "."

/-- The last component of a path that names something. -/
def fileName? (path : String) : Option String :=
  match (movingComponents path).getLast? with
  | some ".." => none
  | name => name

/-- What follows the last point of a file name, unless that point begins it. -/
def extension? (path : String) : Option String := do
  let reversed := (← fileName? path).toList.reverse
  match reversed.dropWhile (· ≠ '.') with
  | '.' :: _ :: _ => some (String.ofList (reversed.takeWhile (· ≠ '.')).reverse)
  | _ => none

end Path

/-- A working directory: its entries by their components. -/
abbrev Directory := List (List String × Entry)

namespace Directory

/-- The working directory with entries of the given paths. -/
def ofEntries (entries : List (String × Entry)) : Directory :=
  entries.map fun (path, entry) => (Path.movingComponents path, entry)

/-- There is a directory at the given components: an entry, or what holds one. -/
def isDirectory (directory : Directory) (place : List String) : Bool :=
  place.isEmpty || directory.any fun (name, entry) =>
    match entry with
    | .directory => place.isPrefixOf name
    | .file _ => place.isPrefixOf name && place.length < name.length

/-- Follows the components of a path from a place. Every component but the last must be a
directory. -/
def follow? (directory : Directory) (place : List String) : List String → Option (List String)
  | [] => some place
  | component :: rest =>
    if directory.isDirectory place then
      if component = ".." then
        if place.isEmpty then none else directory.follow? place.dropLast rest
      else directory.follow? (place ++ [component]) rest
    else none

/-- The content of the file a path names. -/
def content? (directory : Directory) (path : String) : Option ByteArray := do
  let components := Path.components path
  guard (components.head? ≠ some "")
  guard (components.getLast? ≠ some "" ∧ components.getLast? ≠ some ".")
  let place ← directory.follow? [] (Path.movingComponents path)
  match directory.lookup place with
  | some (.file content) => some content
  | _ => none

/-- Reading the files of a working directory. -/
def storage (directory : Directory) : Storage where
  read path := (directory.content? path).bind String.fromUTF8?
  isFile path := (directory.content? path).isSome

end Directory

end ColumnSearch
