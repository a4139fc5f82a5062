import ColumnSearch.Storage
import ColumnSearch.Text.Blank

/-!
# Where searches come from

A search is taken from a named file, from an argument, or from standard input, in this order. An
argument with the extension of a search file names that file if it exists. Files and standard input
are trimmed; batches are read as they are.
-/

namespace ColumnSearch

/-- The state of standard input. -/
inductive Stdin where
  /-- Nothing is piped in. -/
  | terminal
  /-- The text that is piped in. -/
  | piped (text : String)
  /-- Reading fails for this reason. -/
  | broken (reason : String)
  deriving DecidableEq, Repr

/-- Why there is no input. -/
inductive InputError where
  | unreadableFile (path : String)
  | unreadableStdin (reason : String)
  | noInput
  deriving DecidableEq, Repr

/-- The wording of an error. -/
def InputError.message : InputError → String
  | unreadableFile path => "failed to read " ++ path
  | unreadableStdin reason => "failed to read stdin: " ++ reason
  | noInput => "no query provided: pass one as an argument, with --file, or on stdin"

namespace Input

/-- The extensions of search files. -/
def searchExtensions : List String :=
  ["txt", "query"]

/-- The path has the extension of a search file. -/
def looksLikeSearchFile (path : String) : Bool :=
  (Path.extension? path).any (· ∈ searchExtensions)

/-- The text of a file. -/
def readFile (storage : Storage) (path : String) : Except InputError String :=
  match storage.read path with
  | some text => .ok text
  | none => .error (.unreadableFile path)

/-- The text of standard input. -/
def readStdin : Stdin → Except InputError String
  | .terminal => .error .noInput
  | .piped text => .ok text
  | .broken reason => .error (.unreadableStdin reason)

/-- The text of a single search. -/
def search (storage : Storage) (stdin : Stdin) (argument file : Option String) :
    Except InputError String :=
  match file, argument with
  | some path, _ => Text.trim <$> readFile storage path
  | none, some argument =>
    if looksLikeSearchFile argument ∧ storage.isFile argument then
      Text.trim <$> readFile storage argument
    else .ok argument
  | none, none => Text.trim <$> readStdin stdin

/-- The text of a batch of searches. -/
def batch (storage : Storage) (stdin : Stdin) (path : Option String) : Except InputError String :=
  match path with
  | some path => readFile storage path
  | none => readStdin stdin

end Input

end ColumnSearch
