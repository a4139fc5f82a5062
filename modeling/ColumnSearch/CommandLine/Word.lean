/-!
# Words of a command line
-/

namespace ColumnSearch.CommandLine

/-- What a word looks like before it is known what it names. -/
inductive Word where
  /-- The mark after which no word is an option. -/
  | endOfOptions
  /-- An option by its name, with a value if one is attached. -/
  | long (name : String) (value : Option String)
  /-- Switches by their letters. -/
  | short (letters : List Char)
  /-- Anything else, a lone dash included. -/
  | plain
  deriving DecidableEq, Repr

/-- The look of a word. -/
def Word.ofString (s : String) : Word :=
  match s.toList with
  | ['-', '-'] => endOfOptions
  | '-' :: '-' :: rest =>
    let value := match rest.dropWhile (· ≠ '=') with
      | [] => none
      | _ :: value => some (String.ofList value)
    long (String.ofList (rest.takeWhile (· ≠ '='))) value
  | '-' :: letter :: rest => short (letter :: rest)
  | _ => plain

end ColumnSearch.CommandLine
