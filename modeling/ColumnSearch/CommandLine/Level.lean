import ColumnSearch.CommandLine.Setting
import ColumnSearch.CommandLine.Word

/-!
# Reading a command line

The words before the command form one level, and those after it another. Within a level an option
waits for its value until the next word decides, so that a fault of a value shows only when the
option is settled. Settled settings are kept as assignments.
-/

namespace ColumnSearch.CommandLine

/-- What has been read of a level. -/
structure Level where
  verbose : Bool := false
  quiet : Bool := false
  given : List Assignment := []
  /-- The setting that is not settled, with its value once that is known. -/
  pending : Option (Setting × Option String) := none
  /-- The mark that ends the options has been read. -/
  optionsEnded : Bool := false
  deriving DecidableEq, Repr

namespace Level

/-- An assignment to the setting has been settled. -/
def assigns (level : Level) (setting : Setting) : Bool :=
  level.given.any (·.setting = setting)

/-- The pending setting waits for its value. -/
def awaitsValue (level : Level) : Bool :=
  level.pending.any (·.2.isNone)

/-- Adds an assignment that is not there yet. -/
def add (level : Level) (setting : Setting) (value : Option String) : Except Refusal Level := do
  match value <|> setting.implied? with
  | none => throw .invalidValue
  | some value =>
    if level.assigns setting then throw .conflict
    return { level with given := level.given ++ [← setting.assign value] }

/-- Settles the pending setting. -/
def settle (level : Level) : Except Refusal Level :=
  match level.pending with
  | none => .ok level
  | some (setting, value) => { level with pending := none }.add setting value

/-- Reads a switch. -/
def flip (level : Level) (switch : Switch) : Except Refusal Level := do
  let level ← level.settle
  match switch with
  | .help => throw .helpRequested
  | .version => throw .versionRequested
  | .verbose => if level.verbose then throw .conflict else return { level with verbose := true }
  | .quiet => if level.quiet then throw .conflict else return { level with quiet := true }

/-- Reads an option by its name. -/
def readLong (scope : Option Command) (level : Level) (name : String) (value : Option String) :
    Except Refusal Level :=
  match (Switch.available scope).find? (·.name = name) with
  | some switch => if value.isSome then .error .unexpectedValue else level.flip switch
  | none =>
    match (Setting.available scope).find? (·.name? = some name) with
    | none => .error .unknownOption
    | some setting => do
      let level ← level.settle
      match value with
      | some value => level.add setting value
      | none => return { level with pending := some (setting, none) }

/-- Reads the letters of switches. -/
def readLetters (scope : Option Command) (level : Level) (letters : List Char) :
    Except Refusal Level :=
  letters.foldlM (fun level letter =>
    match (Switch.available scope).find? (·.letter = letter) with
    | some switch => level.flip switch
    | none => .error .unknownOption) level

/-- The word selects a command, or help on one. -/
def isCommandWord (word : String) : Bool :=
  word == Command.helpName || (Command.ofName? word).isSome

/-- Reads a free word. There is one after a command, and none before; there a word that selects a
command is out of place after the end of the options. -/
def readFree (scope : Option Command) (level : Level) (word : String) : Except Refusal Level :=
  match scope with
  | none =>
    .error (if level.optionsEnded ∧ isCommandWord word then .unknownOption else .unknownCommand)
  | some command => do
    let setting := Setting.freeWord command
    if level.assigns setting ∨ level.pending.any (·.1 = setting) then throw .unknownOption
    let level ← level.settle
    return { level with pending := some (setting, some word) }

/-- Reads a word that selects no command. -/
def readWord (scope : Option Command) (level : Level) (word : String) : Except Refusal Level :=
  if level.optionsEnded then level.readFree scope word
  else
    match Word.ofString word with
    | .endOfOptions => .ok { level with optionsEnded := true }
    | .long name value => level.readLong scope name value
    | .short letters => level.readLetters scope letters
    | .plain =>
      match level.pending with
      | some (setting, none) => .ok { level with pending := some (setting, some word) }
      | _ => level.readFree scope word

/-- The assignments of the environment to settings that are not given. -/
def fromEnvironment (level : Level) (environment : String → Option String) :
    Except Refusal (List Assignment) :=
  let missing := Setting.fallbacks.filter fun (setting, _) => !level.assigns setting
  (missing.filterMap fun (setting, name) => (environment name).map (setting, ·)).mapM
    fun (setting, value) => setting.assign value

/-- The level has options that exclude each other. -/
def hasConflict (level : Level) : Bool :=
  (level.verbose && level.quiet) ||
    (level.assigns .binding && (level.assigns .table || level.assigns .column))

/-- Reads all words after a command. -/
def readCommand (command : Command) (words : List String) : Except Refusal Level :=
  words.foldlM (readWord (some command)) {}

/-- Answers a request for help on a command. -/
def readHelp : List String → Refusal
  | [] => .helpRequested
  | [word] =>
    if isCommandWord word then .helpRequested else .unknownCommand
  | _ => .unknownCommand

/-- Reads the words before the command, and finds the command and the words after it. -/
def readLeading (level : Level) :
    List String → Except Refusal (Level × Option (Command × List String))
  | [] => .ok (level, none)
  | word :: rest => do
    if level.optionsEnded ∨ level.awaitsValue then readLeading (← level.readWord none word) rest
    else if word = Command.helpName then throw (readHelp rest)
    else
      match Command.ofName? word with
      | some command => return (level, some (command, rest))
      | none => readLeading (← level.readWord none word) rest

end Level

end ColumnSearch.CommandLine
