import ColumnSearch.CommandLine.Outcome

/-!
# The command line

Gathers what a command line may use (the environment, the files it names, standard input), and
prints what it leads to.
-/

namespace ColumnSearch.Main

open CommandLine

/-- What has been read of a stream, followed by the rest of it. -/
partial def readRest (stream : IO.FS.Stream) (start : ByteArray) : IO ByteArray := do
  let bytes ← stream.read 65536
  if bytes.isEmpty then return start else readRest stream (start ++ bytes)

/-- The state of standard input. -/
def stdin : IO Stdin := do
  let stream ← IO.getStdin
  if ← stream.isTty then return .terminal
  try
    match String.fromUTF8? (← readRest stream .empty) with
    | some text => return .piped text
    | none => return .broken "stream did not contain valid UTF-8"
  catch error => return .broken error.toString

/-- The variables of the environment that settings are taken from. -/
def environment : IO (String → Option String) := do
  let values ← Setting.fallbacks.mapM fun (_, name) => return (name, ← IO.getEnv name)
  return fun name => (values.lookup name).join

/-- The entry of a path, if it can be read. -/
def entry? (path : String) : IO (Option (String × ByteArray)) := do
  try return some (path, ← IO.FS.readBinFile path)
  catch _ => return none

/-- The files of the given paths that can be read. -/
def storage (paths : List String) : IO Storage := do
  let files ← paths.filterMapM entry?
  return {
    read := fun path => (files.lookup path).bind String.fromUTF8?
    isFile := fun path => (files.lookup path).isSome }

end ColumnSearch.Main

open ColumnSearch CommandLine in
/-- Carries out a command line. -/
def main (words : List String) : IO UInt32 := do
  let environment ← Main.environment
  let invocation := (Invocation.parse environment words).toOption
  let paths := invocation.elim [] Invocation.paths
  let stdin ← if invocation.any Invocation.readsStdin then Main.stdin else pure .terminal
  let result := outcome environment (← Main.storage paths) stdin words
  IO.print result.output
  unless result.report.isEmpty do IO.eprintln result.report
  return result.exitCode.toUInt32
