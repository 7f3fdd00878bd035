import ChatCommands.Console

/-!
# The command line

Reads the two files of the configuration directory, then runs the lines of the standard input one
by one until it ends. The exit code is 1 if the console cannot be started.
-/

namespace ChatCommands.CommandLine

def directoryVariable : String := "COMMANDGATE_CONFIG_DIR"

def defaultDirectory : String := "config"

def fileContent? (path : String) : IO (Option ByteArray) := do
  try
    return some (← IO.FS.readBinFile path)
  catch
    | .noFileOrDirectory .. => return none
    | error => throw error

/-- The content of a file, none if it cannot be read. -/
def readableContent? (path : String) : IO (Option ByteArray) := do
  try fileContent? path catch _ => return none

def overrides : IO (String → Option String) := do
  let names := [Settings.prefixVariable, Settings.ownersVariable, Settings.enforceVariable]
  let values ← names.mapM fun name => return (name, ← IO.getEnv name)
  return fun name => (Assoc.get? name values).join

def explain : StartFault → String
  | .settings .notText => "the settings file is not UTF-8"
  | .settings (.malformed fault) =>
    "the settings file is malformed: " ++ fault.message?.getD "it cannot be read"
  | .grammar error => "the command grammar cannot be built: " ++ error.message

partial def loop (console : Console) (input output : IO.FS.Stream) : IO Unit := do
  let line ← input.getLine
  if line.isEmpty then return
  let (shown, console) := console.step (Int.ofNat (← IO.monoMsNow)) line
  for item in shown do
    output.putStrLn item.text
  output.flush
  loop console input output

end ChatCommands.CommandLine

open ChatCommands CommandLine in
def main : IO UInt32 := do
  let directory := (← IO.getEnv directoryVariable).getD defaultDirectory
  let settingsFile ← fileContent? (directory ++ "/" ++ Settings.fileName)
  let snapshotFile ← readableContent? (directory ++ "/" ++ PolicySnapshot.fileName)
  match Console.start settingsFile snapshotFile (← overrides) with
  | .error fault =>
    IO.eprintln ("Error: " ++ explain fault)
    return 1
  | .ok console =>
    loop console (← IO.getStdin) (← IO.getStdout)
    return 0
