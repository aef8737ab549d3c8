import RownumSql.CommandLine

/-!
# The program

Runs the command line on the files of the machine.
-/

namespace RownumSql

def FileFault.ofError : IO.Error → FileFault
  | .noFileOrDirectory .. => .notFound
  | .inappropriateType _ code _ => if code = 21 then .isDirectory else .notDirectory
  | .invalidArgument _ 36 _ => .nameTooLong
  | .permissionDenied .. => .other "Permission denied (os error 13)"
  | e => .other e.toString

def machineFiles : Files IO where
  read path := do
    try
      let content ← IO.FS.readBinFile path
      match String.fromUTF8? content with
      | some s => pure (.ok s)
      | none => pure (.error .notText)
    catch e => pure (.error (.ofError e))
  exist path := do
    try
      let _ ← IO.FS.realPath path
      pure true
    catch _ => pure false

def userDirectory : IO (Option String) := do
  match ← IO.getEnv "XDG_CONFIG_HOME" with
  | some path => if path.toList.head? = some '/' then return some path
  | none => pure ()
  pure ((← IO.getEnv "HOME").map (· ++ "/.config"))

end RownumSql

/-- Runs the command line, and ends with its exit code. -/
def main (words : List String) : IO UInt32 := do
  let paths := RownumSql.Settings.searchPaths (← RownumSql.userDirectory)
  let named ← IO.getEnv RownumSql.CommandLine.settingsVariable
  let outcome ← RownumSql.CommandLine.run RownumSql.machineFiles paths named words
  (← IO.getStdout).putStr outcome.stdout
  (← IO.getStderr).putStr outcome.stderr
  pure outcome.exit
