import TagSearch.Command.Run

/-!
# The program

Carries out its command line in the working folder.  No client for a remote collection is built in:
a command that needs one reports that it cannot connect.
-/

namespace TagSearch

namespace Program

/-- What an error with a code of the system says about a path. -/
def entryOfCode (code : UInt32) : Entry :=
  if code = 20 then .behindFile else if code = 36 then .tooLong else .directory

/-- What stands at a path of the file system. -/
def entryAt (path : String) : IO Entry := do
  if path.contains '\x00' then return .impossible
  try
    return .file (← IO.FS.readBinFile path).toList
  catch
    | .noFileOrDirectory .. => return .absent
    | .inappropriateType _ code _ | .invalidArgument _ code _ => return entryOfCode code
    | _ => return .directory

/-- The answer to everything that needs the remote side. -/
def unreachable {α : Type} : IO α := throw (IO.userError "no client for a remote collection")

/-- The file system, and no remote side. -/
def world : World IO where
  entry := entryAt
  points :=
    { connect := fun _ => unreachable
      count := fun _ _ => unreachable
      query := fun _ _ _ _ => unreachable
      collections := unreachable
      create := fun _ _ => unreachable
      delete := fun _ => unreachable
      upsert := fun _ _ => unreachable }

/-- The variables of the environment that name settings, in small letters or in capitals. -/
def environment : IO Environment := do
  let names := Settings.names ++ Settings.names.map fun name => String.ofList (name.toList.map Char.toUpper)
  let found ← names.mapM fun name => do
    return (← IO.getEnv name).map fun value => (name, value)
  return found.filterMap fun v => v

/-- Carries out a command line and prints what came of it. -/
def run (args : List String) : IO UInt32 := do
  match ← Command.runLine world (← environment) args with
  | .error f =>
    IO.eprintln f.message
    return 1
  | .ok outcome =>
    IO.print outcome.stdout
    outcome.stderr.forM IO.eprintln
    return UInt32.ofNat outcome.exit

end Program

end TagSearch

/-- The entry point. -/
def main (args : List String) : IO UInt32 := TagSearch.Program.run args
