import Migration.CommandLine.Run
import Std.Time.DateTime.Timestamp

/-! The command: it takes the files that the command line names from the disk and prints what
comes out. -/

namespace Migration.CommandLine

private partial def readNode (path : String) : IO (Option Node) := do
  let place := (← IO.currentDir) / path
  if ← place.isDir then
    let entries ← place.readDir
    let nodes ← entries.toList.mapM fun entry => do
      return (entry.fileName, ← readNode (Node.entryPath path entry.fileName))
    return some (.directory (nodes.filterMap fun (name, node) => node.map (name, ·)))
  else if ← place.pathExists then
    return some (.file (← IO.FS.readBinFile place))
  else return none

/-- The paths that a command line leads to. -/
private def pathsOf (configVariable : Option String) (arguments : List String) : List String :=
  match parse configVariable arguments with
  | .error _ => []
  | .ok invocation =>
      let files := match invocation.command with
        | .plan schema _ => [schema]
        | .diff changes schema _ => [schema, changes]
        | .validate schema => [schema]
      invocation.config.getD configName :: files

/-- The current minute. -/
private def currentMinute : IO Timestamp := do
  let seconds := (← Std.Time.Timestamp.now).toSecondsSinceUnixEpoch.val
  return Timestamp.unixEpoch.plusSeconds (seconds / 60 * 60)

end Migration.CommandLine

open Migration.CommandLine in
def main (arguments : List String) : IO UInt32 := do
  let configVariable ← IO.getEnv "MIGRATA_CONFIG"
  let nodes ← (pathsOf configVariable arguments).mapM fun path => do
    if path.isEmpty then return (path, none) else return (path, ← readNode path)
  let outcome := run
    { find := fun path => (nodes.lookup path).getD none
      now := ← currentMinute
      configVariable := configVariable } arguments
  IO.print outcome.output
  IO.eprint outcome.errors
  return outcome.exit.toUInt32
