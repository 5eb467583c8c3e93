import ShapeSearch.Cli.Session
import ShapeSearch.Grammar.Estimate

/-!
# The command line

The entry point of the program.  It reads the environment variables a run looks
at, loads the files its arguments name into a disk, runs the command, writes the
two streams and ends with the run's exit code.

The disk holds what the command line names: the configuration file (the one given
or `shapegrep.toml`), the pattern file, the file to dump and the root.  A named
path that opens but cannot be read as a file is taken for a directory.
-/

namespace ShapeSearch
namespace Cli

/-- The environment variables a run looks at. -/
def watchedVariables : List String :=
  ["NO_COLOR", "CLICOLOR_FORCE", "SHAPEGREP_QUIET", "RUST_LOG"]

/-- The paths a command line names. -/
def namedPaths (words : List String) : List String :=
  match Args.read words with
  | .ok (.run a) =>
    [a.config.getD Config.defaultPath] ++ a.patternFile.toList ++ a.dumpTree.toList ++
      [a.root.getD "."]
  | _ => []

/-- Load what the named paths hold into a disk below the working directory. -/
def loadDisk (cwd : String) (paths : List String) : IO Disk := do
  let mut d := Disk.empty.write cwd .directory
  for p in paths do
    let full := Path.join cwd p
    try
      let bytes ← IO.FS.readBinFile full
      d := d.write full (.file bytes)
    catch _ =>
      try
        let _ ← IO.FS.Handle.mk full .read
        d := d.write full .directory
      catch _ => pure ()
  return d

end Cli
end ShapeSearch

/-- Run the command on the program's arguments. -/
def main (args : List String) : IO UInt32 := do
  let cwd := toString (← IO.currentDir)
  let env ← ShapeSearch.Cli.watchedVariables.filterMapM fun name => do
    return (← IO.getEnv name).map fun value => (name, value)
  let disk ← ShapeSearch.Cli.loadDisk cwd (ShapeSearch.Cli.namedPaths args)
  let t := ShapeSearch.Cli.execute
    { disk, cwd, env, stdoutClosed := false, clock := "", parallelism := 1,
      parseClock := ShapeSearch.ParseClock.estimate } args
  let out ← IO.getStdout
  out.putStr t.stdout
  out.flush
  let err ← IO.getStderr
  err.putStr t.stderr
  err.flush
  return t.code.toUInt32
