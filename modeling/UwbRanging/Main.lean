import UwbRanging.Simulation.Session

namespace UwbRanging

def readFile (name : String) : IO (Option (List UInt8)) := do
  try
    return some (← IO.FS.readBinFile name).toList
  catch _ =>
    return none

def readEnvironment : IO Environment := do
  let values ← Environment.names.mapM fun name => do return (← IO.getEnv name).map fun value => (name, value)
  return values.filterMap id

-- The file that the arguments name, if they ask for a run.
def configName? (args : List String) : Option String :=
  match Options.read args with
  | .run o => some o.config
  | _ => none

end UwbRanging

open UwbRanging in
def main (args : List String) : IO UInt32 := do
  let file ← match configName? args with
    | some name => readFile name
    | none => pure none
  let seed ← IO.rand 0 1000000000
  let outcome := Session.command args (fun _ => file) (← readEnvironment) (mkStdGen seed)
  let stdout ← IO.getStdout
  stdout.putStr outcome.stdout
  stdout.flush
  unless outcome.stderr.isEmpty do IO.eprintln outcome.stderr
  return outcome.code
