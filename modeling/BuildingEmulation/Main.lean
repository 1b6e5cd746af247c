import BuildingEmulation.CommandLine.Execution

/-!
# Program

The command line on the machine it runs on.
-/
namespace BuildingEmulation

/-- Whether an action goes through. -/
def succeeds (x : IO Unit) : IO Bool :=
  try
    x
    pure true
  catch _ => pure false

/-- The machine as a host. -/
def machine : CommandLine.Host IO where
  holds path := succeeds (discard (IO.FS.realPath path))
  read path := try pure (some (← IO.FS.readFile path)) catch _ => pure none
  write path text := succeeds (IO.FS.writeFile path text)
  createDirectories path :=
    try
      IO.FS.createDirAll path
      pure (.ok ())
    catch e => pure (.error (.denied (toString e)))
  environment := IO.getEnv "R_BEM_CONFIG"
  print := IO.println
  stopwatch f := do
    let start ← IO.monoNanosNow
    let b ← IO.lazyPure f
    pure (b, (← IO.monoNanosNow) - start)

end BuildingEmulation

def main (args : List String) : IO UInt32 := do
  let outcome ← BuildingEmulation.CommandLine.start BuildingEmulation.machine args
  if let some complaint := outcome.complaint then IO.eprintln complaint
  pure outcome.exitCode.toUInt32
