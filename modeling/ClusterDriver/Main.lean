import ClusterDriver.Boot
/-!
# The program

Starts a driver from the variables of the process and keeps it until the input ends.
-/
namespace ClusterDriver.Boot

/-- The variables that settings can come from. -/
def variableNames : List String :=
  KnownOption.all.map KnownOption.variableName ++ [Environment.detectionVariable]

def readEnvironment : IO Environment := do
  let found ← variableNames.filterMapM fun name => do
    return (← IO.getEnv name).map fun value => (name, value.toUTF8)
  return ⟨.ofList found⟩

def printLines (lines : List String) : IO Unit := lines.forM fun line => IO.println line

partial def waitForEnd (input : IO.FS.Stream) : IO Unit := do
  if (← input.getLine).isEmpty then return () else waitForEnd input

end ClusterDriver.Boot

open ClusterDriver in
def main : IO UInt32 := do
  let started := Boot.start Endpoint.sort (← Boot.readEnvironment).settings
  Boot.printLines (Boot.banner ++ started.log)
  match started.outcome with
  | .error fault =>
    IO.eprint fault.text
    return 1
  | .ok context =>
    Boot.printLines (context.statusLines ++ [Boot.runningLine])
    Boot.waitForEnd (← IO.getStdin)
    Boot.printLines Boot.farewell
    return 0
