/-
# ODataGateway.Main — the command line.

The program takes its settings from the environment and reports whether they can be used.
-/
import ODataGateway.Settings

open ODataGateway

/-- Reads the variables that count, prints what comes of them and returns the exit code. -/
def main : IO UInt32 := do
  let env ← Startup.variableNames.filterMapM fun name => do
    return (← IO.getEnv name).map fun value => (name, value)
  let result := Startup.ofEnvironment env
  IO.print result.output
  IO.eprint result.errors
  return UInt32.ofNat result.exitCode
