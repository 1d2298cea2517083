import Rendezvous.Network

/-!
# The command

The program takes no arguments. What it looks at are the variables of its
environment.
-/

open Rendezvous

/-- The variables of the environment that the program looks at. -/
def environment : IO Variables := do
  let mut found : List (String × String) := []
  for name in Log.Filter.variableName :: Settings.variableNames do
    if let some value ← IO.getEnv name then
      found := (name, value) :: found
  let vars := found
  return fun name => vars.lookup name

/-- Runs the relay. -/
def main : IO UInt32 := do
  Program.run (Network.host (← Network.World.fresh)) (← environment)
