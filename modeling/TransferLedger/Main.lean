/-
# TransferLedger.Main -- the command line

Reads the settings from the arguments and the environment and prints them with the normal form of
every node's address. Settings that cannot be used end with code 2, and nodes that cannot be reached
by their address with code 1.
-/

import TransferLedger.Chain.JsonRpc
import TransferLedger.Settings

namespace TransferLedger

/-- The variables that are set, by name. -/
def readEnvironment : IO (List (String × String)) := do
  let found ← (Setting.all.filterMap Setting.environmentName?).mapM fun name => do
    return (← IO.getEnv name).map (name, ·)
  return found.filterMap id

/-- The settings with the addresses of their nodes. -/
def summary (settings : Settings) (nodes : Rotation RpcClient) : Json :=
  .object [("settings", settings.toJson),
    ("nodes", .texts (nodes.nodes.map fun client => client.endpoint.render))]

end TransferLedger

open TransferLedger

/-- Prints the settings or what is wrong with them. -/
def main (arguments : List String) : IO UInt32 := do
  let environment ← readEnvironment
  match Settings.read arguments (environment.lookup ·) with
  | .error .help =>
    IO.println usage
    return 0
  | .error fault =>
    IO.eprintln fault.message
    return 2
  | .ok settings =>
    match RpcClient.rotation settings.providers .standard with
    | .error failure =>
      IO.eprintln failure.message
      return 1
    | .ok nodes =>
      IO.println (summary settings nodes).render
      return 0
