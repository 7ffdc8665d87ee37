import ClusterNode.Json.Writer
import ClusterNode.Settings.Record

/-!
# The command line of a node

Checks a command line and the settings file that it names, and prints the settings
with which the node runs. What is wrong with them is printed as an error instead.
-/

namespace ClusterNode

/-- The extension of a file name; empty if it has none. -/
def extensionOf (filename : String) : String :=
  match (filename.splitOn "/").getLast?.map (·.splitOn ".") with
  | some (_ :: rest) => rest.getLast?.getD ""
  | _ => ""

/-- The content of a file that can be read. -/
def readContent? (filename : String) : IO (Option Bytes) := do
  try
    let content ← IO.FS.readBinFile filename
    return some content.data.toList
  catch _ => return none

/-- Print an error; the status tells of it too. -/
def refuse (status : UInt32) (message : String) : IO UInt32 := do
  IO.eprintln ("error: " ++ message)
  return status

/-- Print the settings that a command line leads to. -/
def showSettings (args : Arguments) : IO UInt32 := do
  let named := (← readContent? "/etc/hostname").map Text.ofFile
  let hostname := (named.getD "localhost").trimAscii.toString
  let file := (← readContent? args.config).map fun content => (extensionOf args.config, content)
  match NodeSettings.load hostname file args with
  | .error e => refuse 1 e.message
  | .ok settings =>
    IO.println (settings.toRecord args).render
    return 0

end ClusterNode

/-- The command line of a node. -/
def main (args : List String) : IO UInt32 := do
  match ClusterNode.CommandLine.parse args with
  | .error .displayHelp =>
    IO.println "Options: --config FILE, --nodename NAME, --listen ADDRESS, --config-dir DIRECTORY,"
    IO.println "--var-dir DIRECTORY, --log-level LEVEL, --json-logs, --help, --version"
    return 0
  | .error .displayVersion =>
    IO.println "0.1.0"
    return 0
  | .error e => ClusterNode.refuse 2 e.name
  | .ok arguments => ClusterNode.showSettings arguments
