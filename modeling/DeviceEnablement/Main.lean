/-
  The program `rde-mc`.

  It fetches the variables and files that `CommandLine.run` may ask for, and does what that says.
-/
import DeviceEnablement.Export

namespace DeviceEnablement

/-- What is there under these names. -/
def gather {α : Type} (get : String → IO (Option α)) (names : List String) :
    IO (List (String × α)) :=
  names.filterMapM fun name => return (← get name).map (name, ·)

/-- The content of a file, if it can be read. -/
def contentOf (path : String) : IO (Option Bytes) := do
  try
    return some (← IO.FS.readBinFile path).toList
  catch _ =>
    return none

/-- Does what an outcome says, and yields the status with which the program ends. -/
def CommandLine.Outcome.perform (outcome : CommandLine.Outcome) : IO UInt32 := do
  if let some remark := outcome.remark then
    if outcome.status = 0 then IO.println remark else IO.eprintln remark
  try
    if let some folder := outcome.folder then IO.FS.createDirAll folder
    for (path, content) in outcome.files do
      IO.FS.writeFile path content
    return outcome.status
  catch e =>
    IO.eprintln (toString e)
    return 1

end DeviceEnablement

open DeviceEnablement in
/-- Runs the program on the words behind its name. -/
def main (words : List String) : IO UInt32 := do
  let values ← gather (fun name => IO.getEnv name) Config.variableNames
  let env : Environment := fun name => values.lookup name
  let files ← gather contentOf (CommandLine.mentioned env words)
  (CommandLine.run env (fun path => files.lookup path) words).perform
