import GatewayLink.Console.Start

/-!
Runs the console: `gateway-console [configuration file]`.  Nothing that it opens can be reached
from here, and it stops when its input ends.
-/

namespace GatewayLink

namespace Console

/-- The error number of the operating system for a directory in place of a file. -/
def directoryNumber : UInt32 := 21

/-- The tree with what stands in the file system under a name. -/
def fetch (name : String) (files : FileTree) : IO FileTree := do
  let path := FilePath.parse name
  try
    let content ← IO.FS.readBinFile name
    return (files.write content path).2
  catch
    | .inappropriateType _ number _ =>
      if number = directoryNumber then return (files.makeDirectory path.way).2
      else return files
    | _ => return files

/-- The name of the directory that a file stands in. -/
def parentName (name : String) : String :=
  String.ofList (name.toList.reverse.dropWhile (· != '/')).reverse

/-- Writes a file that has changed; a failure is passed over. -/
def store (name : String) (before after : FileTree) : IO Unit := do
  let path := FilePath.parse name
  match after.content? path with
  | none => return
  | some content =>
    if (before.content? path).map ByteArray.toList ≠ some content.toList then
      try
        unless (parentName name).isEmpty do IO.FS.createDirAll (parentName name)
        IO.FS.writeBinFile name content
      catch _ => return

/-- Reads the input to its end. -/
partial def awaitEnd (input : IO.FS.Stream) : IO Unit := do
  unless (← input.getLine).isEmpty do awaitEnd input

/-- Runs the console. -/
def run (argument : Option String) : IO UInt32 := do
  let settingsName := Settings.path argument
  let files ← fetch settingsName .empty
  let (settings, _) := Settings.load (.parse settingsName) files
  let files ← fetch settings.parameterFile files
  let (result, after) := start argument files ⟨0, 0⟩
  store settingsName files after
  store settings.parameterFile files after
  match result with
  | .error report =>
    (← IO.getStderr).putStr report
    return 1
  | .ok client =>
    let client := client.settle .unreachable
    awaitEnd (← IO.getStdin)
    let _ := client.step .close
    return 0

end Console

end GatewayLink

def main (arguments : List String) : IO UInt32 :=
  GatewayLink.Console.run arguments.head?
