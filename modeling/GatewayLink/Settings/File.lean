import GatewayLink.Failure
import GatewayLink.Settings.Basic
import GatewayLink.Storage.Writing

/-!
# The configuration file

The file holds the configuration as JSON over several lines.  Where there is no file, and where the
file is a text that is no configuration, the default configuration is used and written to the file.
A file that cannot be read as text is left alone.
-/

namespace GatewayLink

namespace Settings

/-- The content of the configuration file. -/
def fileText (settings : Settings) : String :=
  settings.toJson.indented

/-- What is found in place of a configuration file. -/
inductive Found where
  | absent
  /-- A directory, or bytes that are no text. -/
  | unreadable
  | text (content : String)
  deriving DecidableEq, Repr

/-- What is to be done with what was found. -/
inductive Decision where
  /-- Use what the file says. -/
  | use (settings : Settings)
  /-- Use the default and write it to the file. -/
  | replace
  /-- Use the default and leave the file alone. -/
  | leave
  deriving DecidableEq

/-- The decision on what was found. -/
def decide : Found → Decision
  | .absent => .replace
  | .unreadable => .leave
  | .text content =>
    match read? content with
    | some settings => .use settings
    | none => .replace

/-- The configuration to use. -/
def Decision.settings : Decision → Settings
  | .use settings => settings
  | .replace | .leave => default

/-- What a path leads to. -/
def found (path : FilePath) (tree : FileTree) : Found :=
  match tree.lookUp? path with
  | none => .absent
  | some (.directory _) => .unreadable
  | some (.file content) =>
    match String.fromUTF8? content with
    | none => .unreadable
    | some text => .text text

/-- Writes a configuration to its file. -/
def save (settings : Settings) (path : FilePath) (tree : FileTree) :
    Except ClientError Unit × FileTree :=
  let (result, tree) := tree.writeText settings.fileText path
  (result.mapError fun fault => .io fault.message, tree)

/-- The configuration to use, and the files afterwards; a default that cannot be written is used
all the same. -/
def load (path : FilePath) (tree : FileTree) : Settings × FileTree :=
  let decision := decide (found path tree)
  let tree :=
    match decision with
    | .replace => (default.save path tree).2
    | .use _ | .leave => tree
  (decision.settings, tree)

end Settings

end GatewayLink
