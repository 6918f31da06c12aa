import FileRouting.Config
import FileRouting.FileTree
import FileRouting.Quoted

/-!
# Configuration files

A configuration is loaded from a file of a file tree.  A file that does not
exist gives the default configuration; one that cannot be read as text, or
whose text is no configuration, is an error that names the file.
-/

namespace FileRouting

/-- Why a configuration file gives no configuration. -/
inductive ConfigError where
  /-- The path leads to a folder or to bytes that are no text. -/
  | unreadable (path : Text)
  /-- The text of the file is no configuration. -/
  | malformed (path : Text)
  deriving DecidableEq, Repr

namespace ConfigError

/-- The wording of an error. -/
def message : ConfigError → Text
  | .unreadable path => "Failed to read config file: ".toList ++ quoted path
  | .malformed path => "Failed to parse config file: ".toList ++ quoted path

end ConfigError

namespace Config

/-- The configuration file that is used if no other is named. -/
def defaultPath : Text := "rhtmx.toml".toList

def load (tree : FileTree) (path : Text) : Except ConfigError Config :=
  match tree.find? path with
  | none => .ok default
  | some (.file content) =>
      match String.fromUTF8? content with
      | none => .error (.unreadable path)
      | some text =>
          match ofText? text.toList with
          | none => .error (.malformed path)
          | some config => .ok config
  | some _ => .error (.unreadable path)

end Config

end FileRouting
