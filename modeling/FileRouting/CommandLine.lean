import FileRouting.CommandLine.Request
import FileRouting.Manifest.Json
import FileRouting.Outline

/-!
# The command line

A command loads the configuration, compiles the routes directory and prints
what it found: the manifest, the outline of the routes, or the conflicts.  The
outcome of a command is a value, an exit code with what is printed on the two
output channels.

A command fails with code 1 if the configuration cannot be loaded or the routes
cannot be built, and prints nothing but the error; a check fails also if there
is a conflict.  Arguments that are no request have the code 2.
-/

namespace FileRouting

/-- What a run of the program leaves behind. -/
structure RunOutcome where
  code : Nat
  /-- The standard output. -/
  output : Text
  /-- The error, if the code is 1. -/
  error : Option Text
  deriving DecidableEq, Repr

namespace RunOutcome

/-- A run without an error. -/
def success (output : Text) : RunOutcome := ⟨0, output, none⟩

/-- A run that ends with an error. -/
def failure (output message : Text) : RunOutcome :=
  ⟨1, output, some ("Error: ".toList ++ message)⟩

end RunOutcome

def decimal (number : Nat) : Text :=
  Nat.toDigits 10 number

namespace Manifest

/-- The manifest in one of its two forms, with the end of the line. -/
def jsonLine (manifest : Manifest) (indented : Bool) : Text :=
  (if indented then manifest.indentedText else manifest.compactText) ++ ['\n']

/-- The outline below the directory, and the number of routes. -/
def outlinePage (manifest : Manifest) (colour : Bool) (directory : Text) :
    Text :=
  Style.bold.apply colour directory ++ '\n' :: manifest.outlineText colour ++
    '\n' :: decimal manifest.size ++ " routes\n".toList

/-- The line of a check that finds no conflict. -/
def checkLine (manifest : Manifest) (colour : Bool) : Text :=
  [' ', ' '] ++ Style.green.apply colour ['✓'] ++ ' ' ::
    decimal manifest.size ++ " routes, no conflicts\n".toList

end Manifest

/-- The paragraph of a check about a conflict. -/
def Conflict.paragraph (colour : Bool) (conflict : Conflict) : Text :=
  Style.yellow.apply colour ['⚠'] ++ ' ' :: conflict.message ++ ['\n', '\n']

namespace Invocation

def routesDirectory (invocation : Invocation) (config : Config) : Text :=
  invocation.directory.getD config.directory

/-- How an invocation scans its routes directory. -/
def scanSettings (invocation : Invocation) (config : Config) : ScanSettings :=
  { config.scanSettings with ignored := config.ignored ++ invocation.ignored }

theorem routesDirectory_eq (invocation : Invocation) (config : Config) :
    invocation.routesDirectory config =
      invocation.directory.getD config.directory :=
  rfl

/-- Patterns on the command line come after those of the configuration. -/
theorem scanSettings_eq (invocation : Invocation) (config : Config) :
    invocation.scanSettings config =
      { ignored := config.ignored ++ invocation.ignored
        extensions := config.extensions } :=
  rfl

/-- The manifest that an invocation is about, with the conflicts. -/
def compile (invocation : Invocation) (tree : FileTree) (config : Config) :
    Report Manifest :=
  let directory := invocation.routesDirectory config
  (invocation.scanSettings config).compile directory (tree.listing directory)

/-- What a command prints about the routes of a directory. -/
def present (command : Command) (colour : Bool) (directory : Text)
    (conflicts : List Conflict) (manifest : Manifest) : RunOutcome :=
  match command with
  | .manifest indented => .success (manifest.jsonLine indented)
  | .tree => .success (manifest.outlinePage colour directory)
  | .check =>
      if conflicts = [] then .success (manifest.checkLine colour)
      else
        .failure (conflicts.flatMap (Conflict.paragraph colour))
          (decimal conflicts.length ++ " route conflict(s) in ".toList ++
            directory)

/-- Carries out an invocation. -/
def run (invocation : Invocation) (tree : FileTree) (colour : Bool) :
    RunOutcome :=
  match Config.load tree invocation.configPath with
  | .error _ =>
      .failure [] ("Failed to load ".toList ++ invocation.configPath)
  | .ok config =>
      let directory := invocation.routesDirectory config
      let report := invocation.compile tree config
      match report.outcome with
      | .error _ =>
          .failure [] ("Failed to build routes from ".toList ++ directory)
      | .ok manifest =>
          present invocation.command colour directory report.conflicts manifest

end Invocation

namespace Request

/-- The name and the version of the program. -/
def versionLine : Text := "rhtmx-routes 0.1.0\n".toList

/-- How the program is called. -/
def usage : Text :=
  ("Usage: rhtmx-routes [--config FILE] <COMMAND>\n\n" ++
    "Commands:\n" ++
    "  manifest [--pretty] [-i GLOB]... [DIR]  Print the route manifest as JSON\n" ++
    "  tree [-i GLOB]... [DIR]                 Print the route hierarchy\n" ++
    "  check [-i GLOB]... [DIR]                Report route conflicts\n").toList

def run (request : Request) (tree : FileTree) (colour : Bool) : RunOutcome :=
  match request with
  | .invoke invocation => invocation.run tree colour
  | .version => .success versionLine
  | .help => .success usage
  | .misuse => ⟨2, [], none⟩

end Request

/-- The outcome of the program on a file tree. -/
def runArguments (tree : FileTree) (colour : Bool) (arguments : List Text) :
    RunOutcome :=
  (Request.ofArguments arguments).run tree colour

end FileRouting
