import FileRouting.Directory
import FileRouting.Toml.Reader

/-!
# Configuration

A configuration is the `routes` table of a TOML document: where the routes
directory is and how it is scanned.  What the document leaves out has a default,
and what it says beyond is ignored.  A text of white space alone is the default
configuration.
-/

namespace FileRouting

/-- Where routes are and how they are scanned. -/
structure Config where
  directory : Text := "app/routes".toList
  /-- Patterns of entries that are no routes, besides dot files. -/
  ignored : List Text := []
  /-- Extensions of folder modules. -/
  extensions : List Text := defaultExtensions
  deriving DecidableEq, Repr

namespace Config

/-- The configuration of an empty document. -/
def default : Config := {}

def readText? (fallback : Text) : Option Toml → Option Text
  | none => some fallback
  | some (.string value) => some value
  | some _ => none

/-- An array of texts, or a default for an absent one. -/
def readTexts? (fallback : List Text) : Option Toml → Option (List Text)
  | none => some fallback
  | some (.array items) =>
      items.mapM fun item =>
        match item with
        | .string value => some value
        | _ => none
  | some _ => none

def ofFields? (directory ignored extensions : Option Toml) : Option Config := do
  let directory ← readText? default.directory directory
  let ignored ← readTexts? default.ignored ignored
  let extensions ← readTexts? default.extensions extensions
  return { directory, ignored, extensions }

/-- Reads the value of the key `routes`.  Besides a table it may be an array of
the fields in order; a date has none of the fields. -/
def ofRoutes? : Toml → Option Config
  | .table _ members =>
      ofFields? (members.lookup "dir".toList)
        (members.lookup "ignored_route_files".toList)
        (members.lookup "extensions".toList)
  | .array items => ofFields? items[0]? items[1]? items[2]?
  | .dateTime _ => some default
  | _ => none

/-- Reads a configuration from the text of a document. -/
def ofText? (text : Text) : Option Config :=
  if text.all isWhiteSpace then some default
  else
    match Toml.read? text with
    | none => none
    | some members =>
        match members.lookup "routes".toList with
        | none => some default
        | some routes => ofRoutes? routes

/-- How a configuration scans its routes directory. -/
def scanSettings (config : Config) : ScanSettings where
  ignored := config.ignored
  extensions := config.extensions

end Config

end FileRouting
