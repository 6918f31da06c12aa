import FileRouting.Ignore
import FileRouting.Listing
import FileRouting.Report
import FileRouting.UrlPath

/-!
# Scanning a routes directory

Only the direct entries of the routes directory are considered, less those
whose name is ignored.  A file is a route file.  A folder is represented by its
module: a `route` file or, failing that, an `index` file, with the first
extension of a list that fits.  A folder that holds both reports a conflict on
its URL and keeps its `route` file; a folder that holds neither is skipped.
-/

namespace FileRouting

/-- Extensions of folder modules, unless others are set. -/
def defaultExtensions : List Text :=
  [".js", ".jsx", ".ts", ".tsx", ".md", ".mdx"].map String.toList

def dotted (extension : Text) : Text :=
  if extension.head? = some '.' then extension else '.' :: extension

/-- What a scan needs to know about a routes directory, apart from its
entries. -/
structure Scan where
  directory : Text
  ignored : IgnoreSet
  extensions : List Text
  /-- Whether the folder of a name holds a file of a name. -/
  holds : Text → Text → Bool

namespace Scan

/-- The first file of a stem and one of the extensions that a folder holds. -/
def module? (scan : Scan) (folder stem : Text) : Option Text :=
  (scan.extensions.map fun extension => stem ++ dotted extension).find?
    (scan.holds folder)

def modulePath (scan : Scan) (folder file : Text) : Text :=
  Path.join (Path.join scan.directory folder) file

/-- A file in a folder as a conflict names it. -/
def moduleLabel (scan : Scan) (folder file : Text) : Text :=
  folder ++ '/' :: (Path.fileName? (scan.modulePath folder file)).getD []

/-- The conflict of a folder that holds two modules. -/
def folderConflict (scan : Scan) (folder route index : Text) :
    Except RouteError Conflict := do
  let segments ← Segments.parse folder
  return {
    kind := .url
    key := (segments.urlPath? false).getD ['/']
    files := [scan.moduleLabel folder route, scan.moduleLabel folder index] }

def folderModule (scan : Scan) (folder : Text) : Report (Option Text) :=
  match scan.module? folder "route".toList,
      scan.module? folder "index".toList with
  | some route, some index =>
      match scan.folderConflict folder route index with
      | .ok conflict => ⟨[conflict], .ok (some route)⟩
      | .error error => ⟨[], .error error⟩
  | some route, none => ⟨[], .ok (some route)⟩
  | none, index => ⟨[], .ok index⟩

/-- The route file that an entry contributes, if any. -/
def entryFile (scan : Scan) (entry : Entry) : Report (Option Text) :=
  if scan.ignored.ignores entry.name then pure none
  else
    match entry.kind with
    | .file =>
        pure (some (Path.slashed (Path.join scan.directory entry.name)))
    | .folder => do
        let file ← scan.folderModule entry.name
        return file.map fun file =>
          Path.slashed (scan.modulePath entry.name file)
    | .other => pure none

/-- The route files that some entries contribute, in their order. -/
def files (scan : Scan) : List Entry → Report (List Text)
  | [] => pure []
  | entry :: later => do
      let file ← scan.entryFile entry
      let files ← files scan later
      return file.toList ++ files

end Scan

end FileRouting
