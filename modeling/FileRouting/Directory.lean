import FileRouting.Build
import FileRouting.Scan

/-!
# From a routes directory to its manifest

A routes directory is compiled in two steps: its entries are scanned for route
files, and the manifest of these is built.  The conflicts of the scan come
before those of the build.  A malformed ignore pattern counts before a
directory that cannot be listed.
-/

namespace FileRouting

/-- How a routes directory is scanned. -/
structure ScanSettings where
  /-- Patterns of entries to leave out. -/
  ignored : List Text := []
  /-- Extensions of folder modules, in the order in which they are tried. -/
  extensions : List Text := defaultExtensions
  deriving DecidableEq, Repr

namespace ScanSettings

/-- The route files of a directory, in the order of its listing. -/
def scanFiles (settings : ScanSettings) (directory : Text)
    (listing : Except ReadFault Listing) : Report (List Text) := do
  let ignored ← Report.ofExcept (IgnoreSet.compile settings.ignored)
  match listing with
  | .error fault => Report.ofExcept (.error (.unreadable fault))
  | .ok listing =>
      let scan : Scan :=
        { directory, ignored
          extensions := settings.extensions
          holds := listing.holds }
      scan.files listing.entries

/-- The route files of a directory in collated order. -/
def listFiles (settings : ScanSettings) (directory : Text)
    (listing : Except ReadFault Listing) : Report (List Text) := do
  let files ← settings.scanFiles directory listing
  return collate files

/-- The manifest of a directory. -/
def compile (settings : ScanSettings) (directory : Text)
    (listing : Except ReadFault Listing) : Report Manifest := do
  let files ← settings.listFiles directory listing
  build directory files

end ScanSettings

end FileRouting
