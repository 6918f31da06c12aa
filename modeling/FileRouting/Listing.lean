import FileRouting.Path

/-!
# Directory listings

A routes directory is seen through its listing: the names and kinds of its
direct entries, in the order in which they were listed, and which files its
folders hold.  What lies deeper plays no part.
-/

namespace FileRouting

/-- What an entry of a directory is, as far as routes are concerned. -/
inductive EntryKind where
  | file
  | folder
  | other
  deriving DecidableEq, Repr

/-- A direct entry of a directory. -/
structure Entry where
  name : Text
  kind : EntryKind
  deriving DecidableEq, Repr

/-- A directory as it was listed. -/
structure Listing where
  entries : List Entry
  /-- Whether the folder of a name holds a file of a name. -/
  holds : Text → Text → Bool

namespace Listing

/-- The listing of a directory whose folders hold the given files and no
others.  Two files are the same if their paths have the same components. -/
def ofEntries (directory : Text) (entries : List (Entry × List Text)) :
    Listing where
  entries := entries.map (·.1)
  holds folder file :=
    let components := fun folder file =>
      Path.components (Path.join (Path.join directory folder) file)
    entries.any fun (entry, files) =>
      files.any fun held =>
        components entry.name held = components folder file

end Listing

end FileRouting
