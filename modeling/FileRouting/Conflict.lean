import FileRouting.Text

/-!
# Conflicts

Several route files may give one route id, and several routes one URL.  This
never fails a build: the first file is kept, the others are left out, and the
conflict is reported.
-/

namespace FileRouting

/-- What the files of a conflict have in common. -/
inductive ConflictKind where
  | routeId
  | url
  deriving DecidableEq, Repr

/-- Files that compete for one route id or one URL, the kept file first. -/
structure Conflict where
  kind : ConflictKind
  key : Text
  files : List Text
  deriving DecidableEq, Repr

namespace Conflict

/-- The file that is kept. -/
def winner (conflict : Conflict) : Text :=
  conflict.files.headD []

/-- The files that are left out. -/
def losers (conflict : Conflict) : List Text :=
  conflict.files.tail

/-- The key as it is shown: a URL always begins with `/`. -/
def shownKey (conflict : Conflict) : Text :=
  match conflict.kind with
  | .routeId => conflict.key
  | .url =>
      if conflict.key.head? = some '/' then conflict.key else '/' :: conflict.key

/-- The report on a conflict, one line for each file. -/
def message (conflict : Conflict) : Text :=
  let (title, what) :=
    match conflict.kind with
    | .routeId => ("Route ID".toList, "Route ID".toList)
    | .url => ("Route Path".toList, "URL".toList)
  "Route conflict: ".toList ++ title ++ " Collision: \"".toList ++
    conflict.shownKey ++ "\"\n\n".toList ++
    "The following routes all define the same ".toList ++ what ++
    ", only the first one will be used\n\n".toList ++
    "  kept:    ".toList ++ conflict.winner ++ "\n".toList ++
    conflict.losers.flatMap fun loser =>
      "  ignored: ".toList ++ loser ++ "\n".toList

end Conflict

end FileRouting
