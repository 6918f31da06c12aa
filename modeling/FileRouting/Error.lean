import FileRouting.Glob

/-!
# Errors

The causes for which a route file, a pattern or a directory is refused.  Route
files that compete for one id or one URL are no error: they are conflicts, and
the first of them is kept.
-/

namespace FileRouting

/-- Why a directory could not be listed. -/
inductive ReadFault where
  | notFound
  | notADirectory
  deriving DecidableEq, Repr

/-- Why a scan or a build of routes stops. -/
inductive RouteError where
  /-- A segment of an id holds a character that has a meaning in URLs. -/
  | invalidSegment (id segment : Text) (mark : Char)
  /-- The empty text was offered to a prefix trie. -/
  | emptyRouteId
  /-- A route file does not lie below the routes root. -/
  | outsideRoot (file root : Text)
  /-- An ignore pattern is no glob. -/
  | invalidIgnorePattern (pattern : Text) (cause : GlobError)
  /-- The routes directory could not be listed. -/
  | unreadable (fault : ReadFault)
  deriving DecidableEq, Repr

namespace ReadFault

/-- The wording of a fault. -/
def message : ReadFault → Text
  | .notFound => "No such file or directory".toList
  | .notADirectory => "Not a directory".toList

end ReadFault

namespace RouteError

/-- The wording of an error. -/
def message : RouteError → Text
  | .invalidSegment id segment mark =>
      "Route segment \"".toList ++ segment ++ "\" for \"".toList ++ id ++
        "\" cannot contain \"".toList ++ [mark] ++
        "\". Escape it with [] if it is meant literally".toList
  | .emptyRouteId =>
      "Cannot add an empty route id to the prefix trie".toList
  | .outsideRoot file root =>
      "Route file \"".toList ++ file ++
        "\" is not inside the routes directory \"".toList ++ root ++
        "\"".toList
  | .invalidIgnorePattern pattern cause =>
      "Invalid ignore pattern \"".toList ++ pattern ++ "\": ".toList ++
        cause.message
  | .unreadable fault => fault.message

end RouteError

end FileRouting
