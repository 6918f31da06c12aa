import FileRouting.Path
import FileRouting.UrlPath

/-!
# Route files

A file directly in the routes root names its route by its own stem.  A file in
a folder below the root stands for the folder and names its route by the path
of the folder.
-/

namespace FileRouting

/-- A file with the route id that it gives rise to. -/
structure RouteFile where
  id : Text
  /-- The path relative to the routes root. -/
  file : Text
  /-- The segments of the id. -/
  segments : Segments
  deriving DecidableEq, Repr

namespace RouteFile

/-- The route id of a path relative to the routes root. -/
def idOf (relative : Text) : Text :=
  match Path.directory relative with
  | [] => Path.stem relative
  | folder => folder

/-- The path of a file relative to a normal root.  A file outside the root is
refused, and so is the root itself. -/
def locate (root file : Text) : Except RouteError Text :=
  match Path.relativeTo? root file with
  | some (c :: rest) => .ok (c :: rest)
  | _ => .error (.outsideRoot file root)

def read (root file : Text) : Except RouteError RouteFile := do
  let relative ← locate root file
  let segments ← Segments.parse (idOf relative)
  return { id := idOf relative, file := relative, segments }

def isIndex (route : RouteFile) : Bool :=
  route.segments.isIndex

/-- The URL path relative to the routes root. -/
def urlPath? (route : RouteFile) : Option Text :=
  route.segments.urlPath? route.isIndex

/-- Whether the route can compete for its URL.  Layouts without a path of their
own may share one. -/
def participates (route : RouteFile) : Bool :=
  !route.segments.isPathlessLayout &&
    (route.urlPath?.isSome || route.isIndex)

/-- What routes compete for: a URL path, index routes apart from others. -/
def urlKey (route : RouteFile) : Text × Bool :=
  (route.urlPath?.getD [], route.isIndex)

end RouteFile

end FileRouting
