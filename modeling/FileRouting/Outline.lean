import FileRouting.Manifest
import FileRouting.Style

/-!
# The outline of a manifest

The outline lists the routes of a manifest in pre-order: each route is followed
by the outlines of its children, in the order of the manifest, before its next
sibling.  It is written with one line for each route, indented by the number of
its ancestors.
-/

namespace FileRouting

/-- A route with the number of its ancestors. -/
structure OutlineItem where
  depth : Nat
  route : Route
  deriving DecidableEq, Repr

namespace Manifest

/-- The outline of a route and its descendants.  The first number bounds how
many generations are listed. -/
def outlineFrom (manifest : Manifest) :
    Nat → Nat → Route → List OutlineItem
  | 0, _, _ => []
  | generations + 1, depth, route =>
      { depth, route } ::
        (manifest.children route.id).flatMap
          (outlineFrom manifest generations (depth + 1))

/-- The outline of all routes.  A chain of children without a cycle is never
longer than the manifest. -/
def outline (manifest : Manifest) : List OutlineItem :=
  manifest.roots.flatMap (manifest.outlineFrom manifest.size 0)

/-- What an outline says about a route after its URL. -/
def outlineNote (colour : Bool) (route : Route) : Text :=
  if route.isIndex then ' ' :: Style.dimmed.apply colour "(index)".toList
  else if route.path = none then
    ' ' :: Style.dimmed.apply colour "(layout)".toList
  else []

/-- The line of a route. -/
def outlineLine (manifest : Manifest) (colour : Bool) (item : OutlineItem) :
    Text :=
  let route := item.route
  let url := (manifest.fullPath? route.id).getD ['/']
  List.replicate (2 * (item.depth + 1)) ' ' ++
    Style.bold.apply colour route.id ++ [' ', ' '] ++
    Style.cyan.apply colour url ++ outlineNote colour route ++ [' ', ' '] ++
    Style.dimmed.apply colour route.file ++ ['\n']

/-- The written outline. -/
def outlineText (manifest : Manifest) (colour : Bool) : Text :=
  manifest.outline.flatMap (manifest.outlineLine colour)

end Manifest

end FileRouting
