import FileRouting.Segments

/-!
# URL paths

The URL path of a route is made of the translated segments of its id.  A
segment that begins with `_` in both forms is a pathless layout and vanishes;
one that ends with `_` in both forms opts out of a layout and loses that `_`.
Because both forms are asked, a `_` that was escaped with brackets stays.
-/

namespace FileRouting

/-- What a segment adds to a URL path, if anything. -/
def urlComponent? (translated written : Text) : Option Text :=
  if translated.head? = some '_' && written.head? = some '_' then none
  else if translated.getLast? = some '_' && written.getLast? = some '_' then
    some translated.dropLast
  else some translated

namespace Segments

/-- Components of the URL path.  An index route leaves out its last segment. -/
def urlComponents (segments : Segments) (index : Bool) : List Text :=
  let kept := if index then segments.size - 1 else segments.size
  (segments.pairs.take kept).filterMap fun (translated, written) =>
    urlComponent? translated written

/-- The URL path relative to the routes root, if it is not empty. -/
def urlPath? (segments : Segments) (index : Bool) : Option Text :=
  match Text.joinWith '/' (segments.urlComponents index) with
  | [] => none
  | path => some path

end Segments

end FileRouting
