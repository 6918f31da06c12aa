import FileRouting.Json.Reader
import FileRouting.Manifest

/-!
# Manifests as JSON

A manifest is written as an object of routes, in the order of the keys.  The
fields of a route come in a fixed order, and absent ones are left out.

Reading accepts more than writing produces: unknown fields are skipped, an
optional field may be null, and a route may also be an array of its fields in
order, of which the first two are required.  A field may not be given twice,
whereas of two routes with one key the later counts.
-/

namespace FileRouting

namespace Route

/-- A field that is written only if it is present. -/
def optionalField (name : Text) (value : Option Json) : List (Text × Json) :=
  match value with
  | none => []
  | some value => [(name, value)]

def toJson (route : Route) : Json :=
  .object ([("file".toList, .string route.file),
      ("id".toList, .string route.id)] ++
    optionalField "path".toList (route.path.map .string) ++
    optionalField "index".toList (route.index.map .bool) ++
    optionalField "parentId".toList (route.parentId.map .string))

/-- The field of a name, if it occurs at most once. -/
def readField? (name : Text) (members : List (Text × Json)) :
    Option (Option Json) :=
  match members.filter fun member => member.1 = name with
  | [] => some none
  | [(_, value)] => some (some value)
  | _ => none

/-- A required text. -/
def readText? : Option Json → Option Text
  | some (.string value) => some value
  | _ => none

/-- A text that may be absent or null. -/
def readOptionalText? : Option Json → Option (Option Text)
  | none => some none
  | some .null => some none
  | some (.string value) => some (some value)
  | _ => none

/-- A truth value that may be absent or null. -/
def readOptionalBool? : Option Json → Option (Option Bool)
  | none => some none
  | some .null => some none
  | some (.bool value) => some (some value)
  | _ => none

/-- Reads a route off its fields. -/
def ofFields? (file id path index parentId : Option Json) : Option Route := do
  let file ← readText? file
  let id ← readText? id
  let path ← readOptionalText? path
  let index ← readOptionalBool? index
  let parentId ← readOptionalText? parentId
  return { file, id, path, index, parentId }

/-- Reads a route off a JSON value. -/
def ofJson? : Json → Option Route
  | .object members => do
      let file ← readField? "file".toList members
      let id ← readField? "id".toList members
      let path ← readField? "path".toList members
      let index ← readField? "index".toList members
      let parentId ← readField? "parentId".toList members
      ofFields? file id path index parentId
  | .array items =>
      if items.length ≤ 5 then
        ofFields? items[0]? items[1]? items[2]? items[3]? items[4]?
      else none
  | _ => none

end Route

namespace Manifest

def toJson (manifest : Manifest) : Json :=
  .object (manifest.entries.map fun (key, route) => (key, route.toJson))

def compactText (manifest : Manifest) : Text :=
  manifest.toJson.compact

/-- The JSON text of a manifest with a line for each field. -/
def indentedText (manifest : Manifest) : Text :=
  manifest.toJson.indented

/-- Reads a manifest off a JSON value. -/
def ofJson? : Json → Option Manifest
  | .object members => do
      let routes ← members.mapM fun (key, value) => do
        let route ← Route.ofJson? value
        return (key, route)
      return ofList routes
  | _ => none

def ofText? (text : Text) : Option Manifest := do
  let value ← Json.read? text
  ofJson? value

end Manifest

end FileRouting
