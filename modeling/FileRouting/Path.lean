import FileRouting.Text

/-!
# Paths of route files

A path is a text whose components are separated by `/`; a `\` is accepted as a
second spelling of `/` and replaced before anything else looks at the path.

Nothing here asks a file system: a directory part, an extension or a relative
path is a part of the text, and a path lies in a root exactly when the root and
a `/` begin it.
-/

namespace FileRouting.Path

/-- A path in which every `\` is written `/`. -/
def slashed (path : Text) : Text :=
  path.map fun c => if c = '\\' then '/' else c

/-- The normal form of a routes root: slashes only, none of them trailing,
except that a path of slashes alone is `/`. -/
def root (path : Text) : Text :=
  let trimmed := Text.trimEnd '/' (slashed path)
  if trimmed = [] ∧ path ≠ [] then ['/'] else trimmed

/-- The directory part: what stands before the last `/`.  It is `/` for a name
directly below `/`, and empty for a bare name. -/
def directory (path : Text) : Text :=
  match Text.cutLast '/' path with
  | some ([], _) => ['/']
  | some (before, _) => before
  | none => []

/-- The part after the last `/`. -/
def name (path : Text) : Text :=
  match Text.cutLast '/' path with
  | some (_, after) => after
  | none => path

/-- The extension of the name, with its dot.  A dot that begins the name begins
no extension. -/
def extension? (path : Text) : Option Text :=
  match Text.cutLast '.' (name path) with
  | some (_ :: _, after) => some ('.' :: after)
  | _ => none

/-- The path without the extension of its name. -/
def stem (path : Text) : Text :=
  match extension? path with
  | some extension => path.take (path.length - extension.length)
  | none => path

/-- The path of a file relative to a normal root, if the file lies in it.  The
root itself has the empty relative path, and below an empty root or `.` a
leading `./` is dropped. -/
def relativeTo? (root path : Text) : Option Text :=
  if root = [] ∨ root = ['.'] then
    some ((['.', '/'].isPrefixOf? path).getD path)
  else if root = ['/'] then
    ['/'].isPrefixOf? path
  else
    match root.isPrefixOf? path with
    | none => none
    | some [] => some []
    | some (c :: rest) => if c = '/' then some rest else none

/-- The path of a member of a directory.  A member that starts with `/` stands
for itself; no `/` is added after a directory that is empty or ends in `/`. -/
def join (directory member : Text) : Text :=
  if member.head? = some '/' then member
  else if directory = [] ∨ directory.getLast? = some '/' then directory ++ member
  else directory ++ '/' :: member

/-- Components of a path: empty ones and `.` are dropped, except that a leading
`.` is kept; `/` stands for itself at the start of an absolute path. -/
def components (path : Text) : List Text :=
  let parts := path.splitOn '/'
  let inner := parts.tail.filter fun part => part ≠ [] ∧ part ≠ ['.']
  match parts with
  | [] => []
  | [] :: _ => if path = [] then [] else ['/'] :: inner
  | first :: _ => first :: inner

/-- The last component of a path, if it names a file: neither the root nor `.`
nor `..` does. -/
def fileName? (path : Text) : Option Text :=
  match (components path).getLast? with
  | none => none
  | some last =>
      if last = ['/'] ∨ last = ['.'] ∨ last = ['.', '.'] then none else some last

end FileRouting.Path
