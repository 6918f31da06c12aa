import FileRouting.Error
import FileRouting.Listing

/-!
# File trees

A file tree is all that lies below the root: files with their bytes, folders, and
symbolic links.  One of its places is the working directory.

A path that begins with `/` is resolved from the root, and any other from the
working directory, component by component.  Links are followed, each from the
folder it lies in, and `..` leads to the folder above, except that it leads from
the root to the root itself.
-/

namespace FileRouting

/-- What stands at a place of a file tree. -/
inductive FileNode where
  | file (content : ByteArray)
  | folder
  | link (target : Text)

/-- A place in a file tree is told by the names that lead to it from the root. -/
structure FileTree where
  /-- What stands below the root, by its place. -/
  nodes : List (List Text × FileNode)
  /-- The place of the working directory. -/
  workingDirectory : List Text

namespace FileTree

/-- A working directory without members, and nothing beside it. -/
def empty : FileTree where
  nodes := [
    (["tmp".toList], .folder), (["tmp".toList, "work".toList], .folder)]
  workingDirectory := ["tmp".toList, "work".toList]

def node? (tree : FileTree) (place : List Text) : Option FileNode :=
  if place = [] then some .folder else tree.nodes.lookup place

/-- The components of a path that move away from where it starts. -/
def names (path : Text) : List Text :=
  (path.splitOn '/').filter fun name => name ≠ [] ∧ name ≠ ['.']

/-- Puts a node at a place, instead of what is there. -/
def set (tree : FileTree) (place : List Text) (node : FileNode) : FileTree :=
  let nodes :=
    if tree.nodes.any fun held => held.1 = place then
      tree.nodes.map fun held =>
        if held.1 = place then (place, node) else held
    else tree.nodes ++ [(place, node)]
  { tree with nodes }

/-- Makes the folder at a place, if nothing is there. -/
def addFolder (tree : FileTree) (place : List Text) : FileTree :=
  match tree.node? place with
  | some _ => tree
  | none => tree.set place .folder

/-- Makes all folders on the way to a place. -/
def addParents (tree : FileTree) (place : List Text) : FileTree :=
  (List.range place.length).foldl
    (fun tree size => tree.addFolder (place.take size)) tree

/-- Number of links that may be followed for one path. -/
def linkLimit : Nat := 40

/-- The place from which a path is resolved in a folder. -/
def origin (folder : List Text) (path : Text) : List Text :=
  if path.head? = some '/' then [] else folder

/-- The place that components lead to from a place, whether or not anything is
there yet.  Where a link may be followed, `follow?` goes on from its origin. -/
def destinationWith (tree : FileTree)
    (follow? : Option (List Text → List Text → List Text)) :
    List Text → List Text → List Text
  | place, [] => place
  | place, name :: later =>
      if name = [] ∨ name = ['.'] then
        destinationWith tree follow? place later
      else if name = ['.', '.'] then
        destinationWith tree follow? place.dropLast later
      else
        match tree.node? (place ++ [name]), follow? with
        | some (.link target), some follow =>
            follow (origin place target) (target.splitOn '/' ++ later)
        | _, _ => destinationWith tree follow? (place ++ [name]) later

/-- The place that components lead to.  The number bounds how many links are
followed. -/
def destination (tree : FileTree) : Nat → List Text → List Text → List Text
  | 0 => tree.destinationWith none
  | links + 1 => tree.destinationWith (some (tree.destination links))

/-- Puts a node at a place, and makes the folders on the way to it. -/
def put (tree : FileTree) (place : List Text) (node : FileNode) : FileTree :=
  (tree.addParents place).set place node

/-- Writes a file.  Links are followed, also one at the path itself. -/
def addFile (tree : FileTree) (path : Text) (content : ByteArray) : FileTree :=
  let start := origin tree.workingDirectory path
  tree.put (tree.destination linkLimit start (names path)) (.file content)

/-- Makes a link.  Links on the way to it are followed. -/
def addLink (tree : FileTree) (path target : Text) : FileTree :=
  let start := origin tree.workingDirectory path
  let folder := tree.destination linkLimit start (names path).dropLast
  tree.put (folder ++ (names path).getLast?.toList) (.link target)

/-- Makes an empty file at a path, or a folder if the path ends in `/`. -/
def addPath (tree : FileTree) (path : Text) : FileTree :=
  if path.getLast? = some '/' then
    let start := origin tree.workingDirectory path
    let place := tree.destination linkLimit start (names path)
    (tree.addParents place).addFolder place
  else tree.addFile path ByteArray.empty

/-- Follows components from a place.  Where there is a link, `follow` goes on from
its origin. -/
def walkWith (tree : FileTree)
    (follow : List Text → List Text → Except ReadFault (List Text)) :
    List Text → List Text → Except ReadFault (List Text)
  | place, [] => .ok place
  | place, name :: later =>
      if name = [] ∨ name = ['.'] then walkWith tree follow place later
      else if name = ['.', '.'] then walkWith tree follow place.dropLast later
      else
        match tree.node? (place ++ [name]) with
        | none => .error .notFound
        | some .folder => walkWith tree follow (place ++ [name]) later
        | some (.file _) =>
            if later = [] then .ok (place ++ [name])
            else .error .notADirectory
        | some (.link target) =>
            if target = [] then .error .notFound
            else follow (origin place target) (target.splitOn '/' ++ later)

/-- Follows components from a place, as long as they lead to something.  The
number bounds how many links are followed. -/
def walk (tree : FileTree) :
    Nat → List Text → List Text → Except ReadFault (List Text)
  | 0 => tree.walkWith fun _ _ => .error .notFound
  | links + 1 => tree.walkWith (tree.walk links)

/-- Number of bytes that a path may have. -/
def byteLimit : Nat := 4095

/-- The place that a path leads to.  The empty path and one that is too long lead
to nothing. -/
def resolve (tree : FileTree) (path : Text) : Except ReadFault (List Text) :=
  if path = [] ∨ byteLimit < Text.byteSize path then .error .notFound
  else
    tree.walk linkLimit (origin tree.workingDirectory path)
      (path.splitOn '/')

/-- The node that a path leads to; it is never a link. -/
def find? (tree : FileTree) (path : Text) : Option FileNode :=
  match tree.resolve path with
  | .ok place => tree.node? place
  | .error _ => none

def isFile (tree : FileTree) (path : Text) : Bool :=
  match tree.find? path with
  | some (.file _) => true
  | _ => false

/-- What a path leads to, as far as routes are concerned. -/
def kind (tree : FileTree) (path : Text) : EntryKind :=
  match tree.find? path with
  | some (.file _) => .file
  | some .folder => .folder
  | _ => .other

/-- The names of the members of the folder at a place. -/
def members (tree : FileTree) (place : List Text) : List Text :=
  tree.nodes.filterMap fun (other, _) =>
    if other.dropLast = place then other.getLast? else none

def listing (tree : FileTree) (directory : Text) : Except ReadFault Listing :=
  match tree.resolve directory with
  | .error fault => .error fault
  | .ok place =>
      match tree.node? place with
      | none => .error .notFound
      | some .folder =>
          .ok {
            entries := (tree.members place).map fun name =>
              { name, kind := tree.kind (Path.join directory name) }
            holds := fun folder file =>
              tree.isFile (Path.join (Path.join directory folder) file) }
      | some _ => .error .notADirectory

end FileTree

end FileRouting
