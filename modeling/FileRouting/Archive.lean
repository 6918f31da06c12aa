import FileRouting.FileTree

/-!
# Archives

An archive is a text that holds a file tree.  A line `-- path --` begins the
file of a path, whose content is the lines up to the next such line; a path that
ends in `/` is a folder.  What stands before the first file is a remark.
-/

namespace FileRouting.FileTree

/-- The path on a line that begins a file. -/
def markedPath? (line : Text) : Option Text :=
  match "-- ".toList.isPrefixOf? line with
  | none => none
  | some rest =>
      match " --".toList.isSuffixOf? rest with
      | some (c :: path) => some (c :: path)
      | _ => none

/-- The lines before the first file, and the files with their contents. -/
def sections : List Text → Text × List (Text × Text)
  | [] => ([], [])
  | line :: later =>
      let (content, files) := sections later
      match markedPath? line with
      | some path => ([], (path, content) :: files)
      | none => (line ++ '\n' :: content, files)

def addSection (tree : FileTree) (path content : Text) : FileTree :=
  if path.getLast? = some '/' then tree.addPath path
  else tree.addFile path (String.ofList content).toUTF8

def ofArchive (text : Text) : FileTree :=
  (sections ((Text.dropOneEnd '\n' text).splitOn '\n')).2.foldl
    (fun tree (path, content) => tree.addSection path content) empty

end FileRouting.FileTree
