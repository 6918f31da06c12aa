import FileRouting.Error

/-!
# Ignore sets

An ignore set is a list of globs, and a path is ignored if one of them matches
it.  Dot files and dot folders are always ignored: the glob that matches them
comes first in every set.
-/

namespace FileRouting

/-- Compiled globs of the entries to leave out. -/
structure IgnoreSet where
  globs : List Glob
  deriving DecidableEq, Repr

namespace IgnoreSet

/-- The pattern of dot files and dot folders. -/
def dotFiles : Text := "**/.*".toList

def compilePattern (pattern : Text) : Except RouteError Glob :=
  match Glob.compile pattern with
  | .ok glob => .ok glob
  | .error cause => .error (.invalidIgnorePattern pattern cause)

/-- Compiles the given patterns and that of dot files, each once; the first
malformed pattern is an error. -/
def compile (patterns : List Text) : Except RouteError IgnoreSet := do
  let globs ← (dotFiles :: patterns).eraseDups.mapM compilePattern
  return { globs }

def patterns (set : IgnoreSet) : List Text :=
  set.globs.map Glob.source

/-- Whether a path relative to the routes directory is ignored. -/
def ignores (set : IgnoreSet) (path : Text) : Bool :=
  set.globs.any fun glob => glob.isMatch path

end IgnoreSet

end FileRouting
