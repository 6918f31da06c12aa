import FileRouting.Proofs.BuildReport
import FileRouting.Proofs.PathsBelow

/-!
# Where the routes root lies

The root of a build is taken off the path of every file before anything is made
of it, and files below one root collate by what stands below it.  What is read
is therefore determined by the paths relative to the root, wherever the root
lies.
-/

namespace FileRouting

namespace Path

theorem beneath_eq_append (root path : Text) :
    beneath root path = beneath root [] ++ path := by
  rw [beneath, beneath]
  split
  · rfl
  · split
    · rfl
    · rw [List.append_assoc]
      rfl

theorem notMem_slashed (path : Text) : '\\' ∉ slashed path := by
  intro member
  obtain ⟨c, _, same⟩ := List.mem_map.mp member
  split at same
  · cases same
  · contradiction

theorem notMem_root (path : Text) : '\\' ∉ root path := by
  rw [root]
  split
  · decide
  · intro member
    obtain ⟨count, whole⟩ := Text.trimEnd_spec '/' (slashed path)
    apply notMem_slashed path
    rw [whole]
    exact List.mem_append_left _ member

theorem slashed_beneath {root : Text} (noBackslash : '\\' ∉ root)
    (path : Text) : slashed (beneath root path) = beneath root (slashed path) := by
  have noneBefore : '\\' ∉ beneath root [] := by
    rw [beneath]
    split
    · decide
    · split
      · decide
      · simp [noBackslash]
  have kept := slashed_eq_self noneBefore
  rw [slashed] at kept
  rw [beneath_eq_append root path, beneath_eq_append root (slashed path),
    slashed, List.map_append, kept]
  rfl

end Path

namespace RouteFile

/-- A file in a folder names its route by the folder. -/
theorem idOf_below {folder file : Text} (nonempty : folder ≠ [])
    (noSlash : '/' ∉ file) : idOf (folder ++ '/' :: file) = folder := by
  obtain ⟨c, rest, rfl⟩ := List.exists_cons_of_ne_nil nonempty
  rw [idOf, Path.directory, Text.cutLast_append noSlash]

/-- Reads a path relative to the routes root. -/
def ofRelative (relative : Text) : Except RouteError RouteFile := do
  let segments ← Segments.parse (idOf relative)
  return { id := idOf relative, file := relative, segments }

theorem read_beneath {relative : Text} (nonempty : relative ≠ [])
    (root : Text) :
    read root (Path.beneath root relative) = ofRelative relative := by
  have located : locate root (Path.beneath root relative) = .ok relative :=
    locate_eq_ok_iff.mpr ⟨Path.relativeTo?_beneath root relative, nonempty⟩
  rw [read, located]
  rfl

/-- What is read below a root is what the relative paths give. -/
theorem readAll_beneath {relatives : List Text} (named : [] ∉ relatives)
    (root : Text) :
    readAll root (relatives.map (Path.beneath (Path.root root))) =
      (collate (relatives.map Path.slashed)).mapM ofRelative := by
  let shared := Path.beneath (Path.root root) []
  have below : ∀ path, Path.beneath (Path.root root) path = shared ++ path :=
    Path.beneath_eq_append (Path.root root)
  have slashes : (relatives.map (Path.beneath (Path.root root))).map
        Path.slashed =
      (relatives.map Path.slashed).map (shared ++ ·) := by
    rw [List.map_map, List.map_map]
    apply List.map_congr_left
    intro relative _
    rw [Function.comp, Path.slashed_beneath (Path.notMem_root root), below]
    rfl
  rw [readAll, slashes, collate, Alphabet.sort_map_append, List.mapM_map]
  apply mapM_congr
  intro relative member
  rw [Function.comp, ← below]
  apply read_beneath
  rintro rfl
  have listed := (Alphabet.sort_perm _).mem_iff.mp member
  obtain ⟨original, given, empty⟩ := List.mem_map.mp listed
  rw [Path.slashed, List.map_eq_nil_iff] at empty
  exact named (empty ▸ given)

theorem ofRelative_eq_error {relative : Text} {error : RouteError}
    (failed : ofRelative relative = .error error) :
    Segments.parse (idOf relative) = .error error := by
  cases parsed : Segments.parse (idOf relative) with
  | error other =>
      rw [ofRelative, parsed] at failed
      cases failed
      rfl
  | ok segments =>
      rw [ofRelative, parsed] at failed
      cases failed

theorem ofRelative_eq_ok {relative : Text} {route : RouteFile}
    (read : ofRelative relative = .ok route) :
    route.id = idOf relative ∧ route.file = relative := by
  cases parsed : Segments.parse (idOf relative) with
  | error error =>
      rw [ofRelative, parsed] at read
      cases read
  | ok segments =>
      rw [ofRelative, parsed] at read
      cases read
      exact ⟨rfl, rfl⟩

end RouteFile

/-- Builds the manifest of some route files given by their paths relative to the
routes root. -/
def buildRelative (relatives : List Text) : Report Manifest :=
  match (collate relatives).mapM RouteFile.ofRelative with
  | .error error => ⟨[], .error error⟩
  | .ok read =>
      ⟨RouteFile.conflicts read,
        .ok (RouteFile.manifest (RouteFile.survivors read))⟩

theorem build_beneath {relatives : List Text} (named : [] ∉ relatives)
    (root : Text) :
    build root (relatives.map (Path.beneath (Path.root root))) =
      buildRelative (relatives.map Path.slashed) := by
  rw [build_eq, RouteFile.readAll_beneath named]
  rfl

/-- What stops a build of relative paths is an id that is none. -/
theorem buildRelative_eq_error {relatives : List Text} {error : RouteError}
    (failed : (buildRelative relatives).outcome = .error error) :
    ∃ id segment mark, error = .invalidSegment id segment mark := by
  rw [buildRelative] at failed
  split at failed
  · next reading =>
      cases failed
      obtain ⟨relative, _, rejected⟩ := mapM_eq_error reading
      have parsed := RouteFile.ofRelative_eq_error rejected
      exact ⟨_, Segments.ofPieces_eq_error parsed⟩
  · cases failed

/-- Files that are moved from one root to another with their paths below it build
the same manifest with the same conflicts, or give the same error, and none of
them lies outside. -/
theorem build_moves_with_root {relatives : List Text} (named : [] ∉ relatives)
    (root other : Text) :
    build root (relatives.map (Path.beneath (Path.root root))) =
        build other (relatives.map (Path.beneath (Path.root other))) ∧
      ∀ file outer,
        (build root (relatives.map (Path.beneath (Path.root root)))).outcome ≠
          .error (.outsideRoot file outer) := by
  refine ⟨(build_beneath named root).trans (build_beneath named other).symm, ?_⟩
  intro file outer outside
  rw [build_beneath named root] at outside
  obtain ⟨_, _, _, isSegment⟩ := buildRelative_eq_error outside
  cases isSegment

/-- Relative paths of which two give one id and two give one URL. -/
def movedFiles : List Text :=
  ["a\\x.t".toList, "a.t".toList, "_l.a.t".toList, "A.t".toList]

theorem moved_files_build_alike :
    [] ∉ movedFiles ∧
      build "app\\routes//".toList
          ["app/routes/a\\x.t".toList, "app/routes/a.t".toList,
            "app/routes/_l.a.t".toList, "app/routes/A.t".toList] =
        build ".".toList
          ["./a\\x.t".toList, "./a.t".toList, "./_l.a.t".toList,
            "./A.t".toList] ∧
      ∀ file outer,
        (build "app\\routes//".toList
          ["app/routes/a\\x.t".toList, "app/routes/a.t".toList,
            "app/routes/_l.a.t".toList, "app/routes/A.t".toList]).outcome ≠
          .error (.outsideRoot file outer) := by
  have named : [] ∉ movedFiles := by decide
  exact ⟨named, build_moves_with_root named "app\\routes//".toList
    ".".toList⟩

theorem buildRelative_eq_ok {relatives : List Text} {manifest : Manifest}
    (built : (buildRelative relatives).outcome = .ok manifest) :
    ∃ read : List RouteFile,
      (read.map RouteFile.file).Perm relatives ∧
      (∀ route ∈ read, route.id = RouteFile.idOf route.file) ∧
      manifest = RouteFile.manifest (RouteFile.survivors read) ∧
      (buildRelative relatives).conflicts = RouteFile.conflicts read := by
  rw [buildRelative] at built ⊢
  split at built
  · cases built
  · next read reading =>
      cases built
      obtain ⟨pairs, firsts, rfl, reads⟩ := mapM_eq_ok reading
      have same : ∀ pair ∈ pairs,
          pair.2.id = RouteFile.idOf pair.1 ∧ pair.2.file = pair.1 :=
        fun pair member => RouteFile.ofRelative_eq_ok (reads pair member)
      refine ⟨_, ?_, ?_, rfl, rfl⟩
      · rw [List.map_map]
        have files : pairs.map (RouteFile.file ∘ Prod.snd) =
            pairs.map Prod.fst :=
          List.map_congr_left fun pair member => (same pair member).2
        rw [files, firsts]
        exact Alphabet.sort_perm _
      · intro route member
        obtain ⟨pair, listed, rfl⟩ := List.mem_map.mp member
        rw [(same pair listed).1, (same pair listed).2]

end FileRouting
