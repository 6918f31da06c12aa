import FileRouting.Proofs.RoutesRoot
import FileRouting.Proofs.ScanReport

/-!
# The scan of a spelled directory

A scan joins the names of the entries to the directory as it is spelled, and the
build takes the normal form of the directory off again.  What is left of a path
is the path of the entry in the directory, with the slashes before it that the
normal form does not have.  The names of folders and modules in a conflict do
not depend on the directory at all.
-/

namespace FileRouting

namespace Path

theorem SlashFree.append {first second : Text} (left : SlashFree first)
    (right : SlashFree second) : SlashFree (first ++ second) := by
  constructor
  · simp [left.noSlash, right.noSlash]
  · simp [left.noBackslash, right.noBackslash]

theorem SlashFree.below {folder file : Text} (free : '\\' ∉ folder)
    (isName : SlashFree file) : '\\' ∉ folder ++ '/' :: file := by
  simp [free, isName.noBackslash]

theorem behindSurplus_free (directory : Text) {path : Text}
    (free : '\\' ∉ path) : '\\' ∉ behindSurplus directory path := by
  simp [behindSurplus, free, List.mem_replicate]

theorem takeWhile_behindSurplus (directory : Text) {path : Text}
    (relative : path.head? ≠ some '/') :
    (behindSurplus directory path).takeWhile (· = '/') =
      List.replicate (surplus directory) '/' := by
  have slashes : ∀ c ∈ List.replicate (surplus directory) '/',
      decide (c = '/') := by
    simp [List.mem_replicate]
  rw [behindSurplus, List.takeWhile_append_of_pos slashes]
  cases path with
  | nil => simp
  | cons c rest =>
      have other : c ≠ '/' := by simpa using relative
      simp [other]

/-- The surplus slashes can be read off what stands behind them. -/
theorem surplus_eq_of_behindSurplus_eq {first second path other : Text}
    (relative : path.head? ≠ some '/') (otherRelative : other.head? ≠ some '/')
    (same : behindSurplus first path = behindSurplus second other) :
    surplus first = surplus second := by
  have slashes := congrArg (List.takeWhile (· = '/')) same
  rw [takeWhile_behindSurplus first relative,
    takeWhile_behindSurplus second otherRelative] at slashes
  simpa using congrArg List.length slashes

theorem behindSurplus_of_none {directory : Text} (none : surplus directory = 0)
    (path : Text) : behindSurplus directory path = path := by
  rw [behindSurplus, none]
  rfl

end Path

namespace Scan

/-- The route id of an entry and its file, relative to the directory. -/
def route? (scan : Scan) (entry : Entry) : Option (Text × Text) :=
  if scan.ignored.ignores entry.name then none
  else
    match entry.kind with
    | .file => some (Path.stem entry.name, entry.name)
    | .folder =>
        (scan.representative? entry.name).map fun file =>
          (entry.name, entry.name ++ '/' :: file)
    | .other => none

variable {scan : Scan} {folder : Text}

section Modules

variable (extensions : ∀ extension ∈ scan.extensions, Path.SlashFree extension)
include extensions

theorem slashFree_module {stem file : Text} (stemFree : Path.SlashFree stem)
    (found : scan.module? folder stem = some file) :
    Path.SlashFree file ∧ stem <+: file := by
  have listed := List.mem_of_find?_eq_some found
  obtain ⟨extension, member, rfl⟩ := List.mem_map.mp listed
  refine ⟨stemFree.append ?_, List.prefix_append _ _⟩
  have free := extensions extension member
  rw [dotted]
  split
  · exact free
  · constructor
    · simp [free.noSlash]
    · simp [free.noBackslash]

/-- The modules of a folder have names. -/
theorem isName_module {stem file : Text}
    (isStem : stem ∈ ["route".toList, "index".toList])
    (found : scan.module? folder stem = some file) :
    Path.IsName file ∧ file ≠ ['.'] ∧ file ≠ ['.', '.'] := by
  have stemFree : Path.SlashFree stem ∧ stem.length = 5 := by
    rcases List.mem_pair.mp isStem with rfl | rfl
    · exact ⟨⟨by decide, by decide⟩, rfl⟩
    · exact ⟨⟨by decide, by decide⟩, rfl⟩
  obtain ⟨free, begins⟩ := slashFree_module extensions stemFree.1 found
  have long : 5 ≤ file.length := stemFree.2 ▸ begins.length_le
  refine ⟨⟨free, ?_⟩, ?_, ?_⟩
  all_goals
    rintro rfl
    simp at long

theorem isName_representative {file : Text}
    (found : scan.representative? folder = some file) : Path.IsName file := by
  rcases Option.or_eq_some_iff.mp found with route | ⟨_, index⟩
  · exact (isName_module extensions (by simp) route).1
  · exact (isName_module extensions (by simp) index).1

end Modules

section Spelled

variable (spells : Path.Spells scan.directory)
include spells

/-- The path of a member of a folder, however the directory is spelled. -/
theorem modulePath_eq (isFolder : Path.IsName folder) {file : Text}
    (isFile : Path.IsName file) :
    scan.modulePath folder file =
      Path.beneath (Path.root scan.directory)
        (Path.behindSurplus scan.directory (folder ++ '/' :: file)) := by
  rw [modulePath, Path.join_join isFolder isFile.head?_ne,
    Path.join_eq_beneath spells (isFolder.head?_append_ne _)]

variable (extensions : ∀ extension ∈ scan.extensions, Path.SlashFree extension)
include extensions

theorem file?_eq {entry : Entry} (isName : Path.IsName entry.name) :
    scan.file? entry = (scan.route? entry).map fun route =>
      Path.beneath (Path.root scan.directory)
        (Path.behindSurplus scan.directory route.2) := by
  have slashed : ∀ path, '\\' ∉ path →
      Path.slashed (Path.beneath (Path.root scan.directory)
          (Path.behindSurplus scan.directory path)) =
        Path.beneath (Path.root scan.directory)
          (Path.behindSurplus scan.directory path) := by
    intro path free
    rw [Path.slashed_beneath (Path.notMem_root _),
      Path.slashed_eq_self (Path.behindSurplus_free _ free)]
  rw [file?, route?]
  split
  · rfl
  · cases entry.kind with
    | file =>
        simp only [Option.map_some, Option.some.injEq]
        rw [Path.join_eq_beneath spells isName.head?_ne]
        exact slashed _ isName.noBackslash
    | folder =>
        cases found : scan.representative? entry.name with
        | none => rfl
        | some file =>
            have isFile := isName_representative extensions found
            simp only [Option.map_some, Option.some.injEq]
            rw [modulePath_eq spells isName isFile]
            exact slashed _ (Path.SlashFree.below isName.noBackslash
              isFile.toSlashFree)
    | other => rfl

theorem moduleLabel_eq (isFolder : Path.IsName folder) {stem file : Text}
    (isStem : stem ∈ ["route".toList, "index".toList])
    (found : scan.module? folder stem = some file) :
    scan.moduleLabel folder file = folder ++ '/' :: file := by
  obtain ⟨isFile, noDot, noDots⟩ := isName_module extensions isStem found
  have named : Path.fileName? (scan.modulePath folder file) = some file := by
    rw [modulePath_eq spells isFolder isFile, Path.beneath_eq_append,
      Path.behindSurplus, ← List.append_assoc, ← List.append_assoc]
    exact Path.fileName?_append isFile noDot noDots _
  rw [moduleLabel, named]
  rfl

/-- The finding on a folder, however the directory is spelled. -/
theorem folderFinding?_eq (isFolder : Path.IsName folder) :
    scan.folderFinding? folder =
      match scan.module? folder "route".toList,
          scan.module? folder "index".toList with
      | some route, some index =>
          some ((Segments.parse folder).map fun segments =>
            { kind := .url
              key := (segments.urlPath? false).getD ['/']
              files := [folder ++ '/' :: route, folder ++ '/' :: index] })
      | _, _ => none := by
  rw [folderFinding?]
  cases route : scan.module? folder "route".toList with
  | none => rfl
  | some routeFile =>
      cases index : scan.module? folder "index".toList with
      | none => rfl
      | some indexFile =>
          have routeLabel :=
            moduleLabel_eq spells extensions isFolder (by simp) route
          have indexLabel :=
            moduleLabel_eq spells extensions isFolder (by simp) index
          simp only [folderConflict, routeLabel, indexLabel]
          cases Segments.parse folder <;> rfl

end Spelled

section Entries

variable {entries : List Entry}
  (names : ∀ entry ∈ entries, Path.IsName entry.name)
  (extensions : ∀ extension ∈ scan.extensions, Path.SlashFree extension)
include names extensions

/-- The file of an entry is a relative path, and its id is the one that the path
gives rise to. -/
theorem route?_spec {entry : Entry} (entered : entry ∈ entries)
    {id file : Text} (found : scan.route? entry = some (id, file)) :
    '\\' ∉ file ∧ file ≠ [] ∧ file.head? ≠ some '/' ∧
      RouteFile.idOf file = id := by
  have isName := names entry entered
  rw [route?] at found
  split at found
  · cases found
  · split at found
    · cases found
      refine ⟨isName.noBackslash, isName.nonempty, isName.head?_ne, ?_⟩
      rw [RouteFile.idOf, Path.directory, Text.cutLast_eq_none isName.noSlash]
    · obtain ⟨representative, isModule, same⟩ := Option.map_eq_some_iff.mp found
      have isFile := isName_representative extensions isModule
      cases same
      exact ⟨Path.SlashFree.below isName.noBackslash isFile.toSlashFree,
        List.append_ne_nil_of_left_ne_nil isName.nonempty _,
        isName.head?_append_ne _,
        RouteFile.idOf_below isName.nonempty isFile.noSlash⟩
    · cases found

/-- The files of some entries, relative to the normal form of the directory. -/
theorem files_eq_beneath (spells : Path.Spells scan.directory) :
    entries.filterMap scan.file? =
      ((entries.filterMap scan.route?).map fun route =>
        Path.behindSurplus scan.directory route.2).map
          (Path.beneath (Path.root scan.directory)) := by
  rw [List.map_map, List.map_filterMap]
  apply List.filterMap_congr
  intro entry entered
  exact file?_eq spells extensions (names entry entered)

/-- What a build makes of the files of some entries. -/
theorem build_files_eq (spells : Path.Spells scan.directory) :
    build scan.directory (entries.filterMap scan.file?) =
      buildRelative ((entries.filterMap scan.route?).map fun route =>
        Path.behindSurplus scan.directory route.2) := by
  have relative : ∀ route ∈ entries.filterMap scan.route?,
      '\\' ∉ route.2 ∧ route.2 ≠ [] := by
    intro route listed
    obtain ⟨entry, entered, found⟩ := List.mem_filterMap.mp listed
    have spec := route?_spec names extensions entered found
    exact ⟨spec.1, spec.2.1⟩
  rw [files_eq_beneath names extensions spells, build_beneath, List.map_map]
  · congr 1
    apply List.map_congr_left
    intro route listed
    apply Path.slashed_eq_self
    exact Path.behindSurplus_free _ (relative route listed).1
  · intro empty
    obtain ⟨route, listed, isEmpty⟩ := List.mem_map.mp empty
    apply (relative route listed).2
    exact (List.append_eq_nil_iff.mp isEmpty).2

end Entries

end Scan

end FileRouting
