import FileRouting.Proofs.ExtraPatterns
import FileRouting.Proofs.SegmentTranslation
import FileRouting.Proofs.SpelledScan
import FileRouting.Proofs.UrlComponents

/-!
# URLs of folders

A scan takes the URL of a folder with two modules from its name, and a build
takes the URL of its route from the path of the module.  The scan does not ask
whether the name is that of an index, and the build leaves the last segment of
an index out: this makes no difference, because that segment is a layout and
adds nothing.

The path brings the name back whatever the directory is and however it is
spelled.  Slashes may be left over in front of the name, and these separate
nothing.  A slash in an extension would move the module into a folder of its own,
so that the build reads the route of that folder instead.
-/

namespace FileRouting

namespace Segments

variable {id : Text} {segments : Segments}

/-- A URL path is the same whether or not an index is taken for one. -/
theorem urlPath?_isIndex (parsed : parse id = .ok segments) :
    segments.urlPath? segments.isIndex = segments.urlPath? false := by
  rw [urlPath?, urlPath?, urlComponents_eq_components parsed,
    urlComponents_false parsed]

theorem readPairs_cons {mark : Char} (separates : isSeparator mark = true)
    (id : Text) : readPairs (mark :: id) = readPairs id := by
  have pieces : cutSegments false (mark :: id) =
      [] :: cutSegments false id := by
    simp [cutSegments, separates]
  rw [readPairs, pieces]
  rfl

/-- Separators in front of an id are not read. -/
theorem parse_behind_slashes (parsed : parse id = .ok segments) (count : Nat) :
    parse (List.replicate count '/' ++ id) = .ok segments := by
  have pairs : readPairs (List.replicate count '/' ++ id) = readPairs id := by
    induction count with
    | zero => rfl
    | succ count induction =>
        rw [List.replicate_succ, List.cons_append, readPairs_cons rfl,
          induction]
  rw [parse_eq_ok_iff] at parsed ⊢
  rw [pairs]
  exact parsed

end Segments

namespace Path

theorem slashed_append (first second : Text) :
    slashed (first ++ second) = slashed first ++ slashed second :=
  List.map_append

/-- A member that is joined to a directory stands below its normal form, behind
some slashes. -/
theorem exists_beneath_of_join {directory member : Text}
    (nonempty : directory ≠ []) (relative : member.head? ≠ some '/')
    (noBackslash : '\\' ∉ member) :
    ∃ count, slashed (join directory member) =
      beneath (root directory) (List.replicate count '/' ++ member) := by
  obtain ⟨count, whole⟩ := Text.trimEnd_spec '/' (slashed directory)
  have kept := slashed_eq_self noBackslash
  by_cases closed : directory.getLast? = some '/'
  · rw [join_of_closed relative (.inr closed), slashed_append, kept]
    cases count with
    | zero =>
        have ends : (slashed directory).getLast? = some '/' := by
          rw [slashed, List.getLast?_map, closed]
          rfl
        rw [List.replicate_zero, List.append_nil] at whole
        rw [whole] at ends
        exact absurd ends (Text.getLast?_trimEnd '/' _)
    | succ count =>
        refine ⟨count, ?_⟩
        rw [beneath_root_eq nonempty]
        nth_rewrite 1 [whole]
        simp [List.replicate_succ]
  · refine ⟨count, ?_⟩
    rw [join_of_not_closed relative (by simp [nonempty, closed]),
      slashed_append, beneath_root_eq nonempty]
    have slash : slashed ('/' :: member) = '/' :: member := by
      rw [← List.singleton_append, slashed_append, kept]
      rfl
    rw [slash]
    nth_rewrite 1 [whole]
    have turned : List.replicate count '/' ++ '/' :: member =
        '/' :: (List.replicate count '/' ++ member) := by
      rw [← List.cons_append, ← List.replicate_succ, List.replicate_succ',
        List.append_assoc]
      rfl
    rw [List.append_assoc, turned]

theorem isPrefixOf?_dotSlash {folder : Text} (isFolder : IsName folder)
    (noDot : folder ≠ ['.']) (file : Text) :
    ['.', '/'].isPrefixOf? (folder ++ '/' :: file) = none := by
  rw [Option.eq_none_iff_forall_ne_some]
  intro rest begins
  have whole : '.' :: '/' :: rest = folder ++ '/' :: file :=
    List.isPrefixOf?_eq_some_iff_append_eq.mp begins
  obtain ⟨c, others, rfl⟩ := List.exists_cons_of_ne_nil isFolder.nonempty
  obtain ⟨rfl, later⟩ := List.cons.inj whole
  cases others with
  | nil => exact noDot rfl
  | cons d others =>
      obtain ⟨rfl, _⟩ := List.cons.inj later
      exact isFolder.noSlash (by simp)

/-- The path of a file in a folder, relative to the directory of the folder.
Below no directory at all, `.` would be taken for that directory. -/
theorem exists_relativeTo?_join {directory folder file : Text}
    (isFolder : IsName folder) (isFile : IsName file)
    (named : directory = [] → folder ≠ ['.']) :
    ∃ count, relativeTo? (root directory)
        (slashed (join (join directory folder) file)) =
      some (List.replicate count '/' ++ (folder ++ '/' :: file)) := by
  have relative := isFolder.head?_append_ne ('/' :: file)
  have noBackslash : '\\' ∉ folder ++ '/' :: file :=
    SlashFree.below isFolder.noBackslash isFile.toSlashFree
  rw [join_join isFolder isFile.head?_ne]
  by_cases empty : directory = []
  · subst empty
    refine ⟨0, ?_⟩
    have noDot := isPrefixOf?_dotSlash isFolder (named rfl) file
    rw [join_of_closed relative (.inl rfl), List.nil_append,
      slashed_eq_self noBackslash]
    simp [relativeTo?, root, slashed, Text.trimEnd, noDot]
  · obtain ⟨count, below⟩ := exists_beneath_of_join empty relative noBackslash
    exact ⟨count, by rw [below, relativeTo?_beneath]⟩

end Path

namespace Scan

variable {scan : Scan} {folder file : Text} {segments : Segments}

/-- A build reads a file in a folder as a route with the segments of the
folder. -/
theorem read_modulePath (isFolder : Path.IsName folder)
    (isFile : Path.IsName file)
    (named : scan.directory = [] → folder ≠ ['.'])
    (parsed : Segments.parse folder = .ok segments) :
    ∃ route, RouteFile.read (Path.root scan.directory)
        (Path.slashed (scan.modulePath folder file)) = .ok route ∧
      route.segments = segments := by
  obtain ⟨count, relative⟩ :=
    Path.exists_relativeTo?_join isFolder isFile named
  have isId : RouteFile.idOf
      (List.replicate count '/' ++ (folder ++ '/' :: file)) =
        List.replicate count '/' ++ folder := by
    rw [← List.append_assoc]
    exact RouteFile.idOf_below
      (List.append_ne_nil_of_right_ne_nil _ isFolder.nonempty) isFile.noSlash
  have located : RouteFile.locate (Path.root scan.directory)
      (Path.slashed (scan.modulePath folder file)) =
        .ok (List.replicate count '/' ++ (folder ++ '/' :: file)) :=
    RouteFile.locate_eq_ok_iff.mpr ⟨relative, by simp⟩
  exact ⟨⟨_, _, segments⟩, RouteFile.read_eq_ok_iff.mpr
    ⟨located, isId.symm, Segments.parse_behind_slashes parsed count⟩, rfl⟩

theorem folderConflict_eq_ok {route index : Text} {conflict : Conflict}
    (found : scan.folderConflict folder route index = .ok conflict) :
    ∃ segments, Segments.parse folder = .ok segments ∧
      conflict.key = (segments.urlPath? false).getD ['/'] := by
  rw [folderConflict] at found
  cases parsed : Segments.parse folder with
  | error error =>
      rw [parsed] at found
      cases found
  | ok segments =>
      rw [parsed] at found
      cases found
      exact ⟨segments, rfl, rfl⟩

/-- What a scan reports on a folder with two modules. -/
theorem of_folderFinding? {conflict : Conflict}
    (found : scan.folderFinding? folder = some (.ok conflict)) :
    ∃ segments kept, Segments.parse folder = .ok segments ∧
      conflict.key = (segments.urlPath? false).getD ['/'] ∧
      scan.module? folder "route".toList = some kept := by
  rw [folderFinding?] at found
  split at found
  · next route index isRoute isIndex =>
      obtain ⟨segments, parsed, isKey⟩ :=
        folderConflict_eq_ok (Option.some.inj found)
      exact ⟨segments, route, parsed, isKey, isRoute⟩
  · cases found

end Scan

namespace ScanSettings

variable {settings : ScanSettings} {directory : Text} {listing : Listing}

/-- A scan does not look into a folder whose name the directory part of a path
could swallow. -/
theorem name_ne_dot {ignored : IgnoreSet} {entry : Entry}
    (compiled : IgnoreSet.compile settings.ignored = .ok ignored)
    (both : (settings.scan directory ignored listing).holdsBoth entry = true) :
    entry.name ≠ ['.'] := by
  intro dot
  have skipped : ignored.ignores entry.name = true := by
    rw [IgnoreSet.ignores_iff compiled, dot]
    exact .inl (by decide)
  have scanned : ignored.ignores entry.name = false := by
    simp only [Scan.holdsBoth, Bool.and_eq_true, Bool.not_eq_true'] at both
    exact both.1.1.1
  rw [skipped] at scanned
  cases scanned

/-- A folder with two modules contributes its `route` file. -/
theorem mem_files_of_holdsBoth {ignored : IgnoreSet} {entry : Entry}
    {kept : Text} {files : List Text}
    (compiled : IgnoreSet.compile settings.ignored = .ok ignored)
    (listed : entry ∈ listing.entries)
    (both : (settings.scan directory ignored listing).holdsBoth entry = true)
    (isKept : (settings.scan directory ignored listing).module? entry.name
      "route".toList = some kept)
    (succeeded : (settings.listFiles directory (.ok listing)).outcome =
      .ok files) :
    Path.slashed (Path.join (Path.join directory entry.name) kept) ∈ files := by
  let scan := settings.scan directory ignored listing
  have contributes : scan.file? entry =
      some (Path.slashed (scan.modulePath entry.name kept)) := by
    simp only [Scan.holdsBoth, Bool.and_eq_true, Bool.not_eq_true',
      decide_eq_true_eq] at both
    obtain ⟨⟨⟨scanned, isFolder⟩, _⟩, _⟩ := both
    rw [Scan.file?, if_neg (by simpa using scanned), isFolder,
      Scan.representative?, isKept]
    rfl
  rw [listFiles_eq compiled] at succeeded
  obtain ⟨_, _, sorted⟩ := Report.outcome_andThen_ok succeeded
  cases sorted
  exact (Alphabet.sort_perm _).mem_iff.mpr
    (List.mem_filterMap.mpr ⟨entry, listed, contributes⟩)

end ScanSettings

/-- An index makes no difference to the URL path of an id.  If no extension has a
slash, then a conflict that a scan reports on a folder is about the URL path of
the route that a build reads from the module that the scan keeps, where `/`
stands for no path. -/
theorem folder_conflict_has_route_url :
    (∀ id segments, Segments.parse id = .ok segments →
      segments.urlPath? segments.isIndex = segments.urlPath? false) ∧
    ∀ (settings : ScanSettings) (directory : Text) (listing : Listing),
      (∀ extension ∈ settings.extensions, Path.SlashFree extension) →
      ∀ conflict ∈ (settings.listFiles directory (.ok listing)).conflicts,
        Path.IsName conflict.folder →
        ∃ extension ∈ settings.extensions, ∃ file route,
          listing.holds conflict.folder
            ("route".toList ++ dotted extension) = true ∧
          file = Path.slashed (Path.join (Path.join directory conflict.folder)
            ("route".toList ++ dotted extension)) ∧
          (∀ files, (settings.listFiles directory (.ok listing)).outcome =
            .ok files → file ∈ files) ∧
          RouteFile.read (Path.root directory) file = .ok route ∧
          conflict.key = route.urlPath?.getD ['/'] := by
  refine ⟨fun id segments => Segments.urlPath?_isIndex, ?_⟩
  intro settings directory listing extensions conflict reported isFolder
  obtain ⟨ignored, entry, compiled, listed, named, both, found⟩ :=
    ScanSettings.exists_entry_of_conflict reported
  obtain ⟨segments, kept, parsed, isKey, isKept⟩ :=
    Scan.of_folderFinding? found
  have isModule := (Scan.isName_module extensions (by simp) isKept).1
  have noDot : conflict.folder ≠ ['.'] :=
    named ▸ ScanSettings.name_ne_dot compiled both
  let scan := settings.scan directory ignored listing
  have reads : ∃ route, RouteFile.read (Path.root scan.directory)
      (Path.slashed (scan.modulePath conflict.folder kept)) = .ok route ∧
        route.segments = segments :=
    Scan.read_modulePath isFolder isModule (fun _ => noDot) (named ▸ parsed)
  obtain ⟨route, isRead, same⟩ := reads
  have held := List.find?_some isKept
  obtain ⟨extension, member, rfl⟩ :=
    List.mem_map.mp (List.mem_of_find?_eq_some isKept)
  refine ⟨extension, member, _, route, named ▸ held, rfl, ?_, isRead, ?_⟩
  · intro files succeeded
    rw [named]
    exact ScanSettings.mem_files_of_holdsBoth compiled listed both isKept
      succeeded
  · rw [isKey, RouteFile.urlPath?, RouteFile.isIndex, same,
      Segments.urlPath?_isIndex parsed]

/-- A folder with two modules whose name is that of an index. -/
def indexFolder : Listing where
  entries := [⟨"u._index".toList, .folder⟩]
  holds folder file := folder = "u._index".toList ∧
    (file = "route.t".toList ∨ file = "index.t".toList)

/-- The directory is spelled with a surplus slash. -/
theorem index_folder_has_route_url :
    let settings : ScanSettings := { extensions := [".t".toList] }
    let conflict : Conflict :=
      ⟨.url, "u".toList, ["u._index/route.t".toList, "u._index/index.t".toList]⟩
    (∀ extension ∈ settings.extensions, Path.SlashFree extension) ∧
      conflict ∈ (settings.listFiles "r//".toList (.ok indexFolder)).conflicts ∧
      Path.IsName conflict.folder ∧
      ∃ file route,
        (∀ files, (settings.listFiles "r//".toList (.ok indexFolder)).outcome =
          .ok files → file ∈ files) ∧
        RouteFile.read "r".toList file = .ok route ∧
        "u".toList = route.urlPath?.getD ['/'] := by
  intro settings conflict
  have extensions : ∀ extension ∈ settings.extensions,
      Path.SlashFree extension := by
    intro extension listed
    cases List.mem_singleton.mp listed
    exact ⟨by decide, by decide⟩
  have reported : conflict ∈
      (settings.listFiles "r//".toList (.ok indexFolder)).conflicts := by
    simp only [settings, ScanSettings.listFiles, collate,
      Alphabet.sort_eq_insertion]
    decide +kernel
  have isFolder : Path.IsName conflict.folder := by decide
  obtain ⟨_, _, file, route, _, _, contributed, isRead, isKey⟩ :=
    folder_conflict_has_route_url.2 settings "r//".toList indexFolder extensions
      conflict reported isFolder
  exact ⟨extensions, reported, isFolder, file, route, contributed, isRead,
    isKey⟩

/-- A folder with two modules of an extension with a slash: each module is a file
in a folder of its own. -/
def slashedModules : Listing where
  entries := [⟨"f".toList, .folder⟩]
  holds folder file := folder = "f".toList ∧
    (file = "route.a/b".toList ∨ file = "index.a/b".toList)

def slashedManifest : Manifest where
  entries := [("f/route.a".toList,
    ⟨"f/route.a/b".toList, "f/route.a".toList, some "f/route/a".toList, none,
      none⟩)]
  ascending := by
    unfold RouteEntries.Ascending
    decide

/-- The scan reports the URL of the folder, and the only route has another. -/
theorem slashed_extension_parts_urls :
    let settings : ScanSettings := { extensions := [".a/b".toList] }
    let report := settings.compile "r".toList (.ok slashedModules)
    report.conflicts.map (fun conflict => (conflict.folder, conflict.key)) =
        [("f".toList, "f".toList)] ∧
      report.outcome = .ok slashedManifest ∧
      ∀ route ∈ slashedManifest.routes, route.path.getD ['/'] ≠ "f".toList := by
  simp only [ScanSettings.compile, ScanSettings.listFiles, build,
    RouteFile.readAll, collate, Alphabet.sort_eq_insertion, Draft.nest,
    Draft.longestFirst_eq_insertion]
  decide +kernel

end FileRouting
