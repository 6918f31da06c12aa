import FileRouting.Proofs.Conservation
import FileRouting.Proofs.SpelledScan

/-!
# How a directory is spelled

A routes directory can be spelled in many ways, relative or absolute, with a `.`
or with a slash at its end.  Its entries make up the same report in all of them,
as long as no more than one slash ends the directory: a file then has its own
name, and a folder names its route.

Slashes beyond the first are not taken off.  They stand in front of every file of
the manifest, and they are all that tells two spellings apart.
-/

namespace FileRouting

theorem IgnoreSet.compile_eq_error {patterns : List Text} {error : RouteError}
    (failed : compile patterns = .error error) :
    ∃ pattern cause, error = .invalidIgnorePattern pattern cause := by
  rw [compile] at failed
  cases globs : (dotFiles :: patterns).eraseDups.mapM compilePattern with
  | ok compiled =>
      rw [globs] at failed
      cases failed
  | error other =>
      rw [globs] at failed
      cases failed
      obtain ⟨pattern, _, rejected⟩ := mapM_eq_error globs
      rw [compilePattern] at rejected
      split at rejected
      · cases rejected
      · next cause _ =>
          cases rejected
          exact ⟨pattern, cause, rfl⟩

namespace ScanSettings

/-- The route id of an entry of a listing and its file, relative to the
directory. -/
def routeOf? (settings : ScanSettings) (listing : Listing) (entry : Entry) :
    Option (Text × Text) :=
  match IgnoreSet.compile settings.ignored with
  | .error _ => none
  | .ok ignored => (settings.scan [] ignored listing).route? entry

/-- The files of a listing, relative to the normal form of a directory. -/
def relatives (settings : ScanSettings) (directory : Text)
    (listing : Listing) : List Text :=
  (listing.entries.filterMap (settings.routeOf? listing)).map fun route =>
    Path.behindSurplus directory route.2

/-- Whether a route stands for an entry of a listing.  The route id of the entry
is the id of the route if there is no surplus. -/
def Represents (settings : ScanSettings) (directory : Text) (listing : Listing)
    (entry : Entry) (route : Route) : Prop :=
  ∃ id file, settings.routeOf? listing entry = some (id, file) ∧
    route.file = Path.behindSurplus directory file ∧
    (Path.surplus directory = 0 → route.id = id)

section Spelled

variable {settings : ScanSettings} {listing : Listing}
  (names : ∀ entry ∈ listing.entries, Path.IsName entry.name)
  (extensions : ∀ extension ∈ settings.extensions, Path.SlashFree extension)
include names extensions

theorem findings_eq_of_spelled {first second : Text}
    (firstSpells : Path.Spells first) (secondSpells : Path.Spells second)
    (ignored : IgnoreSet) :
    (settings.scan first ignored listing).findings listing.entries =
      (settings.scan second ignored listing).findings listing.entries := by
  apply List.filterMap_congr
  intro entry entered
  have isName := names entry entered
  rw [Scan.finding?, Scan.finding?]
  cases entry.kind with
  | folder =>
      have firstFinding := @Scan.folderFinding?_eq
        (settings.scan first ignored listing) _ firstSpells extensions isName
      have secondFinding := @Scan.folderFinding?_eq
        (settings.scan second ignored listing) _ secondSpells extensions isName
      simp only [firstFinding, secondFinding]
      rfl
  | file => rfl
  | other => rfl

theorem compile_eq_of_spelled {directory : Text}
    (spells : Path.Spells directory) {ignored : IgnoreSet}
    (compiled : IgnoreSet.compile settings.ignored = .ok ignored) :
    settings.compile directory (.ok listing) =
      (Report.ofFindings ((settings.scan directory ignored listing).findings
        listing.entries)).andThen fun _ =>
          buildRelative (settings.relatives directory listing) := by
  have routes : (settings.scan directory ignored listing).route? =
      settings.routeOf? listing := by
    funext entry
    rw [routeOf?, compiled]
    rfl
  rw [compile_eq compiled, relatives, ← routes]
  congr 1
  funext _
  exact @Scan.build_files_eq (settings.scan directory ignored listing) _ names
    extensions spells

/-- What stops the compilation of a directory that can be listed. -/
theorem compile_outcome_error {directory : Text}
    (spells : Path.Spells directory) {error : RouteError}
    (failed : (settings.compile directory (.ok listing)).outcome =
      .error error) :
    (∃ pattern cause, error = .invalidIgnorePattern pattern cause) ∨
      ∃ id segment mark, error = .invalidSegment id segment mark := by
  cases compiled : IgnoreSet.compile settings.ignored with
  | error other =>
      rw [compile_eq_error compiled] at failed
      cases failed
      exact .inl (IgnoreSet.compile_eq_error compiled)
  | ok ignored =>
      right
      rw [compile_eq_of_spelled names extensions spells compiled] at failed
      rcases Report.outcome_andThen_error failed with scanning | ⟨_, building⟩
      · obtain ⟨_, _, parsed⟩ := Scan.rejected_of_findings scanning
        exact ⟨_, Segments.ofPieces_eq_error parsed⟩
      · exact buildRelative_eq_error building

/-- The manifest of a directory is that of its files, and all their conflicts
are reported. -/
theorem compile_outcome_ok {directory : Text}
    (spells : Path.Spells directory) {manifest : Manifest}
    (compiled : (settings.compile directory (.ok listing)).outcome =
      .ok manifest) :
    ∃ read : List RouteFile,
      (read.map RouteFile.file).Perm (settings.relatives directory listing) ∧
      (∀ route ∈ read, route.id = RouteFile.idOf route.file) ∧
      manifest = RouteFile.manifest (RouteFile.survivors read) ∧
      RouteFile.conflicts read ⊆
        (settings.compile directory (.ok listing)).conflicts := by
  cases globs : IgnoreSet.compile settings.ignored with
  | error error =>
      rw [compile_eq_error globs] at compiled
      cases compiled
  | ok ignored =>
      have report := compile_eq_of_spelled names extensions spells globs
      rw [report] at compiled ⊢
      obtain ⟨_, scanned, built⟩ := Report.outcome_andThen_ok compiled
      obtain ⟨read, files, ids, isManifest, conflicts⟩ :=
        buildRelative_eq_ok built
      refine ⟨read, files, ids, isManifest, ?_⟩
      rw [Report.andThen_ok scanned, conflicts]
      exact List.subset_append_right _ _

theorem routeOf?_spec {entry : Entry} (entered : entry ∈ listing.entries)
    {id file : Text}
    (found : settings.routeOf? listing entry = some (id, file)) :
    file.head? ≠ some '/' ∧ RouteFile.idOf file = id := by
  rw [routeOf?] at found
  split at found
  · cases found
  · next ignored _ =>
      have spec := @Scan.route?_spec (settings.scan [] ignored listing) _ names
        extensions entry entered id file found
      exact spec.2.2

theorem represents_finish {directory : Text} {entry : Entry}
    (entered : entry ∈ listing.entries) {id file : Text}
    (found : settings.routeOf? listing entry = some (id, file))
    {route : RouteFile} (isFile : route.file = Path.behindSurplus directory file)
    (isId : route.id = RouteFile.idOf route.file)
    (parent : Option RouteFile) :
    settings.Represents directory listing entry (route.finish parent) := by
  refine ⟨id, file, found, isFile, ?_⟩
  intro none
  rw [Path.behindSurplus_of_none none] at isFile
  rw [isFile, (routeOf?_spec names extensions entered found).2] at isId
  exact isId

theorem compile_eq_of_surplus {first second : Text}
    (firstSpells : Path.Spells first) (secondSpells : Path.Spells second)
    (same : Path.surplus first = Path.surplus second) :
    settings.compile first (.ok listing) =
      settings.compile second (.ok listing) := by
  cases compiled : IgnoreSet.compile settings.ignored with
  | error error => rw [compile_eq_error compiled, compile_eq_error compiled]
  | ok ignored =>
      have relatives : settings.relatives first listing =
          settings.relatives second listing := by
        simp only [ScanSettings.relatives, Path.behindSurplus, same]
      rw [compile_eq_of_spelled names extensions firstSpells compiled,
        compile_eq_of_spelled names extensions secondSpells compiled,
        relatives,
        findings_eq_of_spelled names extensions firstSpells secondSpells]

section Compiled

variable {directory : Text} (spells : Path.Spells directory)
  {manifest : Manifest}
  (compiled : (settings.compile directory (.ok listing)).outcome =
    .ok manifest)
include spells compiled

theorem exists_entry_of_route {route : Route}
    (member : route ∈ manifest.routes) :
    ∃ entry ∈ listing.entries,
      settings.Represents directory listing entry route := by
  obtain ⟨read, files, ids, rfl, _⟩ :=
    compile_outcome_ok names extensions spells compiled
  obtain ⟨kept, survives, rfl⟩ := (RouteFile.mem_routes_manifest
    (RouteFile.survivors_ids_nodup read)).mp member
  have isRead := (RouteFile.survivors_sublist_files read).subset survives
  have listed := files.mem_iff.mp (List.mem_map_of_mem isRead)
  obtain ⟨⟨id, file⟩, given, isFile⟩ := List.mem_map.mp listed
  obtain ⟨entry, entered, found⟩ := List.mem_filterMap.mp given
  refine ⟨entry, entered, ?_⟩
  exact represents_finish names extensions entered found isFile.symm
    (ids kept isRead) _

/-- An entry with a route keeps it unless its file loses a conflict. -/
theorem kept_or_reported {entry : Entry} (entered : entry ∈ listing.entries)
    {id file : Text}
    (found : settings.routeOf? listing entry = some (id, file)) :
    (∃ route ∈ manifest.routes,
      settings.Represents directory listing entry route) ∨
      ∃ conflict ∈ (settings.compile directory (.ok listing)).conflicts,
        Path.behindSurplus directory file ∈ conflict.losers := by
  obtain ⟨read, files, ids, rfl, reported⟩ :=
    compile_outcome_ok names extensions spells compiled
  have given : Path.behindSurplus directory file ∈
      settings.relatives directory listing :=
    List.mem_map_of_mem (List.mem_filterMap.mpr ⟨entry, entered, found⟩)
  have accounted := (RouteFile.survivors_append_reported read).mem_iff.mpr
    (files.mem_iff.mpr given)
  rcases List.mem_append.mp accounted with survives | loses
  · left
    obtain ⟨kept, survives, isFile⟩ := List.mem_map.mp survives
    have isRead := (RouteFile.survivors_sublist_files read).subset survives
    refine ⟨_, (RouteFile.mem_routes_manifest
      (RouteFile.survivors_ids_nodup read)).mpr ⟨kept, survives, rfl⟩, ?_⟩
    exact represents_finish names extensions entered found isFile
      (ids kept isRead) _
  · right
    obtain ⟨conflict, among, loser⟩ := List.mem_flatMap.mp loses
    exact ⟨conflict, reported among, loser⟩

/-- Slashes that are surplus tell two spellings apart, if there are routes. -/
theorem surplus_eq_of_compile_eq {other : Text}
    (otherSpells : Path.Spells other) (nonempty : manifest.routes ≠ [])
    (same : settings.compile directory (.ok listing) =
      settings.compile other (.ok listing)) :
    Path.surplus directory = Path.surplus other := by
  obtain ⟨route, member⟩ := List.exists_mem_of_ne_nil _ nonempty
  obtain ⟨entry, entered, _, _, found, isFile, _⟩ :=
    exists_entry_of_route names extensions spells compiled member
  obtain ⟨otherEntry, otherEntered, _, _, otherFound, otherIsFile, _⟩ :=
    exists_entry_of_route names extensions otherSpells (same ▸ compiled) member
  exact Path.surplus_eq_of_behindSurplus_eq
    (routeOf?_spec names extensions entered found).1
    (routeOf?_spec names extensions otherEntered otherFound).1
    (isFile.symm.trans otherIsFile)

end Compiled

end Spelled

end ScanSettings

/-- A directory that can be listed is compiled to the same report however it is
spelled, if its spellings have the same surplus of slashes at their end; no file
lies outside of it.  Every route of the manifest stands for an entry of the
directory, and an entry with a route file that no route stands for loses a
conflict.  If there is a route, then the report tells spellings with different
surpluses apart. -/
theorem directory_spelling_shows_in_surplus_slashes {settings : ScanSettings}
    {listing : Listing}
    (names : ∀ entry ∈ listing.entries, Path.IsName entry.name)
    (extensions : ∀ extension ∈ settings.extensions, Path.SlashFree extension)
    {first second : Text} (firstSpells : Path.Spells first)
    (secondSpells : Path.Spells second) :
    (Path.surplus first = Path.surplus second →
      settings.compile first (.ok listing) =
        settings.compile second (.ok listing)) ∧
    (∀ file root, (settings.compile first (.ok listing)).outcome ≠
      .error (.outsideRoot file root)) ∧
    ∀ manifest,
      (settings.compile first (.ok listing)).outcome = .ok manifest →
        (∀ route ∈ manifest.routes, ∃ entry ∈ listing.entries,
          settings.Represents first listing entry route) ∧
        (∀ entry ∈ listing.entries, ∀ id file,
          settings.routeOf? listing entry = some (id, file) →
            (∃ route ∈ manifest.routes,
              settings.Represents first listing entry route) ∨
            ∃ conflict ∈ (settings.compile first (.ok listing)).conflicts,
              Path.behindSurplus first file ∈ conflict.losers) ∧
        (manifest.routes ≠ [] →
          settings.compile first (.ok listing) =
            settings.compile second (.ok listing) →
          Path.surplus first = Path.surplus second) := by
  refine ⟨?_, ?_, ?_⟩
  · exact ScanSettings.compile_eq_of_surplus names extensions firstSpells
      secondSpells
  · intro file root outside
    rcases ScanSettings.compile_outcome_error names extensions firstSpells
        outside with ⟨_, _, isPattern⟩ | ⟨_, _, _, isSegment⟩
    · cases isPattern
    · cases isSegment
  · intro manifest compiled
    refine ⟨?_, ?_, ?_⟩
    · intro route member
      exact ScanSettings.exists_entry_of_route names extensions firstSpells
        compiled member
    · intro entry entered id file found
      exact ScanSettings.kept_or_reported names extensions firstSpells compiled
        entered found
    · intro nonempty same
      exact ScanSettings.surplus_eq_of_compile_eq names extensions firstSpells
        compiled secondSpells nonempty same

/-- A directory with a file and a folder that holds a module. -/
def docsListing : Listing where
  entries := [⟨"about.t".toList, .file⟩, ⟨"docs".toList, .folder⟩]
  holds folder file := folder = "docs".toList ∧ file = "route.t".toList

def docsSettings : ScanSettings where
  ignored := []
  extensions := [".t".toList]

def docsManifest : Manifest where
  entries := [
    ("about".toList,
      ⟨"about.t".toList, "about".toList, some "about".toList, none, none⟩),
    ("docs".toList,
      ⟨"docs/route.t".toList, "docs".toList, some "docs".toList, none, none⟩)]
  ascending := by
    unfold RouteEntries.Ascending
    decide

/-- The manifest of the directory, spelled with a surplus slash. -/
def docsSurplusManifest : Manifest where
  entries := [
    ("/".toList, ⟨"/about.t".toList, "/".toList, none, none, none⟩),
    ("/docs".toList,
      ⟨"/docs/route.t".toList, "/docs".toList, some "docs".toList, none,
        none⟩)]
  ascending := by
    unfold RouteEntries.Ascending
    decide

theorem compile_docs :
    (docsSettings.compile "r/".toList (.ok docsListing)).outcome =
      .ok docsManifest := by
  simp only [ScanSettings.compile, ScanSettings.listFiles, build,
    RouteFile.readAll, collate, Alphabet.sort_eq_insertion, Draft.nest,
    Draft.longestFirst_eq_insertion]
  decide +kernel

/-- A second slash at the end of a directory changes the manifest. -/
theorem surplus_slash_changes_docs :
    (docsSettings.compile "r/".toList (.ok docsListing)).outcome =
        .ok docsManifest ∧
      (docsSettings.compile "r//".toList (.ok docsListing)).outcome =
        .ok docsSurplusManifest ∧
      docsManifest ≠ docsSurplusManifest := by
  refine ⟨compile_docs, ?_, by decide⟩
  simp only [ScanSettings.compile, ScanSettings.listFiles, build,
    RouteFile.readAll, collate, Alphabet.sort_eq_insertion, Draft.nest,
    Draft.longestFirst_eq_insertion]
  decide +kernel

theorem docs_spelled_with_a_dot :
    (∀ entry ∈ docsListing.entries, Path.IsName entry.name) ∧
      (∀ extension ∈ docsSettings.extensions, Path.SlashFree extension) ∧
      Path.Spells "r/".toList ∧ Path.Spells "./r".toList ∧
      docsSettings.compile "r/".toList (.ok docsListing) =
        docsSettings.compile "./r".toList (.ok docsListing) ∧
      ∀ route ∈ docsManifest.routes, ∃ entry ∈ docsListing.entries,
        docsSettings.Represents "r/".toList docsListing entry route := by
  have names : ∀ entry ∈ docsListing.entries, Path.IsName entry.name := by
    decide
  have extensions : ∀ extension ∈ docsSettings.extensions,
      Path.SlashFree extension := by
    intro extension listed
    cases List.mem_singleton.mp listed
    exact ⟨by decide, by decide⟩
  have plain : Path.Spells "r/".toList := ⟨by decide, by decide⟩
  have dotted : Path.Spells "./r".toList := ⟨by decide, by decide⟩
  have spelled :=
    directory_spelling_shows_in_surplus_slashes names extensions plain dotted
  refine ⟨names, extensions, plain, dotted, spelled.1 rfl, ?_⟩
  exact (spelled.2.2 docsManifest compile_docs).1

end FileRouting
