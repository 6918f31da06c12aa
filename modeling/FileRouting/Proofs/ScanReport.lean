import FileRouting.Directory
import FileRouting.Proofs.InputOrder

/-!
# What a scan reports

A scan visits the entries of a directory one after the other.  An entry adds a
route file, and a folder with two modules also adds a finding: a conflict, or
the error that its name is no route id.  Findings are reported up to the first
error, and only if there is none do the files count.

The whole report of a directory is put together from this and the report of a
build.  Of the files the build sees no more than which they are.
-/

namespace FileRouting

/-- What a scan has to say about a folder with two modules. -/
abbrev Finding := Except RouteError Conflict

namespace Report

/-- Reports the conflicts of some findings up to the first error. -/
def ofFindings : List Finding → Report Unit
  | [] => ⟨[], .ok ()⟩
  | .ok conflict :: later =>
      ⟨conflict :: (ofFindings later).conflicts, (ofFindings later).outcome⟩
  | .error error :: _ => ⟨[], .error error⟩

/-- The findings that are reported: the first error is the last of them. -/
def upToError : List Finding → List Finding
  | [] => []
  | .ok conflict :: later => .ok conflict :: upToError later
  | .error error :: _ => [.error error]

theorem mem_upToError {findings : List Finding} {error : RouteError}
    (failed : (ofFindings findings).outcome = .error error) :
    .error error ∈ upToError findings := by
  induction findings with
  | nil => cases failed
  | cons finding later induction =>
      cases finding with
      | error other =>
          cases failed
          exact List.mem_cons_self
      | ok conflict => exact List.mem_cons_of_mem _ (induction failed)

theorem upToError_subset (findings : List Finding) :
    upToError findings ⊆ findings := by
  induction findings with
  | nil => exact List.Subset.refl []
  | cons finding later induction =>
      cases finding with
      | error error => simp [upToError]
      | ok conflict => exact List.cons_subset_cons _ induction

theorem andThen_error {α β : Type} {report : Report α} {error : RouteError}
    (failed : report.outcome = .error error) (next : α → Report β) :
    report.andThen next = ⟨report.conflicts, .error error⟩ := by
  rw [andThen, failed]

theorem andThen_ok {α β : Type} {report : Report α} {value : α}
    (succeeded : report.outcome = .ok value) (next : α → Report β) :
    report.andThen next =
      ⟨report.conflicts ++ (next value).conflicts, (next value).outcome⟩ := by
  rw [andThen, succeeded]

theorem outcome_andThen_ok {α β : Type} {report : Report α} {next : α → Report β}
    {result : β} (succeeded : (report.andThen next).outcome = .ok result) :
    ∃ value, report.outcome = .ok value ∧
      (next value).outcome = .ok result := by
  cases first : report.outcome with
  | error error =>
      rw [andThen_error first] at succeeded
      cases succeeded
  | ok value =>
      rw [andThen_ok first] at succeeded
      exact ⟨value, rfl, succeeded⟩

theorem outcome_andThen_error {α β : Type} {report : Report α}
    {next : α → Report β} {error : RouteError}
    (failed : (report.andThen next).outcome = .error error) :
    report.outcome = .error error ∨
      ∃ value, (next value).outcome = .error error := by
  cases first : report.outcome with
  | error other =>
      rw [andThen_error first] at failed
      cases failed
      exact .inl rfl
  | ok value =>
      rw [andThen_ok first] at failed
      exact .inr ⟨value, failed⟩

theorem andThen_assoc {α β γ : Type} (report : Report α) (next : α → Report β)
    (last : β → Report γ) :
    (report.andThen next).andThen last =
      report.andThen fun value => (next value).andThen last := by
  cases first : report.outcome with
  | error error =>
      rw [andThen_error first, andThen_error first]
      exact andThen_error rfl last
  | ok value =>
      rw [andThen_ok first, andThen_ok first]
      cases second : (next value).outcome with
      | error error =>
          rw [andThen_error second]
          exact andThen_error rfl last
      | ok result =>
          rw [andThen_ok second, andThen_ok rfl, List.append_assoc]

theorem ofFindings_append (first second : List Finding) :
    ofFindings (first ++ second) =
      (ofFindings first).andThen fun _ => ofFindings second := by
  induction first with
  | nil => rfl
  | cons finding later induction =>
      cases finding with
      | error error => rfl
      | ok conflict =>
          rw [List.cons_append, ofFindings, induction, ofFindings]
          cases rest : (ofFindings later).outcome with
          | error error => simp [andThen, rest]
          | ok value => simp [andThen, rest]

end Report

namespace Scan

variable (scan : Scan)

/-- The module that represents a folder. -/
def representative? (folder : Text) : Option Text :=
  (scan.module? folder "route".toList).or
    (scan.module? folder "index".toList)

/-- The route file that an entry contributes, whether or not the scan gets as
far. -/
def file? (entry : Entry) : Option Text :=
  if scan.ignored.ignores entry.name then none
  else
    match entry.kind with
    | .file => some (Path.slashed (Path.join scan.directory entry.name))
    | .folder =>
        (scan.representative? entry.name).map fun file =>
          Path.slashed (scan.modulePath entry.name file)
    | .other => none

/-- The finding on a folder, if it has two modules. -/
def folderFinding? (folder : Text) : Option Finding :=
  match scan.module? folder "route".toList,
      scan.module? folder "index".toList with
  | some route, some index => some (scan.folderConflict folder route index)
  | _, _ => none

theorem parse_of_finding {scan : Scan} {folder : Text} {error : RouteError}
    (found : scan.folderFinding? folder = some (.error error)) :
    Segments.parse folder = .error error := by
  rw [folderFinding?] at found
  split at found
  · have failed := Option.some.inj found
    rw [folderConflict] at failed
    cases parsed : Segments.parse folder with
    | error other =>
        rw [parsed] at failed
        cases failed
        rfl
    | ok segments =>
        rw [parsed] at failed
        cases failed
  · cases found

/-- The finding on an entry, if there is one. -/
def finding? (entry : Entry) : Option Finding :=
  if scan.ignored.ignores entry.name then none
  else
    match entry.kind with
    | .folder => scan.folderFinding? entry.name
    | _ => none

def findings (entries : List Entry) : List Finding :=
  entries.filterMap scan.finding?

theorem folderModule_eq (folder : Text) :
    scan.folderModule folder =
      (Report.ofFindings (scan.folderFinding? folder).toList).andThen
        fun _ => ⟨[], .ok (scan.representative? folder)⟩ := by
  rw [folderModule, folderFinding?, representative?]
  cases scan.module? folder "route".toList with
  | none => cases scan.module? folder "index".toList <;> rfl
  | some route =>
      cases scan.module? folder "index".toList with
      | none => rfl
      | some index =>
          simp only [Option.toList]
          cases scan.folderConflict folder route index <;> rfl

theorem entryFile_eq (entry : Entry) :
    scan.entryFile entry =
      (Report.ofFindings (scan.finding? entry).toList).andThen
        fun _ => ⟨[], .ok (scan.file? entry)⟩ := by
  obtain ⟨name, kind⟩ := entry
  by_cases skipped : scan.ignored.ignores name
  · simp [entryFile, finding?, file?, skipped, Report.ofFindings,
      Report.andThen, pure]
  · cases kind with
    | folder =>
        simp only [entryFile, finding?, file?, skipped, bind, pure,
          Bool.false_eq_true, if_false]
        rw [folderModule_eq, Report.andThen_assoc]
        rfl
    | _ =>
        simp [entryFile, finding?, file?, skipped, Report.ofFindings,
          Report.andThen, pure]

variable {scan} in
theorem rejected_of_findings {entries : List Entry} {error : RouteError}
    (failed : (Report.ofFindings (scan.findings entries)).outcome =
      .error error) :
    ∃ entry ∈ entries, Segments.parse entry.name = .error error := by
  have given := Report.upToError_subset _ (Report.mem_upToError failed)
  obtain ⟨entry, entered, found⟩ := List.mem_filterMap.mp given
  refine ⟨entry, entered, ?_⟩
  rw [finding?] at found
  split at found
  · cases found
  · split at found
    · exact parse_of_finding found
    · cases found

/-- A scan reports its findings, and then has the files of all entries. -/
theorem files_eq (entries : List Entry) :
    scan.files entries =
      (Report.ofFindings (scan.findings entries)).andThen
        fun _ => ⟨[], .ok (entries.filterMap scan.file?)⟩ := by
  induction entries with
  | nil => rfl
  | cons entry later induction =>
      have parts : scan.findings (entry :: later) =
          (scan.finding? entry).toList ++ scan.findings later := by
        rw [findings, List.filterMap_cons]
        cases scan.finding? entry <;> rfl
      have files : (entry :: later).filterMap scan.file? =
          (scan.file? entry).toList ++ later.filterMap scan.file? := by
        rw [List.filterMap_cons]
        cases scan.file? entry <;> rfl
      rw [parts, files, Report.ofFindings_append, Report.andThen_assoc]
      simp only [Scan.files, bind, pure]
      rw [entryFile_eq, induction, Report.andThen_assoc]
      congr 1
      funext _
      rw [Report.andThen_ok rfl, Report.andThen_assoc]
      rfl

end Scan

theorem build_eq_of_perm {root : Text} {files others : List Text}
    (permuted : files.Perm others) : build root files = build root others := by
  rw [build_eq, build_eq,
    RouteFile.readAll_eq_of_perm (permuted.map Path.slashed)]

namespace ScanSettings

/-- The scan of a directory with a compiled ignore set. -/
def scan (settings : ScanSettings) (directory : Text) (ignored : IgnoreSet)
    (listing : Listing) : Scan where
  directory := directory
  ignored := ignored
  extensions := settings.extensions
  holds := listing.holds

variable {settings : ScanSettings}

theorem compile_eq_error {error : RouteError}
    (malformed : IgnoreSet.compile settings.ignored = .error error)
    (directory : Text) (listing : Except ReadFault Listing) :
    settings.compile directory listing = ⟨[], .error error⟩ := by
  simp [compile, listFiles, scanFiles, malformed, Report.ofExcept,
    Report.andThen, bind]

/-- Listing the files of a directory reports the findings on its folders. -/
theorem listFiles_eq {ignored : IgnoreSet}
    (compiled : IgnoreSet.compile settings.ignored = .ok ignored)
    (directory : Text) (listing : Listing) :
    settings.listFiles directory (.ok listing) =
      (Report.ofFindings ((settings.scan directory ignored listing).findings
        listing.entries)).andThen fun _ =>
          ⟨[], .ok (collate (listing.entries.filterMap
            (settings.scan directory ignored listing).file?))⟩ := by
  let scan := settings.scan directory ignored listing
  have scanned : settings.scanFiles directory (.ok listing) =
      scan.files listing.entries := by
    simp only [scanFiles, compiled, Report.ofExcept, Report.andThen, bind,
      List.nil_append]
    rfl
  simp only [listFiles, bind, pure]
  rw [scanned, Scan.files_eq, Report.andThen_assoc]
  rfl

/-- The report of a directory: the findings on its folders, then the report of
the build of its files. -/
theorem compile_eq {ignored : IgnoreSet}
    (compiled : IgnoreSet.compile settings.ignored = .ok ignored)
    (directory : Text) (listing : Listing) :
    settings.compile directory (.ok listing) =
      (Report.ofFindings ((settings.scan directory ignored listing).findings
        listing.entries)).andThen fun _ =>
          build directory (listing.entries.filterMap
            (settings.scan directory ignored listing).file?) := by
  simp only [compile, bind]
  rw [listFiles_eq compiled, Report.andThen_assoc]
  congr 1
  funext _
  rw [Report.andThen_ok rfl]
  exact build_eq_of_perm (Alphabet.sort_perm _)

end ScanSettings

end FileRouting
