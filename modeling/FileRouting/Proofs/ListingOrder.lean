import FileRouting.Proofs.PathsBelow
import FileRouting.Proofs.ScanReport

/-!
# The order of a listing

A directory lists its entries in any order.  The files that are found are sorted
before a manifest is built, but the findings on folders with two modules are
reported while the listing is read.  Two orders of one listing therefore build
the same manifest, and they give the same report exactly if they name the folders
with two modules in the same order, as far as the scan gets: the first folder
whose name is no route id ends it.
-/

namespace FileRouting

namespace Report

theorem ofFindings_eq_iff {left right : List Finding} :
    ofFindings left = ofFindings right ↔ upToError left = upToError right := by
  induction left generalizing right with
  | nil => rcases right with _ | ⟨_ | _, _⟩ <;> simp [ofFindings, upToError]
  | cons finding later induction =>
      rcases finding with error | conflict
      · rcases right with _ | ⟨_ | _, _⟩ <;> simp [ofFindings, upToError]
      · rcases right with _ | ⟨_ | other, others⟩
        · simp [ofFindings, upToError]
        · simp [ofFindings, upToError]
        · constructor
          · intro same
            obtain ⟨conflicts, outcome⟩ := Report.mk.inj same
            obtain ⟨rfl, laterConflicts⟩ := List.cons.inj conflicts
            have rest := induction.mp
              (congrArg₂ Report.mk laterConflicts outcome)
            rw [upToError, upToError, rest]
          · intro same
            obtain ⟨first, rest⟩ := List.cons.inj same
            cases first
            rw [ofFindings, ofFindings, induction.mpr rest]

theorem outcome_ofFindings (findings : List Finding) :
    (ofFindings findings).outcome = .ok () ↔ findings.all Except.isOk := by
  induction findings with
  | nil => simp [ofFindings]
  | cons finding later induction =>
      cases finding with
      | error error => simp [ofFindings, Except.isOk, Except.toBool]
      | ok conflict => simp [ofFindings, induction, Except.isOk, Except.toBool]

theorem conflicts_ofFindings {findings : List Finding}
    (succeeded : (ofFindings findings).outcome = .ok ()) :
    (ofFindings findings).conflicts =
      findings.filterMap Except.toOption := by
  induction findings with
  | nil => rfl
  | cons finding later induction =>
      cases finding with
      | error error => cases succeeded
      | ok conflict =>
          have kept : (Except.ok conflict : Finding).toOption =
              some conflict := rfl
          rw [ofFindings, List.filterMap_cons_some kept]
          exact congrArg (conflict :: ·) (induction succeeded)

section Permuted

variable {left right : List Finding} (permuted : left.Perm right)
include permuted

theorem both_succeed_or_fail :
    (ofFindings left).outcome = .ok () ∧
        (ofFindings right).outcome = .ok () ∨
      ∃ error other, (ofFindings left).outcome = .error error ∧
        (ofFindings right).outcome = .error other := by
  have same : (ofFindings left).outcome = .ok () ↔
      (ofFindings right).outcome = .ok () := by
    rw [outcome_ofFindings, outcome_ofFindings, permuted.all_eq]
  cases leftOutcome : (ofFindings left).outcome with
  | ok value => exact .inl ⟨rfl, same.mp leftOutcome⟩
  | error error =>
      cases rightOutcome : (ofFindings right).outcome with
      | ok value =>
          rw [same.mpr rightOutcome] at leftOutcome
          cases leftOutcome
      | error other => exact .inr ⟨error, other, rfl, rfl⟩

theorem conflicts_ofFindings_perm
    (leftOutcome : (ofFindings left).outcome = .ok ())
    (rightOutcome : (ofFindings right).outcome = .ok ()) :
    (ofFindings left).conflicts.Perm (ofFindings right).conflicts := by
  rw [conflicts_ofFindings leftOutcome, conflicts_ofFindings rightOutcome]
  exact permuted.filterMap _

/-- What follows the findings cannot make up for a difference between them. -/
theorem andThen_right_cancel {α : Type} (last : Report α) :
    (ofFindings left).andThen (fun _ => last) =
        (ofFindings right).andThen (fun _ => last) ↔
      ofFindings left = ofFindings right := by
  constructor
  · intro same
    rcases both_succeed_or_fail permuted with
      ⟨leftOutcome, rightOutcome⟩ | ⟨error, other, leftOutcome, rightOutcome⟩
    · rw [andThen_ok leftOutcome, andThen_ok rightOutcome] at same
      have conflicts := List.append_cancel_right (Report.mk.inj same).1
      exact congrArg₂ Report.mk conflicts
        (leftOutcome.trans rightOutcome.symm)
    · rw [andThen_error leftOutcome, andThen_error rightOutcome] at same
      obtain ⟨conflicts, sameError⟩ := Report.mk.inj same
      cases sameError
      exact congrArg₂ Report.mk conflicts
        (leftOutcome.trans rightOutcome.symm)
  · intro same
    rw [same]

end Permuted

end Report

namespace Scan

variable (scan : Scan)

/-- Whether an entry is a folder with two modules and is not ignored. -/
def holdsBoth (entry : Entry) : Bool :=
  !scan.ignored.ignores entry.name && entry.kind = .folder &&
    (scan.module? entry.name "route".toList).isSome &&
    (scan.module? entry.name "index".toList).isSome

/-- The names of the folders with two modules, in the order of the listing. -/
def doubled (entries : List Entry) : List Text :=
  (entries.filter scan.holdsBoth).map Entry.name

/-- The folders that a scan gets to: one whose name is no route id ends it. -/
def reached : List Text → List Text
  | [] => []
  | folder :: later =>
      if (Segments.parse folder).isOk then folder :: reached later
      else [folder]

theorem isSome_folderFinding? (folder : Text) :
    (scan.folderFinding? folder).isSome =
      ((scan.module? folder "route".toList).isSome &&
        (scan.module? folder "index".toList).isSome) := by
  rw [folderFinding?]
  cases scan.module? folder "route".toList <;>
    cases scan.module? folder "index".toList <;> rfl

theorem finding?_eq (entry : Entry) :
    scan.finding? entry =
      if scan.holdsBoth entry then scan.folderFinding? entry.name else none := by
  obtain ⟨name, kind⟩ := entry
  have both := scan.isSome_folderFinding? name
  by_cases skipped : scan.ignored.ignores name
  · simp [finding?, holdsBoth, skipped]
  · cases kind with
    | folder =>
        cases found : scan.folderFinding? name <;>
          simp_all [finding?, holdsBoth]
    | _ => simp [finding?, holdsBoth]

theorem findings_eq (entries : List Entry) :
    scan.findings entries =
      (scan.doubled entries).filterMap scan.folderFinding? := by
  rw [findings, doubled, List.filterMap_map, List.filterMap_filter]
  apply List.filterMap_congr
  intro entry _
  rw [finding?_eq]
  rfl

theorem exists_finding {entries : List Entry} {folder : Text}
    (member : folder ∈ scan.doubled entries) :
    ∃ finding, scan.folderFinding? folder = some finding := by
  obtain ⟨entry, entered, rfl⟩ := List.mem_map.mp member
  have both := (List.mem_filter.mp entered).2
  rw [← Option.isSome_iff_exists, isSome_folderFinding?]
  simp only [holdsBoth, Bool.and_eq_true] at both ⊢
  exact ⟨both.1.2, both.2⟩

variable {scan} {folder : Text} {finding : Finding}

theorem isOk_of_finding (found : scan.folderFinding? folder = some finding) :
    finding.isOk = (Segments.parse folder).isOk := by
  rw [folderFinding?] at found
  split at found
  · cases found
    rw [folderConflict]
    cases Segments.parse folder <;> rfl
  · cases found

theorem winner_of_finding {conflict : Conflict}
    (found : scan.folderFinding? folder = some (.ok conflict)) :
    ∃ file, '/' ∉ file ∧ conflict.winner = folder ++ '/' :: file := by
  rw [folderFinding?] at found
  split at found
  · next route index _ _ =>
      have accepted := Option.some.inj found
      rw [folderConflict] at accepted
      cases parsed : Segments.parse folder with
      | error error =>
          rw [parsed] at accepted
          cases accepted
      | ok segments =>
          rw [parsed] at accepted
          cases accepted
          refine ⟨(Path.fileName? (scan.modulePath folder route)).getD [],
            ?_, rfl⟩
          cases named : Path.fileName? (scan.modulePath folder route) with
          | none => exact List.not_mem_nil
          | some file => exact Path.notMem_fileName? named
  · cases found

/-- The folder that a finding is about: an error names it, and a conflict names
files in it. -/
def folderOf : Finding → Text
  | .ok conflict => ((Text.cutLast '/' conflict.winner).map Prod.fst).getD []
  | .error (.invalidSegment id _ _) => id
  | .error _ => []

theorem folderOf_finding
    (found : scan.folderFinding? folder = some finding) :
    folderOf finding = folder := by
  cases finding with
  | error error =>
      obtain ⟨segment, mark, rfl⟩ :=
        Segments.ofPieces_eq_error (parse_of_finding found)
      rfl
  | ok conflict =>
      obtain ⟨file, free, named⟩ := winner_of_finding found
      rw [folderOf, named, Text.cutLast_append free]
      rfl

theorem map_folderOf_findings {folders : List Text}
    (both : ∀ folder ∈ folders, ∃ finding,
      scan.folderFinding? folder = some finding) :
    (folders.filterMap scan.folderFinding?).map folderOf = folders := by
  have told : ∀ folder ∈ folders,
      (scan.folderFinding? folder).map folderOf = some folder := by
    intro folder member
    obtain ⟨finding, found⟩ := both folder member
    rw [found, Option.map_some, folderOf_finding found]
  rw [List.map_filterMap, List.filterMap_congr told, List.filterMap_some]

theorem upToError_findings {folders : List Text}
    (both : ∀ folder ∈ folders, ∃ finding,
      scan.folderFinding? folder = some finding) :
    Report.upToError (folders.filterMap scan.folderFinding?) =
      (reached folders).filterMap scan.folderFinding? := by
  induction folders with
  | nil => rfl
  | cons folder later induction =>
      obtain ⟨finding, found⟩ := both folder List.mem_cons_self
      have rest := induction fun other member =>
        both other (List.mem_cons_of_mem _ member)
      have accepted := isOk_of_finding found
      rw [List.filterMap_cons_some found, reached, ← accepted]
      cases finding with
      | error error =>
          have rejected : (Except.error error : Finding).isOk = false := rfl
          rw [Report.upToError, rejected, if_neg Bool.false_ne_true,
            List.filterMap_cons_some found, List.filterMap_nil]
      | ok conflict =>
          have isOk : (Except.ok conflict : Finding).isOk = true := rfl
          rw [Report.upToError, isOk, if_pos rfl,
            List.filterMap_cons_some found, rest]

theorem reached_subset (folders : List Text) : reached folders ⊆ folders := by
  induction folders with
  | nil => exact List.Subset.refl _
  | cons folder later induction =>
      rw [reached]
      split
      · exact List.cons_subset_cons folder induction
      · simp

theorem exists_rejected {entries : List Entry} {error : RouteError}
    (failed : (Report.ofFindings (scan.findings entries)).outcome =
      .error error) :
    ∃ folder ∈ reached (scan.doubled entries),
      Segments.parse folder = .error error := by
  have reported := Report.mem_upToError failed
  rw [findings_eq, upToError_findings fun folder => scan.exists_finding]
    at reported
  obtain ⟨folder, member, found⟩ := List.mem_filterMap.mp reported
  exact ⟨folder, member, parse_of_finding found⟩

/-- The findings are the same exactly if the folders are. -/
theorem ofFindings_eq_iff_reached {entries others : List Entry} :
    Report.ofFindings (scan.findings entries) =
        Report.ofFindings (scan.findings others) ↔
      reached (scan.doubled entries) = reached (scan.doubled others) := by
  have both : ∀ entries : List Entry, ∀ folder ∈ scan.doubled entries,
      ∃ finding, scan.folderFinding? folder = some finding :=
    fun entries folder => scan.exists_finding
  have told : ∀ entries : List Entry,
      ((reached (scan.doubled entries)).filterMap
        scan.folderFinding?).map folderOf = reached (scan.doubled entries) := by
    intro entries
    apply map_folderOf_findings
    intro folder member
    exact both entries folder (reached_subset _ member)
  rw [Report.ofFindings_eq_iff, findings_eq, findings_eq,
    upToError_findings (both entries), upToError_findings (both others)]
  constructor
  · intro same
    rw [← told entries, ← told others, same]
  · intro same
    rw [same]

end Scan

namespace ScanSettings

/-- The folders with two modules that the scan of a listing gets to. -/
def doubledFolders (settings : ScanSettings) (listing : Listing) : List Text :=
  match IgnoreSet.compile settings.ignored with
  | .error _ => []
  | .ok ignored =>
      Scan.reached
        ((settings.scan [] ignored listing).doubled listing.entries)

end ScanSettings

/-- Two orders of one listing come to the same outcome, with the same conflicts
in some order, unless both scans end at a folder with two modules.  The reports
are equal exactly if the folders with two modules are listed in the same order,
as far as the scan gets. -/
theorem listing_order_shows_in_doubled_folders {settings : ScanSettings}
    {directory : Text} {listing other : Listing}
    (permuted : listing.entries.Perm other.entries)
    (sameFiles : listing.holds = other.holds) :
    ((settings.compile directory (.ok listing)).outcome =
          (settings.compile directory (.ok other)).outcome ∧
        (settings.compile directory (.ok listing)).conflicts.Perm
          (settings.compile directory (.ok other)).conflicts ∨
      (∃ folder ∈ settings.doubledFolders listing, ∃ error,
        Segments.parse folder = .error error ∧
          (settings.compile directory (.ok listing)).outcome =
            .error error) ∧
      ∃ folder ∈ settings.doubledFolders other, ∃ error,
        Segments.parse folder = .error error ∧
          (settings.compile directory (.ok other)).outcome = .error error) ∧
    (settings.compile directory (.ok listing) =
        settings.compile directory (.ok other) ↔
      settings.doubledFolders listing = settings.doubledFolders other) := by
  obtain ⟨entries, holds⟩ := listing
  obtain ⟨others, _⟩ := other
  cases sameFiles
  cases compiled : IgnoreSet.compile settings.ignored with
  | error error =>
      simp [ScanSettings.compile_eq_error compiled,
        ScanSettings.doubledFolders, compiled]
  | ok ignored =>
      let scan := settings.scan directory ignored ⟨entries, holds⟩
      let last := build directory (entries.filterMap scan.file?)
      have left : settings.compile directory (.ok ⟨entries, holds⟩) =
          (Report.ofFindings (scan.findings entries)).andThen fun _ => last :=
        ScanSettings.compile_eq compiled directory ⟨entries, holds⟩
      have right : settings.compile directory (.ok ⟨others, holds⟩) =
          (Report.ofFindings (scan.findings others)).andThen fun _ => last := by
        rw [ScanSettings.compile_eq compiled directory ⟨others, holds⟩]
        congr 1
        funext _
        exact (build_eq_of_perm (permuted.filterMap scan.file?)).symm
      have reached : ∀ entries, settings.doubledFolders ⟨entries, holds⟩ =
          Scan.reached (scan.doubled entries) := by
        intro entries
        rw [ScanSettings.doubledFolders, compiled]
        rfl
      have findings : (scan.findings entries).Perm (scan.findings others) :=
        permuted.filterMap _
      rw [left, right, reached, reached]
      refine ⟨?_, ?_⟩
      · rcases Report.both_succeed_or_fail findings with
          ⟨outcome, otherOutcome⟩ | ⟨error, otherError, failed, otherFailed⟩
        · rw [Report.andThen_ok outcome, Report.andThen_ok otherOutcome]
          left
          refine ⟨rfl, ?_⟩
          apply List.Perm.append_right
          exact Report.conflicts_ofFindings_perm findings outcome otherOutcome
        · rw [Report.andThen_error failed, Report.andThen_error otherFailed]
          right
          obtain ⟨folder, member, rejected⟩ := Scan.exists_rejected failed
          obtain ⟨otherFolder, otherMember, otherRejected⟩ :=
            Scan.exists_rejected otherFailed
          exact ⟨⟨folder, member, error, rejected, rfl⟩,
            ⟨otherFolder, otherMember, otherError, otherRejected, rfl⟩⟩
      · rw [Report.andThen_right_cancel findings,
          Scan.ofFindings_eq_iff_reached]

/-- A listing of folders that hold two modules each. -/
def twinFolders (names : List String) : Listing where
  entries := names.map fun name => ⟨name.toList, .folder⟩
  holds := fun _ file =>
    file = "route.js".toList || file = "index.js".toList

/-- The order of a listing shows in the order of the conflicts, and in which of
two errors is reported. -/
theorem twin_folders_show_listing_order :
    (twinFolders ["a", "b"]).entries.Perm (twinFolders ["b", "a"]).entries ∧
      (({} : ScanSettings).compile "r".toList
          (.ok (twinFolders ["a", "b"]))).conflicts ≠
        (({} : ScanSettings).compile "r".toList
          (.ok (twinFolders ["b", "a"]))).conflicts ∧
      (({} : ScanSettings).compile "r".toList
          (.ok (twinFolders ["a:", "b:"]))).outcome ≠
        (({} : ScanSettings).compile "r".toList
          (.ok (twinFolders ["b:", "a:"]))).outcome := by
  refine ⟨by decide, ?_, ?_⟩
  · simp only [ScanSettings.compile, ScanSettings.listFiles, build,
      RouteFile.readAll, collate, Alphabet.sort_eq_insertion, Draft.nest,
      Draft.longestFirst_eq_insertion]
    decide +kernel
  · simp only [ScanSettings.compile, ScanSettings.listFiles, build,
      RouteFile.readAll, collate, Alphabet.sort_eq_insertion, Draft.nest,
      Draft.longestFirst_eq_insertion]
    decide +kernel

/-- A folder with two modules and, in either order, a file. -/
def fileAndTwin : Listing :=
  { twinFolders [] with
    entries := [⟨"b.js".toList, .file⟩, ⟨"a".toList, .folder⟩] }

def twinAndFile : Listing :=
  { twinFolders [] with
    entries := [⟨"a".toList, .folder⟩, ⟨"b.js".toList, .file⟩] }

theorem one_twin_folder_hides_listing_order :
    fileAndTwin.entries.Perm twinAndFile.entries ∧
      fileAndTwin.holds = twinAndFile.holds ∧
      ({} : ScanSettings).doubledFolders fileAndTwin = ["a".toList] ∧
      ({} : ScanSettings).compile "r".toList (.ok fileAndTwin) =
        ({} : ScanSettings).compile "r".toList (.ok twinAndFile) := by
  have permuted : fileAndTwin.entries.Perm twinAndFile.entries := by decide
  have folders : ({} : ScanSettings).doubledFolders fileAndTwin =
      ["a".toList] := by decide +kernel
  have otherFolders : ({} : ScanSettings).doubledFolders twinAndFile =
      ["a".toList] := by decide +kernel
  refine ⟨permuted, rfl, folders, ?_⟩
  apply (listing_order_shows_in_doubled_folders permuted rfl).2.mpr
  rw [folders, otherFolders]

end FileRouting
