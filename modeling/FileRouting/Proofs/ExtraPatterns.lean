import FileRouting.Proofs.IgnoreRules
import FileRouting.Proofs.LosslessScan

/-!
# More patterns ignore more entries

Patterns that are added to an ignore set take away the entries that they match,
and leave the rest of a scan as it is.  The findings on folders are reported in
the order of the listing, and so what is left of them keeps its order.  The files
are sorted, and it makes no difference whether some are left out before or after
that.

Two entries may contribute the same file.  Which files are left is therefore told
of files together with the entries they come from.
-/

namespace FileRouting

/-- The folder that the files of a conflict lie in. -/
def Conflict.folder (conflict : Conflict) : Text :=
  ((Text.cutLast '/' conflict.winner).map Prod.fst).getD []

namespace Report

theorem outcome_ofFindings_filter {findings : List Finding}
    (succeeded : (ofFindings findings).outcome = .ok ())
    (keep : Finding → Bool) :
    (ofFindings (findings.filter keep)).outcome = .ok () := by
  rw [outcome_ofFindings, List.all_eq_true] at succeeded ⊢
  exact fun finding listed => succeeded finding (List.mem_of_mem_filter listed)

theorem mem_of_mem_conflicts {findings : List Finding} {conflict : Conflict}
    (reported : conflict ∈ (ofFindings findings).conflicts) :
    .ok conflict ∈ findings := by
  induction findings with
  | nil => cases reported
  | cons finding later induction =>
      cases finding with
      | error error => cases reported
      | ok other =>
          rcases List.mem_cons.mp reported with rfl | rest
          · exact List.mem_cons_self
          · exact List.mem_cons_of_mem _ (induction rest)

end Report

namespace Scan

variable {scan : Scan} {entry : Entry} {finding : Finding}

theorem of_finding? (found : scan.finding? entry = some finding) :
    scan.holdsBoth entry = true ∧ folderOf finding = entry.name := by
  rw [finding?_eq] at found
  split at found
  · next both => exact ⟨both, folderOf_finding found⟩
  · cases found

/-- The entries that contribute a file, each with its file. -/
def contributions (scan : Scan) (entries : List Entry) : List (Entry × Text) :=
  entries.filterMap fun entry => (scan.file? entry).map (entry, ·)

theorem map_snd_contributions (entries : List Entry) :
    (scan.contributions entries).map Prod.snd =
      entries.filterMap scan.file? := by
  rw [contributions, List.map_filterMap]
  simp [Function.comp_def]

section Skipping

variable {ignored : IgnoreSet} {skip : Text → Bool}
  (skips : ∀ name, ignored.ignores name =
    (scan.ignored.ignores name || skip name))
include skips

theorem file?_of_skips (entry : Entry) :
    { scan with ignored }.file? entry =
      if skip entry.name then none else scan.file? entry := by
  rw [file?, skips]
  cases skip entry.name with
  | true => simp
  | false =>
      rw [Bool.or_false]
      rfl

theorem finding?_of_skips (entry : Entry) :
    { scan with ignored }.finding? entry =
      if skip entry.name then none else scan.finding? entry := by
  rw [finding?, skips]
  cases skip entry.name with
  | true => simp
  | false =>
      rw [Bool.or_false]
      rfl

theorem contributions_of_skips (entries : List Entry) :
    { scan with ignored }.contributions entries =
      (scan.contributions entries).filter fun origin =>
        !skip origin.1.name := by
  rw [contributions, contributions, List.filter_filterMap]
  apply List.filterMap_congr
  intro entry _
  rw [file?_of_skips skips]
  cases scan.file? entry with
  | none => simp
  | some file =>
      rw [Option.map_some, Option.filter_some]
      cases skip entry.name <;> rfl

/-- A finding tells which folder it is about, and so which findings go. -/
theorem findings_of_skips (entries : List Entry) :
    { scan with ignored }.findings entries =
      (scan.findings entries).filter fun finding =>
        !skip (folderOf finding) := by
  rw [findings, findings, List.filter_filterMap]
  apply List.filterMap_congr
  intro entry _
  rw [finding?_of_skips skips]
  cases found : scan.finding? entry with
  | none => simp
  | some finding =>
      rw [Option.filter_some, (of_finding? found).2]
      cases skip entry.name <;> rfl

end Skipping

/-- The conflicts among some findings on folders. -/
def conflictsOf (findings : List Finding) : List Conflict :=
  findings.filterMap Except.toOption

theorem conflictsOf_filter (findings : List Finding) (skip : Text → Bool) :
    conflictsOf (findings.filter fun finding => !skip (folderOf finding)) =
      (conflictsOf findings).filter fun conflict => !skip conflict.folder := by
  rw [conflictsOf, conflictsOf, List.filterMap_filter, List.filter_filterMap]
  apply List.filterMap_congr
  intro finding _
  cases finding with
  | error error => simp [Except.toOption]
  | ok conflict =>
      have same : folderOf (.ok conflict) = conflict.folder := rfl
      rw [same, Except.toOption, Option.filter_some]

end Scan

namespace ScanSettings

/-- Settings with more patterns of entries to leave out. -/
def ignoring (settings : ScanSettings) (more : List Text) : ScanSettings :=
  { settings with ignored := settings.ignored ++ more }

/-- The entries of a listing that contribute a file, each with its file. -/
def contributions (settings : ScanSettings) (directory : Text)
    (listing : Listing) : List (Entry × Text) :=
  match IgnoreSet.compile settings.ignored with
  | .error _ => []
  | .ok ignored =>
      (settings.scan directory ignored listing).contributions listing.entries

variable {settings : ScanSettings} {directory : Text} {listing : Listing}
  {ignored : IgnoreSet} {more : List Text} {scan : Scan}

/-- Every conflict of a listing of files is a finding on one of the folders. -/
theorem exists_entry_of_conflict {conflict : Conflict}
    (reported : conflict ∈
      (settings.listFiles directory (.ok listing)).conflicts) :
    ∃ ignored entry, IgnoreSet.compile settings.ignored = .ok ignored ∧
      entry ∈ listing.entries ∧ conflict.folder = entry.name ∧
      (settings.scan directory ignored listing).holdsBoth entry = true ∧
      (settings.scan directory ignored listing).folderFinding? entry.name =
        some (.ok conflict) := by
  cases compiled : IgnoreSet.compile settings.ignored with
  | error error =>
      have silent : (settings.listFiles directory (.ok listing)).conflicts =
          [] := by
        simp [listFiles, scanFiles, compiled, Report.ofExcept, Report.andThen,
          bind]
      rw [silent] at reported
      cases reported
  | ok ignored =>
      let scan := settings.scan directory ignored listing
      have found : .ok conflict ∈ scan.findings listing.entries := by
        apply Report.mem_of_mem_conflicts
        rw [listFiles_eq compiled] at reported
        cases outcome :
            (Report.ofFindings (scan.findings listing.entries)).outcome with
        | error error =>
            rw [Report.andThen_error outcome] at reported
            exact reported
        | ok _ =>
            rw [Report.andThen_ok outcome, List.append_nil] at reported
            exact reported
      obtain ⟨entry, listed, isFinding⟩ := List.mem_filterMap.mp found
      obtain ⟨both, named⟩ := Scan.of_finding? isFinding
      rw [Scan.finding?_eq, if_pos both] at isFinding
      exact ⟨ignored, entry, rfl, listed, named, both, isFinding⟩

theorem holdsBoth_of_conflict {conflict : Conflict}
    (reported : conflict ∈
      (settings.listFiles directory (.ok listing)).conflicts) :
    settings.HoldsBoth listing conflict.folder := by
  obtain ⟨ignored, entry, compiled, listed, named, both, _⟩ :=
    exists_entry_of_conflict reported
  rw [named]
  exact .of_holdsBoth compiled listed both

/-- A listing of files that succeeds, without the steps on the way. -/
theorem listFiles_of_succeeds
    (compiled : IgnoreSet.compile settings.ignored = .ok ignored)
    (isScan : settings.scan directory ignored listing = scan)
    (succeeded : (Report.ofFindings
      (scan.findings listing.entries)).outcome = .ok ()) :
    settings.listFiles directory (.ok listing) =
      ⟨Scan.conflictsOf (scan.findings listing.entries),
        .ok (collate ((scan.contributions listing.entries).map Prod.snd))⟩ := by
  subst isScan
  rw [listFiles_eq compiled, Report.andThen_ok succeeded,
    Report.conflicts_ofFindings succeeded, List.append_nil,
    Scan.map_snd_contributions]
  rfl

theorem exists_compile_ignoring
    (compiled : IgnoreSet.compile settings.ignored = .ok ignored)
    (wellFormed : ∀ pattern ∈ more, ¬ Malformed pattern) :
    ∃ narrower, IgnoreSet.compile (settings.ignoring more).ignored =
        .ok narrower ∧
      ∀ name, narrower.ignores name =
        (ignored.ignores name || decide (MatchedBy more name)) := by
  have accepted := IgnoreSet.exists_compile_iff.mp ⟨ignored, compiled⟩
  obtain ⟨narrower, compiledMore⟩ :
      ∃ set, IgnoreSet.compile (settings.ignored ++ more) = .ok set := by
    rw [IgnoreSet.exists_compile_iff]
    intro pattern listed
    rcases List.mem_append.mp listed with old | new
    · exact accepted pattern old
    · exact wellFormed pattern new
  refine ⟨narrower, compiledMore, fun name => ?_⟩
  rw [Bool.eq_iff_iff, Bool.or_eq_true, decide_eq_true_iff,
    IgnoreSet.ignores_iff compiledMore, IgnoreSet.ignores_iff compiled,
    matchedBy_append, or_assoc]

end ScanSettings

/-- If the files of a directory can be listed, then they can be listed with more
patterns too.  Of the files, each with the entry it comes from, those are left
whose entry none of the new patterns matches, and of the conflicts those on
folders that none of them matches, in the same order. -/
theorem extra_patterns_only_filter {settings : ScanSettings}
    {directory : Text} {listing : Listing} {files more : List Text}
    (listed : (settings.listFiles directory (.ok listing)).outcome = .ok files)
    (wellFormed : ∀ pattern ∈ more, ¬ Malformed pattern) :
    (∃ origins : List (Entry × Text),
      origins.Perm (settings.contributions directory listing) ∧
      files = origins.map Prod.snd ∧
      ((settings.ignoring more).listFiles directory (.ok listing)).outcome =
        .ok ((origins.filter fun origin =>
          !decide (MatchedBy more origin.1.name)).map Prod.snd)) ∧
    (∀ conflict ∈ (settings.listFiles directory (.ok listing)).conflicts,
      settings.HoldsBoth listing conflict.folder) ∧
    ((settings.ignoring more).listFiles directory (.ok listing)).conflicts =
      (settings.listFiles directory (.ok listing)).conflicts.filter
        fun conflict => !decide (MatchedBy more conflict.folder) := by
  obtain ⟨_, ignored, _, compiled⟩ :=
    ScanSettings.exists_of_listFiles_eq_ok listed
  obtain ⟨narrower, compiledMore, skips⟩ :=
    ScanSettings.exists_compile_ignoring compiled wellFormed
  let scan := settings.scan directory ignored listing
  let narrow : Scan := { scan with ignored := narrower }
  let skip := fun name => decide (MatchedBy more name)
  have skipping : ∀ name, narrower.ignores name =
      (scan.ignored.ignores name || skip name) := skips
  have isNarrow : (settings.ignoring more).scan directory narrower listing =
      narrow := rfl
  have succeeded :
      (Report.ofFindings (scan.findings listing.entries)).outcome = .ok () := by
    rw [ScanSettings.listFiles_eq compiled] at listed
    obtain ⟨_, succeeded, _⟩ := Report.outcome_andThen_ok listed
    exact succeeded
  have holdBoth : ∀ conflict ∈
      (settings.listFiles directory (.ok listing)).conflicts,
        settings.HoldsBoth listing conflict.folder :=
    fun _ => ScanSettings.holdsBoth_of_conflict
  have findings := Scan.findings_of_skips skipping listing.entries
  have contributions := Scan.contributions_of_skips skipping listing.entries
  have first := ScanSettings.listFiles_of_succeeds compiled rfl succeeded
  have second := ScanSettings.listFiles_of_succeeds compiledMore isNarrow
    (findings ▸ Report.outcome_ofFindings_filter succeeded _)
  rw [first] at listed holdBoth ⊢
  rw [second]
  refine ⟨?_, ?_, ?_⟩
  · obtain ⟨origins, permuted, sorted⟩ :=
      Alphabet.unicode.exists_sorted_items Prod.snd
        (scan.contributions listing.entries)
    have whole := sorted fun _ => true
    rw [List.filter_true, List.filter_true] at whole
    refine ⟨origins, ?_, (Except.ok.inj listed).symm.trans whole, ?_⟩
    · rw [ScanSettings.contributions, compiled]
      exact permuted
    · rw [contributions]
      exact congrArg Except.ok (sorted _)
  · exact holdBoth
  · rw [findings]
    exact Scan.conflictsOf_filter _ skip

/-- Two folders with two modules each, a style sheet and a route file. -/
def styledTwins : Listing :=
  { twinFolders [] with
    entries := (twinFolders ["c", "b"]).entries ++
      [⟨"x.css".toList, .file⟩, ⟨"a.js".toList, .file⟩] }

def stylesAndTwin : List Text := ["*.css".toList, "c".toList]

theorem styles_and_twin_left_out :
    let first := ({} : ScanSettings).listFiles "r".toList (.ok styledTwins)
    let second := (({} : ScanSettings).ignoring stylesAndTwin).listFiles
      "r".toList (.ok styledTwins)
    first.outcome = .ok ["r/a.js".toList, "r/b/route.js".toList,
      "r/c/route.js".toList, "r/x.css".toList] ∧
    (∀ pattern ∈ stylesAndTwin, ¬ Malformed pattern) ∧
    (∃ origins : List (Entry × Text),
      origins.Perm (({} : ScanSettings).contributions "r".toList styledTwins) ∧
      second.outcome = .ok ((origins.filter fun origin =>
        !decide (MatchedBy stylesAndTwin origin.1.name)).map Prod.snd)) ∧
    first.conflicts.map Conflict.folder = ["c".toList, "b".toList] ∧
    second.conflicts.map Conflict.folder = ["b".toList] := by
  intro first second
  have listed : first.outcome = .ok ["r/a.js".toList, "r/b/route.js".toList,
      "r/c/route.js".toList, "r/x.css".toList] := by
    simp only [first, ScanSettings.listFiles, collate,
      Alphabet.sort_eq_insertion]
    decide +kernel
  have wellFormed : ∀ pattern ∈ stylesAndTwin, ¬ Malformed pattern := by
    decide +kernel
  have folders : first.conflicts.map Conflict.folder =
      ["c".toList, "b".toList] := by
    simp only [first, ScanSettings.listFiles, collate,
      Alphabet.sort_eq_insertion]
    decide +kernel
  obtain ⟨⟨origins, permuted, _, left⟩, _, conflicts⟩ :=
    extra_patterns_only_filter listed wellFormed
  refine ⟨listed, wellFormed, ⟨origins, permuted, left⟩, folders, ?_⟩
  have kept : second.conflicts.map Conflict.folder =
      (first.conflicts.map Conflict.folder).filter fun folder =>
        !decide (MatchedBy stylesAndTwin folder) := by
    rw [conflicts, List.filter_map]
    rfl
  rw [kept, folders]
  decide +kernel

end FileRouting
