import FileRouting.Proofs.BuildReport

/-!
# When a build fails

A build refuses a file that does not lie below the root, and a file whose id is
no route id.  It fails exactly if one of its files is refused.  Files are read in
collated order, so that of several refused files the first tells the error.

Nothing that was found before the error is reported with it.  The third error
that a trie could raise never comes up, because no file gives the empty id.
-/

namespace FileRouting

/-- Why a file is refused below a normal root. -/
inductive Refused (root file : Text) : RouteError → Prop where
  /-- The file does not lie below the root; the root itself does not either. -/
  | outside :
      (∀ relative, Path.relativeTo? root file = some relative →
        relative = []) →
      Refused root file (.outsideRoot file root)
  /-- The file gives an id that is no route id. -/
  | malformed {relative segment : Text} {mark : Char} :
      Path.relativeTo? root file = some relative → relative ≠ [] →
      Segments.parse (RouteFile.idOf relative) =
        .error (.invalidSegment (RouteFile.idOf relative) segment mark) →
      Refused root file
        (.invalidSegment (RouteFile.idOf relative) segment mark)

namespace RouteFile

variable {root file : Text} {error : RouteError}

theorem locate_eq_error_iff :
    locate root file = .error error ↔
      (∀ relative, Path.relativeTo? root file = some relative →
        relative = []) ∧ error = .outsideRoot file root := by
  cases located : locate root file with
  | ok relative =>
      obtain ⟨found, nonempty⟩ := locate_eq_ok_iff.mp located
      constructor
      · intro failed
        cases failed
      · intro refused
        exact absurd (refused.1 relative found) nonempty
  | error other =>
      have isOther : other = .outsideRoot file root := by
        unfold locate at located
        split at located
        · cases located
        · cases located
          rfl
      rw [isOther, Except.error.injEq, eq_comm]
      refine (and_iff_right ?_).symm
      intro relative found
      by_contra nonempty
      rw [locate_eq_ok_iff.mpr ⟨found, nonempty⟩] at located
      cases located

theorem read_eq_error_iff :
    read root file = .error error ↔ Refused root file error := by
  unfold read
  cases located : locate root file with
  | error other =>
      obtain ⟨outside, rfl⟩ := locate_eq_error_iff.mp located
      constructor
      · intro failed
        cases failed
        exact .outside outside
      · intro refused
        cases refused with
        | outside => rfl
        | malformed found nonempty =>
            exact absurd (outside _ found) nonempty
  | ok relative =>
      obtain ⟨found, nonempty⟩ := locate_eq_ok_iff.mp located
      constructor
      · intro failed
        cases parsed : Segments.parse (idOf relative) with
        | error other =>
            simp only [parsed, bind, Except.bind] at failed
            cases failed
            obtain ⟨segment, mark, rfl⟩ := Segments.ofPieces_eq_error parsed
            exact .malformed found nonempty parsed
        | ok segments =>
            simp only [parsed, bind, Except.bind] at failed
            cases failed
      · intro refused
        cases refused with
        | outside outside => exact absurd (outside relative found) nonempty
        | malformed otherFound _ parsed =>
            cases found.symm.trans otherFound
            simp only [parsed, bind, Except.bind]

theorem not_refused_of_read {route : RouteFile}
    (accepted : read root file = .ok route) : ¬ Refused root file error := by
  intro refused
  rw [read_eq_error_iff.mpr refused] at accepted
  cases accepted

variable {files : List Text}

/-- The error of a reading is that of the refused file that collates first. -/
theorem first_refused_of_readAll (failed : readAll root files = .error error) :
    ∃ file ∈ files.map Path.slashed, Refused (Path.root root) file error ∧
      ∀ other ∈ files.map Path.slashed, ∀ otherError,
        Refused (Path.root root) other otherError →
          Alphabet.unicode.Precedes file other := by
  obtain ⟨before, file, later, whole, accepted, rejected⟩ :=
    exists_first_of_mapM_eq_error failed
  have listed : ∀ path, path ∈ files.map Path.slashed ↔
      path ∈ before ++ file :: later := by
    intro path
    rw [← whole]
    exact (Alphabet.sort_perm _).mem_iff.symm
  have sorted : (before ++ file :: later).Pairwise
      Alphabet.unicode.Precedes := whole ▸ Alphabet.sort_pairwise _
  refine ⟨file, (listed file).mpr (by simp), read_eq_error_iff.mp rejected, ?_⟩
  intro other member otherError refused
  rcases List.mem_append.mp ((listed other).mp member) with early | late
  · obtain ⟨route, isRead⟩ := accepted other early
    exact absurd refused (not_refused_of_read isRead)
  · rcases List.mem_cons.mp late with rfl | after
    · exact .refl other
    · have rest := (List.pairwise_append.mp sorted).2.1
      exact (List.pairwise_cons.mp rest).1 other after

theorem not_refused_of_readAll {read : List RouteFile}
    (reading : readAll root files = .ok read)
    (member : file ∈ files.map Path.slashed) :
    ¬ Refused (Path.root root) file error := by
  obtain ⟨pairs, firsts, _, reads⟩ := mapM_eq_ok reading
  have listed : file ∈ pairs.map (·.1) := by
    rw [firsts]
    exact (Alphabet.sort_perm _).mem_iff.mpr member
  obtain ⟨pair, entered, rfl⟩ := List.mem_map.mp listed
  exact not_refused_of_read (reads pair entered)

theorem readAll_eq_error_iff :
    readAll root files = .error error ↔
      ∃ file ∈ files.map Path.slashed, Refused (Path.root root) file error ∧
        ∀ other ∈ files.map Path.slashed, ∀ otherError,
          Refused (Path.root root) other otherError →
            Alphabet.unicode.Precedes file other := by
  constructor
  · exact first_refused_of_readAll
  · intro isFirst
    obtain ⟨file, member, refused, first⟩ := isFirst
    cases reading : readAll root files with
    | ok read => exact absurd refused (not_refused_of_readAll reading member)
    | error other =>
        obtain ⟨rival, rivalMember, rivalRefused, rivalFirst⟩ :=
          first_refused_of_readAll reading
        -- Two first files are one file, and reading it gives one error.
        have same : rival = file :=
          (rivalFirst file member error refused).antisymm
            (first rival rivalMember other rivalRefused)
        rw [same, ← read_eq_error_iff] at rivalRefused
        rw [← read_eq_error_iff, rivalRefused, Except.error.injEq] at refused
        rw [refused]

end RouteFile

theorem build_outcome_eq_error_iff {root : Text} {files : List Text}
    {error : RouteError} :
    (build root files).outcome = .error error ↔
      RouteFile.readAll root files = .error error := by
  rw [build_eq]
  cases RouteFile.readAll root files <;> simp

/-- A build fails exactly if a file is refused, with the error of the refused file
that collates first and without a conflict.  No file gives the empty id, and so
the error is never that of an empty id. -/
theorem build_fails_at_first_refused_file (root : Text) (files : List Text) :
    ((∃ error, (build root files).outcome = .error error) ↔
      ∃ file ∈ files.map Path.slashed, ∃ error,
        Refused (Path.root root) file error) ∧
    (∀ error, (build root files).outcome = .error error ↔
      ∃ file ∈ files.map Path.slashed, Refused (Path.root root) file error ∧
        ∀ other ∈ files.map Path.slashed, ∀ otherError,
          Refused (Path.root root) other otherError →
            Alphabet.unicode.Precedes file other) ∧
    (∀ error, (build root files).outcome = .error error →
      (build root files).conflicts = [] ∧ error ≠ .emptyRouteId) ∧
    ∀ file ∈ files.map Path.slashed, ∀ relative,
      Path.relativeTo? (Path.root root) file = some relative →
        relative ≠ [] → RouteFile.idOf relative ≠ [] := by
  simp only [build_outcome_eq_error_iff]
  refine ⟨?_, fun error => RouteFile.readAll_eq_error_iff, ?_, ?_⟩
  · constructor
    · intro fails
      obtain ⟨error, failed⟩ := fails
      obtain ⟨file, member, refused, _⟩ :=
        RouteFile.first_refused_of_readAll failed
      exact ⟨file, member, error, refused⟩
    · intro refuses
      obtain ⟨file, member, error, refused⟩ := refuses
      cases reading : RouteFile.readAll root files with
      | error other => exact ⟨other, rfl⟩
      | ok read =>
          exact absurd refused
            (RouteFile.not_refused_of_readAll reading member)
  · intro error failed
    constructor
    · rw [build_eq, failed]
    · obtain ⟨file, _, refused, _⟩ := RouteFile.first_refused_of_readAll failed
      rintro rfl
      cases refused
  · intro file _ relative _ nonempty
    exact RouteFile.idOf_ne_nil nonempty

/-- Files of which two are refused after two others have given one id. -/
def refusedFiles : List Text :=
  ["s/b.t".toList, "r/c*.t".toList, "r/a/x.t".toList, "r/a.t".toList]

theorem first_refused_file_stops_build :
    (build "r/".toList refusedFiles).outcome =
        .error (.invalidSegment "c*".toList "c*".toList '*') ∧
      (build "r/".toList refusedFiles).conflicts = [] ∧
      ∃ file ∈ refusedFiles.map Path.slashed,
        Refused "r".toList file
            (.invalidSegment "c*".toList "c*".toList '*') ∧
          ∀ other ∈ refusedFiles.map Path.slashed, ∀ otherError,
            Refused "r".toList other otherError →
              Alphabet.unicode.Precedes file other := by
  have failed : (build "r/".toList refusedFiles).outcome =
      .error (.invalidSegment "c*".toList "c*".toList '*') := by
    simp only [build, RouteFile.readAll, collate, Alphabet.sort_eq_insertion]
    decide +kernel
  obtain ⟨_, isFirst, silent, _⟩ :=
    build_fails_at_first_refused_file "r/".toList refusedFiles
  exact ⟨failed, (silent _ failed).1, (isFirst _).mp failed⟩

end FileRouting
