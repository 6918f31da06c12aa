import FileRouting.Proofs.BuildResult
import FileRouting.Proofs.ReadFiles

/-!
# The first file wins

A build decides twice which of several files is kept: among the files of one id,
and then among the candidates for one URL.  Both times it is the one that
collates first.  The contests see files in the order in which they were sorted,
so that what arrives first in a contest is what collates first among all files.
-/

namespace FileRouting

/-- Whether segments compete for a URL. -/
def Segments.Competes (segments : Segments) : Prop :=
  ¬ (segments.isPathlessLayout = true ∨
    segments.isIndex = false ∧ segments.urlPath? segments.isIndex = none)

/-- Whether segments ask for the same URL path in the same role. -/
def Segments.SameUrl (left right : Segments) : Prop :=
  left.urlPath? left.isIndex = right.urlPath? right.isIndex ∧
    left.isIndex = right.isIndex

instance : DecidableRel Segments.SameUrl := fun _ _ =>
  inferInstanceAs (Decidable (_ ∧ _))

/-- Whether a file collates first among the files that give its id. -/
def Candidate (root : Text) (files : List Text) (file : Text)
    (route : RouteFile) : Prop :=
  Gives root files file route ∧
    ∀ other otherRoute, Gives root files other otherRoute →
      otherRoute.id = route.id → Alphabet.unicode.Precedes file other

/-- Whether a candidate that competes for a URL collates first among those that
compete for it. -/
def Prevails (root : Text) (files : List Text) (file : Text)
    (route : RouteFile) : Prop :=
  Candidate root files file route ∧
    (route.segments.Competes →
      ∀ other otherRoute, Candidate root files other otherRoute →
        otherRoute.segments.Competes →
        otherRoute.segments.SameUrl route.segments →
        Alphabet.unicode.Precedes file other)

theorem RouteFile.participates_iff {route : RouteFile} :
    route.participates = true ↔ route.segments.Competes := by
  simp only [participates, urlPath?, isIndex, Segments.Competes]
  cases route.segments.isPathlessLayout <;> cases route.segments.isIndex <;>
    simp [Option.isSome_iff_ne_none]

theorem Segments.urlPath?_ne_nil {segments : Segments} {index : Bool} :
    segments.urlPath? index ≠ some [] := by
  unfold urlPath?
  split <;> simp_all

theorem getD_nil_eq_iff {left right : Option Text} (leftPath : left ≠ some [])
    (rightPath : right ≠ some []) :
    left.getD [] = right.getD [] ↔ left = right := by
  cases left <;> cases right <;> simp_all [eq_comm]

theorem RouteFile.urlKey_eq_iff {left right : RouteFile} :
    left.urlKey = right.urlKey ↔ left.segments.SameUrl right.segments := by
  rw [urlKey, urlKey, Prod.mk.injEq]
  exact and_congr_left fun _ =>
    getD_nil_eq_iff Segments.urlPath?_ne_nil Segments.urlPath?_ne_nil

namespace ReadInOrder

variable {root : Text} {files : List Text}
  {entrants : List (Text × RouteFile)} {entrant : Text × RouteFile}

theorem mem_winners_id_iff (inOrder : ReadInOrder root files entrants) :
    entrant ∈ Contest.winners (fun entrant => entrant.2.id) entrants ↔
      Candidate root files entrant.1 entrant.2 := by
  rw [Contest.mem_winners_iff ReadBefore.refl inOrder.antisymm inOrder.arrival,
    inOrder.gives]
  apply and_congr_right
  intro _
  simp only [Prod.forall, inOrder.gives]
  rfl

theorem mem_winners_urlKey_iff (inOrder : ReadInOrder root files entrants) :
    entrant ∈ Contest.winners (fun entrant => entrant.2.urlKey)
        ((Contest.winners (fun entrant => entrant.2.id) entrants).filter
          fun entrant => entrant.2.participates) ↔
      Prevails root files entrant.1 entrant.2 ∧
        entrant.2.segments.Competes := by
  let competing :=
    (Contest.winners (fun entrant => entrant.2.id) entrants).filter
      fun entrant => entrant.2.participates
  have subset : competing.Sublist entrants :=
    List.filter_sublist.trans (Contest.winners_sublist _ _)
  have member : ∀ entrant, entrant ∈ competing ↔
      Candidate root files entrant.1 entrant.2 ∧
        entrant.2.segments.Competes := by
    intro entrant
    rw [List.mem_filter, inOrder.mem_winners_id_iff,
      RouteFile.participates_iff]
  have arrival := inOrder.arrival.sublist subset
  have antisymm : ∀ first ∈ competing, ∀ second ∈ competing,
      ReadBefore first second → ReadBefore second first → first = second :=
    fun first firstMember second secondMember =>
      inOrder.antisymm first (subset.subset firstMember) second
        (subset.subset secondMember)
  rw [Contest.mem_winners_iff ReadBefore.refl antisymm arrival, member]
  simp only [Prod.forall, member, RouteFile.urlKey_eq_iff]
  constructor
  · intro winning
    obtain ⟨⟨candidate, competes⟩, first⟩ := winning
    exact ⟨⟨candidate, fun _ other route otherCandidate otherCompetes =>
      first other route ⟨otherCandidate, otherCompetes⟩⟩, competes⟩
  · intro prevailing
    obtain ⟨⟨candidate, first⟩, competes⟩ := prevailing
    exact ⟨⟨candidate, competes⟩, fun other route otherMember =>
      first competes other route otherMember.1 otherMember.2⟩

theorem existsUnique_candidate (inOrder : ReadInOrder root files entrants)
    {path : Text} {route : RouteFile} (gives : Gives root files path route) :
    ∃! first : Text × RouteFile,
      Candidate root files first.1 first.2 ∧ first.2.id = route.id := by
  have entered : (path, route) ∈ entrants := (inOrder.gives _).mpr gives
  have unique : ∃! first,
      first ∈ Contest.winners (fun entrant => entrant.2.id) entrants ∧
        first.2.id = route.id :=
    Contest.existsUnique_winner entered
  simp only [inOrder.mem_winners_id_iff] at unique
  exact unique

theorem existsUnique_prevailing (inOrder : ReadInOrder root files entrants)
    {path : Text} {route : RouteFile}
    (candidate : Candidate root files path route)
    (competes : route.segments.Competes) :
    ∃! winner : Text × RouteFile,
      (Prevails root files winner.1 winner.2 ∧
        winner.2.segments.Competes) ∧
      winner.2.segments.SameUrl route.segments := by
  have competing : (path, route) ∈
      (Contest.winners (fun entrant => entrant.2.id) entrants).filter
        fun entrant => entrant.2.participates := by
    rw [List.mem_filter, inOrder.mem_winners_id_iff,
      RouteFile.participates_iff]
    exact ⟨candidate, competes⟩
  have unique : ∃! winner,
      winner ∈ Contest.winners (fun entrant => entrant.2.urlKey)
          ((Contest.winners (fun entrant => entrant.2.id) entrants).filter
            fun entrant => entrant.2.participates) ∧
        winner.2.urlKey = route.urlKey :=
    Contest.existsUnique_winner competing
  simp only [inOrder.mem_winners_urlKey_iff, RouteFile.urlKey_eq_iff] at unique
  exact unique

end ReadInOrder

/-- The survivors are the routes of files that prevail. -/
theorem RouteFile.mem_survivors_iff {root : Text} {files : List Text}
    {read : List RouteFile} (reading : readAll root files = .ok read)
    {route : RouteFile} :
    route ∈ survivors read ↔ ∃ file, Prevails root files file route := by
  obtain ⟨entrants, rfl, inOrder⟩ := readAll_eq_ok reading
  let firsts := Contest.winners (fun entrant => entrant.2.id) entrants
  have candidates : candidates (entrants.map (·.2)) = firsts.map (·.2) :=
    Contest.winners_map _ _
  have rivals : (firsts.map (·.2)).filter RouteFile.participates =
      (firsts.filter fun entrant => entrant.2.participates).map (·.2) :=
    List.filter_map
  have candidate : route ∈ firsts.map (·.2) ↔
      ∃ file, Candidate root files file route := by
    simp only [List.mem_map, firsts, inOrder.mem_winners_id_iff, Prod.exists,
      exists_eq_right]
  have winner : route ∈ Contest.winners urlKey
        ((firsts.map (·.2)).filter RouteFile.participates) ↔
      ∃ file, Prevails root files file route ∧ route.segments.Competes := by
    rw [rivals, Contest.winners_map]
    simp only [List.mem_map, firsts, Function.comp_def, Prod.exists,
      exists_eq_right]
    exact exists_congr fun file => inOrder.mem_winners_urlKey_iff
  rw [survivors, candidates, List.mem_filter, prevails, Bool.or_eq_true,
    decide_eq_true_eq, winner, candidate]
  constructor
  · intro survives
    obtain ⟨⟨file, isCandidate⟩, idle | ⟨winning, prevails, _⟩⟩ := survives
    · refine ⟨file, isCandidate, ?_⟩
      intro competes
      rw [participates_iff.mpr competes] at idle
      cases idle
    · exact ⟨winning, prevails⟩
  · intro prevailing
    obtain ⟨file, prevails⟩ := prevailing
    refine ⟨⟨file, prevails.1⟩, ?_⟩
    by_cases competes : route.segments.Competes
    · exact .inr ⟨file, prevails, competes⟩
    · left
      rw [← participates_iff] at competes
      simpa using competes

theorem RouteFile.parse_id_of_mem_survivors {root : Text} {files : List Text}
    {read : List RouteFile} (reading : readAll root files = .ok read)
    {route : RouteFile} (survives : route ∈ survivors read) :
    Segments.parse route.id = .ok route.segments := by
  apply parse_id_of_mem reading
  exact (survivors_sublist_files read).subset survives

/-- The files of a manifest are the candidates that prevail, each under its own
id.  Every id has one candidate, and every URL that candidates compete for has
one of them that prevails, so no two routes of the manifest compete for a URL.
-/
theorem manifest_holds_first_files {root : Text} {files : List Text}
    {manifest : Manifest} (built : (build root files).outcome = .ok manifest) :
    (∀ path route, Gives root files path route →
      ∃! first : Text × RouteFile,
        Candidate root files first.1 first.2 ∧ first.2.id = route.id) ∧
    (∀ path route, Candidate root files path route →
      route.segments.Competes →
      ∃! winner : Text × RouteFile,
        (Prevails root files winner.1 winner.2 ∧
          winner.2.segments.Competes) ∧
        winner.2.segments.SameUrl route.segments) ∧
    (∀ key file,
      (∃ route, manifest.get? key = some route ∧ route.file = file) ↔
        ∃ path route, Prevails root files path route ∧
          route.id = key ∧ route.file = file) ∧
    ∀ left ∈ manifest.keys, ∀ right ∈ manifest.keys,
      ∀ leftSegments rightSegments,
        Segments.parse left = .ok leftSegments →
        Segments.parse right = .ok rightSegments →
        leftSegments.Competes → rightSegments.Competes →
        leftSegments.SameUrl rightSegments → left = right := by
  obtain ⟨read, reading, rfl⟩ := build_eq_manifest built
  obtain ⟨entrants, _, inOrder⟩ := readAll_eq_ok reading
  have distinct := RouteFile.survivors_ids_nodup read
  have survivorOf : ∀ key ∈
        (RouteFile.manifest (RouteFile.survivors read)).keys,
      ∀ segments, Segments.parse key = .ok segments →
        ∃ route ∈ RouteFile.survivors read,
          route.id = key ∧ route.segments = segments := by
    intro key member segments parsed
    obtain ⟨route, survives, rfl⟩ :=
      List.mem_map.mp ((RouteFile.mem_keys_manifest distinct).mp member)
    have own := RouteFile.parse_id_of_mem_survivors reading survives
    exact ⟨route, survives, rfl, Except.ok.inj (own.symm.trans parsed)⟩
  refine ⟨?_, ?_, ?_, ?_⟩
  · intro path route gives
    exact inOrder.existsUnique_candidate gives
  · intro path route candidate competes
    exact inOrder.existsUnique_prevailing candidate competes
  · intro key file
    rw [RouteFile.manifest_file_iff distinct]
    simp only [RouteFile.mem_survivors_iff reading]
    constructor
    · intro held
      obtain ⟨route, ⟨path, prevails⟩, facts⟩ := held
      exact ⟨path, route, prevails, facts⟩
    · intro given
      obtain ⟨path, route, prevails, facts⟩ := given
      exact ⟨route, ⟨path, prevails⟩, facts⟩
  · intro left leftMember right rightMember leftSegments rightSegments
      leftParsed rightParsed leftCompetes rightCompetes sameUrl
    obtain ⟨leftRoute, leftSurvives, rfl, rfl⟩ :=
      survivorOf left leftMember leftSegments leftParsed
    obtain ⟨rightRoute, rightSurvives, rfl, rfl⟩ :=
      survivorOf right rightMember rightSegments rightParsed
    have same := RouteFile.eq_of_mem_survivors leftSurvives rightSurvives
      (RouteFile.participates_iff.mpr leftCompetes)
      (RouteFile.participates_iff.mpr rightCompetes)
      (RouteFile.urlKey_eq_iff.mpr sameUrl)
    rw [same]

theorem sample_holds_first_file :
    (build [] sampleFiles).outcome = .ok sampleManifest ∧
      ∃ path route, Prevails [] sampleFiles path route ∧
        route.id = "_a.x".toList ∧ route.file = "_a.x.t".toList := by
  have holds := manifest_holds_first_files build_sample
  refine ⟨build_sample, ?_⟩
  apply (holds.2.2.1 "_a.x".toList "_a.x.t".toList).mp
  exact ⟨_, rfl, rfl⟩

end FileRouting
