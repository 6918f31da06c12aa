import FileRouting.Proofs.Conservation

/-!
# Winners that are kept

A conflict names a winner.  The winner of a URL is in the manifest.  The winner
of an id need not be there: conflicts of ids are recorded before URLs are
contested, and nobody revises them when the file that won its id loses its URL.
This is the only way in which a winner can be missing, and a second conflict
then names the same file as a loser.
-/

namespace FileRouting

namespace RouteFile

variable {read : List RouteFile} {conflict : Conflict}

theorem winner_reported {κ : Type} [DecidableEq κ] {key : RouteFile → κ}
    {report : Contest κ RouteFile → Conflict}
    (named : ∀ contest, (report contest).files =
      contest.entrants.map RouteFile.file)
    {routes : List RouteFile}
    (reported : conflict ∈ (Contest.all key routes).map report) :
    ∃ route ∈ Contest.winners key routes, route.file = conflict.winner := by
  obtain ⟨contest, arises, rfl⟩ := List.mem_map.mp reported
  obtain ⟨route, wins, heads⟩ := Contest.exists_winner_of_mem_all arises
  refine ⟨route, wins, ?_⟩
  obtain ⟨later, whole⟩ := List.head?_eq_some_iff.mp heads
  rw [Conflict.winner, named, whole]
  rfl

theorem kind_of_mem_idConflicts (reported : conflict ∈ idConflicts read) :
    conflict.kind = .routeId := by
  obtain ⟨contest, _, rfl⟩ := List.mem_map.mp reported
  rfl

theorem kind_of_mem_urlConflicts (reported : conflict ∈ urlConflicts read) :
    conflict.kind = .url := by
  obtain ⟨contest, _, rfl⟩ := List.mem_map.mp reported
  rfl

theorem mem_urlConflicts_iff :
    conflict ∈ urlConflicts (candidates read) ↔
      conflict ∈ conflicts read ∧ conflict.kind = .url := by
  rw [conflicts, List.mem_append]
  constructor
  · intro reported
    exact ⟨.inr reported, kind_of_mem_urlConflicts reported⟩
  · intro found
    obtain ⟨ofId | ofUrl, isUrl⟩ := found
    · rw [kind_of_mem_idConflicts ofId] at isUrl
      cases isUrl
    · exact ofUrl

theorem url_winner_survives
    (reported : conflict ∈ urlConflicts (candidates read)) :
    ∃ route ∈ survivors read, route.file = conflict.winner := by
  obtain ⟨route, wins, named⟩ := winner_reported (fun _ => rfl) reported
  have competes := (Contest.winners_sublist urlKey _).subset wins
  refine ⟨route, List.mem_filter.mpr ⟨List.mem_of_mem_filter competes, ?_⟩,
    named⟩
  rw [prevails, decide_eq_true wins, Bool.or_true]

theorem winner_is_candidate (reported : conflict ∈ conflicts read) :
    ∃ route ∈ candidates read, route.file = conflict.winner := by
  rcases List.mem_append.mp reported with ofId | ofUrl
  · exact winner_reported (fun _ => rfl) ofId
  · obtain ⟨route, survives, named⟩ := url_winner_survives ofUrl
    exact ⟨route, (survivors_sublist read).subset survives, named⟩

/-- The losers of URLs are the candidates that do not survive. -/
theorem mem_url_losers_iff {name : Text} :
    (∃ other ∈ urlConflicts (candidates read), name ∈ other.losers) ↔
      ∃ route ∈ candidates read, route ∉ survivors read ∧
        route.file = name := by
  let fallen := Contest.losers urlKey [] ((candidates read).filter
    RouteFile.participates)
  have reported : ((urlConflicts (candidates read)).flatMap
      Conflict.losers).Perm (fallen.map RouteFile.file) :=
    losers_reported urlKey (fun _ => rfl) _
  have parts : (survivors read ++ fallen).Perm (candidates read) :=
    survivors_append_losers read
  have distinct : (survivors read ++ fallen).Nodup :=
    parts.nodup_iff.mpr (List.Nodup.of_map _ (candidates_ids_nodup read))
  have member : ∀ route, route ∈ fallen ↔
      route ∈ candidates read ∧ route ∉ survivors read := by
    intro route
    rw [← parts.mem_iff, List.mem_append]
    constructor
    · intro falls
      refine ⟨.inr falls, fun survives => ?_⟩
      exact (List.nodup_append.mp distinct).2.2 route survives route falls rfl
    · exact fun outside => outside.1.resolve_left outside.2
  rw [← List.mem_flatMap, reported.mem_iff, List.mem_map]
  simp only [member, and_assoc]

/-- A file gives one id, so that no two candidates have the same file. -/
theorem eq_of_file_eq {root : Text} {files : List Text}
    (reading : readAll root files = .ok read) {left right : RouteFile}
    (leftMember : left ∈ candidates read)
    (rightMember : right ∈ candidates read) (same : left.file = right.file) :
    left = right := by
  obtain ⟨entrants, rfl, inOrder⟩ := readAll_eq_ok reading
  have id_of : ∀ route ∈ candidates (entrants.map (·.2)),
      route.id = idOf route.file := by
    intro route candidate
    have member := (Contest.winners_sublist RouteFile.id _).subset candidate
    obtain ⟨entrant, entered, rfl⟩ := List.mem_map.mp member
    exact (read_eq_ok_iff.mp ((inOrder.gives entrant).mp entered).2).2.1
  apply List.inj_on_of_nodup_map (candidates_ids_nodup _) leftMember rightMember
  rw [id_of left leftMember, id_of right rightMember, same]

end RouteFile

/-- The winner of a URL is kept.  The winner of any conflict is kept exactly if
no conflict on a URL names it as a loser. -/
theorem winner_kept_iff_url_not_lost {root : Text} {files : List Text}
    {manifest : Manifest} (built : (build root files).outcome = .ok manifest)
    {conflict : Conflict} (reported : conflict ∈ (build root files).conflicts) :
    (conflict.kind = .url →
      conflict.winner ∈ manifest.routes.map Route.file) ∧
    (conflict.winner ∈ manifest.routes.map Route.file ↔
      ∀ other ∈ (build root files).conflicts, other.kind = .url →
        conflict.winner ∉ other.losers) := by
  obtain ⟨read, reading, rfl⟩ := build_eq_manifest built
  rw [build_eq_of_readAll reading] at reported ⊢
  have kept : ∀ name, name ∈ (RouteFile.manifest
        (RouteFile.survivors read)).routes.map Route.file ↔
      ∃ route ∈ RouteFile.survivors read, route.file = name := by
    intro name
    rw [(RouteFile.files_manifest_perm
      (RouteFile.survivors_ids_nodup read)).mem_iff, List.mem_map]
  have lost : (∀ other ∈ RouteFile.conflicts read, other.kind = .url →
        conflict.winner ∉ other.losers) ↔
      ¬ ∃ route ∈ RouteFile.candidates read,
        route ∉ RouteFile.survivors read ∧ route.file = conflict.winner := by
    rw [← RouteFile.mem_url_losers_iff]
    simp only [RouteFile.mem_urlConflicts_iff]
    push Not
    exact forall_congr' fun other => and_imp.symm
  constructor
  · intro isUrl
    rw [kept]
    apply RouteFile.url_winner_survives
    exact RouteFile.mem_urlConflicts_iff.mpr ⟨reported, isUrl⟩
  · rw [kept, lost]
    obtain ⟨winner, candidate, named⟩ :=
      RouteFile.winner_is_candidate reported
    constructor
    · intro survives loses
      obtain ⟨route, survives, isWinner⟩ := survives
      obtain ⟨other, otherCandidate, falls, isOther⟩ := loses
      have member := (RouteFile.survivors_sublist read).subset survives
      have same := RouteFile.eq_of_file_eq reading member otherCandidate
        (isWinner.trans isOther.symm)
      exact falls (same ▸ survives)
    · intro noLoser
      refine ⟨winner, ?_, named⟩
      by_contra falls
      exact noLoser ⟨winner, candidate, falls, named⟩

/-- The conflicts of the rival files.  The file that wins the id loses the URL.
-/
def rivalConflicts : List Conflict :=
  [{ kind := .routeId
     key := "a".toList
     files := ["a.t".toList, "a.t".toList, "a/x.t".toList] },
   { kind := .url
     key := "a".toList
     files := ["_l.a.t".toList, "a.t".toList] }]

theorem conflicts_of_rivals :
    (build "r/".toList rivalFiles).conflicts = rivalConflicts := by
  simp only [build, RouteFile.readAll, collate, Alphabet.sort_eq_insertion,
    Draft.nest, Draft.longestFirst_eq_insertion]
  decide +kernel

/-- The report names a file as kept that is not in the manifest. -/
theorem rival_winner_not_kept :
    (build "r/".toList rivalFiles).outcome = .ok rivalManifest ∧
      ∃ conflict ∈ (build "r/".toList rivalFiles).conflicts,
        conflict.winner ∉ rivalManifest.routes.map Route.file := by
  rw [conflicts_of_rivals]
  exact ⟨build_rivals, by decide⟩

theorem rival_url_winner_kept :
    ∃ conflict ∈ (build "r/".toList rivalFiles).conflicts,
      (build "r/".toList rivalFiles).outcome = .ok rivalManifest ∧
        conflict.kind = .url ∧
        conflict.winner ∈ rivalManifest.routes.map Route.file := by
  let conflict : Conflict :=
    { kind := .url
      key := "a".toList
      files := ["_l.a.t".toList, "a.t".toList] }
  have reported : conflict ∈ (build "r/".toList rivalFiles).conflicts := by
    rw [conflicts_of_rivals]
    decide
  exact ⟨conflict, reported, build_rivals, rfl,
    (winner_kept_iff_url_not_lost build_rivals reported).1 rfl⟩

end FileRouting
