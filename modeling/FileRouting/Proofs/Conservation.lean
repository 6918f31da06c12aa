import FileRouting.Proofs.BuildReport

/-!
# No file is lost

A file leaves a build in one of two contests, for its id or for its URL, and
each contest reports those who lose it.  Counted with repetitions, the files of
the manifest and the losers of all conflicts therefore make up the files that
came in.
-/

namespace FileRouting

namespace RouteFile

/-- Conflicts that name the files of contests name the file of every loser
once. -/
theorem losers_reported {κ : Type} [DecidableEq κ] (key : RouteFile → κ)
    {report : Contest κ RouteFile → Conflict}
    (named : ∀ contest, (report contest).files =
      contest.entrants.map RouteFile.file)
    (routes : List RouteFile) :
    (((Contest.all key routes).map report).flatMap Conflict.losers).Perm
      ((Contest.losers key [] routes).map RouteFile.file) := by
  have files : ((Contest.all key routes).map report).flatMap Conflict.losers =
      ((Contest.all key routes).flatMap fun contest =>
        contest.entrants.tail).map RouteFile.file := by
    simp only [List.flatMap_map, List.map_flatMap, Conflict.losers, named,
      List.map_tail]
  rw [files]
  exact (Contest.flatMap_tail_perm_losers key routes).map RouteFile.file

/-- The candidates that do not survive are those that lose their URL. -/
theorem survivors_append_losers (files : List RouteFile) :
    (survivors files ++
      Contest.losers urlKey [] ((candidates files).filter
        RouteFile.participates)).Perm (candidates files) := by
  let entrants := (candidates files).filter RouteFile.participates
  let fallen := (candidates files).filter fun route =>
    !prevails (candidates files) route
  have distinct : (candidates files).Nodup :=
    List.Nodup.of_map _ (candidates_ids_nodup files)
  have entrantsDistinct : entrants.Nodup := distinct.filter _
  have losersDistinct : (Contest.losers urlKey [] entrants).Nodup := by
    have all := Contest.losers_append_winners urlKey entrants
    exact (List.nodup_append.mp (all.nodup_iff.mpr entrantsDistinct)).1
  -- No route occurs twice, so that it is enough to compare members.
  have lost : (Contest.losers urlKey [] entrants).Perm fallen := by
    apply (List.perm_ext_iff_of_nodup losersDistinct (distinct.filter _)).mpr
    intro route
    rw [Contest.mem_losers_iff entrantsDistinct, List.mem_filter,
      List.mem_filter, prevails]
    cases route.participates <;> simp [entrants]
  exact (lost.append_left _).trans
    (List.filter_append_perm (prevails (candidates files)) (candidates files))

theorem survivors_append_reported (files : List RouteFile) :
    ((survivors files).map RouteFile.file ++
      (conflicts files).flatMap Conflict.losers).Perm
      (files.map RouteFile.file) := by
  let ids := Contest.losers RouteFile.id [] files
  let urls := Contest.losers urlKey [] ((candidates files).filter
    RouteFile.participates)
  have idLosers : ((idConflicts files).flatMap Conflict.losers).Perm
      (ids.map RouteFile.file) :=
    losers_reported RouteFile.id (fun _ => rfl) files
  have urlLosers :
      ((urlConflicts (candidates files)).flatMap Conflict.losers).Perm
        (urls.map RouteFile.file) :=
    losers_reported urlKey (fun _ => rfl) _
  have reported : ((conflicts files).flatMap Conflict.losers).Perm
      ((urls ++ ids).map RouteFile.file) := by
    rw [conflicts, List.flatMap_append, List.map_append]
    exact (idLosers.append urlLosers).trans List.perm_append_comm
  have all : (survivors files ++ (urls ++ ids)).Perm files := by
    rw [← List.append_assoc]
    calc
      (survivors files ++ urls ++ ids).Perm (candidates files ++ ids) :=
        (survivors_append_losers files).append_right ids
      _ |>.Perm (ids ++ candidates files) := List.perm_append_comm
      _ |>.Perm files := Contest.losers_append_winners RouteFile.id files
  have mapped := all.map RouteFile.file
  rw [List.map_append] at mapped
  exact (reported.append_left _).trans mapped

theorem mem_routes_manifest {routes : List RouteFile}
    (distinct : (routes.map RouteFile.id).Nodup) {route : Route} :
    route ∈ (manifest routes).routes ↔
      ∃ file ∈ routes, file.finish (nearest? routes file.id) = route := by
  have entries := (entries_manifest_perm distinct).map Prod.snd
  rw [List.map_map] at entries
  rw [Manifest.routes, entries.mem_iff, List.mem_map]
  rfl

theorem files_manifest_perm {routes : List RouteFile}
    (distinct : (routes.map RouteFile.id).Nodup) :
    ((manifest routes).routes.map Route.file).Perm
      (routes.map RouteFile.file) := by
  have entries := (entries_manifest_perm distinct).map fun entry => entry.2.file
  rw [List.map_map] at entries
  rw [Manifest.routes, List.map_map]
  exact entries

theorem files_of_readAll {root : Text} {files : List Text}
    {read : List RouteFile} (reading : readAll root files = .ok read) :
    (files.map fun file =>
      Path.relativeTo? (Path.root root) (Path.slashed file)).Perm
        ((read.map RouteFile.file).map some) := by
  obtain ⟨pairs, firsts, rfl, reads⟩ := mapM_eq_ok reading
  have located : ∀ pair ∈ pairs,
      Path.relativeTo? (Path.root root) pair.1 = some pair.2.file := by
    intro pair member
    have accepted := (read_eq_ok_iff.mp (reads pair member)).1
    exact (locate_eq_ok_iff.mp accepted).1
  have sorted : (pairs.map (·.1)).Perm (files.map Path.slashed) := by
    rw [firsts]
    exact Alphabet.sort_perm _
  have relative :
      (pairs.map (·.1)).map (Path.relativeTo? (Path.root root)) =
        ((pairs.map (·.2)).map RouteFile.file).map some := by
    simp only [List.map_map]
    exact List.map_congr_left located
  have given := sorted.symm.map (Path.relativeTo? (Path.root root))
  rw [relative, List.map_map] at given
  exact given

end RouteFile

/-- Counted with repetitions, the files of a manifest and the losers of the
conflicts that were reported are the files that were given, relative to the
root. -/
theorem every_file_kept_or_reported {root : Text} {files : List Text}
    {manifest : Manifest} (built : (build root files).outcome = .ok manifest) :
    (files.map fun file =>
      Path.relativeTo? (Path.root root) (Path.slashed file)).Perm
        ((manifest.routes.map Route.file ++
          (build root files).conflicts.flatMap Conflict.losers).map some) := by
  obtain ⟨read, reading, rfl⟩ := build_eq_manifest built
  rw [build_eq_of_readAll reading]
  have kept :=
    RouteFile.files_manifest_perm (RouteFile.survivors_ids_nodup read)
  have all := (kept.append_right _).trans
    (RouteFile.survivors_append_reported read)
  exact (RouteFile.files_of_readAll reading).trans (all.symm.map some)

theorem every_rival_kept_or_reported :
    (build "r/".toList rivalFiles).outcome = .ok rivalManifest ∧
      [some "a.t".toList, some "a.t".toList, some "a/x.t".toList,
        some "_l.a.t".toList, some "a.b.t".toList].Perm
        ((["_l.a.t".toList, "a.b.t".toList] ++
          (build "r/".toList rivalFiles).conflicts.flatMap
            Conflict.losers).map some) :=
  ⟨build_rivals, every_file_kept_or_reported build_rivals⟩

end FileRouting
