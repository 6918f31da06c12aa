import FileRouting.Proofs.Conservation
import FileRouting.Proofs.InputOrder

/-!
# Rebuilding from the files that were kept

The files of a manifest, put below the root again, build the same manifest
without a conflict.  The first build finds parents while the files that lose are
still there and moves orphans afterwards; the second never sees those files.
Both end with the nearest survivor as the parent, so that leaving the losers out
from the start makes no difference.

Files can be put below a root again only if the root is a text that their paths
begin with.  The roots `.` and `/` are none, and neither is the empty one.
-/

namespace FileRouting

namespace Path

/-- Whether a normal root begins the paths of the files in it, followed by a
slash. -/
def PlainRoot (root : Text) : Prop :=
  root ≠ [] ∧ root ≠ ['.'] ∧ root ≠ ['/']

theorem slashed_slashed (path : Text) :
    slashed (slashed path) = slashed path := by
  rw [slashed, slashed, List.map_map]
  apply List.map_congr_left
  intro c _
  by_cases backslash : c = '\\' <;> simp [backslash]

theorem eq_of_relativeTo?_eq_some {root path relative : Text}
    (plain : PlainRoot root) (nonempty : relative ≠ [])
    (found : relativeTo? root path = some relative) :
    path = root ++ '/' :: relative := by
  obtain ⟨notEmpty, notDot, notSlash⟩ := plain
  simp only [relativeTo?, notEmpty, notDot, notSlash, or_self, if_false]
    at found
  split at found
  · cases found
  · cases found
    exact absurd rfl nonempty
  · next c rest inside =>
      split at found
      · next slash =>
          cases found
          subst slash
          exact (List.isPrefixOf?_eq_some_iff_append_eq.mp inside).symm
      · cases found

end Path

namespace RouteFile

theorem conflicts_eq_nil {routes : List RouteFile}
    (distinctIds : (routes.map RouteFile.id).Nodup)
    (distinctUrls :
      ((routes.filter RouteFile.participates).map urlKey).Nodup) :
    conflicts routes = [] := by
  rw [conflicts, idConflicts, urlConflicts, candidates,
    Contest.winners_eq_self distinctIds, Contest.all_eq_nil distinctIds,
    Contest.all_eq_nil distinctUrls]
  rfl

theorem survivors_eq_self {routes : List RouteFile}
    (distinctIds : (routes.map RouteFile.id).Nodup)
    (distinctUrls :
      ((routes.filter RouteFile.participates).map urlKey).Nodup) :
    survivors routes = routes := by
  rw [survivors, candidates, Contest.winners_eq_self distinctIds]
  apply List.filter_eq_self.mpr
  intro route member
  rw [prevails, Contest.winners_eq_self distinctUrls]
  cases competes : route.participates <;> simp [competes, member]

theorem survivors_urls_nodup (files : List RouteFile) :
    (((survivors files).filter RouteFile.participates).map urlKey).Nodup := by
  have distinct : (survivors files).Nodup :=
    List.Nodup.of_map _ (survivors_ids_nodup files)
  apply List.Nodup.map_on _ (distinct.filter _)
  intro left leftMember right rightMember same
  obtain ⟨leftSurvives, leftCompetes⟩ := List.mem_filter.mp leftMember
  obtain ⟨rightSurvives, rightCompetes⟩ := List.mem_filter.mp rightMember
  exact eq_of_mem_survivors leftSurvives rightSurvives leftCompetes
    rightCompetes same

/-- Some of the routes that were read are read again from their own files. -/
theorem readAll_sublist {root : Text} {files : List Text}
    {read kept : List RouteFile} (reading : readAll root files = .ok read)
    (plain : Path.PlainRoot (Path.root root)) (sublist : kept.Sublist read) :
    readAll root (kept.map fun route => Path.root root ++ '/' :: route.file) =
      .ok kept := by
  obtain ⟨entrants, rfl, inOrder⟩ := readAll_eq_ok reading
  obtain ⟨chosen, chosenSublist, rfl⟩ := List.sublist_map_iff.mp sublist
  have gives : ∀ entrant ∈ chosen, Gives root files entrant.1 entrant.2 := by
    intro entrant member
    exact (inOrder.gives entrant).mp (chosenSublist.subset member)
  have paths : (chosen.map (·.2)).map
        (fun route => Path.root root ++ '/' :: route.file) =
      chosen.map (·.1) := by
    rw [List.map_map]
    apply List.map_congr_left
    intro entrant member
    have accepted := (read_eq_ok_iff.mp (gives entrant member).2).1
    obtain ⟨relative, nonempty⟩ := locate_eq_ok_iff.mp accepted
    exact (Path.eq_of_relativeTo?_eq_some plain nonempty relative).symm
  have slashes : (chosen.map (·.1)).map Path.slashed = chosen.map (·.1) := by
    rw [List.map_map]
    apply List.map_congr_left
    intro entrant member
    obtain ⟨file, _, isFile⟩ := List.mem_map.mp (gives entrant member).1
    rw [Function.comp, ← isFile, Path.slashed_slashed]
  -- The files that are left stand in the order in which they were sorted.
  have sorted : (chosen.map (·.1)).Pairwise Alphabet.unicode.Precedes := by
    apply List.pairwise_map.mpr
    exact inOrder.arrival.sublist chosenSublist
  rw [readAll, paths, slashes, collate, Alphabet.sort_eq_self sorted]
  apply mapM_map_fst
  intro entrant member
  exact (gives entrant member).2

end RouteFile

/-- A build from the files of a manifest returns the manifest once more and
reports no conflict. -/
theorem rebuild_is_fixed_point {root : Text} {files : List Text}
    {manifest : Manifest} (plain : Path.PlainRoot (Path.root root))
    (built : (build root files).outcome = .ok manifest) :
    build root (manifest.routes.map fun route =>
        Path.root root ++ '/' :: route.file) =
      ⟨[], .ok manifest⟩ := by
  obtain ⟨read, reading, rfl⟩ := build_eq_manifest built
  let kept := RouteFile.survivors read
  have distinctIds := RouteFile.survivors_ids_nodup read
  have distinctUrls := RouteFile.survivors_urls_nodup read
  have keptReading := RouteFile.readAll_sublist reading plain
    (RouteFile.survivors_sublist_files read)
  have again : RouteFile.readAll root
      ((RouteFile.manifest kept).routes.map fun route =>
        Path.root root ++ '/' :: route.file) = .ok kept := by
    rw [← keptReading]
    apply RouteFile.readAll_eq_of_perm
    have paths := (RouteFile.files_manifest_perm distinctIds).map fun file =>
      Path.slashed (Path.root root ++ '/' :: file)
    rw [List.map_map, List.map_map] at paths
    rw [List.map_map, List.map_map]
    exact paths
  rw [build_eq_of_readAll again,
    RouteFile.conflicts_eq_nil distinctIds distinctUrls,
    RouteFile.survivors_eq_self distinctIds distinctUrls]

theorem rivals_rebuilt :
    Path.PlainRoot (Path.root "r/".toList) ∧
      (build "r/".toList rivalFiles).outcome = .ok rivalManifest ∧
      build "r/".toList ["r/_l.a.t".toList, "r/a.b.t".toList] =
        ⟨[], .ok rivalManifest⟩ := by
  have plain : Path.PlainRoot (Path.root "r/".toList) := by
    unfold Path.PlainRoot
    decide
  exact ⟨plain, build_rivals, rebuild_is_fixed_point plain build_rivals⟩

end FileRouting
