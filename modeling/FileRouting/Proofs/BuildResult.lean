import FileRouting.Proofs.CollationOrder
import FileRouting.Proofs.ManifestEntries
import FileRouting.Proofs.SurvivingAncestors
import FileRouting.Proofs.Survivors

/-!
# What a build amounts to

A build works with positions, a trie and parents that are moved afterwards.  The
main statement says what comes of this without them: the manifest holds one
route for each survivor, and its parent is the nearest survivor above it.
-/

namespace FileRouting

/-- What a build goes through if it succeeds. -/
theorem build_eq_ok {root : Text} {files : List Text} {manifest : Manifest}
    (built : (build root files).outcome = .ok manifest) :
    ∃ (read : List RouteFile) (nested : List Draft),
      RouteFile.readAll root files = .ok read ∧
        Draft.nest ((RouteFile.candidates read).map fun route =>
          { route, parent := none }) = .ok nested ∧
        manifest = Draft.toManifest
          (Draft.reattach nested (Draft.removed nested))
          (Draft.removed nested) := by
  cases reading : RouteFile.readAll root files with
  | error error =>
      simp [build, reading, bind, Report.andThen, Report.ofExcept] at built
  | ok read =>
      cases nesting : Draft.nest ((RouteFile.candidates read).map fun route =>
          { route, parent := none }) with
      | error error =>
          simp [build, reading, nesting, bind, Report.andThen,
            Report.ofExcept] at built
      | ok nested =>
          refine ⟨read, nested, rfl, nesting, ?_⟩
          simp [build, reading, nesting, bind, Report.andThen,
            Report.ofExcept] at built
          exact built.symm

namespace RouteFile

/-- The entry of one of some routes, finished below the nearest of them. -/
def entryAmong (routes : List RouteFile) (route : RouteFile) : Text × Route :=
  (route.id, route.finish (nearest? routes route.id))

/-- The manifest of some routes. -/
def manifest (routes : List RouteFile) : Manifest :=
  Manifest.ofList (routes.map (entryAmong routes))

variable {files : List RouteFile} {route : RouteFile}

theorem mem_survivors_iff_id (member : route ∈ candidates files) :
    route ∈ survivors files ↔
      route.id ∈ (survivors files).map RouteFile.id := by
  constructor
  · exact fun survives => List.mem_map_of_mem survives
  · intro idMember
    obtain ⟨other, otherSurvives, same⟩ := List.mem_map.mp idMember
    have equal := List.inj_on_of_nodup_map (candidates_ids_nodup files)
      ((survivors_sublist files).subset otherSurvives) member same
    exact equal ▸ otherSurvives

theorem entries_manifest_perm {routes : List RouteFile}
    (distinct : (routes.map RouteFile.id).Nodup) :
    (manifest routes).entries.Perm (routes.map (entryAmong routes)) := by
  apply Manifest.entries_ofList_perm
  rw [List.map_map]
  exact distinct

theorem mem_keys_manifest {routes : List RouteFile}
    (distinct : (routes.map RouteFile.id).Nodup) {key : Text} :
    key ∈ (manifest routes).keys ↔ key ∈ routes.map RouteFile.id := by
  have keys := (entries_manifest_perm distinct).map Prod.fst
  rw [List.map_map] at keys
  exact keys.mem_iff

theorem get?_manifest_eq_some_iff {routes : List RouteFile}
    (distinct : (routes.map RouteFile.id).Nodup) {key : Text} {route : Route} :
    (manifest routes).get? key = some route ↔
      ∃ file ∈ routes, entryAmong routes file = (key, route) := by
  rw [Manifest.get?_eq_some_iff, (entries_manifest_perm distinct).mem_iff,
    List.mem_map]

theorem file_of_get? {routes : List RouteFile}
    (distinct : (routes.map RouteFile.id).Nodup) {key : Text} {route : Route}
    (found : (manifest routes).get? key = some route) :
    ∃ file ∈ routes, file.id = key ∧
      route = file.finish (nearest? routes key) := by
  obtain ⟨file, member, entry⟩ := (get?_manifest_eq_some_iff distinct).mp found
  obtain ⟨rfl, rfl⟩ := Prod.mk.inj entry
  exact ⟨file, member, rfl, rfl⟩

theorem get?_of_mem {routes : List RouteFile}
    (distinct : (routes.map RouteFile.id).Nodup) {file : RouteFile}
    (member : file ∈ routes) :
    (manifest routes).get? file.id =
      some (file.finish (nearest? routes file.id)) :=
  (get?_manifest_eq_some_iff distinct).mpr ⟨file, member, rfl⟩

theorem manifest_file_iff {routes : List RouteFile}
    (distinct : (routes.map RouteFile.id).Nodup) {key file : Text} :
    (∃ route, (manifest routes).get? key = some route ∧ route.file = file) ↔
      ∃ route ∈ routes, route.id = key ∧ route.file = file := by
  simp only [get?_manifest_eq_some_iff distinct, entryAmong, Prod.mk.injEq]
  constructor
  · intro held
    obtain ⟨_, ⟨route, member, sameId, rfl⟩, sameFile⟩ := held
    exact ⟨route, member, sameId, sameFile⟩
  · intro listed
    obtain ⟨route, member, sameId, sameFile⟩ := listed
    exact ⟨_, ⟨route, member, sameId, rfl⟩, sameFile⟩

end RouteFile

namespace Draft

variable {files : List RouteFile} {nested moved : List Draft}

/-- Nesting drafts without parents keeps their routes and finds the nearest
ancestor of each. -/
theorem nest_fresh {routes : List RouteFile}
    (nesting : nest (routes.map fun route => { route, parent := none }) =
      .ok nested) :
    nested.map route = routes ∧ NearestParents nested := by
  have parentless : ∀ draft ∈ routes.map fun route =>
      ({ route, parent := none } : Draft), draft.parent = none := by
    intro draft member
    obtain ⟨route, _, rfl⟩ := List.mem_map.mp member
    rfl
  obtain ⟨sameRoutes, parents⟩ := nest_nearest parentless nesting
  constructor
  · rw [sameRoutes, List.map_map]
    exact List.map_id _
  · rw [NearestParents, ids_eq_map_route, sameRoutes, ← ids_eq_map_route]
    exact parents

/-- The drafts that are kept have the survivors as their routes. -/
theorem notMem_removed_iff_survives
    (routes : nested.map route = RouteFile.candidates files) {draft : Draft}
    {position : Nat} (found : nested[position]? = some draft) :
    position ∉ removed nested ↔ draft.route ∈ RouteFile.survivors files := by
  have distinct : (nested.map route).Nodup :=
    routes ▸ List.Nodup.of_map _ (RouteFile.candidates_ids_nodup files)
  have candidate : draft.route ∈ RouteFile.candidates files :=
    routes ▸ List.mem_map_of_mem (List.mem_of_getElem? found)
  rw [notMem_removed_iff distinct found, routes, RouteFile.survivors,
    List.mem_filter]
  exact (and_iff_right candidate).symm

theorem survivors_subset_ids
    (routes : nested.map route = RouteFile.candidates files) :
    (RouteFile.survivors files).map RouteFile.id ⊆ ids nested := by
  rw [ids_eq_map_route, routes]
  exact ((RouteFile.survivors_sublist files).map _).subset

/-- The routes of the drafts that are left, in their order. -/
theorem routes_kept (routes : nested.map route = RouteFile.candidates files)
    (sameRoutes : moved.map route = nested.map route) :
    (moved.zipIdx.filter fun (_, position) => position ∉ removed nested).map
        (fun entry => entry.1.route) =
      RouteFile.survivors files := by
  let prevails := RouteFile.prevails (RouteFile.candidates files)
  have kept : ∀ entry ∈ moved.zipIdx,
      decide (entry.2 ∉ removed nested) = prevails entry.1.route := by
    intro entry member
    have sameRoute : (nested.map route)[entry.2]? = some entry.1.route := by
      rw [← sameRoutes, List.getElem?_map,
        List.mem_zipIdx_iff_getElem?.mp member]
      rfl
    rw [List.getElem?_map, Option.map_eq_some_iff] at sameRoute
    obtain ⟨draft, found, equal⟩ := sameRoute
    have distinct : (nested.map route).Nodup :=
      routes ▸ List.Nodup.of_map _ (RouteFile.candidates_ids_nodup files)
    have prevailing := notMem_removed_iff distinct found
    rw [equal, routes] at prevailing
    rw [Bool.eq_iff_iff, decide_eq_true_eq]
    exact prevailing
  calc
    (moved.zipIdx.filter fun (_, position) => position ∉ removed nested).map
          (fun entry => entry.1.route) =
        (moved.zipIdx.filter fun entry => prevails entry.1.route).map
          (fun entry => entry.1.route) := congrArg _ (List.filter_congr kept)
    _ = (moved.zipIdx.map fun entry => entry.1.route).filter prevails :=
      by rw [List.filter_map]; rfl
    _ = RouteFile.survivors files := by
      rw [routes_zipIdx, sameRoutes, routes]
      rfl

/-- The route of a draft is finished below the nearest survivor. -/
theorem toRoute_eq_finish
    (routes : nested.map route = RouteFile.candidates files)
    (parents : NearestParents nested)
    (sameRoutes : moved.map route = nested.map route)
    (lands : ∀ position, Lands (parentAt nested) (removed nested)
      (parentAt nested position) (parentAt moved position))
    {draft : Draft} {position : Nat} (found : moved[position]? = some draft) :
    toRoute moved draft = draft.route.finish
      (RouteFile.nearest? (RouteFile.survivors files) draft.route.id) := by
  let kept := (RouteFile.survivors files).map RouteFile.id
  let parent := (draft.parent.bind fun position => moved[position]?).map route
  have sameIds : ids moved = ids nested := by
    rw [ids_eq_map_route, ids_eq_map_route, sameRoutes]
  have keptIff : ∀ position id, (ids nested)[position]? = some id →
      (id ∈ kept ↔ position ∉ removed nested) := by
    intro position id foundId
    rw [ids, List.getElem?_map, Option.map_eq_some_iff] at foundId
    obtain ⟨other, otherFound, rfl⟩ := foundId
    rw [notMem_removed_iff_survives routes otherFound]
    have candidate : other.route ∈ RouteFile.candidates files :=
      routes ▸ List.mem_map_of_mem (List.mem_of_getElem? otherFound)
    exact (RouteFile.mem_survivors_iff_id candidate).symm
  have foundId : (ids nested)[position]? = some draft.route.id := by
    rw [← sameIds, ids, List.getElem?_map, found]
    rfl
  have isParent : parentAt moved position = draft.parent := by
    simp [parentAt, found]
  obtain ⟨nearest, isNearest, leads⟩ := parents.at_position foundId
  obtain ⟨next, nextNearest, nextLeads⟩ := parents.lands_nearest keptIff
    (survivors_subset_ids routes) (lands position) isNearest leads
  rw [isParent] at nextLeads
  have parentId : parent.map RouteFile.id = next := by
    rw [← sameIds] at nextLeads
    rw [← nextLeads.id_eq, Option.map_map]
    rfl
  have survives : ∀ route, parent = some route →
      route ∈ RouteFile.survivors files := by
    intro route isRoute
    obtain ⟨above, aboveFound, rfl⟩ := Option.map_eq_some_iff.mp isRoute
    obtain ⟨place, _, abovePlaced⟩ := Option.bind_eq_some_iff.mp aboveFound
    have candidate : above.route ∈ RouteFile.candidates files := by
      rw [← routes, ← sameRoutes]
      exact List.mem_map_of_mem (List.mem_of_getElem? abovePlaced)
    rw [RouteFile.mem_survivors_iff_id candidate]
    rw [isRoute, Option.map_some] at parentId
    rw [← parentId] at nextNearest
    exact nextNearest.1
  have nearestIs : RouteFile.nearest? (RouteFile.survivors files)
      draft.route.id = parent :=
    RouteFile.nearest?_eq_of_isNearest (RouteFile.survivors_ids_nodup files)
      survives (parentId ▸ nextNearest)
  rw [nearestIs]
  simp only [toRoute, RouteFile.finish, parent]
  cases draft.parent.bind fun position => moved[position]? <;> rfl

end Draft

/-- A successful build returns the manifest of the survivors. -/
theorem build_eq_manifest {root : Text} {files : List Text}
    {manifest : Manifest}
    (built : (build root files).outcome = .ok manifest) :
    ∃ read, RouteFile.readAll root files = .ok read ∧
      manifest = RouteFile.manifest (RouteFile.survivors read) := by
  obtain ⟨read, nested, reading, nesting, rfl⟩ := build_eq_ok built
  refine ⟨read, reading, ?_⟩
  obtain ⟨candidates, nearestParents⟩ := Draft.nest_fresh nesting
  obtain ⟨sameRoutes, lands⟩ :=
    Draft.reattach_lands nearestParents.rooted (Draft.removed nested)
  let entry := RouteFile.entryAmong (RouteFile.survivors read)
  change _ = Manifest.ofList ((RouteFile.survivors read).map entry)
  rw [Draft.toManifest, ← Draft.routes_kept candidates sameRoutes, List.map_map]
  apply congrArg
  apply List.map_congr_left
  intro draft member
  have found := List.mem_zipIdx_iff_getElem?.mp (List.mem_of_mem_filter member)
  exact congrArg (Prod.mk _)
    (Draft.toRoute_eq_finish candidates nearestParents sameRoutes lands found)

theorem Draft.longestFirst_eq_insertion (drafts : List Draft) :
    longestFirst drafts =
      (drafts.zipIdx.insertionSort fun left right : Draft × Nat =>
        Text.byteSize right.1.route.id ≤
          Text.byteSize left.1.route.id).map (·.2) := by
  rw [longestFirst, mergeSort_eq_insertion]
  · simp only [decide_eq_true_eq]
  · intro first second third
    simp only [decide_eq_true_eq]
    exact fun left right => Nat.le_trans right left
  · intro first second
    simp only [Bool.or_eq_true, decide_eq_true_eq]
    exact Nat.le_total _ _

/-- Files of which one loses its URL and leaves a child behind. -/
def sampleFiles : List Text :=
  ["_a.x.t".toList, "_b.t".toList, "_b.x.t".toList, "_b.x.y.t".toList,
    "_b.x.y.z.t".toList]

/-- The manifest of the sample files. -/
def sampleManifest : Manifest where
  entries := [
    ("_a.x".toList,
      ⟨"_a.x.t".toList, "_a.x".toList, some "x".toList, none, none⟩),
    ("_b".toList, ⟨"_b.t".toList, "_b".toList, none, none, none⟩),
    ("_b.x.y".toList,
      ⟨"_b.x.y.t".toList, "_b.x.y".toList, some "x/y".toList, none,
        some "_b".toList⟩),
    ("_b.x.y.z".toList,
      ⟨"_b.x.y.z.t".toList, "_b.x.y.z".toList, some "z".toList, none,
        some "_b.x.y".toList⟩)]
  ascending := by
    unfold RouteEntries.Ascending
    decide

theorem build_sample : (build [] sampleFiles).outcome = .ok sampleManifest := by
  simp only [build, RouteFile.readAll, collate, Alphabet.sort_eq_insertion,
    Draft.nest, Draft.longestFirst_eq_insertion]
  decide +kernel

end FileRouting
