import FileRouting.Proofs.Ascents
import FileRouting.Proofs.BuildResult

/-!
# Parents in a manifest

The parent of a route in a manifest is the nearest id above it that the
manifest has.  A parent is therefore never missing from the manifest, and the
way from a route to its parent never leads back, because it leads to shorter
ids only.
-/

namespace FileRouting

/-- Whether the route of a key has a given parent. -/
def Manifest.HasParent (manifest : Manifest) (key parent : Text) : Prop :=
  ∃ route, manifest.get? key = some route ∧ route.parentId = some parent

theorem IsNearest.eq_some_iff {ids : List Text} {id : Text}
    {nearest : Option Text} (found : IsNearest ids id nearest) {upper : Text} :
    nearest = some upper ↔ IsNearest ids id (some upper) := by
  constructor
  · exact fun equal => equal ▸ found
  · exact fun other => found.unique other

theorem IsNearest.eq_none_iff {ids : List Text} {id : Text}
    {nearest : Option Text} (found : IsNearest ids id nearest) :
    nearest = none ↔ IsNearest ids id none := by
  constructor
  · exact fun equal => equal ▸ found
  · exact fun other => found.unique other

theorem RouteFile.parentId_isNearest {routes : List RouteFile}
    (distinct : (routes.map RouteFile.id).Nodup) {key : Text} {route : Route}
    (found : (manifest routes).get? key = some route) :
    route.id = key ∧
      IsNearest (manifest routes).keys route.id route.parentId := by
  obtain ⟨file, _, rfl, rfl⟩ := file_of_get? distinct found
  refine ⟨rfl, ?_⟩
  apply (nearest?_isNearest routes file.id).congr
  intro id
  exact (mem_keys_manifest distinct).symm

theorem Manifest.length_lt_of_transGen {manifest : Manifest}
    (shorter : ∀ key parent, manifest.HasParent key parent →
      parent.length < key.length) {key upper : Text}
    (ascent : Relation.TransGen manifest.HasParent key upper) :
    upper.length < key.length :=
  rank_lt_of_transGen shorter ascent

/-- The parent of a route is the longest id of the manifest that the id of the
route continues with `.` or `/`, and it is absent only if there is none.  So no
ascent from parent to parent returns. -/
theorem parent_is_nearest_in_manifest {root : Text} {files : List Text}
    {manifest : Manifest} (built : (build root files).outcome = .ok manifest) :
    (∀ key route, manifest.get? key = some route →
      route.id = key ∧
      (∀ parent, route.parentId = some parent ↔
        parent ∈ manifest.keys ∧ Below parent route.id ∧
          ∀ upper ∈ manifest.keys, Below upper route.id →
            upper.length ≤ parent.length) ∧
      (route.parentId = none ↔
        ∀ upper ∈ manifest.keys, ¬ Below upper route.id)) ∧
    ∀ key, ¬ Relation.TransGen manifest.HasParent key key := by
  obtain ⟨read, _, rfl⟩ := build_eq_manifest built
  have distinct := RouteFile.survivors_ids_nodup read
  constructor
  · intro key route found
    obtain ⟨same, nearest⟩ := RouteFile.parentId_isNearest distinct found
    exact ⟨same, fun parent => nearest.eq_some_iff, nearest.eq_none_iff⟩
  · intro key cycle
    apply Nat.lt_irrefl key.length
    apply Manifest.length_lt_of_transGen _ cycle
    intro lower upper hasParent
    obtain ⟨route, found, isParent⟩ := hasParent
    obtain ⟨rfl, nearest⟩ := RouteFile.parentId_isNearest distinct found
    exact (nearest.eq_some_iff.mp isParent).2.1.length_lt

theorem parent_is_nearest_in_sample :
    (build [] sampleFiles).outcome = .ok sampleManifest ∧
      "_b".toList ∈ sampleManifest.keys ∧
      Below "_b".toList "_b.x.y".toList ∧
      ∀ upper ∈ sampleManifest.keys, Below upper "_b.x.y".toList →
        upper.length ≤ 2 := by
  have nearest := (parent_is_nearest_in_manifest build_sample).1
    "_b.x.y".toList _ rfl
  exact ⟨build_sample, (nearest.2.1 "_b".toList).mp rfl⟩

end FileRouting
