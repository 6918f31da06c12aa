import FileRouting.Proofs.FullPaths

/-!
# A manifest as a forest

In a manifest that was built, routes are found under their own ids, and the id of
a parent is a shorter key.  Nothing more is needed to see the routes as a forest:
every way upwards ends at a root, a child leads back to the route it is a child
of, and both ascents and descents are bounded by the number of routes.
-/

namespace FileRouting

/-- Whether routes are listed in ascending order of their ids. -/
def InIdOrder (routes : List Route) : Prop :=
  (routes.map Route.id).Pairwise fun earlier later => earlier < later

instance : DecidablePred InIdOrder := fun _ =>
  inferInstanceAs (Decidable (List.Pairwise _ _))

theorem InIdOrder.nodup {routes : List Route} (ordered : InIdOrder routes) :
    routes.Nodup := by
  apply List.Nodup.of_map Route.id
  apply ordered.imp
  intro earlier later less same
  exact List.lt_irrefl _ (same ▸ less)

theorem InIdOrder.filter {routes : List Route} (ordered : InIdOrder routes)
    (keep : Route → Bool) : InIdOrder (routes.filter keep) :=
  List.Pairwise.sublist (List.filter_sublist.map Route.id) ordered

namespace Manifest

/-- The conditions under which parents make a forest of the routes. -/
structure Nested (manifest : Manifest) : Prop where
  keyed : ∀ key route, manifest.get? key = some route → route.id = key
  present : ∀ key parent, manifest.HasParent key parent →
    parent ∈ manifest.keys
  shorter : ∀ key parent, manifest.HasParent key parent →
    parent.length < key.length

variable {manifest : Manifest} {route child : Route}

theorem exists_get?_of_mem_keys {key : Text} (listed : key ∈ manifest.keys) :
    ∃ route, manifest.get? key = some route := by
  obtain ⟨entry, member, rfl⟩ := List.mem_map.mp listed
  exact ⟨entry.2, get?_eq_some_iff.mpr member⟩

theorem mem_roots_iff :
    route ∈ manifest.roots ↔
      route ∈ manifest.routes ∧ route.parentId = none := by
  simp [roots]

theorem mem_children_iff {id : Text} :
    child ∈ manifest.children id ↔
      child ∈ manifest.routes ∧ child.parentId = some id := by
  simp [children]

theorem roots_subset : manifest.roots ⊆ manifest.routes :=
  List.filter_subset_self _

theorem children_subset {id : Text} :
    manifest.children id ⊆ manifest.routes :=
  List.filter_subset_self _

/-- Number of keys longer than a text. -/
def longerKeys (manifest : Manifest) (text : Text) : Nat :=
  manifest.keys.countP fun key => text.length < key.length

theorem longerKeys_lt {upper lower : Text} (listed : lower ∈ manifest.keys)
    (shorter : upper.length < lower.length) :
    manifest.longerKeys lower < manifest.longerKeys upper := by
  apply countP_lt_countP _ listed (by simpa using shorter) (by simp)
  intro other _ longer
  simp only [decide_eq_true_eq] at longer ⊢
  exact Nat.lt_trans shorter longer

theorem longerKeys_lt_size {key : Text} (listed : key ∈ manifest.keys) :
    manifest.longerKeys key < manifest.size := by
  have fewer : manifest.longerKeys key < manifest.keys.countP fun _ => true :=
    countP_lt_countP (by simp) listed rfl (by simp)
  simpa [size, keys] using fewer

namespace Nested

variable (nested : manifest.Nested)
include nested

theorem mem_routes_iff :
    route ∈ manifest.routes ↔ manifest.get? route.id = some route := by
  constructor
  · intro listed
    obtain ⟨entry, member, rfl⟩ := List.mem_map.mp listed
    have found := get?_eq_some_iff.mpr member
    rw [nested.keyed entry.1 entry.2 found]
    exact found
  · intro found
    exact List.mem_map_of_mem (get?_eq_some_iff.mp found)

theorem id_mem_keys (listed : route ∈ manifest.routes) :
    route.id ∈ manifest.keys :=
  List.mem_map_of_mem (get?_eq_some_iff.mp (nested.mem_routes_iff.mp listed))

theorem routes_inIdOrder : InIdOrder manifest.routes := by
  rw [InIdOrder, routes, List.map_map, List.pairwise_map]
  apply manifest.ascending.imp_of_mem
  intro earlier later member laterMember less
  have key := nested.keyed earlier.1 earlier.2 (get?_eq_some_iff.mpr member)
  have laterKey :=
    nested.keyed later.1 later.2 (get?_eq_some_iff.mpr laterMember)
  simpa [key, laterKey] using less

theorem parent?_of_mem_children (listed : route ∈ manifest.routes)
    (isChild : child ∈ manifest.children route.id) :
    manifest.parent? child = some route := by
  rw [parent?, (mem_children_iff.mp isChild).2]
  exact nested.mem_routes_iff.mp listed

theorem length_lt_of_mem_children (isChild : child ∈ manifest.children route.id) :
    route.id.length < child.id.length := by
  obtain ⟨listed, isParent⟩ := mem_children_iff.mp isChild
  exact nested.shorter child.id route.id
    ⟨child, nested.mem_routes_iff.mp listed, isParent⟩

/-- A route is a root or the child of another route. -/
theorem root_or_child (listed : route ∈ manifest.routes) :
    (route ∈ manifest.roots ∧ manifest.parent? route = none) ∨
      ∃ parent ∈ manifest.routes, manifest.parent? route = some parent ∧
        route ∈ manifest.children parent.id := by
  cases isParent : route.parentId with
  | none =>
      left
      exact ⟨mem_roots_iff.mpr ⟨listed, isParent⟩, by simp [parent?, isParent]⟩
  | some id =>
      right
      have found := nested.mem_routes_iff.mp listed
      obtain ⟨parent, parentFound⟩ := exists_get?_of_mem_keys
        (nested.present route.id id ⟨route, found, isParent⟩)
      have same := nested.keyed id parent parentFound
      subst same
      refine ⟨parent, nested.mem_routes_iff.mpr parentFound, ?_, ?_⟩
      · rw [parent?, isParent]
        exact parentFound
      · exact mem_children_iff.mpr ⟨listed, isParent⟩

theorem exists_ascent (listed : route ∈ manifest.routes) :
    ∃ ancestors,
      Ascent manifest.parent? (manifest.parent? route) ancestors := by
  have climbs : ∀ item, item ∈ manifest.routes → ∀ parent,
      manifest.parent? item = some parent →
        parent ∈ manifest.routes ∧ parent.id.length < item.id.length := by
    intro item itemListed parent isParent
    rcases nested.root_or_child itemListed with ⟨_, none⟩ | child
    · rw [none] at isParent
      cases isParent
    · obtain ⟨other, otherListed, isOther, isChild⟩ := child
      cases isOther.symm.trans isParent
      exact ⟨otherListed, nested.length_lt_of_mem_children isChild⟩
  exact Ascent.exists_of_rank _ (fun item => item.id.length) climbs
    fun parent isParent => (climbs route listed parent isParent).1

theorem shorterKeys_lt_of_mem_children (listed : route ∈ manifest.routes)
    (isChild : child ∈ manifest.children route.id) :
    manifest.shorterKeys route.id < manifest.shorterKeys child.id :=
  shorterKeys_lt (nested.mem_routes_iff.mp listed)
    (nested.length_lt_of_mem_children isChild)

/-- The bound on the number of ancestors cuts no way short. -/
theorem lineage_eq_reverse {bound : Nat} {ancestors : List Route}
    (listed : route ∈ manifest.routes)
    (ascent : Ascent manifest.parent? (manifest.parent? route) ancestors)
    (enough : manifest.shorterKeys route.id ≤ bound) :
    manifest.lineage bound route = (route :: ancestors).reverse := by
  induction bound generalizing route ancestors with
  | zero =>
      rcases nested.root_or_child listed with ⟨_, none⟩ | child
      · rw [none] at ascent
        cases ascent
        rfl
      · obtain ⟨parent, parentListed, _, isChild⟩ := child
        have fewer := nested.shorterKeys_lt_of_mem_children parentListed isChild
        omega
  | succ bound induction =>
      rcases nested.root_or_child listed with ⟨_, none⟩ | child
      · rw [none] at ascent
        cases ascent
        rw [lineage, none]
        rfl
      · obtain ⟨parent, parentListed, isParent, isChild⟩ := child
        have fewer := nested.shorterKeys_lt_of_mem_children parentListed isChild
        rw [isParent] at ascent
        cases ascent with
        | up ascent =>
            have above := induction parentListed ascent (by omega)
            simp only [lineage, isParent, above, List.reverse_cons]

end Nested

theorem nested_of_built {root : Text} {files : List Text}
    (built : (build root files).outcome = .ok manifest) : manifest.Nested := by
  obtain ⟨read, _, rfl⟩ := build_eq_manifest built
  have distinct := RouteFile.survivors_ids_nodup read
  have nearest : ∀ key parent,
      (RouteFile.manifest (RouteFile.survivors read)).HasParent key parent →
        parent ∈ (RouteFile.manifest (RouteFile.survivors read)).keys ∧
          Below parent key := by
    intro key parent hasParent
    obtain ⟨route, found, isParent⟩ := hasParent
    obtain ⟨rfl, isNearest⟩ := RouteFile.parentId_isNearest distinct found
    rw [isParent] at isNearest
    exact ⟨isNearest.1, isNearest.2.1⟩
  constructor
  · intro key route found
    exact (RouteFile.parentId_isNearest distinct found).1
  · intro key parent hasParent
    exact (nearest key parent hasParent).1
  · intro key parent hasParent
    exact (nearest key parent hasParent).2.length_lt

end Manifest

end FileRouting
