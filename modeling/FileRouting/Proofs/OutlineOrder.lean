import FileRouting.Outline
import FileRouting.Proofs.ManifestForest

/-!
# The order of an outline

The outline of a forest lists it in pre-order.  This is told by a relation that
knows no bound on generations: a list of siblings is laid out by laying out the
first of them, one level deeper all its children, and then the other siblings.

Every item is reached through one of the siblings, on a way that is as long as
the item is deep.  Since only one way leads upwards from a route, no route is
reached through two siblings, and none is listed twice.
-/

namespace FileRouting

namespace Manifest

/-- The items that siblings at a depth give: each sibling is followed by all that
its children give one level deeper, before the next sibling. -/
inductive PreOrder (manifest : Manifest) :
    Nat → List Route → List OutlineItem → Prop where
  | nil {depth : Nat} : PreOrder manifest depth [] []
  | cons {depth : Nat} {route : Route} {later : List Route}
      {below after : List OutlineItem} :
      PreOrder manifest (depth + 1) (manifest.children route.id) below →
      PreOrder manifest depth later after →
      PreOrder manifest depth (route :: later)
        ({ depth, route } :: (below ++ after))

/-- What a line says about a route, whatever its depth. -/
def outlineEntry (manifest : Manifest) (colour : Bool) (route : Route) : Text :=
  Style.bold.apply colour route.id ++ [' ', ' '] ++
    Style.cyan.apply colour ((manifest.fullPath? route.id).getD ['/']) ++
    outlineNote colour route ++ [' ', ' '] ++
    Style.dimmed.apply colour route.file ++ ['\n']

/-- A line is indented by two spaces for its route and each of its ancestors. -/
def indentedEntry (manifest : Manifest) (colour : Bool) (item : OutlineItem) :
    Text :=
  List.replicate (2 * (1 + item.depth)) ' ' ++
    manifest.outlineEntry colour item.route

theorem outlineText_eq (manifest : Manifest) (colour : Bool) :
    manifest.outlineText colour =
      (manifest.outline.map (manifest.indentedEntry colour)).flatten := by
  rw [outlineText, List.flatMap_def]
  congr 2
  funext item
  simp only [outlineLine, indentedEntry, outlineEntry, List.append_assoc,
    Nat.add_comm 1]

/-- What a line without colours says after the URL of a route. -/
def plainNote (route : Route) : Text :=
  if route.isIndex then " (index)".toList
  else if route.path = none then " (layout)".toList
  else []

/-- The line of an item where no colours are wanted: the id of the route, its
URL, what kind of route it is, and its file. -/
def plainLine (manifest : Manifest) (item : OutlineItem) : Text :=
  List.replicate (2 * (1 + item.depth)) ' ' ++ item.route.id ++ [' ', ' '] ++
    (manifest.fullPath? item.route.id).getD ['/'] ++ plainNote item.route ++
    [' ', ' '] ++ item.route.file ++ ['\n']

theorem outlineNote_plain (route : Route) :
    outlineNote false route = plainNote route := by
  unfold outlineNote plainNote
  split
  · rfl
  · split <;> rfl

theorem indentedEntry_plain (manifest : Manifest) (item : OutlineItem) :
    manifest.indentedEntry false item = manifest.plainLine item := by
  simp only [indentedEntry, outlineEntry, plainLine, outlineNote_plain,
    Style.apply_false, List.append_assoc]

/-- Whether an item lies in the subtree of a sibling whose ancestors are given,
and is as deep as its way upwards is long. -/
def Through (manifest : Manifest) (above : List Route) (sibling : Route)
    (item : OutlineItem) : Prop :=
  ∃ between,
    Ascent manifest.parent? (some item.route) (between ++ sibling :: above) ∧
      item.depth = between.length + above.length

variable {manifest : Manifest}

namespace Through

variable {above : List Route} {sibling other : Route}
  {item otherItem : OutlineItem}

theorem self {depth : Nat} (deep : depth = above.length)
    (ascent : Ascent manifest.parent? (manifest.parent? sibling) above) :
    manifest.Through above sibling ⟨depth, sibling⟩ :=
  ⟨[], .up ascent, by simpa using deep⟩

/-- What lies below a child lies below its parent. -/
theorem of_child {child : Route}
    (through : manifest.Through (sibling :: above) child item) :
    manifest.Through above sibling item := by
  obtain ⟨between, ascent, deep⟩ := through
  refine ⟨between ++ [child], by simpa using ascent, ?_⟩
  rw [deep, List.length_cons, List.length_append, List.length_singleton]
  omega

/-- No route is reached through two siblings. -/
theorem sibling_eq (left : manifest.Through above sibling item)
    (right : manifest.Through above other otherItem)
    (same : item.route = otherItem.route) : sibling = other := by
  obtain ⟨between, ascent, _⟩ := left
  obtain ⟨otherBetween, otherAscent, _⟩ := right
  rw [same] at ascent
  have ends := List.append_inj_right' (ascent.unique otherAscent) rfl
  exact (List.cons.inj ends).1

/-- The items of a route are equally deep. -/
theorem depth_eq (left : manifest.Through above sibling item)
    (right : manifest.Through above other otherItem)
    (same : item.route = otherItem.route) : item.depth = otherItem.depth := by
  obtain ⟨between, ascent, deep⟩ := left
  obtain ⟨otherBetween, otherAscent, otherDeep⟩ := right
  rw [same] at ascent
  have long := congrArg List.length (ascent.unique otherAscent)
  simp only [List.length_append, List.length_cons] at long
  omega

end Through

namespace PreOrder

variable {depth : Nat} {siblings : List Route} {items : List OutlineItem}

theorem unique (laid : PreOrder manifest depth siblings items)
    {others : List OutlineItem}
    (otherwise : PreOrder manifest depth siblings others) : items = others := by
  induction laid generalizing others with
  | nil =>
      cases otherwise
      rfl
  | cons _ _ belowInduction laterInduction =>
      cases otherwise with
      | cons below after =>
          rw [belowInduction below, laterInduction after]

theorem depth_le (laid : PreOrder manifest depth siblings items) :
    ∀ item ∈ items, depth ≤ item.depth := by
  induction laid with
  | nil => simp
  | cons _ _ belowInduction laterInduction =>
      intro item member
      rcases List.mem_cons.mp member with rfl | rest
      · exact Nat.le_refl _
      · rcases List.mem_append.mp rest with below | after
        · exact Nat.le_of_succ_le (belowInduction item below)
        · exact laterInduction item after

theorem sibling_listed (laid : PreOrder manifest depth siblings items) :
    ∀ route ∈ siblings, ∃ item ∈ items, item.route = route := by
  induction laid with
  | nil => simp
  | @cons depth route later below after _ _ _ laterInduction =>
      intro sibling member
      rcases List.mem_cons.mp member with rfl | isLater
      · exact ⟨_, List.mem_cons_self, rfl⟩
      · obtain ⟨item, listed, same⟩ := laterInduction sibling isLater
        exact ⟨item, List.mem_cons_of_mem _ (List.mem_append_right _ listed),
          same⟩

theorem child_listed (laid : PreOrder manifest depth siblings items) :
    ∀ item ∈ items, ∀ child ∈ manifest.children item.route.id,
      ∃ lower ∈ items, lower.route = child := by
  induction laid with
  | nil => simp
  | @cons depth route later below after laidBelow _ belowInduction
      laterInduction =>
      intro item member child isChild
      have within : ∀ lower, lower ∈ below ∨ lower ∈ after →
          lower ∈ ⟨depth, route⟩ :: (below ++ after) := fun lower listed =>
        List.mem_cons_of_mem _ (List.mem_append.mpr listed)
      rcases List.mem_cons.mp member with rfl | rest
      · obtain ⟨lower, listed, same⟩ := laidBelow.sibling_listed child isChild
        exact ⟨lower, within lower (.inl listed), same⟩
      · rcases List.mem_append.mp rest with isBelow | isAfter
        · obtain ⟨lower, listed, same⟩ :=
            belowInduction item isBelow child isChild
          exact ⟨lower, within lower (.inl listed), same⟩
        · obtain ⟨lower, listed, same⟩ :=
            laterInduction item isAfter child isChild
          exact ⟨lower, within lower (.inr listed), same⟩

theorem route_mem_routes (laid : PreOrder manifest depth siblings items)
    (inside : siblings ⊆ manifest.routes) :
    ∀ item ∈ items, item.route ∈ manifest.routes := by
  induction laid with
  | nil => simp
  | cons _ _ belowInduction laterInduction =>
      obtain ⟨isRoute, laterInside⟩ := List.cons_subset.mp inside
      intro item member
      rcases List.mem_cons.mp member with rfl | rest
      · exact isRoute
      · rcases List.mem_append.mp rest with below | after
        · exact belowInduction children_subset item below
        · exact laterInduction laterInside item after

end PreOrder

/-- Whether routes of a manifest are different and have the same ancestors. -/
structure Siblings (manifest : Manifest) (above siblings : List Route) :
    Prop where
  inside : siblings ⊆ manifest.routes
  distinct : siblings.Nodup
  ascents : ∀ sibling ∈ siblings,
    Ascent manifest.parent? (manifest.parent? sibling) above

theorem Siblings.tail {above later : List Route} {route : Route}
    (together : manifest.Siblings above (route :: later)) :
    manifest.Siblings above later where
  inside := (List.cons_subset.mp together.inside).2
  distinct := (List.nodup_cons.mp together.distinct).2
  ascents := fun sibling listed =>
    together.ascents sibling (List.mem_cons_of_mem _ listed)

namespace Nested

variable (nested : manifest.Nested)
include nested

theorem roots_siblings : manifest.Siblings [] manifest.roots where
  inside := roots_subset
  distinct := nested.routes_inIdOrder.nodup.filter _
  ascents := by
    intro root isRoot
    rw [parent?, (mem_roots_iff.mp isRoot).2]
    exact .top

theorem children_siblings {above : List Route} {route : Route}
    (listed : route ∈ manifest.routes)
    (ascent : Ascent manifest.parent? (manifest.parent? route) above) :
    manifest.Siblings (route :: above) (manifest.children route.id) where
  inside := children_subset
  distinct := nested.routes_inIdOrder.nodup.filter _
  ascents := by
    intro child isChild
    rw [nested.parent?_of_mem_children listed isChild]
    exact .up ascent

/-- Children have longer ids than their parent, so that the bound on generations
lasts until there are no more children. -/
theorem preOrder_outlineFrom {generations depth : Nat} {siblings : List Route}
    (inside : siblings ⊆ manifest.routes)
    (enough : ∀ sibling ∈ siblings,
      manifest.longerKeys sibling.id < generations) :
    PreOrder manifest depth siblings
      (siblings.flatMap (manifest.outlineFrom generations depth)) := by
  induction generations generalizing depth siblings with
  | zero =>
      cases siblings with
      | nil => exact .nil
      | cons route later =>
          exact absurd (enough route List.mem_cons_self) (Nat.not_lt_zero _)
  | succ generations childrenInduction =>
      induction siblings with
      | nil => exact .nil
      | cons route later laterInduction =>
          have laterLaid := laterInduction (List.cons_subset.mp inside).2
            fun sibling listed =>
              enough sibling (List.mem_cons_of_mem _ listed)
          refine .cons (childrenInduction children_subset ?_) laterLaid
          intro child isChild
          have fewer := longerKeys_lt
            (nested.id_mem_keys (children_subset isChild))
            (nested.length_lt_of_mem_children isChild)
          have bound := enough route List.mem_cons_self
          omega

theorem preOrder_outline :
    PreOrder manifest 0 manifest.roots manifest.outline := by
  apply nested.preOrder_outlineFrom roots_subset
  intro root isRoot
  exact longerKeys_lt_size (nested.id_mem_keys (roots_subset isRoot))

end Nested

namespace PreOrder

variable {depth : Nat} {siblings above : List Route} {items : List OutlineItem}

section Nested

variable (nested : manifest.Nested)
include nested

/-- Every item is reached through one of the siblings. -/
theorem through (laid : PreOrder manifest depth siblings items)
    (deep : depth = above.length)
    (together : manifest.Siblings above siblings) :
    ∀ item ∈ items, ∃ sibling ∈ siblings,
      manifest.Through above sibling item := by
  induction laid generalizing above with
  | nil => simp
  | @cons depth route later below after _ _ belowInduction laterInduction =>
      have ascent := together.ascents route List.mem_cons_self
      have children := nested.children_siblings
        (together.inside List.mem_cons_self) ascent
      intro item member
      rcases List.mem_cons.mp member with rfl | rest
      · exact ⟨route, List.mem_cons_self, .self deep ascent⟩
      · rcases List.mem_append.mp rest with isBelow | isAfter
        · obtain ⟨child, _, reached⟩ :=
            belowInduction (by simp [deep]) children item isBelow
          exact ⟨route, List.mem_cons_self, reached.of_child⟩
        · obtain ⟨sibling, listed, reached⟩ :=
            laterInduction deep together.tail item isAfter
          exact ⟨sibling, List.mem_cons_of_mem _ listed, reached⟩

/-- What the children of a route give lies below the route. -/
theorem below_through {route : Route} {below : List OutlineItem}
    (laid : PreOrder manifest (depth + 1) (manifest.children route.id) below)
    (deep : depth = above.length) (listed : route ∈ manifest.routes)
    (ascent : Ascent manifest.parent? (manifest.parent? route) above) :
    ∀ item ∈ below, manifest.Through above route item := by
  intro item member
  have children := nested.children_siblings listed ascent
  obtain ⟨_, _, reached⟩ := laid.through nested (by simp [deep]) children
    item member
  exact reached.of_child

/-- What is reached through another sibling is not reached through these. -/
theorem routes_apart {route : Route} {item : OutlineItem}
    (laid : PreOrder manifest depth siblings items)
    (deep : depth = above.length) (together : manifest.Siblings above siblings)
    (absent : route ∉ siblings) (reached : manifest.Through above route item) :
    item.route ∉ items.map OutlineItem.route := by
  intro member
  obtain ⟨other, otherListed, same⟩ := List.mem_map.mp member
  obtain ⟨sibling, listed, otherReached⟩ :=
    laid.through nested deep together other otherListed
  exact absent (otherReached.sibling_eq reached same ▸ listed)

/-- No route is listed among its descendants, since they are deeper. -/
theorem notMem_below {route : Route} {below : List OutlineItem}
    (laid : PreOrder manifest (depth + 1) (manifest.children route.id) below)
    (deep : depth = above.length) (listed : route ∈ manifest.routes)
    (ascent : Ascent manifest.parent? (manifest.parent? route) above) :
    route ∉ below.map OutlineItem.route := by
  intro member
  obtain ⟨item, itemListed, same⟩ := List.mem_map.mp member
  have self : manifest.Through above route ⟨depth, route⟩ := .self deep ascent
  have reached := laid.below_through nested deep listed ascent item itemListed
  have level : item.depth = depth := reached.depth_eq self same
  have deeper := laid.depth_le item itemListed
  omega

/-- No route is listed twice. -/
theorem nodup (laid : PreOrder manifest depth siblings items)
    (deep : depth = above.length)
    (together : manifest.Siblings above siblings) :
    (items.map OutlineItem.route).Nodup := by
  induction laid generalizing above with
  | nil => exact List.nodup_nil
  | @cons depth route later below after laidBelow laidLater belowInduction
      laterInduction =>
      have listed := together.inside List.mem_cons_self
      have ascent := together.ascents route List.mem_cons_self
      have notLater : route ∉ later := (List.nodup_cons.mp together.distinct).1
      have notAfter : ∀ item, manifest.Through above route item →
          item.route ∉ after.map OutlineItem.route := fun _ =>
        laidLater.routes_apart nested deep together.tail notLater
      rw [List.map_cons, List.map_append, List.nodup_cons, List.mem_append,
        not_or]
      refine ⟨⟨?_, ?_⟩, List.Nodup.append ?_ ?_ ?_⟩
      · exact laidBelow.notMem_below nested deep listed ascent
      · exact notAfter _ (.self deep ascent)
      · exact belowInduction (by simp [deep])
          (nested.children_siblings listed ascent)
      · exact laterInduction deep together.tail
      · intro lower isBelow isAfter
        obtain ⟨item, itemListed, rfl⟩ := List.mem_map.mp isBelow
        have reached :=
          laidBelow.below_through nested deep listed ascent item itemListed
        exact notAfter item reached isAfter

end Nested

end PreOrder

namespace Nested

variable (nested : manifest.Nested)
include nested

/-- The way down from a root leads to every route. -/
theorem exists_item {route : Route} (listed : route ∈ manifest.routes) :
    ∃ item ∈ manifest.outline, item.route = route := by
  have laid := nested.preOrder_outline
  induction long : route.id.length using Nat.strongRecOn
    generalizing route with
  | ind long induction =>
      subst long
      rcases nested.root_or_child listed with ⟨isRoot, _⟩ | child
      · exact laid.sibling_listed route isRoot
      · obtain ⟨parent, parentListed, _, isChild⟩ := child
        obtain ⟨item, itemListed, rfl⟩ := induction parent.id.length
          (nested.length_lt_of_mem_children isChild) parentListed rfl
        exact laid.child_listed item itemListed route isChild

theorem outline_perm :
    (manifest.outline.map OutlineItem.route).Perm manifest.routes := by
  have laid := nested.preOrder_outline
  rw [List.perm_ext_iff_of_nodup
    (laid.nodup nested rfl nested.roots_siblings)
    nested.routes_inIdOrder.nodup]
  intro route
  constructor
  · intro member
    obtain ⟨item, listed, rfl⟩ := List.mem_map.mp member
    exact laid.route_mem_routes roots_subset item listed
  · intro listed
    exact List.mem_map.mpr (nested.exists_item listed)

theorem exists_ancestors {item : OutlineItem}
    (listed : item ∈ manifest.outline) :
    ∃ ancestors,
      Ascent manifest.parent? (manifest.parent? item.route) ancestors ∧
        item.depth = ancestors.length := by
  have laid := nested.preOrder_outline
  obtain ⟨sibling, _, between, ascent, deep⟩ :=
    laid.through nested rfl nested.roots_siblings item listed
  generalize way : between ++ [sibling] = path at ascent
  cases ascent with
  | up ascent =>
      refine ⟨_, ascent, ?_⟩
      have long := congrArg List.length way
      simp only [List.length_append, List.length_cons, List.length_nil] at long
      rw [deep, List.length_nil]
      omega

end Nested

end Manifest

/-- The outline of a manifest that was built is its forest in pre-order, children
and roots in the order of their ids.  It has one line for each route, indented by
two spaces for the route and each of its ancestors; without colours nothing but
the texts themselves stands on the line. -/
theorem outline_shows_every_route_once {root : Text} {files : List Text}
    {manifest : Manifest} (built : (build root files).outcome = .ok manifest) :
    (∀ items, manifest.PreOrder 0 manifest.roots items ↔
      items = manifest.outline) ∧
    InIdOrder manifest.roots ∧
    (∀ id, InIdOrder (manifest.children id)) ∧
    (manifest.outline.map OutlineItem.route).Perm manifest.routes ∧
    (∀ item ∈ manifest.outline, ∃ ancestors,
      Ascent manifest.parent? (manifest.parent? item.route) ancestors ∧
        item.depth = ancestors.length ∧
        manifest.lineage manifest.size item.route =
          (item.route :: ancestors).reverse) ∧
    (∀ colour, manifest.outlineText colour =
      (manifest.outline.map (manifest.indentedEntry colour)).flatten) ∧
    ∀ item, manifest.indentedEntry false item = manifest.plainLine item := by
  have nested := Manifest.nested_of_built built
  have laid := nested.preOrder_outline
  refine ⟨?_, nested.routes_inIdOrder.filter _,
    fun id => nested.routes_inIdOrder.filter _, nested.outline_perm, ?_,
    manifest.outlineText_eq, manifest.indentedEntry_plain⟩
  · intro items
    constructor
    · exact fun other => other.unique laid
    · exact fun same => same ▸ laid
  · intro item listed
    obtain ⟨ancestors, ascent, deep⟩ := nested.exists_ancestors listed
    have isRoute :=
      laid.route_mem_routes Manifest.roots_subset item listed
    exact ⟨ancestors, ascent, deep, nested.lineage_eq_reverse isRoute ascent
      (manifest.shorterKeys_le_size item.route.id)⟩

theorem sample_outline_shows_every_route :
    (build [] sampleFiles).outcome = .ok sampleManifest ∧
      sampleManifest.outline.map
          (fun item => (item.depth, String.ofList item.route.id)) =
        [(0, "_a.x"), (0, "_b"), (1, "_b.x.y"), (2, "_b.x.y.z")] ∧
      (sampleManifest.outline.map OutlineItem.route).Perm
        sampleManifest.routes ∧
      sampleManifest.outlineText false =
        (sampleManifest.outline.map sampleManifest.plainLine).flatten := by
  obtain ⟨_, _, _, once, _, written, plain⟩ :=
    outline_shows_every_route_once build_sample
  refine ⟨build_sample, by decide, once, ?_⟩
  rw [written, funext plain]

end FileRouting
