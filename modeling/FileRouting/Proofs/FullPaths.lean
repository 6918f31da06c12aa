import FileRouting.Proofs.NearestAncestor
import FileRouting.Proofs.RoutePaths

/-!
# Full paths

A route keeps the part of its URL path that its parent does not have, and a full
path joins the parts along the ancestors again.  The parts are the URL paths of
consecutive groups of components, so that joining them gives the URL path that
the id had in the first place.

The way up is bounded by the number of routes.  This is enough, because every
step leads to a shorter key.
-/

namespace FileRouting

/-- Whether paths are those of consecutive groups of some components. -/
def Spells (paths components : List Text) : Prop :=
  ∃ groups : List (List Text),
    paths = groups.map (Text.joinWith '/') ∧
      (∀ group ∈ groups, group ≠ []) ∧ groups.flatten = components

namespace Spells

variable {paths components : List Text}

theorem nil : Spells [] [] :=
  ⟨[], rfl, by simp, rfl⟩

theorem append (spells : Spells paths components) {more : List Text}
    (kept : [] ∉ more) :
    Spells (paths ++ (urlOf? more).toList) (components ++ more) := by
  obtain ⟨groups, rfl, nonempty, rfl⟩ := spells
  by_cases none : more = []
  · subst none
    refine ⟨groups, ?_, nonempty, (List.append_nil _).symm⟩
    exact List.append_nil _
  · refine ⟨groups ++ [more], ?_, ?_, by simp⟩
    · rw [urlOf?_eq_joinWith none kept, List.map_append]
      rfl
    · intro group member
      rcases List.mem_append.mp member with old | new
      · exact nonempty group old
      · rw [List.mem_singleton.mp new]
        exact none

theorem joinWith_eq (spells : Spells paths components) :
    Text.joinWith '/' paths = Text.joinWith '/' components := by
  obtain ⟨groups, rfl, nonempty, rfl⟩ := spells
  exact Text.joinWith_map_joinWith nonempty

end Spells

theorem urlOf?_getD (components : List Text) :
    (urlOf? components).getD [] = Text.joinWith '/' components := by
  rw [urlOf?]
  cases Text.joinWith '/' components <;> rfl

namespace Manifest

variable {manifest : Manifest} {key parent : Text} {route : Route}

/-- Conditions on the ids of a manifest under which no path is lost: below an
open bracket or a splat an id does not go on with the segments of its parent,
and a segment that consists of a dropped `_` leaves an empty component. -/
structure Plain (manifest : Manifest) : Prop where
  closed : ∀ key parent, manifest.HasParent key parent → BracketsClosed parent
  noSplat : ∀ key parent, manifest.HasParent key parent →
    ¬ Segments.EndsInSplat parent
  kept : ∀ key route segments, manifest.get? key = some route →
    Segments.parse key = .ok segments →
    [] ∉ segments.urlComponents route.isIndex

/-- Number of keys shorter than a text. -/
def shorterKeys (manifest : Manifest) (text : Text) : Nat :=
  manifest.keys.countP fun key => key.length < text.length

theorem shorterKeys_lt (found : manifest.get? parent = some route)
    (shorter : parent.length < key.length) :
    manifest.shorterKeys parent < manifest.shorterKeys key := by
  have member : parent ∈ manifest.keys :=
    List.mem_map_of_mem (get?_eq_some_iff.mp found)
  apply countP_lt_countP _ member (by simpa using shorter) (by simp)
  intro other _ less
  simp only [decide_eq_true_eq] at less ⊢
  exact Nat.lt_trans less shorter

theorem shorterKeys_le_size (manifest : Manifest) (text : Text) :
    manifest.shorterKeys text ≤ manifest.size := by
  rw [size, ← List.length_map (f := Prod.fst)]
  exact List.countP_le_length

theorem lineage_of_root (isRoot : route.parentId = none) (bound : Nat) :
    manifest.lineage bound route = [route] := by
  cases bound with
  | zero => rfl
  | succ bound => simp [lineage, parent?, isRoot]

theorem lineage_of_child {parentRoute : Route}
    (isParent : route.parentId = some parent)
    (found : manifest.get? parent = some parentRoute) (bound : Nat) :
    manifest.lineage (bound + 1) route =
      manifest.lineage bound parentRoute ++ [route] := by
  simp [lineage, parent?, isParent, found]

end Manifest

theorem Route.filterMap_path (route : Route) :
    [route].filterMap (fun route => route.path) = route.path.toList := by
  cases path : route.path <;> simp [path]

theorem Spells.root {manifest : Manifest} {route : Route} {bound : Nat}
    {components : List Text} (kept : [] ∉ components)
    (isRoot : route.parentId = none) (path : route.path = urlOf? components) :
    Spells ((manifest.lineage bound route).filterMap fun route => route.path)
      components := by
  rw [Manifest.lineage_of_root isRoot, Route.filterMap_path, path]
  exact Spells.nil.append kept

section Built

variable {root : Text} {files : List Text} {manifest : Manifest}

theorem components_kept (built : (build root files).outcome = .ok manifest)
    (plain : manifest.Plain) {key : Text} {route : Route}
    {segments : Segments} (found : manifest.get? key = some route)
    (parsed : Segments.parse key = .ok segments) :
    [] ∉ segments.components := by
  rw [← Segments.urlComponents_eq_components parsed,
    ← isIndex_of_built built found parsed]
  exact plain.kept key route segments found parsed

/-- One step of the way down: what a child keeps spells the components that it
adds to those of its parent. -/
theorem path_below_parent (built : (build root files).outcome = .ok manifest)
    (plain : manifest.Plain) {key parent : Text} {route : Route}
    {segments parentSegments : Segments}
    (found : manifest.get? key = some route)
    (isParent : route.parentId = some parent) (below : Below parent key)
    (parsed : Segments.parse key = .ok segments)
    (parentParsed : Segments.parse parent = .ok parentSegments)
    (fragment : route.path = Draft.fragment? (urlOf? segments.components)
      (urlOf? parentSegments.components)) :
    ∃ rest, segments.components = parentSegments.components ++ rest ∧
      [] ∉ rest ∧ route.path = urlOf? rest := by
  have hasParent : manifest.HasParent key parent := ⟨route, found, isParent⟩
  have kept := components_kept built plain found parsed
  have free := Segments.components_free parsed
  obtain ⟨rest, whole⟩ := Segments.components_isPrefix parentParsed parsed
    below (plain.closed key parent hasParent)
    (plain.noSplat key parent hasParent)
  rw [← whole] at kept free fragment
  refine ⟨rest, whole.symm, ?_, ?_⟩
  · intro member
    exact kept (List.mem_append_right _ member)
  · rw [fragment]
    apply Draft.fragment?_urlOf? kept
    intro component member
    exact free component (List.mem_append_right _ member)

/-- The paths on the way to a route spell the components of its id. -/
theorem lineage_spells (built : (build root files).outcome = .ok manifest)
    (plain : manifest.Plain) {bound : Nat} {key : Text} {route : Route}
    {segments : Segments} (found : manifest.get? key = some route)
    (parsed : Segments.parse key = .ok segments)
    (enough : manifest.shorterKeys key ≤ bound) :
    Spells ((manifest.lineage bound route).filterMap fun route => route.path)
      segments.components := by
  -- A parent has fewer shorter keys, so that the bound outlasts the way up.
  induction bound generalizing key route segments with
  | zero =>
      rcases path_of_built built found parsed with rootRoute | child
      · exact Spells.root (components_kept built plain found parsed)
          rootRoute.1 rootRoute.2
      · obtain ⟨parent, parentRoute, _, _, below, parentFound, _⟩ := child
        have fewer := Manifest.shorterKeys_lt parentFound below.length_lt
        omega
  | succ bound induction =>
      rcases path_of_built built found parsed with rootRoute | child
      · exact Spells.root (components_kept built plain found parsed)
          rootRoute.1 rootRoute.2
      · obtain ⟨parent, parentRoute, parentSegments, isParent, below,
          parentFound, parentParsed, fragment⟩ := child
        have fewer := Manifest.shorterKeys_lt parentFound below.length_lt
        have spells := induction parentFound parentParsed (by omega)
        obtain ⟨rest, whole, kept, path⟩ := path_below_parent built plain found
          isParent below parsed parentParsed fragment
        rw [Manifest.lineage_of_child isParent parentFound,
          List.filterMap_append, whole, Route.filterMap_path, path]
        exact spells.append kept

end Built

/-- Cutting URL paths down to what a parent does not have loses nothing: the
full path of a route is the URL path of its id. -/
theorem full_path_is_url_path {root : Text} {files : List Text}
    {manifest : Manifest} (built : (build root files).outcome = .ok manifest)
    (plain : manifest.Plain) :
    ∀ key route, manifest.get? key = some route →
      ∃ segments, Segments.parse key = .ok segments ∧
        manifest.fullPath? key =
          some ('/' :: (segments.urlPath? route.isIndex).getD []) := by
  intro key route found
  obtain ⟨segments, parsed⟩ := parse_of_built built found
  have spells := lineage_spells built plain found parsed
    (manifest.shorterKeys_le_size key)
  refine ⟨segments, parsed, ?_⟩
  rw [urlPath?_of_built built found parsed, urlOf?_getD, ← spells.joinWith_eq,
    Manifest.fullPath?, found]
  rfl

theorem sample_plain : sampleManifest.Plain where
  closed := by
    intro key parent hasParent
    obtain ⟨route, found, isParent⟩ := hasParent
    have closed : ∀ entry ∈ sampleManifest.entries,
        ∀ parent ∈ entry.2.parentId, BracketsClosed parent := by
      decide
    exact closed (key, route) (Manifest.get?_eq_some_iff.mp found) parent
      isParent
  noSplat := by
    intro key parent hasParent splat
    obtain ⟨route, found, isParent⟩ := hasParent
    have noDollar : ∀ entry ∈ sampleManifest.entries,
        ∀ parent ∈ entry.2.parentId, parent.getLast? ≠ some '$' := by
      decide
    exact noDollar (key, route) (Manifest.get?_eq_some_iff.mp found) parent
      isParent splat.1
  kept := by
    intro key route segments found parsed
    have kept : ∀ entry ∈ sampleManifest.entries,
        ∀ segments ∈ (Segments.parse entry.1).toOption,
          [] ∉ segments.urlComponents entry.2.isIndex := by
      decide
    have member := Manifest.get?_eq_some_iff.mp found
    exact kept (key, route) member segments (by rw [parsed]; rfl)

theorem sample_full_path :
    (build [] sampleFiles).outcome = .ok sampleManifest ∧
      sampleManifest.Plain ∧
      ∃ segments, Segments.parse "_b.x.y.z".toList = .ok segments ∧
        sampleManifest.fullPath? "_b.x.y.z".toList =
          some ('/' :: (segments.urlPath? false).getD []) := by
  have full := full_path_is_url_path build_sample sample_plain
  exact ⟨build_sample, sample_plain, full "_b.x.y.z".toList _ rfl⟩

end FileRouting
