import FileRouting.Text

/-!
# Route manifests

A manifest maps keys to routes, in ascending order of the keys.  A route names
its parent by key and holds the part of its URL path that it adds to the paths
of its ancestors.

The order of the entries is part of the type, so that two manifests with the
same routes under the same keys are equal.
-/

namespace FileRouting

/-- One entry of a manifest. -/
structure Route where
  /-- The route file, relative to the routes root. -/
  file : Text
  id : Text
  /-- What the route adds to the URL path of its parent. -/
  path : Option Text
  index : Option Bool
  parentId : Option Text
  deriving DecidableEq, Repr

namespace Route

def isIndex (route : Route) : Bool :=
  route.index.getD false

end Route

/-- Routes with their keys. -/
abbrev RouteEntries := List (Text × Route)

namespace RouteEntries

/-- Every key is less than all later ones. -/
def Ascending (entries : RouteEntries) : Prop :=
  entries.Pairwise fun earlier later => earlier.1 < later.1

/-- Sets the route of a key, at its place in the order. -/
def insert (key : Text) (route : Route) : RouteEntries → RouteEntries
  | [] => [(key, route)]
  | (other, held) :: later =>
      if key < other then (key, route) :: (other, held) :: later
      else if key = other then (key, route) :: later
      else (other, held) :: insert key route later

theorem key_of_mem_insert {key : Text} {route : Route}
    {entries : RouteEntries} {entry : Text × Route}
    (member : entry ∈ insert key route entries) :
    entry.1 = key ∨ entry ∈ entries := by
  induction entries with
  | nil => simp_all [insert]
  | cons head later induction =>
      obtain ⟨other, held⟩ := head
      simp only [insert] at member
      split at member
      · rcases List.mem_cons.mp member with rfl | old
        · exact .inl rfl
        · exact .inr old
      · split at member
        · rcases List.mem_cons.mp member with rfl | old
          · exact .inl rfl
          · exact .inr (List.mem_cons_of_mem _ old)
        · rcases List.mem_cons.mp member with rfl | old
          · exact .inr List.mem_cons_self
          · exact (induction old).imp_right (List.mem_cons_of_mem _)

theorem insert_ascending (key : Text) (route : Route) {entries : RouteEntries}
    (ascending : Ascending entries) : Ascending (insert key route entries) := by
  induction entries with
  | nil => simp [insert, Ascending]
  | cons head later induction =>
      obtain ⟨other, held⟩ := head
      have laterAscending := List.pairwise_cons.mp ascending
      simp only [insert]
      split
      · next less =>
          refine List.pairwise_cons.mpr ⟨?_, ascending⟩
          intro entry member
          rcases List.mem_cons.mp member with rfl | old
          · exact less
          · exact List.lt_trans less (laterAscending.1 entry old)
      · split
        · next same =>
            subst same
            exact List.pairwise_cons.mpr laterAscending
        · next notLess different =>
            refine List.pairwise_cons.mpr ⟨?_, induction laterAscending.2⟩
            intro entry member
            rcases key_of_mem_insert member with equal | old
            · rw [equal]
              exact Text.lt_of_not_lt notLess different
            · exact laterAscending.1 entry old

end RouteEntries

/-- A finite map from keys to routes. -/
structure Manifest where
  entries : RouteEntries
  ascending : entries.Ascending

namespace Manifest

/-- The manifest without routes. -/
def empty : Manifest := ⟨[], List.Pairwise.nil⟩

def insert (manifest : Manifest) (key : Text) (route : Route) : Manifest :=
  ⟨manifest.entries.insert key route,
    RouteEntries.insert_ascending key route manifest.ascending⟩

/-- The manifest of a list of routes with their keys; a later route replaces an
earlier one of the same key. -/
def ofList (routes : List (Text × Route)) : Manifest :=
  routes.foldl (fun manifest (key, route) => manifest.insert key route) empty

instance : DecidableEq Manifest := fun left right =>
  if equal : left.entries = right.entries then
    isTrue (by cases left; cases right; simp_all)
  else isFalse fun same => equal (congrArg entries same)

/-- Number of entries. -/
def size (manifest : Manifest) : Nat :=
  manifest.entries.length

/-- The keys in ascending order. -/
def keys (manifest : Manifest) : List Text :=
  manifest.entries.map (·.1)

/-- The routes in the order of their keys. -/
def routes (manifest : Manifest) : List Route :=
  manifest.entries.map (·.2)

def get? (manifest : Manifest) (key : Text) : Option Route :=
  manifest.entries.lookup key

/-- Whether a key has a route. -/
def contains (manifest : Manifest) (key : Text) : Bool :=
  (manifest.get? key).isSome

/-- The routes without a parent. -/
def roots (manifest : Manifest) : List Route :=
  manifest.routes.filter fun route => route.parentId = none

/-- The routes whose parent has an id. -/
def children (manifest : Manifest) (id : Text) : List Route :=
  manifest.routes.filter fun route => route.parentId = some id

/-- The route that the parent id of a route leads to. -/
def parent? (manifest : Manifest) (route : Route) : Option Route :=
  route.parentId.bind manifest.get?

/-- A route with its ancestors, the farthest first.  At most the given number
of ancestors is visited. -/
def lineage (manifest : Manifest) : Nat → Route → List Route
  | 0, route => [route]
  | bound + 1, route =>
      match manifest.parent? route with
      | some parent => lineage manifest bound parent ++ [route]
      | none => [route]

/-- The absolute URL path of the route of a key: the paths of the route and its
ancestors, joined.  A chain of parents without a cycle is never longer than the
manifest. -/
def fullPath? (manifest : Manifest) (key : Text) : Option Text :=
  (manifest.get? key).map fun route =>
    '/' :: Text.joinWith '/'
      ((manifest.lineage manifest.size route).filterMap (·.path))

end Manifest

end FileRouting
