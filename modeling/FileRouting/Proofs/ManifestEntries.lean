import FileRouting.Manifest
import Mathlib.Data.List.Nodup

/-!
# Entries of a manifest

The keys of a manifest ascend, so that each of them has one route, and looking
a key up finds the entry with that key.  A manifest of routes with distinct keys
has exactly those routes as its entries.
-/

namespace FileRouting

namespace RouteEntries

theorem keys_nodup {entries : RouteEntries} (ascending : entries.Ascending) :
    (entries.map (·.1)).Nodup := by
  apply List.pairwise_map.mpr
  apply ascending.imp
  intro earlier later less same
  rw [same] at less
  exact List.lt_irrefl _ less

theorem insert_perm {key : Text} {route : Route} {entries : RouteEntries}
    (absent : key ∉ entries.map (·.1)) :
    (insert key route entries).Perm ((key, route) :: entries) := by
  induction entries with
  | nil => exact List.Perm.refl _
  | cons entry later induction =>
      obtain ⟨other, held⟩ := entry
      obtain ⟨different, laterAbsent⟩ :
          key ≠ other ∧ key ∉ later.map (·.1) := by
        simpa using absent
      simp only [insert, different, if_false]
      split
      · exact List.Perm.refl _
      · exact ((induction laterAbsent).cons _).trans (List.Perm.swap _ _ _)

theorem lookup_eq_some_iff {entries : RouteEntries} {key : Text}
    {route : Route} (distinct : (entries.map (·.1)).Nodup) :
    entries.lookup key = some route ↔ (key, route) ∈ entries := by
  induction entries with
  | nil => simp
  | cons entry later induction =>
      obtain ⟨other, held⟩ := entry
      obtain ⟨fresh, laterDistinct⟩ := List.nodup_cons.mp distinct
      by_cases same : key = other
      · subst same
        have absent : (key, route) ∉ later := fun member =>
          fresh (List.mem_map.mpr ⟨(key, route), member, rfl⟩)
        simp [absent, eq_comm]
      · have unequal : (key == other) = false := by simpa using same
        simp [List.lookup_cons, unequal, same, induction laterDistinct]

end RouteEntries

namespace Manifest

theorem eq_of_entries_eq {left right : Manifest}
    (same : left.entries = right.entries) : left = right := by
  cases left
  cases right
  cases same
  rfl

theorem keys_nodup (manifest : Manifest) : manifest.keys.Nodup :=
  RouteEntries.keys_nodup manifest.ascending

theorem get?_eq_some_iff {manifest : Manifest} {key : Text} {route : Route} :
    manifest.get? key = some route ↔ (key, route) ∈ manifest.entries :=
  RouteEntries.lookup_eq_some_iff manifest.keys_nodup

theorem foldl_insert_perm {routes : RouteEntries} {manifest : Manifest}
    (distinct : ((routes ++ manifest.entries).map (·.1)).Nodup) :
    (routes.foldl (fun manifest (key, route) => manifest.insert key route)
      manifest).entries.Perm (routes ++ manifest.entries) := by
  induction routes generalizing manifest with
  | nil => exact List.Perm.refl _
  | cons entry later induction =>
      obtain ⟨key, route⟩ := entry
      have moved : (later ++ (key, route) :: manifest.entries).Perm
          ((key, route) :: later ++ manifest.entries) := List.perm_middle
      have absent : key ∉ manifest.entries.map (·.1) := by
        rw [List.cons_append, List.map_cons, List.map_append,
          List.nodup_cons] at distinct
        exact fun member => distinct.1 (List.mem_append_right _ member)
      have inserted : (later ++ (manifest.insert key route).entries).Perm
          (later ++ (key, route) :: manifest.entries) :=
        (RouteEntries.insert_perm absent).append_left later
      have all := inserted.trans moved
      exact (induction ((all.map _).nodup_iff.mpr distinct)).trans all

theorem entries_ofList_perm {routes : RouteEntries}
    (distinct : (routes.map (·.1)).Nodup) :
    (ofList routes).entries.Perm routes := by
  have folded : (ofList routes).entries.Perm (routes ++ empty.entries) :=
    foldl_insert_perm (by simpa [empty] using distinct)
  simpa [empty] using folded

end Manifest

end FileRouting
