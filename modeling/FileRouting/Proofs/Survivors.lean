import FileRouting.Proofs.Contests
import FileRouting.Proofs.Namespace

/-!
# Survivors

Which routes come into a manifest can be said without positions of drafts: the
survivors are the candidates that do not lose their URL to an earlier one.  A
draft is removed exactly if its route does not survive.

The nearest of some routes above an id is a search through all of them; if the
ids of the routes are distinct, then it is the only route with the nearest id.
-/

namespace FileRouting

namespace RouteFile

/-- Whether a route does not compete for its URL or is the first of some rivals
to do so. -/
def prevails (rivals : List RouteFile) (route : RouteFile) : Bool :=
  !route.participates ||
    route ∈ Contest.winners urlKey (rivals.filter RouteFile.participates)

/-- The candidates that are left when every URL went to the first of them. -/
def survivors (files : List RouteFile) : List RouteFile :=
  (candidates files).filter (prevails (candidates files))

/-- The route whose id is nearest above an id. -/
def nearest? (routes : List RouteFile) (id : Text) : Option RouteFile :=
  (routes.filter fun upper => Draft.inNamespace upper.id id).maxOn?
    fun upper => upper.id.length

/-- The finished route of a file below a parent. -/
def finish (parent : Option RouteFile) (route : RouteFile) : Route :=
  { file := route.file
    id := route.id
    path := Draft.fragment? route.urlPath?
      (parent.bind fun parent => parent.urlPath?)
    index := if route.isIndex then some true else none
    parentId := parent.map fun parent => parent.id }

theorem candidates_ids_nodup (files : List RouteFile) :
    ((candidates files).map RouteFile.id).Nodup :=
  Contest.winners_keys_nodup RouteFile.id files

theorem survivors_sublist (files : List RouteFile) :
    (survivors files).Sublist (candidates files) :=
  List.filter_sublist

theorem survivors_sublist_files (files : List RouteFile) :
    (survivors files).Sublist files :=
  (survivors_sublist files).trans (Contest.winners_sublist RouteFile.id files)

theorem survivors_ids_nodup (files : List RouteFile) :
    ((survivors files).map RouteFile.id).Nodup :=
  (candidates_ids_nodup files).sublist ((survivors_sublist files).map _)

/-- No two survivors that compete have the same URL. -/
theorem eq_of_mem_survivors {files : List RouteFile} {left right : RouteFile}
    (leftSurvives : left ∈ survivors files)
    (rightSurvives : right ∈ survivors files)
    (leftCompetes : left.participates = true)
    (rightCompetes : right.participates = true)
    (sameUrl : left.urlKey = right.urlKey) : left = right := by
  have wins : ∀ route ∈ survivors files, route.participates = true →
      route ∈ Contest.winners urlKey
        ((candidates files).filter RouteFile.participates) := by
    intro route survives competes
    have prevailing := (List.mem_filter.mp survives).2
    simpa [prevails, competes] using prevailing
  exact Contest.eq_of_mem_winners (wins left leftSurvives leftCompetes)
    (wins right rightSurvives rightCompetes) sameUrl

theorem mem_of_nearest? {routes : List RouteFile} {id : Text}
    {parent : RouteFile} (found : nearest? routes id = some parent) :
    parent ∈ routes :=
  List.mem_of_mem_filter (List.maxOn?_mem found)

theorem nearest?_isNearest (routes : List RouteFile) (id : Text) :
    IsNearest (routes.map RouteFile.id) id
      ((nearest? routes id).map RouteFile.id) := by
  cases found : nearest? routes id with
  | none =>
      intro upper member below
      obtain ⟨route, routeMember, rfl⟩ := List.mem_map.mp member
      have inside : route ∈ routes.filter fun upper =>
          Draft.inNamespace upper.id id :=
        List.mem_filter.mpr ⟨routeMember, Draft.inNamespace_iff.mpr below⟩
      have isSome : (nearest? routes id).isSome :=
        List.isSome_maxOn?_of_mem inside
      simp [found] at isSome
  | some parent =>
      have member := List.maxOn?_mem found
      obtain ⟨parentMember, inside⟩ := List.mem_filter.mp member
      refine ⟨List.mem_map_of_mem parentMember,
        Draft.inNamespace_iff.mp inside, ?_⟩
      intro upper upperMember below
      obtain ⟨route, routeMember, rfl⟩ := List.mem_map.mp upperMember
      have routeInside : route ∈ routes.filter fun upper =>
          Draft.inNamespace upper.id id :=
        List.mem_filter.mpr ⟨routeMember, Draft.inNamespace_iff.mpr below⟩
      have longest := List.le_apply_get_maxOn?_of_mem
        (f := fun upper : RouteFile => upper.id.length) routeInside
      rw [nearest?] at found
      simpa [found] using longest

theorem nearest?_eq_of_isNearest {routes : List RouteFile} {id : Text}
    {parent : Option RouteFile}
    (distinct : (routes.map RouteFile.id).Nodup)
    (members : ∀ route, parent = some route → route ∈ routes)
    (nearest : IsNearest (routes.map RouteFile.id) id
      (parent.map RouteFile.id)) :
    nearest? routes id = parent := by
  have same := (nearest?_isNearest routes id).unique nearest
  cases found : nearest? routes id with
  | none =>
      cases parent with
      | none => rfl
      | some route => simp [found] at same
  | some other =>
      cases parent with
      | none => simp [found] at same
      | some route =>
          have sameId : other.id = route.id := by simpa [found] using same
          exact congrArg some (List.inj_on_of_nodup_map distinct
            (mem_of_nearest? found) (members route rfl) sameId)

end RouteFile

namespace Draft

theorem routes_zipIdx (drafts : List Draft) :
    drafts.zipIdx.map (fun entry => entry.1.route) = drafts.map route := by
  calc
    drafts.zipIdx.map (fun entry => entry.1.route) =
        (drafts.zipIdx.map Prod.fst).map route := (List.map_map).symm
    _ = drafts.map route := by rw [List.zipIdx_map_fst]

theorem routes_participants (drafts : List Draft) :
    (participants drafts).map (fun entry => entry.1.route) =
      (drafts.map route).filter RouteFile.participates := by
  rw [← routes_zipIdx, List.filter_map]
  rfl

theorem participants_sublist (drafts : List Draft) :
    (participants drafts).Sublist drafts.zipIdx :=
  List.filter_sublist

/-- The drafts that are not removed, in terms of the contests for URLs. -/
theorem notMem_removed_iff {drafts : List Draft}
    (distinct : (drafts.map route).Nodup) {draft : Draft} {position : Nat}
    (found : drafts[position]? = some draft) :
    position ∉ removed drafts ↔
      draft.route.prevails (drafts.map route) = true := by
  rw [← routes_zipIdx] at distinct
  have nodup : (participants drafts).Nodup :=
    (List.Nodup.of_map _ distinct).sublist (participants_sublist drafts)
  have placed : (draft, position) ∈ drafts.zipIdx :=
    List.mem_zipIdx_iff_getElem?.mpr found
  have entrant : (draft, position) ∈ participants drafts ↔
      draft.route.participates = true := by
    simp [participants, placed]
  have loses : position ∈ removed drafts ↔
      (draft, position) ∈ Contest.losers
        (fun entry : Draft × Nat => entry.1.route.urlKey) []
        (participants drafts) := by
    constructor
    · intro member
      obtain ⟨entry, loser, rfl⟩ := List.mem_map.mp member
      have entryMember := ((Contest.mem_losers_iff nodup).mp loser).1
      have entryPlaced := List.mem_zipIdx_iff_getElem?.mp
        ((participants_sublist drafts).subset entryMember)
      have same : entry.1 = draft :=
        Option.some.inj (entryPlaced.symm.trans found)
      exact same ▸ loser
    · exact fun loser => List.mem_map.mpr ⟨(draft, position), loser, rfl⟩
  have wins : draft.route ∈ Contest.winners RouteFile.urlKey
        ((drafts.map route).filter RouteFile.participates) ↔
      (draft, position) ∈ Contest.winners
        (fun entry : Draft × Nat => entry.1.route.urlKey)
        (participants drafts) := by
    rw [← routes_participants, Contest.winners_map]
    constructor
    · intro member
      obtain ⟨entry, winner, sameRoute⟩ := List.mem_map.mp member
      have entryPlaced := (participants_sublist drafts).subset
        ((Contest.winners_sublist _ _).subset winner)
      have same := List.inj_on_of_nodup_map distinct entryPlaced placed
        sameRoute
      exact same ▸ winner
    · exact fun winner => List.mem_map.mpr ⟨(draft, position), winner, rfl⟩
  rw [loses, Contest.mem_losers_iff nodup, entrant, RouteFile.prevails]
  simp only [Bool.or_eq_true, Bool.not_eq_true', decide_eq_true_eq, wins]
  cases draft.route.participates <;> simp

end Draft

end FileRouting
