import FileRouting.Proofs.AddedItem
import FileRouting.Proofs.FirstWins
import FileRouting.Proofs.InputOrder

/-!
# One more route

A file that has nothing to do with the others may be added to a build and changes
nothing for them.  Its id is its own, it is above none of the others, and it asks
for no URL that one of them asks for.  Wherever it is sorted to, the conflicts
stay the same, and the manifest gets one more entry.

The new route may well be below others, and these need not be in the manifest.
-/

namespace FileRouting

namespace RouteFile

/-- Whether a route has nothing to do with others, unless it is below them. -/
structure Unrelated (routes : List RouteFile) (new : RouteFile) : Prop where
  fresh : ∀ route ∈ routes, route.id ≠ new.id
  childless : ∀ route ∈ routes, ¬ Below new.id route.id
  uncontested : new.participates = true →
    ∀ route ∈ routes, route.participates = true → route.urlKey ≠ new.urlKey

namespace Unrelated

variable {new : RouteFile} {fewer more : List RouteFile}

theorem of_subset {routes : List RouteFile} (unrelated : Unrelated routes new)
    (subset : fewer ⊆ routes) : Unrelated fewer new where
  fresh := fun route member => unrelated.fresh route (subset member)
  childless := fun route member => unrelated.childless route (subset member)
  uncontested := fun competes route member =>
    unrelated.uncontested competes route (subset member)

theorem candidates (unrelated : Unrelated fewer new) :
    Unrelated (candidates fewer) new :=
  unrelated.of_subset (Contest.winners_sublist RouteFile.id fewer).subset

section Added

variable (unrelated : Unrelated fewer new) (adds : Adds new fewer more)
include unrelated adds

/-- A new route either stays out of the contests for URLs or enters them with a
URL of its own. -/
theorem entrants :
    more.filter RouteFile.participates = fewer.filter RouteFile.participates ∧
        new.participates = false ∨
      Adds new (fewer.filter RouteFile.participates)
          (more.filter RouteFile.participates) ∧
        ∀ route ∈ fewer.filter RouteFile.participates,
          route.urlKey ≠ new.urlKey := by
  cases competes : new.participates with
  | false =>
      left
      exact ⟨adds.filter_of_neg (by simp [competes]), rfl⟩
  | true =>
      right
      refine ⟨adds.filter_of_pos competes, ?_⟩
      intro route member
      obtain ⟨listed, rival⟩ := List.mem_filter.mp member
      exact unrelated.uncontested competes route listed rival

theorem urlConflicts_eq : urlConflicts more = urlConflicts fewer := by
  rw [urlConflicts, urlConflicts]
  rcases unrelated.entrants adds with ⟨same, _⟩ | ⟨entered, alone⟩
  · rw [same]
  · rw [Contest.all_adds entered alone]

theorem prevails_self : prevails more new = true := by
  rw [prevails]
  rcases unrelated.entrants adds with ⟨_, absent⟩ | ⟨entered, alone⟩
  · rw [absent]
    rfl
  · have wins : new ∈ Contest.winners urlKey
        (more.filter RouteFile.participates) :=
      (Contest.winners_adds entered alone).mem_iff.mpr (.inl rfl)
    rw [decide_eq_true wins, Bool.or_true]

theorem prevails_eq {route : RouteFile} (other : route ≠ new) :
    prevails more route = prevails fewer route := by
  rw [prevails, prevails]
  rcases unrelated.entrants adds with ⟨same, _⟩ | ⟨entered, alone⟩
  · rw [same]
  · simp only [(Contest.winners_adds entered alone).mem_iff, other, false_or]

theorem candidates_adds :
    Adds new (RouteFile.candidates fewer) (RouteFile.candidates more) :=
  Contest.winners_adds adds unrelated.fresh

theorem conflicts_eq : conflicts more = conflicts fewer := by
  have grown := unrelated.candidates_adds adds
  rw [conflicts, conflicts, unrelated.candidates.urlConflicts_eq grown,
    idConflicts, idConflicts, Contest.all_adds adds unrelated.fresh]

theorem survivors_adds : Adds new (survivors fewer) (survivors more) := by
  have grown := unrelated.candidates_adds adds
  have survives := unrelated.candidates.prevails_self grown
  have kept : (RouteFile.candidates fewer).filter
        (prevails (RouteFile.candidates more)) = survivors fewer := by
    apply List.filter_congr
    intro route candidate
    apply unrelated.candidates.prevails_eq grown
    intro same
    exact unrelated.candidates.fresh route candidate (congrArg RouteFile.id same)
  have survivors := grown.filter_of_pos survives
  rw [kept] at survivors
  exact survivors

end Added

end Unrelated

variable {new : RouteFile} {fewer more : List RouteFile}

theorem nearest?_adds (adds : Adds new fewer more) {id : Text}
    (outside : ¬ Below new.id id) : nearest? more id = nearest? fewer id := by
  rw [nearest?, nearest?, adds.filter_of_neg]
  rwa [Draft.inNamespace_iff]

/-- A route that is above no other adds an entry to a manifest and leaves all
others as they are. -/
theorem entries_manifest_adds (adds : Adds new fewer more)
    (distinct : (more.map RouteFile.id).Nodup)
    (childless : ∀ route ∈ fewer, ¬ Below new.id route.id) :
    (manifest more).entries.Perm
      (entryAmong fewer new :: (manifest fewer).entries) := by
  have parts := (adds.perm.map RouteFile.id).nodup_iff.mp distinct
  have fewerDistinct : (fewer.map RouteFile.id).Nodup :=
    (List.nodup_cons.mp parts).2
  have same : ∀ route ∈ new :: fewer,
      entryAmong more route = entryAmong fewer route := by
    intro route member
    rw [entryAmong, entryAmong, nearest?_adds adds]
    rcases List.mem_cons.mp member with rfl | old
    · exact Below.not_self
    · exact childless route old
  calc
    (manifest more).entries.Perm (more.map (entryAmong more)) :=
      entries_manifest_perm distinct
    _ |>.Perm ((new :: fewer).map (entryAmong more)) := adds.perm.map _
    _ = entryAmong fewer new :: fewer.map (entryAmong fewer) :=
      List.map_congr_left same
    _ |>.Perm (entryAmong fewer new :: (manifest fewer).entries) :=
      (entries_manifest_perm fewerDistinct).symm.cons _

theorem readAll_adds {root : Text} {files added : List Text}
    {read : List RouteFile} (reading : readAll root files = .ok read)
    {file : Text}
    (reads : RouteFile.read (Path.root root) (Path.slashed file) = .ok new)
    (permuted : added.Perm (file :: files)) :
    ∃ moreRead, readAll root added = .ok moreRead ∧ Adds new read moreRead := by
  rw [readAll_eq_of_perm (permuted.map Path.slashed), readAll, List.map_cons]
  exact (Alphabet.unicode.sort_adds _ _).mapM reads reading

theorem mem_readAll_iff {root : Text} {files : List Text}
    {read : List RouteFile} (reading : readAll root files = .ok read)
    {route : RouteFile} :
    route ∈ read ↔ ∃ file, Gives root files file route := by
  obtain ⟨entrants, rfl, inOrder⟩ := readAll_eq_ok reading
  simp only [List.mem_map, Prod.exists, exists_eq_right, inOrder.gives]

end RouteFile

/-- A file inside the root may be added, in any place, if its id is new and is
above no other id, and if no route competes with it for its URL.  The build
succeeds as before with the same conflicts, and its manifest has one more entry:
that of the new id, below the nearest route there was. -/
theorem build_with_unrelated_file {root : Text} {files : List Text}
    {manifest : Manifest} (built : (build root files).outcome = .ok manifest)
    {file : Text} {new : RouteFile}
    (reads : RouteFile.read (Path.root root) (Path.slashed file) = .ok new)
    (fresh : ∀ path route, Gives root files path route → route.id ≠ new.id)
    (childless : ∀ path route, Gives root files path route →
      ¬ Below new.id route.id)
    (uncontested : new.segments.Competes →
      ∀ path route, Gives root files path route → route.segments.Competes →
        ¬ route.segments.SameUrl new.segments)
    {added : List Text} (permuted : added.Perm (file :: files)) :
    ∃ (extended : Manifest) (entry : Route),
      build root added = ⟨(build root files).conflicts, .ok extended⟩ ∧
      new.id ∉ manifest.keys ∧
      extended.entries.Perm ((new.id, entry) :: manifest.entries) ∧
      entry.id = new.id ∧ entry.file = new.file ∧
      IsNearest manifest.keys new.id entry.parentId := by
  obtain ⟨read, reading, rfl⟩ := build_eq_manifest built
  obtain ⟨moreRead, readMore, adds⟩ :=
    RouteFile.readAll_adds reading reads permuted
  have unrelated : RouteFile.Unrelated read new := by
    constructor
    · intro route member
      obtain ⟨path, gives⟩ := (RouteFile.mem_readAll_iff reading).mp member
      exact fresh path route gives
    · intro route member
      obtain ⟨path, gives⟩ := (RouteFile.mem_readAll_iff reading).mp member
      exact childless path route gives
    · intro competes route member rival same
      obtain ⟨path, gives⟩ := (RouteFile.mem_readAll_iff reading).mp member
      exact uncontested (RouteFile.participates_iff.mp competes) path route
        gives (RouteFile.participates_iff.mp rival)
        (RouteFile.urlKey_eq_iff.mp same)
  let survivors := RouteFile.survivors read
  have distinct := RouteFile.survivors_ids_nodup read
  have sameKeys : ∀ id, id ∈ survivors.map RouteFile.id ↔
      id ∈ (RouteFile.manifest survivors).keys := fun id =>
    (RouteFile.mem_keys_manifest distinct).symm
  have old : ∀ route ∈ survivors, route ∈ read :=
    fun route survives => (RouteFile.survivors_sublist_files read).subset survives
  refine ⟨RouteFile.manifest (RouteFile.survivors moreRead),
    new.finish (RouteFile.nearest? survivors new.id), ?_, ?_, ?_, rfl, rfl, ?_⟩
  · rw [build_eq_of_readAll readMore, build_eq_of_readAll reading,
      unrelated.conflicts_eq adds]
  · intro member
    obtain ⟨route, survives, same⟩ :=
      List.mem_map.mp ((sameKeys new.id).mpr member)
    exact unrelated.fresh route (old route survives) same
  · apply RouteFile.entries_manifest_adds (unrelated.survivors_adds adds)
    · exact RouteFile.survivors_ids_nodup moreRead
    · exact fun route survives =>
        unrelated.childless route (old route survives)
  · exact (RouteFile.nearest?_isNearest survivors new.id).congr sameKeys

/-- A file to add to the rival files, below one of them. -/
def addedFile : Text := "r\\a.b.c.t".toList

def addedRoute : RouteFile where
  id := "a.b.c".toList
  file := "a.b.c.t".toList
  segments :=
    ⟨["a".toList, "b".toList, "c".toList],
      ["a".toList, "b".toList, "c".toList]⟩

theorem file_added_to_rivals :
    (build "r/".toList rivalFiles).outcome = .ok rivalManifest ∧
      RouteFile.read (Path.root "r/".toList) (Path.slashed addedFile) =
        .ok addedRoute ∧
      (∀ path route, Gives "r/".toList rivalFiles path route →
        route.id ≠ addedRoute.id ∧ ¬ Below addedRoute.id route.id ∧
          ¬ route.segments.SameUrl addedRoute.segments) ∧
      ∃ extended entry,
        build "r/".toList (rivalFiles ++ [addedFile]) =
            ⟨(build "r/".toList rivalFiles).conflicts, .ok extended⟩ ∧
          extended.entries.Perm
            (("a.b.c".toList, entry) :: rivalManifest.entries) ∧
          entry.file = "a.b.c.t".toList ∧
          IsNearest rivalManifest.keys "a.b.c".toList entry.parentId := by
  have reads : RouteFile.read (Path.root "r/".toList) (Path.slashed addedFile) =
      .ok addedRoute := by decide
  have unrelated : ∀ path route, Gives "r/".toList rivalFiles path route →
      route.id ≠ addedRoute.id ∧ ¬ Below addedRoute.id route.id ∧
        ¬ route.segments.SameUrl addedRoute.segments :=
    Gives.forall_of_all (by decide)
  obtain ⟨extended, entry, report, _, entries, _, isFile, nearest⟩ :=
    build_with_unrelated_file build_rivals reads
      (fun path route gives => (unrelated path route gives).1)
      (fun path route gives => (unrelated path route gives).2.1)
      (fun _ path route gives _ => (unrelated path route gives).2.2)
      (List.perm_append_singleton addedFile rivalFiles)
  exact ⟨build_rivals, reads, unrelated, extended, entry, report, entries,
    isFile, nearest⟩

end FileRouting
