import FileRouting.Build
import FileRouting.Proofs.CollationOrder
import FileRouting.Proofs.SegmentExtension

/-!
# Files in the order in which they are read

If a build succeeds, then every file gives rise to a route, and the files with
their routes stand in collated order.  A route is not known by less than its
file: two spellings of one path are two files that give one route.
-/

namespace FileRouting

/-- Whether one of some files gives rise to a route. -/
def Gives (root : Text) (files : List Text) (file : Text)
    (route : RouteFile) : Prop :=
  file ∈ files.map Path.slashed ∧
    RouteFile.read (Path.root root) file = .ok route

/-- What is true of the route of every file can be checked file by file. -/
theorem Gives.forall_of_all {root : Text} {files : List Text}
    {property : RouteFile → Prop} [DecidablePred property]
    (all : (files.map Path.slashed).all (fun file =>
      (RouteFile.read (Path.root root) file).toOption.all fun route =>
        decide (property route)) = true) :
    ∀ file route, Gives root files file route → property route := by
  intro file route gives
  have checked := List.all_eq_true.mp all file gives.1
  rw [gives.2] at checked
  exact of_decide_eq_true checked

theorem RouteFile.read_eq_ok_iff {root file : Text} {route : RouteFile} :
    read root file = .ok route ↔
      locate root file = .ok route.file ∧ route.id = idOf route.file ∧
        Segments.parse route.id = .ok route.segments := by
  unfold read
  cases located : locate root file with
  | error error => simp [bind, Except.bind]
  | ok relative =>
      cases parsed : Segments.parse (idOf relative) with
      | error error =>
          simp only [parsed, bind, Except.bind, reduceCtorEq, Except.ok.injEq,
            false_iff]
          intro accepted
          obtain ⟨rfl, equal, other⟩ := accepted
          rw [equal, parsed] at other
          cases other
      | ok segments =>
          simp only [parsed, bind, Except.bind, pure, Except.pure,
            Except.ok.injEq]
          constructor
          · intro same
            subst same
            exact ⟨rfl, rfl, parsed⟩
          · intro accepted
            obtain ⟨rfl, equal, other⟩ := accepted
            rw [equal, parsed] at other
            cases route
            simp_all

theorem mapM_eq_ok {α β ε : Type} {read : α → Except ε β} {items : List α}
    {results : List β} (success : items.mapM read = .ok results) :
    ∃ pairs : List (α × β), pairs.map (·.1) = items ∧
      pairs.map (·.2) = results ∧
      ∀ pair ∈ pairs, read pair.1 = .ok pair.2 := by
  induction items generalizing results with
  | nil =>
      rw [List.mapM_nil] at success
      cases success
      exact ⟨[], rfl, rfl, by simp⟩
  | cons item later induction =>
      rw [List.mapM_cons] at success
      cases first : read item with
      | error error => simp [first, bind, Except.bind] at success
      | ok result =>
          cases rest : later.mapM read with
          | error error => simp [first, rest, bind, Except.bind] at success
          | ok laterResults =>
              have equal : result :: laterResults = results := by
                simpa [first, rest, bind, Except.bind, pure, Except.pure]
                  using success
              obtain ⟨pairs, firsts, seconds, reads⟩ := induction rest
              refine ⟨(item, result) :: pairs, by simp [firsts],
                by simp [seconds, equal], ?_⟩
              intro pair member
              rcases List.mem_cons.mp member with rfl | isLater
              · exact first
              · exact reads pair isLater

theorem mapM_map_fst {α β ε : Type} {read : α → Except ε β}
    {pairs : List (α × β)} (reads : ∀ pair ∈ pairs, read pair.1 = .ok pair.2) :
    (pairs.map (·.1)).mapM read = .ok (pairs.map (·.2)) := by
  induction pairs with
  | nil => rfl
  | cons pair later induction =>
      have first := reads pair List.mem_cons_self
      have rest := induction fun other member =>
        reads other (List.mem_cons_of_mem _ member)
      rw [List.map_cons, List.mapM_cons, first, rest]
      rfl

theorem mapM_congr {α β ε : Type} {read other : α → Except ε β}
    {items : List α} (agree : ∀ item ∈ items, read item = other item) :
    items.mapM read = items.mapM other := by
  induction items with
  | nil => rfl
  | cons item later induction =>
      rw [List.mapM_cons, List.mapM_cons, agree item List.mem_cons_self,
        induction fun next member => agree next (List.mem_cons_of_mem _ member)]

/-- The error of a traversal is that of the first item that is rejected. -/
theorem exists_first_of_mapM_eq_error {α β ε : Type} {read : α → Except ε β}
    {items : List α} {error : ε} (failed : items.mapM read = .error error) :
    ∃ before item later, items = before ++ item :: later ∧
      (∀ earlier ∈ before, ∃ result, read earlier = .ok result) ∧
      read item = .error error := by
  induction items with
  | nil => cases failed
  | cons item later induction =>
      rw [List.mapM_cons] at failed
      cases first : read item with
      | error other =>
          rw [first] at failed
          cases failed
          exact ⟨[], item, later, rfl, by simp, first⟩
      | ok result =>
          cases rest : later.mapM read with
          | error other =>
              rw [first, rest] at failed
              cases failed
              obtain ⟨before, next, after, rfl, accepted, rejected⟩ :=
                induction rest
              refine ⟨item :: before, next, after, rfl, ?_, rejected⟩
              intro earlier member
              rcases List.mem_cons.mp member with rfl | old
              · exact ⟨result, first⟩
              · exact accepted earlier old
          | ok results =>
              rw [first, rest] at failed
              cases failed

theorem mapM_eq_error {α β ε : Type} {read : α → Except ε β} {items : List α}
    {error : ε} (failed : items.mapM read = .error error) :
    ∃ item ∈ items, read item = .error error := by
  obtain ⟨before, item, later, rfl, _, rejected⟩ :=
    exists_first_of_mapM_eq_error failed
  exact ⟨item, by simp, rejected⟩

/-- Whether a file with its route is read no later than another. -/
def ReadBefore (first second : Text × RouteFile) : Prop :=
  Alphabet.unicode.Precedes first.1 second.1

theorem ReadBefore.refl (entrant : Text × RouteFile) :
    ReadBefore entrant entrant :=
  Alphabet.Precedes.refl entrant.1

/-- Files with their routes, in the order in which they are read. -/
structure ReadInOrder (root : Text) (files : List Text)
    (entrants : List (Text × RouteFile)) : Prop where
  arrival : entrants.Pairwise ReadBefore
  gives : ∀ entrant, entrant ∈ entrants ↔ Gives root files entrant.1 entrant.2

theorem readAll_eq_ok {root : Text} {files : List Text} {read : List RouteFile}
    (reading : RouteFile.readAll root files = .ok read) :
    ∃ entrants, entrants.map (·.2) = read ∧
      ReadInOrder root files entrants := by
  obtain ⟨entrants, firsts, seconds, reads⟩ := mapM_eq_ok reading
  refine ⟨entrants, seconds, ?_, fun entrant => ?_⟩
  · have sorted : (collate (files.map Path.slashed)).Pairwise
        Alphabet.unicode.Precedes := Alphabet.sort_pairwise _
    rw [← firsts, List.pairwise_map] at sorted
    exact sorted
  · have listed : entrant.1 ∈ entrants.map (·.1) ↔
        entrant.1 ∈ files.map Path.slashed := by
      rw [firsts]
      exact (Alphabet.sort_perm _).mem_iff
    constructor
    · intro member
      exact ⟨listed.mp (List.mem_map_of_mem member), reads _ member⟩
    · intro given
      obtain ⟨member, gives⟩ := given
      obtain ⟨other, present, sameFile⟩ := List.mem_map.mp (listed.mpr member)
      have otherReads := reads other present
      rw [sameFile] at otherReads
      have same : other = entrant :=
        Prod.ext sameFile (Except.ok.inj (otherReads.symm.trans gives))
      exact same ▸ present

theorem RouteFile.parse_id_of_mem {root : Text} {files : List Text}
    {read : List RouteFile} (reading : readAll root files = .ok read)
    {route : RouteFile} (member : route ∈ read) :
    Segments.parse route.id = .ok route.segments := by
  obtain ⟨entrants, rfl, inOrder⟩ := readAll_eq_ok reading
  obtain ⟨entrant, entered, rfl⟩ := List.mem_map.mp member
  exact (read_eq_ok_iff.mp ((inOrder.gives entrant).mp entered).2).2.2

namespace ReadInOrder

variable {root : Text} {files : List Text}
  {entrants : List (Text × RouteFile)} {entrant : Text × RouteFile}

theorem antisymm (inOrder : ReadInOrder root files entrants) :
    ∀ first ∈ entrants, ∀ second ∈ entrants,
      ReadBefore first second → ReadBefore second first → first = second := by
  intro first member second secondMember forward backward
  have sameFile : first.1 = second.1 := forward.antisymm backward
  have read := ((inOrder.gives _).mp member).2
  have secondRead := ((inOrder.gives _).mp secondMember).2
  rw [sameFile] at read
  exact Prod.ext sameFile (Except.ok.inj (read.symm.trans secondRead))

end ReadInOrder

end FileRouting
