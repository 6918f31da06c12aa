import FileRouting.Proofs.Namespace
import FileRouting.Proofs.TrieContents

/-!
# Nesting puts each draft below its nearest ancestor

The drafts are visited with the longest ids first.  After some of them were
visited, the trie holds the visited ids that no visited id lies above, and each
draft has its nearest ancestor among the visited ids as its parent.  One visit
keeps this, because an id that comes later is never longer than those that came
before it; and when all drafts were visited, it says that every parent is the
nearest ancestor there is.
-/

namespace FileRouting.Draft

/-- The ids of some drafts, at their positions. -/
def ids (drafts : List Draft) : List Text :=
  drafts.map fun draft => draft.route.id

/-- Whether a parent position, if any, leads to an id, if any. -/
def LeadsTo (ids : List Text) (parent : Option Nat) (id : Option Text) : Prop :=
  parent.map (fun position => ids[position]?) = id.map some

/-- What holds after some ids were visited. -/
structure Nesting (drafts : List Draft) (visited : List Text)
    (state : Trie × List Draft) : Prop where
  ordered : state.1.Ordered
  waiting : ∀ text, text ∈ state.1.toList ↔
    text ∈ visited ∧ IsNearest visited text none
  routes : state.2.map route = drafts.map route
  parents : ∀ draft ∈ state.2, ∃ nearest,
    IsNearest visited draft.route.id nearest ∧
      LeadsTo (ids drafts) draft.parent nearest

theorem ids_eq_map_route (drafts : List Draft) :
    ids drafts = (drafts.map route).map RouteFile.id := by
  simp [ids]

theorem LeadsTo.id_eq {drafts : List Draft} {parent : Option Nat}
    {id : Option Text} (leads : LeadsTo (ids drafts) parent id) :
    (parent.bind fun position => drafts[position]?).map
      (fun draft => draft.route.id) = id := by
  cases parent <;> cases id <;> simp_all [LeadsTo, ids]

theorem routes_adopt (drafts : List Draft) (position : Nat)
    (claimed : List Text) :
    (adopt drafts position claimed).map route = drafts.map route := by
  simp only [adopt, List.map_map]
  apply List.map_congr_left
  intro draft _
  simp only [Function.comp]
  split <;> rfl

/-- Everything a visit does to a draft that is there. -/
theorem visit_eq_ok {state next : Trie × List Draft} {position : Nat}
    {draft : Draft} (found : state.2[position]? = some draft)
    (step : visit state position = .ok next) :
    let id := draft.route.id
    let claim := state.1.claim id (inNamespace id)
    id ≠ [] ∧ next = (claim.2.insert id, adopt state.2 position claim.1) := by
  obtain ⟨waiting, drafts⟩ := state
  simp only at found
  simp only [visit, found, Trie.add?] at step
  by_cases empty : draft.route.id = []
  · simp [empty] at step
  · simp only [empty, if_false, Except.ok.injEq] at step
    exact ⟨empty, step.symm⟩

namespace Nesting

variable {drafts : List Draft} {visited : List Text}
  {state next : Trie × List Draft}

theorem initial (fresh : ∀ draft ∈ drafts, draft.parent = none) :
    Nesting drafts [] (.nil, drafts) where
  ordered := trivial
  waiting := by simp [Trie.toList]
  routes := rfl
  parents := by
    intro draft member
    exact ⟨none, by simp [IsNearest], by simp [LeadsTo, fresh draft member]⟩

theorem mem_claimed (nesting : Nesting drafts visited state) {id text : Text} :
    text ∈ (state.1.claim id (inNamespace id)).1 ↔
      text ∈ visited ∧ IsNearest visited text none ∧ Below id text := by
  rw [Trie.mem_claimed nesting.ordered, nesting.waiting, inNamespace_iff]
  constructor
  · rintro ⟨⟨member, top⟩, _, below⟩
    exact ⟨member, top, below⟩
  · rintro ⟨member, top, below⟩
    exact ⟨⟨member, top⟩, below.isPrefix, below⟩

/-- After a visit the trie holds the visited id, which nothing longer is above,
and what it did not claim. -/
theorem waiting_visit (nesting : Nesting drafts visited state) {id : Text}
    (nonempty : id ≠ [])
    (shortest : ∀ upper ∈ visited, Text.byteSize id ≤ Text.byteSize upper)
    (text : Text) :
    text ∈ ((state.1.claim id (inNamespace id)).2.insert id).toList ↔
      text ∈ id :: visited ∧ IsNearest (id :: visited) text none := by
  rw [Trie.mem_toList_insert, Trie.mem_left_by_claim nesting.ordered,
    nesting.waiting, inNamespace_iff]
  constructor
  · rintro (⟨rfl, _⟩ | ⟨⟨member, top⟩, unclaimed⟩)
    · refine ⟨List.mem_cons_self, ?_⟩
      intro upper member below
      rcases List.mem_cons.mp member with rfl | old
      · exact Below.not_self below
      · exact Nat.not_le_of_lt below.byteSize_lt (shortest upper old)
    · exact ⟨List.mem_cons_of_mem _ member, top.cons shortest fun _ below =>
        unclaimed ⟨below.isPrefix, below⟩⟩
  · rintro ⟨member, top⟩
    rcases List.mem_cons.mp member with rfl | old
    · exact .inl ⟨rfl, nonempty⟩
    · refine .inr ⟨⟨old, fun upper upperMember =>
        top upper (List.mem_cons_of_mem _ upperMember)⟩, ?_⟩
      rintro ⟨_, below⟩
      exact top id List.mem_cons_self below

/-- A visit keeps what holds, if no id visited before is shorter and no longer
one is left. -/
theorem visit (nesting : Nesting drafts visited state) {position : Nat}
    {id : Text} (found : (ids drafts)[position]? = some id)
    (shortest : ∀ upper ∈ visited, Text.byteSize id ≤ Text.byteSize upper)
    (longer : ∀ other ∈ ids drafts,
      Text.byteSize id < Text.byteSize other → other ∈ visited)
    (step : Draft.visit state position = .ok next) :
    Nesting drafts (id :: visited) next := by
  have sameIds : ids state.2 = ids drafts := by
    rw [ids_eq_map_route, ids_eq_map_route, nesting.routes]
  obtain ⟨draft, present, rfl⟩ :
      ∃ draft, state.2[position]? = some draft ∧ draft.route.id = id := by
    rw [← sameIds, ids, List.getElem?_map, Option.map_eq_some_iff] at found
    exact found
  obtain ⟨nonempty, rfl⟩ := visit_eq_ok present step
  refine ⟨Trie.insert_ordered (Trie.claim_ordered nesting.ordered) _,
    nesting.waiting_visit nonempty shortest,
    (routes_adopt _ _ _).trans nesting.routes, ?_⟩
  intro adopted member
  obtain ⟨earlier, earlierMember, rfl⟩ := List.mem_map.mp member
  obtain ⟨nearest, isNearest, leads⟩ := nesting.parents earlier earlierMember
  by_cases claimed :
      earlier.route.id ∈ (state.1.claim draft.route.id
        (inNamespace draft.route.id)).1
  · obtain ⟨_, top, below⟩ := nesting.mem_claimed.mp claimed
    simp only [claimed, if_true]
    exact ⟨some draft.route.id, top.cons_self below, by
      simp [LeadsTo, found]⟩
  · simp only [claimed, if_false]
    refine ⟨nearest, isNearest.cons shortest ?_, leads⟩
    rintro rfl below
    have known : earlier.route.id ∈ ids drafts := by
      rw [← sameIds]
      exact List.mem_map_of_mem earlierMember
    exact claimed (nesting.mem_claimed.mpr
      ⟨longer _ known below.byteSize_lt, isNearest, below⟩)

/-- The run over an order in which no id is longer than an earlier one. -/
theorem foldlM {order : List (Draft × Nat)}
    (nesting : Nesting drafts visited state)
    (placed : ∀ entry ∈ order, drafts[entry.2]? = some entry.1)
    (descending : order.Pairwise fun earlier later =>
      Text.byteSize later.1.route.id ≤ Text.byteSize earlier.1.route.id)
    (shortest : ∀ entry ∈ order, ∀ upper ∈ visited,
      Text.byteSize entry.1.route.id ≤ Text.byteSize upper)
    (complete : ∀ id ∈ ids drafts,
      id ∈ visited ∨ id ∈ order.map (·.1.route.id))
    (run : (order.map (·.2)).foldlM Draft.visit state = .ok next) :
    Nesting drafts ((order.map (·.1.route.id)).reverse ++ visited) next := by
  induction order generalizing visited state with
  | nil =>
      simp only [List.map_nil, List.foldlM_nil, pure, Except.pure,
        Except.ok.injEq] at run
      simpa [← run] using nesting
  | cons entry order induction =>
      obtain ⟨first, laterDescending⟩ := List.pairwise_cons.mp descending
      rw [List.map_cons, List.foldlM_cons] at run
      cases step : Draft.visit state entry.2 with
      | error error => simp [step, bind, Except.bind] at run
      | ok middle =>
          simp only [step, bind, Except.bind] at run
          have found : (ids drafts)[entry.2]? = some entry.1.route.id := by
            simp [ids, placed entry List.mem_cons_self]
          have longerVisited : ∀ other ∈ ids drafts,
              Text.byteSize entry.1.route.id < Text.byteSize other →
                other ∈ visited := by
            intro other member longer
            rcases complete other member with old | new
            · exact old
            · rw [List.map_cons] at new
              rcases List.mem_cons.mp new with rfl | later
              · exact absurd longer (Nat.lt_irrefl _)
              · obtain ⟨entry, laterMember, rfl⟩ := List.mem_map.mp later
                exact absurd longer (Nat.not_lt.mpr (first entry laterMember))
          have laterShortest : ∀ later ∈ order,
              ∀ upper ∈ entry.1.route.id :: visited,
                Text.byteSize later.1.route.id ≤ Text.byteSize upper := by
            intro later member upper upperMember
            rcases List.mem_cons.mp upperMember with rfl | old
            · exact first later member
            · exact shortest later (List.mem_cons_of_mem _ member) upper old
          have laterComplete : ∀ id ∈ ids drafts,
              id ∈ entry.1.route.id :: visited ∨
                id ∈ order.map (·.1.route.id) := by
            intro id member
            rcases complete id member with old | new
            · exact .inl (List.mem_cons_of_mem _ old)
            · rw [List.map_cons] at new
              rcases List.mem_cons.mp new with rfl | later
              · exact .inl List.mem_cons_self
              · exact .inr later
          have afterFirst := nesting.visit found
            (shortest entry List.mem_cons_self) longerVisited step
          have final := induction afterFirst
            (fun later member => placed later (List.mem_cons_of_mem _ member))
            laterDescending laterShortest laterComplete run
          simpa using final

end Nesting

theorem longestFirst_descending (drafts : List Draft) :
    ∃ order : List (Draft × Nat),
      longestFirst drafts = order.map (·.2) ∧ order.Perm drafts.zipIdx ∧
        order.Pairwise fun earlier later =>
          Text.byteSize later.1.route.id ≤
            Text.byteSize earlier.1.route.id := by
  refine ⟨_, rfl, List.mergeSort_perm _ _, ?_⟩
  refine (List.pairwise_mergeSort ?_ ?_ drafts.zipIdx).imp ?_
  · intro first second third
    simp only [decide_eq_true_eq]
    omega
  · intro first second
    simp only [Bool.or_eq_true, decide_eq_true_eq]
    omega
  · intro earlier later ordered
    simpa using ordered

/-- Nesting changes parents only, and gives each draft its nearest ancestor. -/
theorem nest_nearest {drafts nested : List Draft}
    (fresh : ∀ draft ∈ drafts, draft.parent = none)
    (success : nest drafts = .ok nested) :
    nested.map route = drafts.map route ∧
      ∀ draft ∈ nested, ∃ nearest,
        IsNearest (ids drafts) draft.route.id nearest ∧
          LeadsTo (ids drafts) draft.parent nearest := by
  obtain ⟨order, equal, permutation, descending⟩ :=
    longestFirst_descending drafts
  have placed : ∀ entry ∈ order, drafts[entry.2]? = some entry.1 := by
    intro entry member
    exact List.mem_zipIdx_iff_getElem?.mp (permutation.mem_iff.mp member)
  have all : (order.map (·.1.route.id)).Perm (ids drafts) := by
    have mapped := permutation.map fun entry => entry.1.route.id
    have unplaced : drafts.zipIdx.map (·.1.route.id) = ids drafts := by
      rw [ids, ← List.zipIdx_map_fst 0 drafts, List.map_map]
      simp [Function.comp_def]
    rwa [unplaced] at mapped
  rw [nest, equal] at success
  cases run : (order.map (·.2)).foldlM visit (.nil, drafts) with
  | error error => simp [run, bind, Except.bind] at success
  | ok final =>
      have same : final.2 = nested := by
        simpa [run, bind, Except.bind, pure, Except.pure] using success
      subst same
      have nesting := (Nesting.initial fresh).foldlM placed descending
        (by simp) (fun id member => .inr (all.mem_iff.mpr member)) run
      refine ⟨nesting.routes, ?_⟩
      intro draft member
      obtain ⟨nearest, isNearest, leads⟩ := nesting.parents draft member
      exact ⟨nearest, isNearest.congr (by simp [← all.mem_iff]), leads⟩

end FileRouting.Draft
