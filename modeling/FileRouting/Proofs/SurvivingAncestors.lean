import FileRouting.Proofs.Nesting
import FileRouting.Proofs.Reattachment

/-!
# Nearest ancestors that survive

If every parent is the nearest ancestor, then ids get shorter on the way up, so
that climbs end.  A climb passes removed drafts only, and what it lands on is
the nearest ancestor among those that were kept: the ancestors of an id that
are shorter than a removed one are the ancestors of the removed one.
-/

namespace FileRouting.Draft

/-- Whether every draft has its nearest ancestor as its parent. -/
def NearestParents (drafts : List Draft) : Prop :=
  ∀ draft ∈ drafts, ∃ nearest,
    IsNearest (ids drafts) draft.route.id nearest ∧
      LeadsTo (ids drafts) draft.parent nearest

namespace NearestParents

variable {drafts : List Draft} {removed : List Nat} {kept : List Text}

theorem at_position (parents : NearestParents drafts) {position : Nat}
    {id : Text} (found : (ids drafts)[position]? = some id) :
    ∃ nearest, IsNearest (ids drafts) id nearest ∧
      LeadsTo (ids drafts) (parentAt drafts position) nearest := by
  rw [ids, List.getElem?_map, Option.map_eq_some_iff] at found
  obtain ⟨draft, present, rfl⟩ := found
  obtain ⟨nearest, isNearest, leads⟩ :=
    parents draft (List.mem_of_getElem? present)
  exact ⟨nearest, isNearest, by simpa [parentAt, present] using leads⟩

theorem rooted (parents : NearestParents drafts) :
    Rooted drafts fun position => ((ids drafts)[position]?.getD []).length := by
  have above : ∀ position parent, parentAt drafts position = some parent →
      ∃ id nearest, (ids drafts)[position]? = some id ∧
        (ids drafts)[parent]? = some nearest ∧ Below nearest id := by
    intro position parent isParent
    obtain ⟨id, found⟩ : ∃ id, (ids drafts)[position]? = some id := by
      have within := parentAt_lt_length isParent
      exact ⟨_, List.getElem?_eq_getElem (by simpa [ids] using within)⟩
    obtain ⟨nearest, isNearest, leads⟩ := parents.at_position found
    cases nearest with
    | none => simp [LeadsTo, isParent] at leads
    | some nearest =>
        refine ⟨id, nearest, found, ?_, isNearest.2.1⟩
        simpa [LeadsTo, isParent] using leads
  constructor
  · intro position parent isParent
    obtain ⟨_, _, _, parentFound, _⟩ := above position parent isParent
    simpa [ids] using (List.getElem?_eq_some_iff.mp parentFound).1
  · intro position parent isParent
    obtain ⟨_, _, found, parentFound, below⟩ := above position parent isParent
    simpa [found, parentFound] using below.length_lt

theorem lands_nearest (parents : NearestParents drafts)
    (keptIff : ∀ position id, (ids drafts)[position]? = some id →
      (id ∈ kept ↔ position ∉ removed))
    (subset : kept ⊆ ids drafts) {start landing : Option Nat}
    (lands : Lands (parentAt drafts) removed start landing) {id : Text}
    {nearest : Option Text} (isNearest : IsNearest (ids drafts) id nearest)
    (leads : LeadsTo (ids drafts) start nearest) :
    ∃ next, IsNearest kept id next ∧ LeadsTo (ids drafts) landing next := by
  induction lands generalizing id nearest with
  | outside =>
      cases nearest with
      | none =>
          exact ⟨none, fun upper member => isNearest upper (subset member),
            leads⟩
      | some nearest => simp [LeadsTo] at leads
  | @here position here =>
      cases nearest with
      | none => simp [LeadsTo] at leads
      | some nearest =>
          have found : (ids drafts)[position]? = some nearest := by
            simpa [LeadsTo] using leads
          exact ⟨some nearest,
            isNearest.mono ((keptIff position nearest found).mpr here) subset,
            leads⟩
  | @up position landing gone _ induction =>
      cases nearest with
      | none => simp [LeadsTo] at leads
      | some nearest =>
          have found : (ids drafts)[position]? = some nearest := by
            simpa [LeadsTo] using leads
          obtain ⟨further, furtherNearest, furtherLeads⟩ :=
            parents.at_position found
          obtain ⟨next, nextNearest, nextLeads⟩ :=
            induction furtherNearest furtherLeads
          have absent : nearest ∉ kept := fun member =>
            (keptIff position nearest found).mp member gone
          exact ⟨next, isNearest.pass_on absent subset nextNearest, nextLeads⟩

end NearestParents

end FileRouting.Draft
