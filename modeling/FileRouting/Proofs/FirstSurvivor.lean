import FileRouting.Proofs.Ascents
import FileRouting.Proofs.Reattachment

/-!
# The first survivor of a way upwards

Drafts may stand in any order, children before their parents or behind them.  All
that reattachment asks of them is that parents are positions of drafts and that
no way from parent to parent returns.  Then every way upwards is a finite list of
positions, and reattachment finds the first of them that is not removed.

The climbs go through parents of which some were overwritten already.  Each of
them ends all the same, and where the original way leads.
-/

namespace FileRouting.Draft

/-- Whether the draft at a position has a parent. -/
def HasParent (drafts : List Draft) (position parent : Nat) : Prop :=
  parentAt drafts position = some parent

/-- Parents are positions of drafts, and no way from parent to parent returns. -/
structure WellParented (drafts : List Draft) : Prop where
  inRange : ∀ position parent, HasParent drafts position parent →
    parent < drafts.length
  acyclic : ∀ position,
    ¬ Relation.TransGen (HasParent drafts) position position

/-- The drafts after so many of them were moved. -/
def reattachFirst (drafts : List Draft) (removed : List Nat) (count : Nat) :
    List Draft :=
  (List.range count).foldl (reattachAt removed) drafts

variable {drafts : List Draft} {removed : List Nat}

/-- The number of positions above a position is a rank. -/
theorem WellParented.rooted (parented : WellParented drafts) :
    ∃ rank, Rooted drafts rank := by
  classical
  let higher := fun position other : Nat =>
    decide (Relation.TransGen (HasParent drafts) position other)
  refine ⟨fun position => (List.range drafts.length).countP (higher position),
    parented.inRange, ?_⟩
  intro position parent isParent
  apply countP_lt_countP _
    (List.mem_range.mpr (parented.inRange position parent isParent))
  · exact decide_eq_true (.single isParent)
  · exact decide_eq_false (parented.acyclic parent)
  · intro other _ further
    simp only [higher, decide_eq_true_eq] at further ⊢
    exact .head isParent further

theorem wellParented_iff :
    WellParented drafts ↔ ∃ rank, Rooted drafts rank := by
  constructor
  · exact WellParented.rooted
  · intro hasRank
    obtain ⟨rank, rooted⟩ := hasRank
    refine ⟨rooted.inRange, fun position cycle => ?_⟩
    exact Nat.lt_irrefl _ (rank_lt_of_transGen rooted.descends cycle)

theorem Rooted.exists_ascent {rank : Nat → Nat} (rooted : Rooted drafts rank)
    (start : Option Nat) : ∃ above, Ascent (parentAt drafts) start above := by
  apply Ascent.exists_of_rank (fun _ => True) rank
  · exact fun position _ parent isParent =>
      ⟨trivial, rooted.descends position parent isParent⟩
  · exact fun _ _ => trivial

/-- A climb lands on the first position of the way that is not removed. -/
theorem Lands.of_ascent {parentOf : Nat → Option Nat} {start : Option Nat}
    {above : List Nat} (ascent : Ascent parentOf start above) :
    Lands parentOf removed start
      (above.find? fun position => position ∉ removed) := by
  induction ascent with
  | top => exact .outside
  | @up position above _ induction =>
      by_cases gone : position ∈ removed
      · rw [List.find?_cons_of_neg (by simpa using gone)]
        exact .up gone induction
      · rw [List.find?_cons_of_pos (by simpa using gone)]
        exact .here gone

/-- Reattachment changes parents only.  Every draft gets the first position on
its original way upwards that is not removed, or none if all are, and the climb
that finds it through the drafts moved so far comes to an end. -/
theorem reattach_finds_first_survivor (parented : WellParented drafts)
    (removed : List Nat) :
    (reattach drafts removed).map route = drafts.map route ∧
      ∀ position,
        (∃ above, Ascent (parentAt drafts) (parentAt drafts position) above ∧
          parentAt (reattach drafts removed) position =
            above.find? fun upper => upper ∉ removed) ∧
        Lands (parentAt (reattachFirst drafts removed position)) removed
          (parentAt (reattachFirst drafts removed position) position)
          (parentAt (reattach drafts removed) position) := by
  obtain ⟨rank, rooted⟩ := parented.rooted
  obtain ⟨routes, lands⟩ := reattach_lands rooted removed
  refine ⟨routes, fun position => ⟨?_, ?_⟩⟩
  · obtain ⟨above, ascent⟩ := rooted.exists_ascent (parentAt drafts position)
    exact ⟨above, ascent, (lands position).unique (.of_ascent ascent)⟩
  · obtain ⟨height, heightRooted, bounded⟩ := rooted.bounded
    have reattaching : Reattaching drafts removed position
        (reattachFirst drafts removed position) :=
      Reattaching.run heightRooted bounded position
    rw [reattaching.unmoved position (Nat.le_refl position)]
    exact reattaching.lands (lands position)

/-- Four drafts, each below the next longer prefix of its id, in such an order
that the way up from the first leads to the last, back and forth. -/
def tangledDrafts : List Draft :=
  [("a.b.c.d", some 3), ("a.b", some 2), ("a", none), ("a.b.c", some 1)].map
    fun (id, parent) => ⟨⟨id.toList, id.toList, ⟨[], []⟩⟩, parent⟩

theorem tangled_wellParented : WellParented tangledDrafts := by
  let rank := fun position => [3, 1, 0, 2].getD position 0
  have checked : ∀ position < tangledDrafts.length,
      ∀ parent ∈ parentAt tangledDrafts position,
        parent < tangledDrafts.length ∧ rank parent < rank position := by
    decide
  rw [wellParented_iff]
  refine ⟨rank, ?_, ?_⟩
  · intro position parent isParent
    exact (checked position (parentAt_lt_length isParent) parent isParent).1
  · intro position parent isParent
    exact (checked position (parentAt_lt_length isParent) parent isParent).2

theorem tangled_orphan_finds_survivor :
    WellParented tangledDrafts ∧
      Ascent (parentAt tangledDrafts) (parentAt tangledDrafts 0) [3, 1, 2] ∧
      parentAt (reattach tangledDrafts [3, 1]) 0 = some 2 := by
  obtain ⟨_, found⟩ :=
    reattach_finds_first_survivor tangled_wellParented [3, 1]
  obtain ⟨⟨above, ascent, first⟩, _⟩ := found 0
  have way : Ascent (parentAt tangledDrafts) (parentAt tangledDrafts 0)
      [3, 1, 2] := .up (.up (.up .top))
  rw [ascent.unique way] at first
  exact ⟨tangled_wellParented, way, first⟩

end FileRouting.Draft
