import Mathlib.Logic.Relation

/-!
# Ascents

Where every item has at most one parent, only one way leads upwards from it.  An
ascent is the list of the items on this way.  It exists exactly if the way ends,
and it ends wherever parents have a lower rank than their children.
-/

namespace FileRouting

/-- The items on the way from a start upwards, the nearest first.  The last of
them has no parent. -/
inductive Ascent {α : Type} (parentOf : α → Option α) :
    Option α → List α → Prop where
  | top : Ascent parentOf none []
  | up {item : α} {above : List α} :
      Ascent parentOf (parentOf item) above →
      Ascent parentOf (some item) (item :: above)

namespace Ascent

variable {α : Type} {parentOf : α → Option α} {start : Option α}
  {above : List α}

theorem unique (left : Ascent parentOf start above) {other : List α}
    (right : Ascent parentOf start other) : above = other := by
  induction left generalizing other with
  | top =>
      cases right
      rfl
  | up _ induction =>
      cases right with
      | up climb => rw [induction climb]

/-- The rank needs to go down only where the way comes along. -/
theorem exists_of_rank (inside : α → Prop) (rank : α → Nat)
    (descends : ∀ item, inside item → ∀ parent, parentOf item = some parent →
      inside parent ∧ rank parent < rank item)
    (starts : ∀ item, start = some item → inside item) :
    ∃ above, Ascent parentOf start above := by
  cases start with
  | none => exact ⟨[], .top⟩
  | some item =>
      have within := starts item rfl
      clear starts
      induction bound : rank item using Nat.strongRecOn
        generalizing item with
      | ind bound induction =>
          subst bound
          cases isParent : parentOf item with
          | none => exact ⟨[item], .up (isParent ▸ .top)⟩
          | some parent =>
              obtain ⟨parentInside, lower⟩ :=
                descends item within parent isParent
              obtain ⟨above, climb⟩ :=
                induction (rank parent) lower parent parentInside rfl
              exact ⟨item :: above, .up (isParent ▸ climb)⟩

end Ascent

/-- No way along a relation that lowers a rank comes back. -/
theorem rank_lt_of_transGen {α : Type} {relation : α → α → Prop}
    {rank : α → Nat}
    (descends : ∀ lower upper, relation lower upper → rank upper < rank lower)
    {lower upper : α} (way : Relation.TransGen relation lower upper) :
    rank upper < rank lower := by
  induction way with
  | single step => exact descends _ _ step
  | tail _ step induction => exact Nat.lt_trans (descends _ _ step) induction

end FileRouting
