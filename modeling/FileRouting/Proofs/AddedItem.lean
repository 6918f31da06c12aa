import FileRouting.Proofs.CollationOrder
import FileRouting.Proofs.Contests

/-!
# One more item

A list may get one more item, wherever it comes to stand.  Sorting, filtering and
traversing the longer list give what they give for the shorter one, and the new
item in its place.

An item that asks for a key of its own wins it, and takes nothing from the
others: they win and lose as before, and no contest changes.
-/

namespace FileRouting

/-- Whether a list is another with one more item between the others. -/
inductive Adds {α : Type} (item : α) : List α → List α → Prop where
  | here (items : List α) : Adds item items (item :: items)
  | there {other : α} {fewer more : List α} :
      Adds item fewer more → Adds item (other :: fewer) (other :: more)

namespace Adds

variable {α β ε : Type} {item : α} {fewer more : List α}

theorem orderedInsert (before : α → α → Prop) [DecidableRel before] (item : α)
    (items : List α) : Adds item items (items.orderedInsert before item) := by
  induction items with
  | nil => exact .here []
  | cons other later induction =>
      rw [List.orderedInsert]
      split
      · exact .here (other :: later)
      · exact induction.there

theorem perm (adds : Adds item fewer more) : more.Perm (item :: fewer) := by
  induction adds with
  | here items => exact List.Perm.refl _
  | there _ induction => exact (induction.cons _).trans (List.Perm.swap _ _ _)

theorem mem_iff (adds : Adds item fewer more) {other : α} :
    other ∈ more ↔ other = item ∨ other ∈ fewer := by
  rw [adds.perm.mem_iff, List.mem_cons]

theorem filter_of_pos {test : α → Bool} (passes : test item = true)
    (adds : Adds item fewer more) :
    Adds item (fewer.filter test) (more.filter test) := by
  induction adds with
  | here items =>
      rw [List.filter_cons_of_pos passes]
      exact .here _
  | @there other fewer more _ induction =>
      rw [List.filter_cons, List.filter_cons]
      split
      · exact induction.there
      · exact induction

theorem filter_of_neg {test : α → Bool} (fails : ¬ test item = true)
    (adds : Adds item fewer more) : more.filter test = fewer.filter test := by
  induction adds with
  | here items => rw [List.filter_cons_of_neg fails]
  | @there other fewer more _ induction =>
      rw [List.filter_cons, List.filter_cons, induction]

/-- A traversal that accepts the new item accepts the longer list. -/
theorem mapM {read : α → Except ε β} {result : β} {results : List β}
    (adds : Adds item fewer more) (reads : read item = .ok result)
    (reading : fewer.mapM read = .ok results) :
    ∃ moreResults, more.mapM read = .ok moreResults ∧
      Adds result results moreResults := by
  induction adds generalizing results with
  | here items =>
      refine ⟨result :: results, ?_, .here results⟩
      rw [List.mapM_cons, reads, reading]
      rfl
  | @there other fewer more _ induction =>
      rw [List.mapM_cons] at reading
      cases first : read other with
      | error error =>
          rw [first] at reading
          cases reading
      | ok value =>
          cases rest : fewer.mapM read with
          | error error =>
              rw [first, rest] at reading
              cases reading
          | ok values =>
              rw [first, rest] at reading
              cases reading
              obtain ⟨moreValues, accepted, grown⟩ := induction rest
              refine ⟨value :: moreValues, ?_, grown.there⟩
              rw [List.mapM_cons, first, accepted]
              rfl

end Adds

theorem Alphabet.sort_adds (alphabet : Alphabet) (text : Text)
    (texts : List Text) :
    Adds text (alphabet.sort texts) (alphabet.sort (text :: texts)) := by
  rw [sort_eq_insertion, sort_eq_insertion, List.insertionSort_cons]
  exact .orderedInsert _ text _

namespace Contest

variable {κ α : Type} [DecidableEq κ] {key : α → κ} {item : α}
  {fewer more : List α}

/-- Of the keys that are taken only those count that somebody asks for. -/
theorem losers_congr {taken others : List κ} {items : List α}
    (agree : ∀ item ∈ items, key item ∈ taken ↔ key item ∈ others) :
    losers key taken items = losers key others items := by
  induction items generalizing taken others with
  | nil => rfl
  | cons item later induction =>
      have laterAgree : ∀ next ∈ later,
          key next ∈ taken ↔ key next ∈ others :=
        fun next member => agree next (List.mem_cons_of_mem _ member)
      simp only [losers, agree item List.mem_cons_self]
      split
      · rw [induction laterAgree]
      · apply induction
        intro next member
        rw [List.mem_cons, List.mem_cons, laterAgree next member]

section Fresh

variable (adds : Adds item fewer more)
  (fresh : ∀ other ∈ fewer, key other ≠ key item)
include adds fresh

theorem winners_adds : Adds item (winners key fewer) (winners key more) := by
  induction adds with
  | here items =>
      have kept : (winners key items).filter
          (fun other => key other ≠ key item) = winners key items := by
        apply List.filter_eq_self.mpr
        intro other wins
        exact decide_eq_true (fresh other
          ((winners_sublist key items).subset wins))
      rw [winners, kept]
      exact .here _
  | @there other fewer more _ induction =>
      have different := fresh other List.mem_cons_self
      have grown := induction fun next member =>
        fresh next (List.mem_cons_of_mem _ member)
      apply Adds.there
      exact grown.filter_of_pos (decide_eq_true (Ne.symm different))

theorem losers_adds {taken : List κ} (untaken : key item ∉ taken) :
    losers key taken more = losers key taken fewer := by
  induction adds generalizing taken with
  | here items =>
      rw [losers, if_neg untaken]
      apply losers_congr
      intro other member
      simp [fresh other member]
  | @there other fewer more _ induction =>
      have different := fresh other List.mem_cons_self
      have laterFresh : ∀ next ∈ fewer, key next ≠ key item :=
        fun next member => fresh next (List.mem_cons_of_mem _ member)
      rw [losers, losers]
      split
      · rw [induction laterFresh untaken]
      · apply induction laterFresh
        simpa [Ne.symm different] using untaken

theorem all_adds : all key more = all key fewer := by
  rw [all, all, losers_adds adds fresh List.not_mem_nil]
  apply List.map_congr_left
  intro loser loses
  have lost := (winners_sublist key _).subset loses
  have listed := (losers_append_winners key fewer).mem_iff.mp
    (List.mem_append_left _ lost)
  have outside : ¬ decide (key item = key loser) = true := by
    simpa using Ne.symm (fresh loser listed)
  have entrants : (more.filter fun other => key other = key loser) =
      fewer.filter fun other => key other = key loser :=
    adds.filter_of_neg outside
  simp only [entrants]

end Fresh

end Contest

end FileRouting
