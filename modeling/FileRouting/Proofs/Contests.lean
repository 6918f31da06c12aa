import FileRouting.Contest
import Mathlib.Data.List.Nodup

/-!
# The first arrival wins

Every item either wins or loses.  A key that was asked for has exactly one
winner, and if the items arrive in some order, then the winner of a key is
the item that comes first in that order.

Of the entrants of a contest the first is the winner.  The others are the losers
of its key, so that all contests together name every loser once.
-/

namespace FileRouting.Contest

variable {κ α β : Type} [DecidableEq κ] {key : α → κ} {items : List α}

/-- No item is lost, and none is counted twice.  Items whose key is taken from
the start cannot win any more. -/
theorem losers_append_winners_perm (key : α → κ) (taken : List κ)
    (items : List α) :
    (losers key taken items ++
      (winners key items).filter fun item => key item ∉ taken).Perm items := by
  induction items generalizing taken with
  | nil => exact List.Perm.refl []
  | cons item later induction =>
      by_cases lost : key item ∈ taken
      · have narrowed :
            ((winners key later).filter
                fun other => key other ≠ key item).filter
                  (fun other => key other ∉ taken) =
              (winners key later).filter fun other => key other ∉ taken := by
          rw [List.filter_filter]
          apply List.filter_congr
          intro other _
          by_cases same : key other = key item <;> simp [same, lost]
        simp only [losers, winners, lost, if_true, List.filter_cons,
          not_true_eq_false, decide_false, Bool.false_eq_true, if_false]
        rw [narrowed]
        exact (induction taken).cons item
      · have narrowed :
            ((winners key later).filter
                fun other => key other ≠ key item).filter
                  (fun other => key other ∉ taken) =
              (winners key later).filter fun other =>
                key other ∉ key item :: taken := by
          rw [List.filter_filter]
          apply List.filter_congr
          intro other _
          simp [Bool.and_comm]
        simp only [losers, winners, lost, List.filter_cons,
          not_false_eq_true, decide_true, if_true]
        rw [narrowed]
        exact List.perm_middle.trans ((induction (key item :: taken)).cons item)

theorem losers_append_winners (key : α → κ) (items : List α) :
    (losers key [] items ++ winners key items).Perm items := by
  simpa using losers_append_winners_perm key [] items

theorem winners_sublist (key : α → κ) (items : List α) :
    (winners key items).Sublist items := by
  induction items with
  | nil => exact List.Sublist.refl []
  | cons item later induction =>
      exact (List.filter_sublist.trans induction).cons_cons item

theorem winners_keys_nodup (key : α → κ) (items : List α) :
    ((winners key items).map key).Nodup := by
  induction items with
  | nil => exact List.nodup_nil
  | cons item later induction =>
      rw [winners, List.map_cons, List.nodup_cons]
      refine ⟨by simp, induction.sublist (List.filter_sublist.map key)⟩

theorem eq_of_mem_winners {first second : α}
    (firstWins : first ∈ winners key items)
    (secondWins : second ∈ winners key items) (same : key first = key second) :
    first = second :=
  List.inj_on_of_nodup_map (winners_keys_nodup key items) firstWins secondWins
    same

theorem exists_mem_winners {item : α} (member : item ∈ items) :
    ∃ winner ∈ winners key items, key winner = key item := by
  induction items with
  | nil => cases member
  | cons first later induction =>
      rcases List.mem_cons.mp member with rfl | isLater
      · exact ⟨item, List.mem_cons_self, rfl⟩
      · obtain ⟨winner, wins, same⟩ := induction isLater
        by_cases isFirst : key winner = key first
        · exact ⟨first, List.mem_cons_self, isFirst.symm.trans same⟩
        · refine ⟨winner, List.mem_cons_of_mem _ ?_, same⟩
          exact List.mem_filter.mpr ⟨wins, by simpa using isFirst⟩

theorem existsUnique_winner {item : α} (member : item ∈ items) :
    ∃! winner, winner ∈ winners key items ∧ key winner = key item := by
  obtain ⟨winner, wins, same⟩ :
      ∃ winner ∈ winners key items, key winner = key item :=
    exists_mem_winners member
  refine ⟨winner, ⟨wins, same⟩, ?_⟩
  intro other otherWinner
  exact eq_of_mem_winners otherWinner.1 wins (otherWinner.2.trans same.symm)

/-- Winning is decided by keys alone, so that items may be decorated. -/
theorem winners_map (decorate : β → α) (originals : List β) :
    winners key (originals.map decorate) =
      (winners (key ∘ decorate) originals).map decorate := by
  induction originals with
  | nil => rfl
  | cons original later induction =>
      simp only [List.map_cons, winners, induction, List.filter_map,
        Function.comp_def]

theorem mem_losers_iff (distinct : items.Nodup) {item : α} :
    item ∈ losers key [] items ↔
      item ∈ items ∧ item ∉ winners key items := by
  have all := losers_append_winners key items
  have parts := List.nodup_append.mp (all.nodup_iff.mpr distinct)
  constructor
  · intro loses
    refine ⟨all.mem_iff.mp (List.mem_append_left _ loses), ?_⟩
    exact fun wins => parts.2.2 item loses item wins rfl
  · intro outside
    obtain ⟨member, noWinner⟩ := outside
    exact (List.mem_append.mp (all.mem_iff.mpr member)).resolve_right noWinner

/-- The first item of a key comes before every other item of that key. -/
theorem before_of_mem_winners {before : α → α → Prop}
    (reflexive : ∀ item, before item item) (arrival : items.Pairwise before)
    {winner other : α} (wins : winner ∈ winners key items)
    (member : other ∈ items) (same : key other = key winner) :
    before winner other := by
  induction items with
  | nil => cases member
  | cons first later induction =>
      obtain ⟨firstBefore, laterArrival⟩ := List.pairwise_cons.mp arrival
      rcases List.mem_cons.mp wins with rfl | laterWins
      · rcases List.mem_cons.mp member with rfl | isLater
        · exact reflexive other
        · exact firstBefore other isLater
      · obtain ⟨isWinner, different⟩ := List.mem_filter.mp laterWins
        rcases List.mem_cons.mp member with rfl | isLater
        · simp [same] at different
        · exact induction laterArrival isWinner isLater

/-- If the items arrive in an order, then the winner of a key is the item of
that key that comes first. -/
theorem mem_winners_iff {before : α → α → Prop}
    (reflexive : ∀ item, before item item)
    (antisymmetric : ∀ first ∈ items, ∀ second ∈ items,
      before first second → before second first → first = second)
    (arrival : items.Pairwise before) {item : α} :
    item ∈ winners key items ↔
      item ∈ items ∧
        ∀ other ∈ items, key other = key item → before item other := by
  constructor
  · intro wins
    exact ⟨(winners_sublist key items).subset wins, fun other member same =>
      before_of_mem_winners reflexive arrival wins member same⟩
  · intro isFirst
    obtain ⟨member, first⟩ := isFirst
    obtain ⟨winner, wins, same⟩ :
        ∃ winner ∈ winners key items, key winner = key item :=
      exists_mem_winners member
    have winnerMember := (winners_sublist key items).subset wins
    have equal := antisymmetric winner winnerMember item member
      (before_of_mem_winners reflexive arrival wins member same.symm)
      (first winner winnerMember same)
    exact equal ▸ wins

theorem losers_map (decorate : β → α) (taken : List κ) (originals : List β) :
    losers key taken (originals.map decorate) =
      (losers (key ∘ decorate) taken originals).map decorate := by
  induction originals generalizing taken with
  | nil => rfl
  | cons original later induction =>
      simp only [List.map_cons, losers, Function.comp]
      split
      · rw [induction, List.map_cons]
      · exact induction _

theorem all_map (decorate : β → α) (originals : List β) :
    all key (originals.map decorate) =
      (all (key ∘ decorate) originals).map fun contest =>
        { key := contest.key, entrants := contest.entrants.map decorate } := by
  simp only [all, losers_map, winners_map, List.map_map, List.filter_map,
    Function.comp_def]

section Distinct

variable (distinct : (items.map key).Nodup)
include distinct

theorem winners_eq_self : winners key items = items := by
  induction items with
  | nil => rfl
  | cons item later induction =>
      obtain ⟨fresh, laterDistinct⟩ := List.nodup_cons.mp distinct
      rw [winners, induction laterDistinct]
      congr 1
      apply List.filter_eq_self.mpr
      intro other member
      apply decide_eq_true
      intro same
      exact fresh (same ▸ List.mem_map_of_mem member)

theorem losers_eq_nil : losers key [] items = [] := by
  have all := (losers_append_winners key items).length_eq
  rw [winners_eq_self distinct, List.length_append] at all
  apply List.eq_nil_of_length_eq_zero
  omega

theorem all_eq_nil : all key items = [] := by
  rw [all, losers_eq_nil distinct]
  rfl

end Distinct

/-- The losers of a key are all its items but the first, if the key is not taken
from the start. -/
theorem filter_losers (wanted : κ) (taken : List κ) (items : List α) :
    ((losers key taken items).filter fun item => key item = wanted) =
      if wanted ∈ taken then items.filter fun item => key item = wanted
      else (items.filter fun item => key item = wanted).tail := by
  induction items generalizing taken with
  | nil => simp [losers]
  | cons item later induction =>
      by_cases same : key item = wanted
      · subst same
        by_cases lost : key item ∈ taken
        · simp [losers, lost, induction]
        · simp [losers, lost, induction]
      · by_cases lost : key item ∈ taken
        · simp [losers, lost, same, induction]
        · simp [losers, lost, same, induction, Ne.symm same]

theorem flatMap_filter_perm {keys : List κ} (distinct : keys.Nodup)
    (covered : ∀ item ∈ items, key item ∈ keys) :
    (keys.flatMap fun wanted =>
      items.filter fun item => key item = wanted).Perm items := by
  induction keys generalizing items with
  | nil =>
      rw [List.eq_nil_iff_forall_not_mem.mpr fun item member =>
        List.not_mem_nil (covered item member)]
      exact List.Perm.refl []
  | cons first keys induction =>
      obtain ⟨fresh, laterDistinct⟩ := List.nodup_cons.mp distinct
      let others := items.filter fun item => key item ≠ first
      have laterCovered : ∀ item ∈ others, key item ∈ keys := by
        intro item member
        obtain ⟨old, different⟩ := List.mem_filter.mp member
        exact (List.mem_cons.mp (covered item old)).resolve_left
          (by simpa using different)
      have sameGroups : (keys.flatMap fun wanted =>
            items.filter fun item => key item = wanted) =
          keys.flatMap fun wanted =>
            others.filter fun item => key item = wanted := by
        apply List.flatMap_congr
        intro wanted member
        rw [List.filter_filter]
        apply List.filter_congr
        intro item _
        have different : wanted ≠ first := fun same => fresh (same ▸ member)
        by_cases same : key item = wanted <;> simp [same, different]
      have parts : ((items.filter fun item => key item = first) ++
          others).Perm items := by
        simpa [others] using List.filter_append_perm
          (fun item => decide (key item = first)) items
      rw [List.flatMap_cons, sameGroups]
      exact ((induction laterDistinct laterCovered).append_left _).trans parts

theorem mem_winners_of_head?_filter {wanted : κ} {first : α}
    (heads : (items.filter fun item => key item = wanted).head? = some first) :
    first ∈ winners key items := by
  induction items with
  | nil => cases heads
  | cons item later induction =>
      by_cases same : key item = wanted
      · rw [List.filter_cons_of_pos (by simpa using same)] at heads
        cases heads
        exact List.mem_cons_self
      · rw [List.filter_cons_of_neg (by simpa using same)] at heads
        have asks := (List.mem_filter.mp (List.mem_of_head? heads)).2
        apply List.mem_cons_of_mem
        apply List.mem_filter.mpr
        refine ⟨induction heads, ?_⟩
        rw [of_decide_eq_true asks]
        simpa using Ne.symm same

theorem exists_winner_of_mem_all {contest : Contest κ α}
    (member : contest ∈ all key items) :
    ∃ winner ∈ winners key items, contest.entrants.head? = some winner := by
  obtain ⟨loser, loses, rfl⟩ := List.mem_map.mp member
  let entrants := items.filter fun item => key item = key loser
  have entered : loser ∈ entrants := by
    have lost := (winners_sublist key (losers key [] items)).subset loses
    have given := (losers_append_winners key items).mem_iff.mp
      (List.mem_append_left _ lost)
    exact List.mem_filter.mpr ⟨given, decide_eq_true rfl⟩
  obtain ⟨first, later, whole⟩ :=
    List.exists_cons_of_ne_nil (List.ne_nil_of_mem entered)
  have heads : entrants.head? = some first := by
    rw [whole]
    rfl
  exact ⟨first, mem_winners_of_head?_filter heads, heads⟩

/-- The contests name every loser once. -/
theorem flatMap_tail_perm_losers (key : α → κ) (items : List α) :
    ((all key items).flatMap fun contest => contest.entrants.tail).Perm
      (losers key [] items) := by
  let lost := losers key [] items
  have tails : ((all key items).flatMap fun contest => contest.entrants.tail) =
      ((winners key lost).map key).flatMap fun wanted =>
        lost.filter fun item => key item = wanted := by
    simp only [all, List.flatMap_map, lost, filter_losers, List.not_mem_nil,
      if_false]
  rw [tails]
  apply flatMap_filter_perm (winners_keys_nodup key lost)
  intro item member
  obtain ⟨winner, wins, same⟩ :
      ∃ winner ∈ winners key lost, key winner = key item :=
    exists_mem_winners member
  exact List.mem_map.mpr ⟨winner, wins, same⟩

end FileRouting.Contest
