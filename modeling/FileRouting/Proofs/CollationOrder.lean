import FileRouting.Collation
import Mathlib.Data.List.Sort

/-!
# Collation is a total order

The comparison of texts is put together from comparisons of ranks, folds, cases
and code points, none of which needs to know more about an alphabet than that
ranks, folds and cases are functions.  It is a total order whatever they are,
because code points have the last word.

Sorting is stable, and so it comes to the same as inserting one text after the
other, which can be followed by evaluation.
-/

namespace FileRouting

theorem orderedInsert_between {α : Type} {before : α → α → Prop}
    [DecidableRel before] {item : α} {lesser greater : List α}
    (below : ∀ other ∈ lesser, ¬ before item other)
    (above : ∀ other ∈ greater, before item other) :
    (lesser ++ greater).orderedInsert before item =
      lesser ++ item :: greater := by
  induction lesser with
  | nil =>
      cases greater with
      | nil => rfl
      | cons first later =>
          apply List.orderedInsert_cons_of_le
          exact above first List.mem_cons_self
  | cons first later induction =>
      have rest := induction fun other member =>
        below other (List.mem_cons_of_mem _ member)
      rw [List.cons_append, List.orderedInsert_of_not_le, rest]
      · rfl
      · exact below first List.mem_cons_self

/-- Items that tie keep their order in both sorts. -/
theorem mergeSort_eq_insertion {α : Type} {le : α → α → Bool}
    (transitive : ∀ first second third,
      le first second → le second third → le first third)
    (total : ∀ first second, le first second || le second first)
    (items : List α) :
    items.mergeSort le =
      items.insertionSort fun left right => le left right := by
  induction items with
  | nil => rw [List.mergeSort_nil, List.insertionSort_nil]
  | cons item later induction =>
      obtain ⟨lesser, greater, whole, rest, less⟩ :=
        List.mergeSort_cons transitive total item later
      have sorted := List.pairwise_mergeSort transitive total (item :: later)
      rw [whole] at sorted
      have tailSorted := (List.pairwise_append.mp sorted).2.1
      have above := (List.pairwise_cons.mp tailSorted).1
      rw [List.insertionSort_cons, ← induction, rest, whole]
      symm
      apply orderedInsert_between _ above
      intro other member
      simpa using less other member

namespace Alphabet

variable (alphabet : Alphabet)

instance : Std.TransCmp alphabet.compareBase :=
  inferInstanceAs (Std.TransCmp
    (compareLex (compareOn alphabet.rank) (compareOn alphabet.fold)))

instance : Std.TransCmp alphabet.compareCase :=
  inferInstanceAs (Std.TransCmp
    (compareLex (compareOn fun c => !alphabet.isLower c) compare))

instance : Std.LawfulEqCmp alphabet.compareCase where
  eq_of_compare equal :=
    Std.LawfulEqOrd.eq_of_compare (Ordering.then_eq_eq.mp equal).2

instance : Std.TransCmp alphabet.compareText :=
  inferInstanceAs (Std.TransCmp
    (compareLex (List.compareLex alphabet.compareBase)
      (List.compareLex alphabet.compareCase)))

instance : Std.LawfulEqCmp alphabet.compareText where
  eq_of_compare equal :=
    Std.LawfulEqCmp.eq_of_compare (Ordering.then_eq_eq.mp equal).2

/-- Whether a text does not sort after another. -/
def Precedes (left right : Text) : Prop :=
  (alphabet.compareText left right).isLE

variable {alphabet} {first second third : Text}

theorem Precedes.refl (text : Text) : alphabet.Precedes text text := by
  simp [Precedes, Std.ReflCmp.compare_self]

theorem Precedes.antisymm (forward : alphabet.Precedes first second)
    (backward : alphabet.Precedes second first) : first = second :=
  Std.LawfulEqCmp.eq_of_compare
    (Std.OrientedCmp.isLE_antisymm forward backward)

theorem Precedes.trans (left : alphabet.Precedes first second)
    (right : alphabet.Precedes second third) : alphabet.Precedes first third :=
  Std.TransCmp.isLE_trans left right

theorem Precedes.total (first second : Text) :
    alphabet.Precedes first second ∨ alphabet.Precedes second first := by
  by_cases forward : alphabet.Precedes first second
  · exact .inl forward
  · have backward : alphabet.compareText second first = .lt :=
      Std.OrientedCmp.lt_of_not_isLE forward
    exact .inr (by simp [Precedes, backward])

theorem sort_perm (texts : List Text) : (alphabet.sort texts).Perm texts :=
  List.mergeSort_perm _ _

theorem sort_pairwise (texts : List Text) :
    (alphabet.sort texts).Pairwise alphabet.Precedes := by
  apply List.pairwise_mergeSort
  · exact fun first second third => Precedes.trans
  · exact fun first second => Bool.or_eq_true _ _ ▸ Precedes.total first second

/-- Sorting leaves no choice: the same texts in another order sort to the same
list. -/
theorem sort_eq_of_perm {texts others : List Text}
    (permuted : texts.Perm others) :
    alphabet.sort texts = alphabet.sort others := by
  have sorted : (alphabet.sort texts).Perm (alphabet.sort others) :=
    (sort_perm texts).trans (permuted.trans (sort_perm others).symm)
  apply sorted.eq_of_pairwise _ (sort_pairwise texts) (sort_pairwise others)
  intro left right _ _
  exact Precedes.antisymm

theorem sort_eq_self {texts : List Text}
    (sorted : texts.Pairwise alphabet.Precedes) :
    alphabet.sort texts = texts := by
  apply (sort_perm texts).eq_of_pairwise _ (sort_pairwise texts) sorted
  intro left right _ _
  exact Precedes.antisymm

theorem compareLex_append_left {α : Type} {cmp : α → α → Ordering}
    [Std.ReflCmp cmp] (shared left right : List α) :
    List.compareLex cmp (shared ++ left) (shared ++ right) =
      List.compareLex cmp left right := by
  induction shared with
  | nil => rfl
  | cons item shared induction =>
      have same : cmp item item = .eq := Std.ReflCmp.compare_self
      rw [List.cons_append, List.cons_append, List.compareLex_cons_cons, same,
        induction]
      rfl

/-- What two texts have in common at their start does not count. -/
theorem precedes_append_left (shared : Text) :
    alphabet.Precedes (shared ++ first) (shared ++ second) ↔
      alphabet.Precedes first second := by
  rw [Precedes, Precedes, compareText, compareText, compareLex_append_left,
    compareLex_append_left]

theorem sort_map_append (shared : Text) (texts : List Text) :
    alphabet.sort (texts.map (shared ++ ·)) =
      (alphabet.sort texts).map (shared ++ ·) := by
  calc
    alphabet.sort (texts.map (shared ++ ·)) =
        alphabet.sort ((alphabet.sort texts).map (shared ++ ·)) := by
      apply sort_eq_of_perm
      exact (sort_perm texts).symm.map _
    _ = (alphabet.sort texts).map (shared ++ ·) := by
      apply sort_eq_self
      apply List.pairwise_map.mpr
      apply (sort_pairwise texts).imp
      exact (precedes_append_left shared).mpr

/-- Texts can be sorted with the items they come from, and then items may be left
out before the sort or after it. -/
theorem exists_sorted_items (alphabet : Alphabet) {α : Type}
    (text : α → Text) (items : List α) :
    ∃ sorted : List α, sorted.Perm items ∧
      ∀ keep : α → Bool, alphabet.sort ((items.filter keep).map text) =
        (sorted.filter keep).map text := by
  let sorted := items.mergeSort fun left right =>
    (alphabet.compareText (text left) (text right)).isLE
  have permuted : sorted.Perm items := List.mergeSort_perm _ _
  have ordered : sorted.Pairwise fun left right =>
      alphabet.Precedes (text left) (text right) := by
    apply List.pairwise_mergeSort
    · exact fun first second third => Precedes.trans
    · exact fun first second =>
        Bool.or_eq_true _ _ ▸ Precedes.total (text first) (text second)
  refine ⟨sorted, permuted, fun keep => ?_⟩
  calc
    alphabet.sort ((items.filter keep).map text) =
        alphabet.sort ((sorted.filter keep).map text) := by
      apply sort_eq_of_perm
      exact (permuted.symm.filter keep).map text
    _ = (sorted.filter keep).map text := by
      apply sort_eq_self
      exact List.pairwise_map.mpr (ordered.sublist List.filter_sublist)

instance : DecidableRel alphabet.Precedes := fun left right =>
  inferInstanceAs (Decidable ((alphabet.compareText left right).isLE = true))

theorem sort_eq_insertion (texts : List Text) :
    alphabet.sort texts = texts.insertionSort alphabet.Precedes := by
  apply mergeSort_eq_insertion
  · exact fun first second third => Precedes.trans
  · exact fun first second => Bool.or_eq_true _ _ ▸ Precedes.total first second

end Alphabet

end FileRouting
