import FileRouting.Proofs.CollationOrder

/-!
# The levels of collation

Collation can be told in three levels: class and case fold of all characters,
then lower case before upper case at the first difference, then code points.
The second level asks about one place only and may leave two texts tied, and so
it is no order of its own.

The comparison goes over two texts twice instead of three times.  This comes to
the same, because the place that the second level asks about is also the first
one where code points differ.  Told in levels or in passes, it is a total order
for every alphabet, and sorting by it leaves no choice.
-/

namespace FileRouting

namespace Alphabet

variable (alphabet : Alphabet)

/-- Order of texts by the case of their characters at the first place where they
differ, lower case first. -/
def compareFirstCase (left right : Text) : Ordering :=
  match (left.zip right).find? fun (first, second) => first ≠ second with
  | some (first, second) =>
      compare (alphabet.isLower second) (alphabet.isLower first)
  | none => .eq

/-- Order of texts in three levels: by class and case fold, by case at the first
difference, by code points. -/
def compareLevels (left right : Text) : Ordering :=
  (List.compareLex alphabet.compareBase left right).then
    ((alphabet.compareFirstCase left right).then
      (List.compareLex compare left right))

theorem compareFirstCase_nil_left (right : Text) :
    alphabet.compareFirstCase [] right = .eq :=
  rfl

theorem compareFirstCase_nil_right (left : Text) :
    alphabet.compareFirstCase left [] = .eq := by
  rw [compareFirstCase, List.zip_nil_right]
  rfl

theorem compareFirstCase_cons_self (c : Char) (left right : Text) :
    alphabet.compareFirstCase (c :: left) (c :: right) =
      alphabet.compareFirstCase left right := by
  rw [compareFirstCase, List.zip_cons_cons, List.find?_cons_of_neg (by simp)]
  rfl

theorem compareFirstCase_cons_of_ne {first second : Char}
    (different : first ≠ second) (left right : Text) :
    alphabet.compareFirstCase (first :: left) (second :: right) =
      compare (alphabet.isLower second) (alphabet.isLower first) := by
  rw [compareFirstCase, List.zip_cons_cons,
    List.find?_cons_of_pos (by simpa using different)]

theorem compareCase_eq (left right : Char) :
    alphabet.compareCase left right =
      (compare (alphabet.isLower right) (alphabet.isLower left)).then
        (compare left right) := by
  rw [compareCase]
  cases alphabet.isLower left <;> cases alphabet.isLower right <;> rfl

theorem then_of_ne_eq {first : Ordering} (decided : first ≠ .eq)
    (later : Ordering) : first.then later = first := by
  cases first with
  | eq => exact absurd rfl decided
  | lt => rfl
  | gt => rfl

/-- The second pass over two texts is the second level followed by the third. -/
theorem compareLex_compareCase (left right : Text) :
    List.compareLex alphabet.compareCase left right =
      (alphabet.compareFirstCase left right).then
        (List.compareLex compare left right) := by
  induction left generalizing right with
  | nil =>
      rw [compareFirstCase_nil_left]
      cases right <;> rfl
  | cons first left induction =>
      cases right with
      | nil =>
          rw [compareFirstCase_nil_right]
          rfl
      | cons second right =>
          rw [List.compareLex_cons_cons, List.compareLex_cons_cons]
          by_cases same : first = second
          · subst same
            have tie : alphabet.compareCase first first = .eq :=
              Std.ReflCmp.compare_self
            have equal : compare first first = .eq := Std.ReflCmp.compare_self
            rw [tie, equal, compareFirstCase_cons_self, Ordering.eq_then,
              Ordering.eq_then, induction]
          · -- Where code points differ, nothing behind them counts.
            have points : ∀ later,
                (compare first second).then later = compare first second :=
              then_of_ne_eq (Std.LawfulEqCmp.compare_eq_iff_eq.not.mpr same)
            rw [compareFirstCase_cons_of_ne _ same, compareCase_eq,
              Ordering.then_assoc, points, points]

theorem compareText_eq_compareLevels (left right : Text) :
    alphabet.compareText left right = alphabet.compareLevels left right := by
  rw [compareText, compareLevels, compareLex_compareCase]

end Alphabet

/-- Whatever the tables of an alphabet say, its comparison goes by the three
levels and is a total order in which only equal texts tie.  Sorting keeps the
texts, puts none behind a greater one, and does not depend on the order in which
they are given. -/
theorem collation_orders_and_sorts (alphabet : Alphabet) :
    (∀ left right, alphabet.compareText left right =
      alphabet.compareLevels left right) ∧
    (∀ left right, alphabet.compareText left right = .eq ↔ left = right) ∧
    (∀ left right, alphabet.compareText right left =
      (alphabet.compareText left right).swap) ∧
    (∀ first second third, alphabet.compareText first second = .lt →
      alphabet.compareText second third = .lt →
        alphabet.compareText first third = .lt) ∧
    ∀ texts, (alphabet.sort texts).Perm texts ∧
      (alphabet.sort texts).Pairwise
        (fun earlier later => alphabet.compareText earlier later ≠ .gt) ∧
      ∀ others, texts.Perm others →
        alphabet.sort texts = alphabet.sort others := by
  refine ⟨alphabet.compareText_eq_compareLevels, ?_, ?_, ?_, ?_⟩
  · intro left right
    exact Std.LawfulEqCmp.compare_eq_iff_eq
  · intro left right
    exact Std.OrientedCmp.eq_swap
  · intro first second third
    exact Std.TransCmp.lt_trans
  · intro texts
    refine ⟨Alphabet.sort_perm texts, ?_, fun others => Alphabet.sort_eq_of_perm⟩
    apply (Alphabet.sort_pairwise texts).imp
    intro earlier later precedes
    exact Ordering.isLE_iff_ne_gt.mp precedes

/-- Of three texts the first two differ in case, and the last has another
letter. -/
theorem case_before_other_letters :
    Alphabet.unicode.compareText "a.b".toList "A.b".toList = .lt ∧
      Alphabet.unicode.compareText "A.b".toList "a.c".toList = .lt ∧
      Alphabet.unicode.compareText "a.b".toList "a.c".toList = .lt ∧
      ["a.c".toList, "A.b".toList, "a.b".toList].Perm
        ["A.b".toList, "a.b".toList, "a.c".toList] ∧
      Alphabet.unicode.sort ["a.c".toList, "A.b".toList, "a.b".toList] =
        Alphabet.unicode.sort ["A.b".toList, "a.b".toList, "a.c".toList] :=
  have facts := collation_orders_and_sorts .unicode
  have first : Alphabet.unicode.compareText "a.b".toList "A.b".toList = .lt := by
    decide
  have second : Alphabet.unicode.compareText "A.b".toList "a.c".toList = .lt := by
    decide
  have permuted : ["a.c".toList, "A.b".toList, "a.b".toList].Perm
      ["A.b".toList, "a.b".toList, "a.c".toList] := by
    decide
  ⟨first, second, facts.2.2.2.1 _ _ _ first second, permuted,
    (facts.2.2.2.2 _).2.2 _ permuted⟩

end FileRouting
