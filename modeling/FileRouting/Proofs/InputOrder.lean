import FileRouting.Proofs.BuildReport

/-!
# The order and the spelling of the input

Directories list their files in any order, and some systems write a `\` for a
`/`.  A build notices neither: it looks at files only after their slashes were
made the same and after they were sorted, and sorting leaves no choice.  This
goes for the whole report, and so for the conflicts, for the first error and for
the texts in it.
-/

namespace FileRouting

namespace Path

def IsSlash (c : Char) : Prop :=
  c = '/' ∨ c = '\\'

instance : DecidablePred IsSlash := fun _ =>
  inferInstanceAs (Decidable (_ ∨ _))

/-- Whether two texts differ in nothing but the spelling of slashes. -/
def SameButSlashes (left right : Text) : Prop :=
  List.Forall₂ (fun c d => c = d ∨ IsSlash c ∧ IsSlash d) left right

instance : DecidableRel SameButSlashes := fun _ _ =>
  inferInstanceAs (Decidable (List.Forall₂ _ _ _))

theorem slashed_eq_of_sameButSlashes {left right : Text}
    (same : SameButSlashes left right) : slashed left = slashed right := by
  induction same with
  | nil => rfl
  | cons first _ induction =>
      rw [slashed, slashed, List.map_cons, List.map_cons]
      congr 1
      rcases first with rfl | ⟨rfl | rfl, rfl | rfl⟩ <;> rfl

theorem map_slashed_eq {listed others : List Text}
    (same : List.Forall₂ SameButSlashes listed others) :
    listed.map slashed = others.map slashed := by
  induction same with
  | nil => rfl
  | cons first _ induction =>
      rw [List.map_cons, List.map_cons, induction]
      rw [slashed_eq_of_sameButSlashes first]

theorem root_eq_of_sameButSlashes {left right : Text}
    (same : SameButSlashes left right) : root left = root right := by
  have empty : left = [] ↔ right = [] := by
    cases same <;> simp
  rw [root, root, slashed_eq_of_sameButSlashes same]
  simp only [ne_eq, empty]

end Path

theorem RouteFile.readAll_eq_of_perm {root : Text} {files others : List Text}
    (permuted : (files.map Path.slashed).Perm (others.map Path.slashed)) :
    readAll root files = readAll root others := by
  rw [readAll, readAll, collate, collate, Alphabet.sort_eq_of_perm permuted]

/-- Neither the order of the files nor the spelling of slashes, in the files or
in the root, makes a difference to what a build returns and reports. -/
theorem build_ignores_order_and_slashes {root otherRoot : Text}
    {files listed others : List Text} (permuted : files.Perm listed)
    (sameFiles : List.Forall₂ Path.SameButSlashes listed others)
    (sameRoot : Path.SameButSlashes root otherRoot) :
    build root files = build otherRoot others := by
  have reading :
      RouteFile.readAll root files = RouteFile.readAll otherRoot others := by
    calc
      RouteFile.readAll root files = RouteFile.readAll root others := by
        apply RouteFile.readAll_eq_of_perm
        rw [← Path.map_slashed_eq sameFiles]
        exact permuted.map Path.slashed
      _ = RouteFile.readAll otherRoot others := by
        rw [RouteFile.readAll, RouteFile.readAll,
          Path.root_eq_of_sameButSlashes sameRoot]
  rw [build_eq, build_eq, reading]

/-- The rival files backwards, some of their slashes spelled otherwise. -/
def respelledRivals : List Text :=
  ["r\\a.b.t".toList, "r/_l.a.t".toList, "r\\a/x.t".toList, "r/a.t".toList,
    "r\\a.t".toList]

theorem build_respelled_rivals :
    rivalFiles.Perm rivalFiles.reverse ∧
      List.Forall₂ Path.SameButSlashes rivalFiles.reverse respelledRivals ∧
      Path.SameButSlashes "r/".toList "r\\".toList ∧
      build "r/".toList rivalFiles = build "r\\".toList respelledRivals := by
  have permuted : rivalFiles.Perm rivalFiles.reverse := by decide
  have sameFiles :
      List.Forall₂ Path.SameButSlashes rivalFiles.reverse respelledRivals := by
    decide
  have sameRoot : Path.SameButSlashes "r/".toList "r\\".toList := by decide
  exact ⟨permuted, sameFiles, sameRoot,
    build_ignores_order_and_slashes permuted sameFiles sameRoot⟩

end FileRouting
