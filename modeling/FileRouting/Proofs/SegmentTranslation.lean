import FileRouting.Proofs.SegmentExtension

/-!
# Translation of segments

A piece is translated character by character.  Brackets and the mark that opens
an optional group vanish, the mark that closes a group becomes `?`, a `$` that
opens a segment becomes `:` or `*`, and every other character is kept.

What the pieces of an id translate to says what reading the id gives: the first
of them with a fault is the error, and without a fault they are the segments.
-/

namespace FileRouting

namespace Reading

section Characters

variable {reading : Reading} {opening ending : Bool} {c translated : Char}

theorem translateChar_eq_none
    (vanishes : reading.translateChar opening ending c = none) :
    c = '[' ∨ c = ']' ∨ c = '(' := by
  unfold translateChar at vanishes
  split at vanishes
  · split at vanishes
    · next closes => exact .inr (.inl closes)
    · cases vanishes
  · split at vanishes
    · next opens => exact .inl opens
    · split at vanishes
      · next group =>
          rw [Bool.and_eq_true, decide_eq_true_eq] at group
          exact .inr (.inr group.1)
      · split at vanishes
        · cases vanishes
        · split at vanishes <;> cases vanishes

theorem translateChar_eq_some
    (kept : reading.translateChar opening ending c = some translated) :
    translated = c ∨ (c = ')' ∧ translated = '?') ∨
      (c = '$' ∧ translated = if ending then '*' else ':') := by
  unfold translateChar at kept
  split at kept
  · split at kept
    · cases kept
    · exact .inl (Option.some.inj kept).symm
  · split at kept
    · cases kept
    · split at kept
      · cases kept
      · split at kept
        · next closes =>
            rw [Bool.and_eq_true, decide_eq_true_eq] at closes
            exact .inr (.inl ⟨closes.1, (Option.some.inj kept).symm⟩)
        · split at kept
          · next opens =>
              rw [Bool.and_eq_true, decide_eq_true_eq] at opens
              exact .inr (.inr ⟨opens.1, (Option.some.inj kept).symm⟩)
          · exact .inl (Option.some.inj kept).symm

/-- A character that is no mark is kept, wherever it stands. -/
theorem translateChar_of_no_mark (noMark : c ∉ ['[', ']', '(', ')', '$']) :
    reading.translateChar opening ending c = some c := by
  simp only [List.mem_cons, List.not_mem_nil, or_false, not_or] at noMark
  obtain ⟨noOpen, noClose, noGroup, noGroupEnd, noDollar⟩ := noMark
  simp [translateChar, noOpen, noClose, noGroup, noGroupEnd, noDollar]

end Characters

section Pieces

variable {reading : Reading} {opening last : Bool} {piece : Text}

theorem translateFrom_append (reading : Reading) (opening last : Bool)
    (front : Text) {back : Text} (more : back ≠ []) :
    reading.translateFrom opening last (front ++ back) =
      reading.translateFrom opening false front ++
        (reading.after front).translateFrom
          (opening && (reading.translateFrom opening false front).isEmpty)
          last back := by
  induction front generalizing reading opening with
  | nil => simp [translateFrom, after]
  | cons c front induction =>
      have notLast : (last && (front ++ back).isEmpty) = false := by
        simp [more]
      rw [List.cons_append, translateFrom, translateFrom, notLast,
        Bool.false_and]
      cases reading.translateChar opening false c with
      | none => exact induction (reading.next c) opening
      | some translated =>
          rw [List.cons_append]
          have rest := induction (reading.next c) false
          rw [Bool.false_and] at rest
          simp only [List.isEmpty_cons, Bool.and_false]
          exact congrArg (List.cons translated) rest

/-- Only brackets and the marks of groups can vanish. -/
theorem of_translateFrom_eq_nil
    (vanishes : reading.translateFrom opening last piece = []) :
    ∀ c ∈ piece, c = '[' ∨ c = ']' ∨ c = '(' := by
  induction piece generalizing reading opening with
  | nil => simp
  | cons c rest induction =>
      rw [translateFrom] at vanishes
      split at vanishes
      · next gone =>
          intro other member
          rcases List.mem_cons.mp member with rfl | later
          · exact translateChar_eq_none gone
          · exact induction vanishes other later
      · cases vanishes

theorem slash_mem_translateFrom :
    '/' ∈ reading.translateFrom opening last piece ↔ '/' ∈ piece := by
  induction piece generalizing reading opening with
  | nil => rfl
  | cons c rest induction =>
      rw [translateFrom]
      split
      · next gone =>
          have other : '/' ≠ c := by
            rcases translateChar_eq_none gone with rfl | rfl | rfl <;> decide
          rw [induction, List.mem_cons, or_iff_right other]
      · next translated kept =>
          have same : '/' = translated ↔ '/' = c := by
            rcases translateChar_eq_some kept with rfl | closes | opens
            · rfl
            · obtain ⟨rfl, rfl⟩ := closes
              decide
            · obtain ⟨rfl, rfl⟩ := opens
              split <;> decide
          rw [List.mem_cons, List.mem_cons, induction, same]

/-- A piece with no mark in it translates to itself. -/
theorem translateFrom_of_no_mark
    (noMark : ∀ c ∈ piece, c ∉ ['[', ']', '(', ')', '$']) :
    reading.translateFrom opening last piece = piece := by
  induction piece generalizing reading opening with
  | nil => rfl
  | cons c rest induction =>
      rw [translateFrom, translateChar_of_no_mark (noMark c (by simp))]
      have later : (reading.next c).translateFrom false last rest = rest :=
        induction fun other member =>
          noMark other (List.mem_cons_of_mem _ member)
      exact congrArg (List.cons c) later

end Pieces

end Reading

namespace Segments

/-- The segments that an id would have if none had a fault. -/
def readPairs (id : Text) : List (Text × Text) :=
  Reading.start.translatedPieces true (cutSegments false id)

theorem parse_eq_error_iff {id : Text} {error : RouteError} :
    parse id = .error error ↔
      ∃ offending mark, firstFault? (readPairs id) = some (offending, mark) ∧
        error = .invalidSegment id offending mark := by
  rw [parse, ofPieces_eq, ← readPairs]
  cases firstFault? (readPairs id) with
  | none => simp
  | some fault => simp [Prod.ext_iff, eq_comm]

theorem parse_eq_ok_iff {id : Text} {segments : Segments} :
    parse id = .ok segments ↔
      firstFault? (readPairs id) = none ∧ segments = ofPairs (readPairs id) := by
  rw [parse, ofPieces_eq, ← readPairs]
  cases firstFault? (readPairs id) with
  | none => simp [eq_comm]
  | some fault => simp

end Segments

end FileRouting
