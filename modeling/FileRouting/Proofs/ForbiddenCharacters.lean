import FileRouting.Proofs.SegmentPieces
import FileRouting.Proofs.SegmentTranslation
import FileRouting.Proofs.UrlComponents

/-!
# Forbidden characters in ids

An id must hold no `*` and no `:` anywhere, and no `/` inside brackets.  Whatever
else it holds, it can be read: no bracket, group or `$` is ever out of place.

The error of an id that is refused is about its first piece with a forbidden
character.  Nothing escapes through a piece that is dropped, because such a
piece holds only brackets and marks of groups.
-/

namespace FileRouting

/-- Whether a piece holds a character that a segment must not have.  A `/` in a
piece stands inside brackets. -/
def Forbidden (piece : Text) : Prop :=
  '*' ∈ piece ∨ ':' ∈ piece ∨ '/' ∈ piece

instance (piece : Text) : Decidable (Forbidden piece) :=
  inferInstanceAs (Decidable (_ ∨ _))

namespace Segments

section Pieces

variable {reading : Reading} {last ends : Bool} {piece : Text}

theorem fault?_translate_eq_none_iff :
    fault? (reading.translate last piece) piece = none ↔ ¬ Forbidden piece := by
  rw [fault?_eq_none_iff, Reading.translate, Reading.slash_mem_translateFrom,
    Forbidden, not_or, not_or]

theorem not_forbidden_of_translate_eq_nil
    (vanishes : reading.translate last piece = []) : ¬ Forbidden piece := by
  have marks := Reading.of_translateFrom_eq_nil vanishes
  rintro (star | colon | slash)
  · exact absurd (marks _ star) (by decide)
  · exact absurd (marks _ colon) (by decide)
  · exact absurd (marks _ slash) (by decide)

/-- Of several faults of a piece `*` is told before `:` and `:` before `/`. -/
theorem fault?_eq_some {translated written offending : Text} {mark : Char}
    (fault : fault? translated written = some (offending, mark)) :
    offending =
        (if '*' ∈ written ∨ ':' ∈ written then written else translated) ∧
      mark =
        (if '*' ∈ written then '*' else if ':' ∈ written then ':' else '/') := by
  unfold fault? at fault
  split at fault
  · next star =>
      cases fault
      simp [star]
  · next noStar =>
      split at fault
      · next colon =>
          cases fault
          simp [noStar, colon]
      · next noColon =>
          split at fault
          · cases fault
            simp [noStar, noColon]
          · cases fault

/-- The first fault of some pieces is that of the first forbidden piece. -/
theorem exists_first_forbidden {pieces : List Text} {offending : Text}
    {mark : Char}
    (found : firstFault? (reading.translatedPieces ends pieces) =
      some (offending, mark)) :
    ∃ front piece back, pieces = front ++ piece :: back ∧
      (∀ earlier ∈ front, ¬ Forbidden earlier) ∧ Forbidden piece ∧
      fault? ((front.foldl Reading.after reading).translate
        (ends && back.isEmpty) piece) piece = some (offending, mark) := by
  induction pieces generalizing reading with
  | nil => cases found
  | cons piece later induction =>
      rw [Reading.translatedPieces] at found
      -- Either this piece is the one, or it is not forbidden.
      by_cases forbidden : Forbidden piece
      · have remains : reading.translate (ends && later.isEmpty) piece ≠ [] :=
          fun vanishes => not_forbidden_of_translate_eq_nil vanishes forbidden
        have faulty : fault? (reading.translate (ends && later.isEmpty) piece)
            piece ≠ none :=
          fun sound => fault?_translate_eq_none_iff.mp sound forbidden
        obtain ⟨fault, isFault⟩ := Option.ne_none_iff_exists'.mp faulty
        rw [if_neg remains, firstFault?_cons, isFault, Option.some_or] at found
        exact ⟨[], piece, later, rfl, by simp, forbidden, isFault.trans found⟩
      · have sound : fault? (reading.translate (ends && later.isEmpty) piece)
            piece = none :=
          fault?_translate_eq_none_iff.mpr forbidden
        have foundLater : firstFault? ((reading.after piece).translatedPieces
            ends later) = some (offending, mark) := by
          split at found
          · exact found
          · rw [firstFault?_cons, sound, Option.none_or] at found
            exact found
        obtain ⟨front, first, back, rfl, before, isFirst, fault⟩ :=
          induction foundLater
        refine ⟨piece :: front, first, back, rfl, ?_, isFirst, fault⟩
        intro earlier member
        rcases List.mem_cons.mp member with rfl | isLater
        · exact forbidden
        · exact before earlier isLater

theorem firstFault?_eq_none_iff {pieces : List Text} :
    firstFault? (reading.translatedPieces ends pieces) = none ↔
      ∀ piece ∈ pieces, ¬ Forbidden piece := by
  induction pieces generalizing reading with
  | nil => simp [Reading.translatedPieces, firstFault?]
  | cons piece later induction =>
      rw [Reading.translatedPieces, List.forall_mem_cons]
      split
      · next vanishes =>
          rw [induction,
            and_iff_right (not_forbidden_of_translate_eq_nil vanishes)]
      · rw [firstFault?_cons, Option.or_eq_none_iff,
          fault?_translate_eq_none_iff, induction]

end Pieces

end Segments

/-- An id has a forbidden piece exactly if it holds a forbidden character. -/
theorem exists_forbidden_piece_iff {id : Text} {pieces : List Text}
    (cut : CutInto id pieces) :
    (∃ piece ∈ pieces, Forbidden piece) ↔
      ':' ∈ id ∨ '*' ∈ id ∨
        ∃ before after, id = before ++ '/' :: after ∧
          ¬ BracketsClosed before := by
  have star : '*' ∈ id ↔ ∃ piece ∈ pieces, '*' ∈ piece := by
    rw [← cut.holdsUncut_iff, holdsUncut_iff_mem (by decide)]
  have colon : ':' ∈ id ↔ ∃ piece ∈ pieces, ':' ∈ piece := by
    rw [← cut.holdsUncut_iff, holdsUncut_iff_mem (by decide)]
  have slash : (∃ before after, id = before ++ '/' :: after ∧
      ¬ BracketsClosed before) ↔ ∃ piece ∈ pieces, '/' ∈ piece := by
    rw [← cut.holdsUncut_iff]
    simp [HoldsUncut, isSeparator]
  rw [star, colon, slash]
  simp only [Forbidden, and_or_left, exists_or]
  exact or_left_comm

/-- Reading an id fails exactly if it holds `:` or `*`, or `/` inside brackets.
The error is about the first piece that holds one of them. -/
theorem parse_fails_at_first_forbidden_piece (id : Text) :
    ((∃ error, Segments.parse id = .error error) ↔
      ':' ∈ id ∨ '*' ∈ id ∨
        ∃ before after, id = before ++ '/' :: after ∧
          ¬ BracketsClosed before) ∧
    ∀ error, Segments.parse id = .error error →
      ∃ front piece back, CutInto id (front ++ piece :: back) ∧
        (∀ earlier ∈ front, ¬ Forbidden earlier) ∧ Forbidden piece ∧
        error = .invalidSegment id
          (if '*' ∈ piece ∨ ':' ∈ piece then piece
            else (front.foldl Reading.after .start).translate back.isEmpty
              piece)
          (if '*' ∈ piece then '*' else if ':' ∈ piece then ':' else '/') := by
  have cut := cutInto_cutSegments id
  constructor
  · rw [← exists_forbidden_piece_iff cut]
    constructor
    · rintro ⟨error, failed⟩
      obtain ⟨offending, mark, found, rfl⟩ :=
        Segments.parse_eq_error_iff.mp failed
      obtain ⟨front, piece, back, whole, _, forbidden, _⟩ :=
        Segments.exists_first_forbidden found
      exact ⟨piece, by rw [whole]; simp, forbidden⟩
    · rintro ⟨piece, member, forbidden⟩
      cases parsed : Segments.parse id with
      | error error => exact ⟨error, rfl⟩
      | ok segments =>
          have faultless := (Segments.parse_eq_ok_iff.mp parsed).1
          exact absurd forbidden
            (Segments.firstFault?_eq_none_iff.mp faultless piece member)
  · intro error failed
    obtain ⟨offending, mark, found, rfl⟩ :=
      Segments.parse_eq_error_iff.mp failed
    obtain ⟨front, piece, back, whole, before, forbidden, fault⟩ :=
      Segments.exists_first_forbidden found
    rw [whole] at cut
    obtain ⟨rfl, rfl⟩ := Segments.fault?_eq_some fault
    exact ⟨front, piece, back, cut, before, forbidden, rfl⟩

/-- The `*` comes too late: the error is about the `/` inside brackets, and it
tells the piece as translated. -/
theorem slash_in_brackets_refused :
    Segments.parse "a.$[b/c].*".toList =
        .error (.invalidSegment "a.$[b/c].*".toList ":b/c".toList '/') ∧
      ∃ front piece back,
        CutInto "a.$[b/c].*".toList (front ++ piece :: back) ∧
        (∀ earlier ∈ front, ¬ Forbidden earlier) ∧ Forbidden piece ∧
        RouteError.invalidSegment "a.$[b/c].*".toList ":b/c".toList '/' =
          .invalidSegment "a.$[b/c].*".toList
            (if '*' ∈ piece ∨ ':' ∈ piece then piece
              else (front.foldl Reading.after .start).translate back.isEmpty
                piece)
            (if '*' ∈ piece then '*' else if ':' ∈ piece then ':' else '/') :=
  have failed : Segments.parse "a.$[b/c].*".toList =
      .error (.invalidSegment "a.$[b/c].*".toList ":b/c".toList '/') := by
    decide
  ⟨failed, (parse_fails_at_first_forbidden_piece _).2 _ failed⟩

end FileRouting
