import FileRouting.Proofs.SegmentPieces
import FileRouting.Proofs.SegmentTranslation

/-!
# Ids joined at a separator

Two ids with a separator between them are read one after the other: the error of
the first, else that of the second, else the segments of both.

What must not go on is the first id.  Its brackets and its optional group have
to be closed, and it must not end with a `$` that opens a segment, because that
`$` is a splat only as long as nothing follows it.
-/

namespace FileRouting

/-- What is translated of the segment that a text ends in. -/
def pending (text : Text) : Text :=
  let pieces := cutSegments false text
  (pieces.dropLast.foldl Reading.after .start).translate false
    (pieces.getLastD [])

/-- Whether an id ends with a `$` that opens a segment: it stands outside
brackets, and nothing of its segment is translated before it. -/
def EndsInOpeningDollar (id : Text) : Prop :=
  id.getLast? = some '$' ∧ BracketsClosed id.dropLast ∧ pending id.dropLast = []

instance (id : Text) : Decidable (EndsInOpeningDollar id) :=
  inferInstanceAs (Decidable (_ ∧ _ ∧ _))

theorem CutInto.pending_eq {text piece : Text} {front : List Text}
    (cut : CutInto text (front ++ [piece])) :
    pending text =
      (front.foldl Reading.after .start).translate false piece := by
  simp [pending, cut.eq]

namespace Reading

/-- A piece that translates to a splat opens with its last character. -/
theorem opens_of_splat {reading : Reading} {lead : Text}
    (splat : reading.translate true (lead ++ ['$']) = ['*']) :
    (reading.after lead).bracket = false ∧ reading.translate false lead = [] := by
  rw [translate, translateFrom_append _ _ _ _ (List.cons_ne_nil _ _)] at splat
  cases outside : (reading.after lead).bracket with
  | true =>
      have literal : '$' ∈ ['*'] := by
        rw [← splat]
        simp [translateFrom, translateChar, outside]
      exact absurd literal (by decide)
  | false =>
      refine ⟨rfl, ?_⟩
      have single := congrArg List.length splat
      rw [List.length_append, translateFrom] at single
      split at single
      · next gone =>
          rcases translateChar_eq_none gone with same | same | same <;>
            cases same
      · simpa [translate, translateFrom] using single

end Reading

/-- Without such a `$` it does not matter whether more follows. -/
theorem translatedPieces_eq_of_not_endsInOpeningDollar {id : Text}
    (noDollar : ¬ EndsInOpeningDollar id) :
    Reading.start.translatedPieces true (cutSegments false id) =
      Reading.start.translatedPieces false (cutSegments false id) := by
  rcases Reading.translatedPieces_ends .start (cutSegments false id) with
    same | splat
  · exact same
  · exfalso
    obtain ⟨front, piece, pieces, endsInDollar, translated⟩ := splat
    obtain ⟨lead, rfl⟩ := List.getLast?_eq_some_iff.mp endsInDollar
    obtain ⟨outside, nothing⟩ := Reading.opens_of_splat translated
    have cut := cutSegments_eq_iff.mp pieces
    obtain ⟨before, rfl, replace⟩ := cut.replace_last
    -- Without its last character the id ends with the rest of that piece.
    have leadCut := replace lead
      (cut.unbroken (lead ++ ['$']) (by simp)).of_append
    have shorter : (before ++ (lead ++ ['$'])).dropLast = before ++ lead := by
      rw [← List.append_assoc, List.dropLast_concat]
    have read : (front ++ [lead]).foldl Reading.after .start =
        Reading.start.after (before ++ lead) :=
      leadCut.foldl_after rfl
    rw [List.foldl_append, List.foldl_cons, List.foldl_nil] at read
    rw [read, Reading.bracket_after] at outside
    apply noDollar
    rw [EndsInOpeningDollar, shorter, leadCut.pending_eq]
    exact ⟨by simp, outside, nothing⟩

namespace Segments

theorem ofPairs_append (front back : List (Text × Text)) :
    ofPairs (front ++ back) =
      ⟨(ofPairs front).translated ++ (ofPairs back).translated,
        (ofPairs front).written ++ (ofPairs back).written⟩ := by
  rw [ofPairs, List.map_append, List.map_append]
  rfl

/-- What an id and another after a separator are read as. -/
theorem readPairs_append {upper : Text} {mark : Char}
    (rests : Reading.start.after upper = .start)
    (noDollar : ¬ EndsInOpeningDollar upper)
    (separates : isSeparator mark = true) (lower : Text) :
    readPairs (upper ++ mark :: lower) = readPairs upper ++ readPairs lower := by
  have closed : BracketsClosed upper := by
    have outside := Reading.start.bracket_after upper
    rw [rests] at outside
    exact outside.symm
  have resumes : (cutSegments false upper).foldl Reading.after .start =
      .start := by
    rw [(cutInto_cutSegments upper).foldl_after rfl, rests]
  rw [readPairs, readPairs, readPairs, cutSegments_append separates closed,
    Reading.translatedPieces_append _ _ _ (cutSegments_ne_nil false lower),
    resumes, translatedPieces_eq_of_not_endsInOpeningDollar noDollar]

end Segments

/-- An id and another after a separator are read one after the other, with the
error of the first of them that is refused. -/
theorem joined_ids_read_in_turn {upper : Text} {mark : Char}
    (rests : Reading.start.after upper = .start)
    (noDollar : ¬ EndsInOpeningDollar upper)
    (separates : mark = '.' ∨ mark = '/' ∨ mark = '\\') (lower : Text) :
    match Segments.parse upper, Segments.parse lower with
    | .error error, _ =>
        ∃ offending character,
          error = .invalidSegment upper offending character ∧
          Segments.parse (upper ++ mark :: lower) =
            .error (.invalidSegment (upper ++ mark :: lower) offending
              character)
    | .ok _, .error error =>
        ∃ offending character,
          error = .invalidSegment lower offending character ∧
          Segments.parse (upper ++ mark :: lower) =
            .error (.invalidSegment (upper ++ mark :: lower) offending
              character)
    | .ok first, .ok second =>
        Segments.parse (upper ++ mark :: lower) =
          .ok ⟨first.translated ++ second.translated,
            first.written ++ second.written⟩ := by
  have separator : isSeparator mark = true := by
    rcases separates with rfl | rfl | rfl <;> rfl
  have pairs := Segments.readPairs_append rests noDollar separator lower
  have faults := Segments.firstFault?_append (Segments.readPairs upper)
    (Segments.readPairs lower)
  rw [← pairs] at faults
  cases upperParsed : Segments.parse upper with
  | error error =>
      obtain ⟨offending, character, found, isError⟩ :=
        Segments.parse_eq_error_iff.mp upperParsed
      rw [found, Option.some_or] at faults
      exact ⟨offending, character, isError,
        Segments.parse_eq_error_iff.mpr ⟨_, _, faults, rfl⟩⟩
  | ok first =>
      obtain ⟨sound, rfl⟩ := Segments.parse_eq_ok_iff.mp upperParsed
      rw [sound, Option.none_or] at faults
      cases lowerParsed : Segments.parse lower with
      | error error =>
          obtain ⟨offending, character, found, isError⟩ :=
            Segments.parse_eq_error_iff.mp lowerParsed
          rw [found] at faults
          exact ⟨offending, character, isError,
            Segments.parse_eq_error_iff.mpr ⟨_, _, faults, rfl⟩⟩
      | ok second =>
          obtain ⟨lowerSound, rfl⟩ := Segments.parse_eq_ok_iff.mp lowerParsed
          rw [lowerSound] at faults
          refine Segments.parse_eq_ok_iff.mpr ⟨faults, ?_⟩
          rw [pairs, Segments.ofPairs_append]

/-- The `$` that ends the first id opens nothing, and that of the second is
still a splat. -/
theorem group_joined_to_splat :
    Reading.start.after "(a.[b])$".toList = .start ∧
      ¬ EndsInOpeningDollar "(a.[b])$".toList ∧
      Segments.parse "(a.[b])$\\$x.$".toList =
        .ok ⟨["a".toList, "b?$".toList, ":x".toList, "*".toList],
          ["(a".toList, "[b])$".toList, "$x".toList, "$".toList]⟩ := by
  have rests : Reading.start.after "(a.[b])$".toList = .start := by decide
  have noDollar : ¬ EndsInOpeningDollar "(a.[b])$".toList := by decide
  have upperParsed : Segments.parse "(a.[b])$".toList =
      .ok ⟨["a".toList, "b?$".toList], ["(a".toList, "[b])$".toList]⟩ := by
    decide
  have lowerParsed : Segments.parse "$x.$".toList =
      .ok ⟨[":x".toList, "*".toList], ["$x".toList, "$".toList]⟩ := by
    decide
  have joined := joined_ids_read_in_turn rests noDollar
    (.inr (.inr rfl) : '\\' = '.' ∨ '\\' = '/' ∨ '\\' = '\\')
    "$x.$".toList
  rw [upperParsed, lowerParsed] at joined
  exact ⟨rests, noDollar, joined⟩

end FileRouting
