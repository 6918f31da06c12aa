import FileRouting.Proofs.Namespace
import FileRouting.Proofs.SegmentPieces

/-!
# Segments of an extended id

Whether an id lies below another is a matter of characters, while its segments
come from a reading that remembers brackets and groups.  The two agree: if an id
goes on after a separator, then the longer id begins with the segments of the
shorter one.

Two ids are exceptions.  After an open bracket a separator does not separate,
and a `$` that ends the id is a splat only as long as nothing follows it.
-/

namespace FileRouting

namespace Reading

theorem translateChar_ending (reading : Reading) (opening : Bool) (c : Char) :
    reading.translateChar opening true c =
        reading.translateChar opening false c ∨
      opening = true ∧ c = '$' ∧
        reading.translateChar opening true c = some '*' := by
  by_cases opens : c = '$' ∧ opening = true
  · obtain ⟨rfl, rfl⟩ := opens
    cases bracket : reading.bracket <;> simp [translateChar, bracket]
  · left
    simp only [translateChar, Bool.and_eq_true, decide_eq_true_eq, opens,
      if_false]

section Steps

variable {reading : Reading} {opening : Bool} {c next : Char} {later : Text}

theorem translateFrom_skip
    (skipped : reading.translateChar opening false c = none) (last : Bool) :
    reading.translateFrom opening last (c :: next :: later) =
      (reading.next c).translateFrom opening last (next :: later) := by
  rw [translateFrom, List.isEmpty_cons, Bool.and_false, skipped]

theorem translateFrom_keep {translated : Char}
    (kept : reading.translateChar opening false c = some translated)
    (last : Bool) :
    reading.translateFrom opening last (c :: next :: later) =
      translated :: (reading.next c).translateFrom false last
        (next :: later) := by
  rw [translateFrom, List.isEmpty_cons, Bool.and_false, kept]

end Steps

/-- What ends the id is read as a splat or as it would be read elsewhere. -/
theorem translateFrom_last (reading : Reading) (opening : Bool)
    (piece : Text) :
    reading.translateFrom opening true piece =
        reading.translateFrom opening false piece ∨
      opening = true ∧ piece.getLast? = some '$' ∧
        reading.translateFrom opening true piece = ['*'] := by
  induction piece generalizing reading opening with
  | nil => exact .inl rfl
  | cons c rest induction =>
      cases rest with
      | nil =>
          rcases reading.translateChar_ending opening c with same | splat
          · left
            simp [translateFrom, same]
          · obtain ⟨opens, isDollar, translated⟩ := splat
            right
            refine ⟨opens, by rw [isDollar]; rfl, ?_⟩
            simp [translateFrom, translated]
      | cons next later =>
          rw [List.getLast?_cons_cons]
          cases first : reading.translateChar opening false c with
          | none =>
              rw [translateFrom_skip first, translateFrom_skip first]
              exact induction (reading.next c) opening
          | some translated =>
              left
              rw [translateFrom_keep first, translateFrom_keep first]
              rcases induction (reading.next c) false with same | splat
              · rw [same]
              · cases splat.1

/-- The pieces that translate to something, each after what it translates to.
The flag says whether the last of them ends the id. -/
def translatedPieces (ends : Bool) (reading : Reading) :
    List Text → List (Text × Text)
  | [] => []
  | piece :: later =>
      let translated := reading.translate (ends && later.isEmpty) piece
      let others := translatedPieces ends (reading.after piece) later
      if translated = [] then others else (translated, piece) :: others

theorem translatedPieces_append (ends : Bool) (reading : Reading)
    (front : List Text) {back : List Text} (more : back ≠ []) :
    translatedPieces ends reading (front ++ back) =
      translatedPieces false reading front ++
        translatedPieces ends (front.foldl after reading) back := by
  induction front generalizing reading with
  | nil => rfl
  | cons piece front induction =>
      have notLast : (ends && (front ++ back).isEmpty) = false := by
        cases front <;> cases back <;> simp_all
      rw [List.cons_append, translatedPieces, translatedPieces, notLast,
        Bool.false_and, induction, List.foldl_cons]
      split <;> rfl

theorem translatedPieces_spec {ends : Bool} {reading : Reading}
    {pieces : List Text} {pair : Text × Text}
    (member : pair ∈ translatedPieces ends reading pieces) :
    pair.1 ≠ [] ∧ ∃ (reading : Reading) (last : Bool),
      pair.1 = reading.translate last pair.2 := by
  induction pieces generalizing reading with
  | nil => cases member
  | cons piece later induction =>
      rw [translatedPieces] at member
      split at member
      · exact induction member
      · next remains =>
          rcases List.mem_cons.mp member with rfl | isLater
          · exact ⟨remains, reading, _, rfl⟩
          · exact induction isLater

/-- Only a splat depends on whether the pieces end the id. -/
theorem translatedPieces_ends (reading : Reading) (pieces : List Text) :
    translatedPieces true reading pieces =
        translatedPieces false reading pieces ∨
      ∃ front piece, pieces = front ++ [piece] ∧ piece.getLast? = some '$' ∧
        (front.foldl after reading).translate true piece = ['*'] := by
  rcases List.eq_nil_or_concat' pieces with rfl | ⟨front, piece, rfl⟩
  · exact .inl rfl
  · rcases (front.foldl after reading).translateFrom_last true piece with
      same | splat
    · left
      rw [translatedPieces_append _ _ _ (List.cons_ne_nil _ _),
        translatedPieces_append _ _ _ (List.cons_ne_nil _ _)]
      simp [translatedPieces, translate, same]
    · obtain ⟨_, endsInDollar, translated⟩ := splat
      exact .inr ⟨front, piece, rfl, endsInDollar, translated⟩

theorem translatedPieces_of_splat {reading : Reading} {front : List Text}
    {piece : Text}
    (splat : (front.foldl after reading).translate true piece = ['*']) :
    translatedPieces true reading (front ++ [piece]) =
      translatedPieces false reading front ++ [(['*'], piece)] := by
  rw [translatedPieces_append _ _ _ (List.cons_ne_nil _ _)]
  simp [translatedPieces, splat]

end Reading

namespace Segments

/-- Segments from translated forms with their written forms. -/
def ofPairs (pairs : List (Text × Text)) : Segments :=
  ⟨pairs.map (·.1), pairs.map (·.2)⟩

theorem pairs_ofPairs (pairs : List (Text × Text)) :
    (ofPairs pairs).pairs = pairs := by
  rw [Segments.pairs, ofPairs, List.zip_map', List.map_id']

/-- The first fault of some segments. -/
def firstFault? (pairs : List (Text × Text)) : Option (Text × Char) :=
  pairs.findSome? fun pair => fault? pair.1 pair.2

theorem firstFault?_append (front back : List (Text × Text)) :
    firstFault? (front ++ back) =
      (firstFault? front).or (firstFault? back) :=
  List.findSome?_append

theorem firstFault?_cons (translated written : Text)
    (later : List (Text × Text)) :
    firstFault? ((translated, written) :: later) =
      (fault? translated written).or (firstFault? later) := by
  simp only [firstFault?, List.findSome?_cons]
  cases fault? translated written <;> simp

/-- What some pieces are read as, all of them at once. -/
theorem ofPieces_eq (id : Text) (reading : Reading) (pieces : List Text) :
    ofPieces id reading pieces =
      match firstFault? (reading.translatedPieces true pieces) with
      | some (offending, mark) => .error (.invalidSegment id offending mark)
      | none => .ok (ofPairs (reading.translatedPieces true pieces)) := by
  induction pieces generalizing reading with
  | nil => rfl
  | cons piece later induction =>
      rw [ofPieces, Reading.translatedPieces, Bool.true_and]
      by_cases vanishes : reading.translate later.isEmpty piece = []
      · simp only [if_pos vanishes, induction]
      · simp only [if_neg vanishes, induction, firstFault?_cons]
        cases fault? (reading.translate later.isEmpty piece) piece with
        | some fault => rfl
        | none =>
            cases firstFault? ((reading.after piece).translatedPieces true
              later) <;> rfl

/-- Pieces that can be read give the segments that they translate to, and none
of these has a fault. -/
theorem ofPieces_eq_ok {id : Text} {reading : Reading} {pieces : List Text}
    {segments : Segments} (read : ofPieces id reading pieces = .ok segments) :
    segments = ofPairs (reading.translatedPieces true pieces) ∧
      ∀ pair ∈ reading.translatedPieces true pieces,
        fault? pair.1 pair.2 = none := by
  rw [ofPieces_eq] at read
  split at read
  · cases read
  · next faultless =>
      cases read
      exact ⟨rfl, List.findSome?_eq_none_iff.mp faultless⟩

theorem ofPieces_eq_error {id : Text} {reading : Reading} {pieces : List Text}
    {error : RouteError} (failed : ofPieces id reading pieces = .error error) :
    ∃ segment mark, error = .invalidSegment id segment mark := by
  rw [ofPieces_eq] at failed
  split at failed
  · next offending mark _ =>
      cases failed
      exact ⟨offending, mark, rfl⟩
  · cases failed

theorem parse_eq_ok {id : Text} {segments : Segments}
    (parsed : parse id = .ok segments) :
    segments.pairs =
        Reading.start.translatedPieces true (cutSegments false id) ∧
      ∀ pair ∈ segments.pairs, fault? pair.1 pair.2 = none := by
  obtain ⟨rfl, faultless⟩ := ofPieces_eq_ok parsed
  rw [pairs_ofPairs]
  exact ⟨rfl, faultless⟩

theorem ofPairs_pairs {id : Text} {segments : Segments}
    (parsed : parse id = .ok segments) : ofPairs segments.pairs = segments := by
  obtain ⟨rfl, _⟩ := ofPieces_eq_ok parsed
  rw [pairs_ofPairs]

theorem translated_eq_map {id : Text} {segments : Segments}
    (parsed : parse id = .ok segments) :
    segments.translated = segments.pairs.map (·.1) :=
  congrArg translated (ofPairs_pairs parsed).symm

theorem written_eq_map {id : Text} {segments : Segments}
    (parsed : parse id = .ok segments) :
    segments.written = segments.pairs.map (·.2) :=
  congrArg written (ofPairs_pairs parsed).symm

/-- Whether an id ends with a `$` that is read as a splat. -/
def EndsInSplat (id : Text) : Prop :=
  id.getLast? = some '$' ∧
    ∃ segments, parse id = .ok segments ∧
      segments.translated.getLast? = some ['*']

theorem translatedPieces_of_not_endsInSplat {id : Text} {segments : Segments}
    (parsed : parse id = .ok segments) (noSplat : ¬ EndsInSplat id) :
    segments.pairs =
      Reading.start.translatedPieces false (cutSegments false id) := by
  rw [(parse_eq_ok parsed).1]
  rcases Reading.translatedPieces_ends .start (cutSegments false id) with
    same | splat
  · exact same
  · exfalso
    obtain ⟨front, piece, pieces, endsInDollar, translated⟩ := splat
    apply noSplat
    constructor
    · exact (cutSegments_eq_iff.mp pieces).getLast?_eq endsInDollar
    · refine ⟨segments, parsed, ?_⟩
      rw [translated_eq_map parsed, (parse_eq_ok parsed).1, pieces,
        Reading.translatedPieces_of_splat translated]
      simp

/-- The segments of an id begin the segments of every id below it. -/
theorem pairs_isPrefix {upper lower : Text}
    {upperSegments lowerSegments : Segments}
    (upperParsed : parse upper = .ok upperSegments)
    (lowerParsed : parse lower = .ok lowerSegments)
    (below : Below upper lower) (closed : BracketsClosed upper)
    (noSplat : ¬ EndsInSplat upper) :
    upperSegments.pairs <+: lowerSegments.pairs := by
  obtain ⟨mark, rest, rfl, separates⟩ := below
  have separator : isSeparator mark = true := by
    rcases separates with rfl | rfl <;> rfl
  rw [translatedPieces_of_not_endsInSplat upperParsed noSplat,
    (parse_eq_ok lowerParsed).1, cutSegments_append separator closed,
    Reading.translatedPieces_append _ _ _ (cutSegments_ne_nil false rest)]
  exact List.prefix_append _ _

end Segments

end FileRouting
