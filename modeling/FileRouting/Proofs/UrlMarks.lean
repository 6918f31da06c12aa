import FileRouting.Proofs.ForbiddenCharacters

/-!
# Marks in segments

Translation puts three marks into segments: `:` for a parameter, `*` for a splat
and `?` for an optional group.  Since no written form holds a `:` or a `*`, these
two can come from nowhere but a `$` that opens its segment.

A `$` that ends the id has nothing after it, so that the splat is the whole of
the last segment.  In every other place it becomes the first character of a
parameter.
-/

namespace FileRouting

namespace Reading

section Characters

variable {reading : Reading} {opening ending : Bool} {c translated : Char}

/-- A character that translation puts in ends a group or opens a segment. -/
theorem translateChar_eq_some_of_ne
    (kept : reading.translateChar opening ending c = some translated)
    (new : translated ≠ c) :
    translated = '?' ∨
      opening = true ∧ translated = if ending then '*' else ':' := by
  rcases translateChar_eq_some kept with same | ⟨_, closes⟩ | ⟨rfl, opens⟩
  · exact absurd same new
  · exact .inl closes
  · cases opening with
    | true => exact .inr ⟨rfl, opens⟩
    | false =>
        have literal : reading.translateChar false ending '$' = some '$' := by
          simp [translateChar]
        rw [literal] at kept
        exact absurd (Option.some.inj kept).symm new

end Characters

section Pieces

variable {reading : Reading} {opening last ends : Bool} {piece : Text}
  {pieces : List Text} {pair : Text × Text} {c : Char}

/-- Where the characters of a translated form come from. -/
theorem mem_translateFrom
    (member : c ∈ reading.translateFrom opening last piece) :
    c ∈ piece ∨ c = '?' ∨
      opening = true ∧ (c = ':' ∨ last = true ∧ c = '*') := by
  induction piece generalizing reading opening with
  | nil => cases member
  | cons first rest induction =>
      rw [translateFrom] at member
      split at member
      · exact (induction member).imp_left (List.mem_cons_of_mem first)
      · next translated kept =>
          rcases List.mem_cons.mp member with rfl | later
          · by_cases same : c = first
            · exact .inl (List.mem_cons.mpr (.inl same))
            · refine .inr ((translateChar_eq_some_of_ne kept same).imp_right ?_)
              rintro ⟨opens, mark⟩
              refine ⟨opens, ?_⟩
              split at mark
              · next ending =>
                  exact .inr ⟨(Bool.and_eq_true_iff.mp ending).1, mark⟩
              · exact .inl mark
          · rcases induction later with copied | question | ⟨opens, _⟩
            · exact .inl (List.mem_cons_of_mem first copied)
            · exact .inr (.inl question)
            · cases opens

/-- Behind the first character only `?` can be new. -/
theorem mem_tail_translateFrom
    (member : c ∈ (reading.translateFrom opening last piece).tail) :
    c ∈ piece ∨ c = '?' := by
  induction piece generalizing reading opening with
  | nil => cases member
  | cons first rest induction =>
      rw [translateFrom] at member
      split at member
      · exact (induction member).imp_left (List.mem_cons_of_mem first)
      · rcases mem_translateFrom member with copied | question | ⟨opens, _⟩
        · exact .inl (List.mem_cons_of_mem first copied)
        · exact .inr question
        · cases opens

/-- Pieces that do not end an id are translated like pieces that are not the
last. -/
theorem translatedPieces_false_spec
    (member : pair ∈ translatedPieces false reading pieces) :
    ∃ reading : Reading, pair.1 = reading.translate false pair.2 := by
  induction pieces generalizing reading with
  | nil => cases member
  | cons piece later induction =>
      rw [translatedPieces] at member
      split at member
      · exact induction member
      · rcases List.mem_cons.mp member with rfl | isLater
        · exact ⟨reading, rfl⟩
        · exact induction isLater

theorem star_notMem_of_translatedPieces_false
    (member : pair ∈ translatedPieces false reading pieces)
    (free : '*' ∉ pair.2) : '*' ∉ pair.1 := by
  obtain ⟨before, translation⟩ := translatedPieces_false_spec member
  intro star
  rw [translation] at star
  rcases mem_translateFrom star with written | question | ⟨_, colon | ends⟩
  · exact free written
  · exact absurd question (by decide)
  · exact absurd colon (by decide)
  · cases ends.1

end Pieces

end Reading

namespace Segments

variable {id : Text} {segments : Segments}

/-- What every segment satisfies together with its written form. -/
structure WellMarked (translated written : Text) : Prop where
  nonempty : translated ≠ []
  noSlash : '/' ∉ translated
  colonBegins : ':' ∉ translated.tail
  noColon : ':' ∉ written
  noStar : '*' ∉ written

theorem wellMarked_of_mem (parsed : parse id = .ok segments)
    {pair : Text × Text} (member : pair ∈ segments.pairs) :
    WellMarked pair.1 pair.2 := by
  obtain ⟨equal, faultless⟩ := parse_eq_ok parsed
  obtain ⟨noStar, noColon, noSlash⟩ :=
    fault?_eq_none_iff.mp (faultless pair member)
  rw [equal] at member
  obtain ⟨nonempty, reading, last, translation⟩ :=
    Reading.translatedPieces_spec member
  refine ⟨nonempty, noSlash, ?_, noColon, noStar⟩
  intro colon
  rw [translation] at colon
  rcases Reading.mem_tail_translateFrom colon with written | question
  · exact noColon written
  · exact absurd question (by decide)

/-- A `*` is all of the last segment, and a `$` that ends the id stands for
it. -/
theorem splat_ends_id (parsed : parse id = .ok segments)
    {front back : List Text} {segment : Text}
    (place : segments.translated = front ++ segment :: back)
    (star : '*' ∈ segment) :
    segment = ['*'] ∧ back = [] ∧ id.getLast? = some '$' := by
  have noStar : ∀ pair ∈ segments.pairs, '*' ∉ pair.2 :=
    fun pair member => (wellMarked_of_mem parsed member).noStar
  rw [translated_eq_map parsed] at place
  rw [(parse_eq_ok parsed).1] at place noStar
  rcases Reading.translatedPieces_ends .start (cutSegments false id) with
    same | ⟨earlier, piece, pieces, endsInDollar, translated⟩
  · rw [same] at place noStar
    have listed : segment ∈ front ++ segment :: back := by simp
    rw [← place] at listed
    obtain ⟨pair, member, rfl⟩ := List.mem_map.mp listed
    exact absurd star (Reading.star_notMem_of_translatedPieces_false member
      (noStar pair member))
  · -- Only the last piece can hold the mark, and it is nothing else.
    rw [pieces, Reading.translatedPieces_of_splat translated] at place noStar
    rw [List.map_append, List.map_singleton] at place
    rcases List.eq_nil_or_concat' back with rfl | ⟨others, other, rfl⟩
    · obtain ⟨_, same⟩ := List.append_inj' place rfl
      exact ⟨(List.singleton_inj.mp same).symm, rfl,
        (cutSegments_eq_iff.mp pieces).getLast?_eq endsInDollar⟩
    · rw [← List.cons_append, ← List.append_assoc] at place
      obtain ⟨isEarlier, _⟩ := List.append_inj' place rfl
      have listed : segment ∈ front ++ segment :: others := by simp
      rw [← isEarlier] at listed
      obtain ⟨pair, member, rfl⟩ := List.mem_map.mp listed
      exact absurd star (Reading.star_notMem_of_translatedPieces_false member
        (noStar pair (List.mem_append_left _ member)))

end Segments

/-- No segment is empty or holds a `/`; a `:` can only begin a segment; a `*` is
all of the last segment, for a `$` that ends the id; and neither mark stands in
a written form. -/
theorem marks_stand_where_translated {id : Text} {segments : Segments}
    (parsed : Segments.parse id = .ok segments) :
    (∀ segment ∈ segments.translated,
      segment ≠ [] ∧ '/' ∉ segment ∧ ':' ∉ segment.tail) ∧
    (∀ front segment back, segments.translated = front ++ segment :: back →
      '*' ∈ segment →
        segment = ['*'] ∧ back = [] ∧ id.getLast? = some '$') ∧
    ∀ written ∈ segments.written, ':' ∉ written ∧ '*' ∉ written := by
  refine ⟨?_, ?_, ?_⟩
  · intro segment member
    rw [Segments.translated_eq_map parsed] at member
    obtain ⟨pair, listed, rfl⟩ := List.mem_map.mp member
    have marked := Segments.wellMarked_of_mem parsed listed
    exact ⟨marked.nonempty, marked.noSlash, marked.colonBegins⟩
  · intro front segment back
    exact Segments.splat_ends_id parsed
  · intro written member
    rw [Segments.written_eq_map parsed] at member
    obtain ⟨pair, listed, rfl⟩ := List.mem_map.mp member
    have marked := Segments.wellMarked_of_mem parsed listed
    exact ⟨marked.noColon, marked.noStar⟩

/-- Marks behind brackets that say nothing, in a group and at the end. -/
theorem marks_behind_brackets_and_in_group :
    ∃ segments, Segments.parse "[]$a.([]$b.$).$".toList = .ok segments ∧
      segments.translated =
        [":a".toList, ":b".toList, ":?".toList, "*".toList] ∧
      (∀ segment ∈ segments.translated,
        segment ≠ [] ∧ '/' ∉ segment ∧ ':' ∉ segment.tail) ∧
      "[]$a.([]$b.$).$".toList.getLast? = some '$' ∧
      ∀ written ∈ segments.written, ':' ∉ written ∧ '*' ∉ written :=
  have parsed : Segments.parse "[]$a.([]$b.$).$".toList =
      .ok ⟨[":a".toList, ":b".toList, ":?".toList, "*".toList],
        ["[]$a".toList, "([]$b".toList, "$)".toList, "$".toList]⟩ := by
    decide
  have marks := marks_stand_where_translated parsed
  have splat := marks.2.1 [":a".toList, ":b".toList, ":?".toList] ['*'] [] rfl
    (by decide)
  ⟨_, parsed, rfl, marks.1, splat.2.2, marks.2.2⟩

end FileRouting
