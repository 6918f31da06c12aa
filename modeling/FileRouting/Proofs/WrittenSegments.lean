import FileRouting.Proofs.SegmentPieces
import FileRouting.Proofs.SegmentTranslation

/-!
# Written forms of segments

The written forms of the segments of an id are its pieces, in their order and
unchanged.  A piece is left out only if it says nothing: it is empty, or it
holds only brackets and marks that open a group.

A translated form stands at the place of its written form.  The two are equal if
the written form holds no mark, also where an optional group is open.
-/

namespace FileRouting

/-- Whether a text holds only brackets and marks that open a group. -/
def Hollow (text : Text) : Prop :=
  ∀ c ∈ text, c = '[' ∨ c = ']' ∨ c = '('

/-- Some texts in their order, of which only hollow ones were left out. -/
inductive LessHollow : List Text → List Text → Prop where
  | nil : LessHollow [] []
  | kept {piece : Text} {written pieces : List Text} :
      LessHollow written pieces →
      LessHollow (piece :: written) (piece :: pieces)
  | dropped {piece : Text} {written pieces : List Text} :
      Hollow piece → LessHollow written pieces →
      LessHollow written (piece :: pieces)

theorem Reading.lessHollow_translatedPieces (ends : Bool) (reading : Reading)
    (pieces : List Text) :
    LessHollow ((reading.translatedPieces ends pieces).map (·.2)) pieces := by
  induction pieces generalizing reading with
  | nil => exact .nil
  | cons piece later induction =>
      rw [translatedPieces]
      split
      · next vanishes =>
          exact .dropped (of_translateFrom_eq_nil vanishes)
            (induction (reading.after piece))
      · exact .kept (induction (reading.after piece))

namespace Segments

variable {id : Text} {segments : Segments}

theorem length_translated_eq_length_written
    (parsed : parse id = .ok segments) :
    segments.translated.length = segments.written.length := by
  obtain ⟨_, rfl⟩ := parse_eq_ok_iff.mp parsed
  rw [ofPairs, List.length_map, List.length_map]

/-- A segment that is written without a mark is translated to itself. -/
theorem translated_eq_written (parsed : parse id = .ok segments) {place : Nat}
    {piece : Text} (isWritten : segments.written[place]? = some piece)
    (noMark : ∀ c ∈ piece, c ∉ ['[', ']', '(', ')', '$']) :
    segments.translated[place]? = some piece := by
  obtain ⟨_, rfl⟩ := parse_eq_ok_iff.mp parsed
  simp only [ofPairs, List.getElem?_map, Option.map_eq_some_iff] at isWritten ⊢
  obtain ⟨pair, isPair, rfl⟩ := isWritten
  obtain ⟨_, reading, last, translation⟩ :=
    Reading.translatedPieces_spec (List.mem_of_getElem? isPair)
  refine ⟨pair, isPair, ?_⟩
  rw [translation, Reading.translate, Reading.translateFrom_of_no_mark noMark]

end Segments

/-- The written segments of an id are its pieces less some hollow ones, each has
one translated form, and one without a mark is its own translated form. -/
theorem written_segments_are_pieces {id : Text} {segments : Segments}
    (parsed : Segments.parse id = .ok segments) :
    (∃ pieces, CutInto id pieces ∧ LessHollow segments.written pieces) ∧
      segments.translated.length = segments.written.length ∧
      ∀ (place : Nat) (piece : Text),
        segments.written[place]? = some piece →
        (∀ c ∈ piece, c ∉ ['[', ']', '(', ')', '$']) →
        segments.translated[place]? = some piece := by
  refine ⟨⟨_, cutInto_cutSegments id, ?_⟩,
    Segments.length_translated_eq_length_written parsed,
    fun place piece => Segments.translated_eq_written parsed⟩
  obtain ⟨_, rfl⟩ := Segments.parse_eq_ok_iff.mp parsed
  exact Reading.lessHollow_translatedPieces true .start _

/-- A piece inside an open group keeps its text, and empty brackets vanish. -/
theorem group_over_pieces_written :
    ∃ segments, Segments.parse "[].(a.b.[c.d])".toList = .ok segments ∧
      (∃ pieces, CutInto "[].(a.b.[c.d])".toList pieces ∧
        LessHollow segments.written pieces) ∧
      segments.translated.length = segments.written.length ∧
      segments.translated[1]? = some "b".toList :=
  have parsed : Segments.parse "[].(a.b.[c.d])".toList =
      .ok ⟨["a".toList, "b".toList, "c.d?".toList],
        ["(a".toList, "b".toList, "[c.d])".toList]⟩ := by
    decide
  have facts := written_segments_are_pieces parsed
  ⟨_, parsed, facts.1, facts.2.1, facts.2.2 1 "b".toList rfl (by simp)⟩

end FileRouting
