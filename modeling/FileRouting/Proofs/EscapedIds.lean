import FileRouting.Proofs.SegmentPieces
import FileRouting.Proofs.SegmentTranslation
import FileRouting.Proofs.UrlComponents

/-!
# Escaped ids

Brackets let an id say any segment literally.  Texts that are put in brackets
and joined with dots are read back as they were, and make up a URL path in which
none of their characters has a meaning.  They need only be free of `]`, which
would end the brackets, and of the characters that no segment may have.
-/

namespace FileRouting

/-- A text in brackets. -/
def bracketed (text : Text) : Text :=
  '[' :: (text ++ [']'])

/-- The id that says some texts literally. -/
def escapedId (texts : List Text) : Text :=
  Text.joinWith '.' (texts.map bracketed)

/-- Whether a text can be said literally by a segment. -/
def Escapable (text : Text) : Prop :=
  text ≠ [] ∧ ']' ∉ text ∧ '/' ∉ text ∧ ':' ∉ text ∧ '*' ∉ text

instance (text : Text) : Decidable (Escapable text) :=
  inferInstanceAs (Decidable (_ ∧ _ ∧ _ ∧ _ ∧ _))

/-- Unbroken texts without open brackets are the pieces of what they make up. -/
theorem CutInto.joinWith {mark : Char} (separates : isSeparator mark = true)
    {pieces : List Text} (more : pieces ≠ [])
    (each : ∀ piece ∈ pieces, Unbroken false piece ∧ BracketsClosed piece) :
    CutInto (Text.joinWith mark pieces) pieces := by
  induction pieces with
  | nil => exact absurd rfl more
  | cons piece later induction =>
      rw [List.forall_mem_cons] at each
      obtain ⟨⟨unbroken, closed⟩, others⟩ := each
      cases later with
      | nil =>
          have single : Text.joinWith mark [piece] = piece :=
            List.intercalate_singleton
          rw [single]
          exact .whole unbroken
      | cons next later =>
          have joined : Text.joinWith mark (piece :: next :: later) =
              piece ++ mark :: Text.joinWith mark (next :: later) := by
            rw [← List.singleton_append, Text.joinWith_append
              (List.cons_ne_nil _ _) (List.cons_ne_nil _ _)]
            simp [Text.joinWith]
          rw [joined]
          exact .cut unbroken closed separates
            (induction (List.cons_ne_nil next later) others)

section Bracketed

variable {text : Text} {reading : Reading} {opening last : Bool} {c : Char}

namespace Reading

theorem next_inside (inside : reading.bracket = true) (noClose : c ≠ ']') :
    reading.next c = reading := by
  obtain ⟨bracket, optionalGroup⟩ := reading
  have isInside : bracket = true := inside
  subst isInside
  simp [next, bracketAfter, noClose]

theorem after_inside (inside : reading.bracket = true) (noClose : ']' ∉ text) :
    reading.after (text ++ [']']) = ⟨false, reading.optionalGroup⟩ := by
  induction text with
  | nil => simp [after, next, bracketAfter, inside]
  | cons c text induction =>
      rw [List.mem_cons, not_or] at noClose
      have same := next_inside inside (Ne.symm noClose.1)
      rw [after, List.cons_append, List.foldl_cons, same]
      exact induction noClose.2

theorem translateFrom_inside (inside : reading.bracket = true)
    (noClose : ']' ∉ text) :
    reading.translateFrom opening last (text ++ [']']) = text := by
  induction text generalizing opening with
  | nil => simp [translateFrom, translateChar, inside]
  | cons c text induction =>
      rw [List.mem_cons, not_or] at noClose
      have copied : ∀ ending,
          reading.translateChar opening ending c = some c := by
        simp [translateChar, inside, Ne.symm noClose.1]
      rw [List.cons_append, translateFrom, copied,
        next_inside inside (Ne.symm noClose.1)]
      exact congrArg (List.cons c) (induction noClose.2)

/-- A text in brackets leaves the reading as it was. -/
theorem after_bracketed (outside : reading.bracket = false)
    (noClose : ']' ∉ text) : reading.after (bracketed text) = reading := by
  have inside : (reading.next '[').bracket = true := by
    simp [next, bracketAfter, outside]
  have sameGroup : (reading.next '[').optionalGroup = reading.optionalGroup := by
    simp [next, outside]
  have closed := after_inside inside noClose
  rw [sameGroup, ← outside] at closed
  exact closed

/-- A text in brackets is copied. -/
theorem translate_bracketed (outside : reading.bracket = false)
    (noClose : ']' ∉ text) : reading.translate last (bracketed text) = text := by
  have inside : (reading.next '[').bracket = true := by
    simp [next, bracketAfter, outside]
  have vanishes : ∀ ending,
      reading.translateChar true ending '[' = none := by
    simp [translateChar, outside]
  rw [translate, bracketed, translateFrom, vanishes]
  exact translateFrom_inside inside noClose

end Reading

theorem bracketsClosed_bracketed (noClose : ']' ∉ text) :
    BracketsClosed (bracketed text) := by
  have closed := Reading.start.bracket_after (bracketed text)
  rw [Reading.after_bracketed rfl noClose] at closed
  exact closed.symm

theorem unbroken_inside (noClose : ']' ∉ text) :
    Unbroken true (text ++ [']']) := by
  induction text with
  | nil => exact Unbroken.nil.cons fun _ => rfl
  | cons c text induction =>
      rw [List.mem_cons, not_or] at noClose
      have inside : bracketAfter true c = true := by
        simp [bracketAfter, Ne.symm noClose.1]
      have later := induction noClose.2
      rw [← inside] at later
      exact later.cons fun _ => rfl

theorem unbroken_bracketed (noClose : ']' ∉ text) :
    Unbroken false (bracketed text) :=
  Unbroken.cons (by decide) (unbroken_inside noClose)

theorem getLast?_bracketed (text : Text) :
    (bracketed text).getLast? = some ']' := by
  rw [bracketed, ← List.cons_append, List.getLast?_concat]

theorem urlComponent?_bracketed (text : Text) :
    urlComponent? text (bracketed text) = some text := by
  rw [urlComponent?, getLast?_bracketed]
  simp [bracketed]

theorem fault?_bracketed (escapable : Escapable text) :
    Segments.fault? text (bracketed text) = none := by
  obtain ⟨_, _, noSlash, noColon, noStar⟩ := escapable
  rw [Segments.fault?_eq_none_iff]
  simp [bracketed, noSlash, noColon, noStar]

end Bracketed

section EscapedId

variable {texts : List Text}

theorem cutInto_escapedId (more : texts ≠ [])
    (escapable : ∀ text ∈ texts, Escapable text) :
    CutInto (escapedId texts) (texts.map bracketed) := by
  apply CutInto.joinWith (by decide) (by simpa using more)
  intro piece member
  obtain ⟨text, isText, rfl⟩ := List.mem_map.mp member
  obtain ⟨_, noClose, _⟩ := escapable text isText
  exact ⟨unbroken_bracketed noClose, bracketsClosed_bracketed noClose⟩

theorem Reading.translatedPieces_bracketed (ends : Bool)
    (escapable : ∀ text ∈ texts, Escapable text) :
    Reading.start.translatedPieces ends (texts.map bracketed) =
      texts.map fun text => (text, bracketed text) := by
  induction texts with
  | nil => rfl
  | cons text texts induction =>
      rw [List.forall_mem_cons] at escapable
      obtain ⟨⟨nonempty, noClose, _⟩, later⟩ := escapable
      rw [List.map_cons, translatedPieces, translate_bracketed rfl noClose,
        after_bracketed rfl noClose, if_neg nonempty, induction later]
      rfl

namespace Segments

theorem readPairs_escapedId (escapable : ∀ text ∈ texts, Escapable text) :
    readPairs (escapedId texts) =
      texts.map fun text => (text, bracketed text) := by
  cases texts with
  | nil => rfl
  | cons text texts =>
      have cut := cutInto_escapedId (List.cons_ne_nil text texts) escapable
      rw [readPairs, cut.eq, Reading.translatedPieces_bracketed true escapable]

theorem ofPairs_bracketed (texts : List Text) :
    ofPairs (texts.map fun text => (text, bracketed text)) =
      ⟨texts, texts.map bracketed⟩ := by
  simp [ofPairs, Function.comp_def]

theorem parse_escapedId (escapable : ∀ text ∈ texts, Escapable text) :
    parse (escapedId texts) = .ok ⟨texts, texts.map bracketed⟩ := by
  rw [parse_eq_ok_iff, readPairs_escapedId escapable]
  constructor
  · rw [firstFault?, List.findSome?_eq_none_iff]
    intro pair member
    obtain ⟨text, isText, rfl⟩ := List.mem_map.mp member
    exact fault?_bracketed (escapable text isText)
  · exact (ofPairs_bracketed texts).symm

/-- A last piece in brackets is neither an index nor a layout. -/
theorem lastWritten?_bracketed {segments : Segments} {last : Text}
    (written : segments.written = texts.map bracketed)
    (isLast : segments.lastWritten? = some last) :
    last.head? = some '[' := by
  rw [lastWritten?, written, List.getLast?_map, Option.map_eq_some_iff] at isLast
  obtain ⟨text, _, rfl⟩ := isLast
  rfl

theorem isIndex_bracketed {segments : Segments}
    (written : segments.written = texts.map bracketed) :
    segments.isIndex = false := by
  rw [isIndex, decide_eq_false_iff_not]
  intro isLast
  exact absurd (lastWritten?_bracketed written isLast) (by decide)

theorem isPathlessLayout_bracketed {segments : Segments}
    (written : segments.written = texts.map bracketed) :
    segments.isPathlessLayout = false := by
  unfold isPathlessLayout
  split
  · next last isLast =>
      rw [lastWritten?_bracketed written isLast]
      rfl
  · rfl

theorem urlComponents_bracketed (texts : List Text) :
    (Segments.mk texts (texts.map bracketed)).urlComponents false = texts := by
  have pairs : (Segments.mk texts (texts.map bracketed)).pairs =
      texts.map fun text => (text, bracketed text) := by
    rw [← ofPairs_bracketed, pairs_ofPairs]
  have sameSize : (Segments.mk texts (texts.map bracketed)).size =
      (texts.map fun text => (text, bracketed text)).length := by
    rw [size, List.length_map]
  rw [urlComponents, if_neg Bool.false_ne_true, pairs, sameSize,
    List.take_length, List.filterMap_map]
  simp [urlComponent?_bracketed]

theorem urlPath?_bracketed (escapable : ∀ text ∈ texts, Escapable text) :
    (Segments.mk texts (texts.map bracketed)).urlPath? false =
      if texts = [] then none else some (Text.joinWith '/' texts) := by
  have path : (Segments.mk texts (texts.map bracketed)).urlPath? false =
      urlOf? ((Segments.mk texts (texts.map bracketed)).urlComponents false) :=
    rfl
  rw [path, urlComponents_bracketed]
  split
  · next none =>
      rw [none]
      rfl
  · next more =>
      exact urlOf?_eq_joinWith more fun member => (escapable [] member).1 rfl

end Segments

end EscapedId

/-- Texts that are said literally are read back, as plain segments of a URL. -/
theorem escaped_texts_read_back {texts : List Text}
    (escapable : ∀ text ∈ texts, Escapable text) :
    ∃ segments, Segments.parse (escapedId texts) = .ok segments ∧
      segments.translated = texts ∧
      segments.written = texts.map bracketed ∧
      segments.isIndex = false ∧ segments.isPathlessLayout = false ∧
      segments.urlPath? false =
        if texts = [] then none else some (Text.joinWith '/' texts) :=
  ⟨_, Segments.parse_escapedId escapable, rfl, rfl,
    Segments.isIndex_bracketed rfl, Segments.isPathlessLayout_bracketed rfl,
    Segments.urlPath?_bracketed escapable⟩

/-- An index, a splat and a layout that are said literally are none of these. -/
theorem literal_marks_read_back :
    (∀ text ∈ ["_index".toList, "($.[_".toList, "_a\\?_".toList, "$".toList],
      Escapable text) ∧
    ∃ segments, Segments.parse "[_index].[($.[_].[_a\\?_].[$]".toList =
        .ok segments ∧
      segments.translated = ["_index".toList, "($.[_".toList,
        "_a\\?_".toList, "$".toList] ∧
      segments.written = ["[_index]".toList, "[($.[_]".toList,
        "[_a\\?_]".toList, "[$]".toList] ∧
      segments.isIndex = false ∧ segments.isPathlessLayout = false ∧
      segments.urlPath? false = some "_index/($.[_/_a\\?_/$".toList :=
  have escapable : ∀ text ∈ ["_index".toList, "($.[_".toList,
      "_a\\?_".toList, "$".toList], Escapable text := by
    decide
  ⟨escapable, escaped_texts_read_back escapable⟩

end FileRouting
