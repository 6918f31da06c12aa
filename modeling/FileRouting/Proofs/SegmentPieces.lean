import FileRouting.Segments
import Mathlib.Data.List.Infix

/-!
# The pieces of an id

What it means to cut a text at its separators, said without a scan: every piece
but the last is followed by a separator and leaves no bracket open, and no piece
holds a separator outside brackets.  There is one such cut of every text, and
`cutSegments` finds it.

No character is lost in a cut except the separators at which it is made, and
these do not change how the rest is read.
-/

namespace FileRouting

/-- Whether every bracket that a text opens is closed in it. -/
def BracketsClosed (text : Text) : Prop :=
  text.foldl bracketAfter false = false

instance (text : Text) : Decidable (BracketsClosed text) :=
  inferInstanceAs (Decidable (text.foldl bracketAfter false = false))

section Cuts

variable {inside : Bool} {text upper rest : Text} {mark : Char}

theorem cutSegments_ne_nil (inside : Bool) (text : Text) :
    cutSegments inside text ≠ [] := by
  cases text with
  | nil => simp [cutSegments]
  | cons c rest =>
      simp only [cutSegments]
      split
      · simp
      · split <;> simp

theorem bracketAfter_separator (separates : isSeparator mark = true) :
    bracketAfter false mark = false := by
  have different : mark ≠ '[' := by
    intro equal
    rw [equal] at separates
    revert separates
    decide
  simp [bracketAfter, different]

theorem cutSegments_append (separates : isSeparator mark = true)
    (closed : upper.foldl bracketAfter inside = false) :
    cutSegments inside (upper ++ mark :: rest) =
      cutSegments inside upper ++ cutSegments false rest := by
  induction upper generalizing inside with
  | nil =>
      have outside : inside = false := closed
      simp [cutSegments, outside, separates]
  | cons c upper induction =>
      rw [List.foldl_cons] at closed
      rw [List.cons_append, cutSegments, cutSegments]
      by_cases cuts : (!inside && isSeparator c) = true
      · obtain ⟨outside, separator⟩ := Bool.and_eq_true_iff.mp cuts
        rw [Bool.not_eq_true'] at outside
        rw [outside, bracketAfter_separator separator] at closed
        rw [if_pos cuts, if_pos cuts, induction closed, List.cons_append]
      · rw [if_neg cuts, if_neg cuts, induction closed]
        cases pieces : cutSegments (bracketAfter inside c) upper with
        | nil => exact absurd pieces (cutSegments_ne_nil _ _)
        | cons piece later => rfl

end Cuts

/-- Whether a text holds no separator outside brackets.  The flag says whether
a bracket is open before it. -/
def Unbroken (inside : Bool) (text : Text) : Prop :=
  ∀ before mark after, text = before ++ mark :: after →
    isSeparator mark = true → before.foldl bracketAfter inside = true

/-- A text with its pieces between the separators outside brackets. -/
inductive CutInto : Text → List Text → Prop where
  | whole {piece : Text} : Unbroken false piece → CutInto piece [piece]
  | cut {piece rest : Text} {mark : Char} {pieces : List Text} :
      Unbroken false piece → BracketsClosed piece → isSeparator mark = true →
      CutInto rest pieces →
      CutInto (piece ++ mark :: rest) (piece :: pieces)

namespace Unbroken

variable {inside : Bool} {c : Char} {text : Text}

theorem nil : Unbroken inside [] := by
  intro before mark after whole
  cases before <;> cases whole

theorem cons (kept : isSeparator c = true → inside = true)
    (unbroken : Unbroken (bracketAfter inside c) text) :
    Unbroken inside (c :: text) := by
  intro before mark after whole separates
  cases before with
  | nil =>
      obtain ⟨rfl, _⟩ := List.cons.inj whole
      exact kept separates
  | cons first before =>
      obtain ⟨rfl, rest⟩ := List.cons.inj whole
      exact unbroken before mark after rest separates

theorem of_append {rest : Text} (unbroken : Unbroken inside (text ++ rest)) :
    Unbroken inside text := by
  intro before mark after whole separates
  exact unbroken before mark (after ++ rest) (by rw [whole]; simp) separates

theorem tail (unbroken : Unbroken inside (c :: text)) :
    Unbroken (bracketAfter inside c) text := by
  intro before mark after whole separates
  exact unbroken (c :: before) mark after (by rw [whole]; rfl) separates

/-- A text with no separator outside brackets is one piece. -/
theorem cutSegments_eq (unbroken : Unbroken inside text) :
    cutSegments inside text = [text] := by
  induction text generalizing inside with
  | nil => rfl
  | cons c text induction =>
      have kept : ¬ (!inside && isSeparator c) = true := by
        intro cuts
        obtain ⟨outside, separates⟩ := Bool.and_eq_true_iff.mp cuts
        have isInside : inside = true :=
          unbroken [] c text rfl separates
        rw [isInside] at outside
        cases outside
      rw [cutSegments, if_neg kept, induction unbroken.tail]

end Unbroken

section Cuts

variable {text : Text} {pieces : List Text}

/-- A text that is not one piece has a first piece. -/
theorem unbroken_or_first_piece (inside : Bool) (text : Text) :
    Unbroken inside text ∨
      ∃ piece mark rest, text = piece ++ mark :: rest ∧
        Unbroken inside piece ∧ piece.foldl bracketAfter inside = false ∧
        isSeparator mark = true := by
  induction text generalizing inside with
  | nil => exact .inl .nil
  | cons c text induction =>
      by_cases cuts : isSeparator c = true ∧ inside = false
      · exact .inr ⟨[], c, text, rfl, .nil, cuts.2, cuts.1⟩
      · have kept : isSeparator c = true → inside = true := by
          intro separates
          by_contra outside
          exact cuts ⟨separates, Bool.not_eq_true _ ▸ outside⟩
        rcases induction (bracketAfter inside c) with unbroken | first
        · exact .inl (unbroken.cons kept)
        · obtain ⟨piece, mark, rest, rfl, unbroken, closed, separates⟩ := first
          exact .inr
            ⟨c :: piece, mark, rest, rfl, unbroken.cons kept, closed, separates⟩

theorem exists_cutInto (text : Text) : ∃ pieces, CutInto text pieces := by
  induction size : text.length using Nat.strong_induction_on
    generalizing text with
  | _ size induction =>
      subst size
      rcases unbroken_or_first_piece false text with unbroken | first
      · exact ⟨[text], .whole unbroken⟩
      · obtain ⟨piece, mark, rest, rfl, unbroken, closed, separates⟩ := first
        have shorter : rest.length < (piece ++ mark :: rest).length := by
          rw [List.length_append, List.length_cons]
          omega
        obtain ⟨pieces, cut⟩ := induction _ shorter rest rfl
        exact ⟨piece :: pieces, .cut unbroken closed separates cut⟩

namespace CutInto

theorem eq (cut : CutInto text pieces) : cutSegments false text = pieces := by
  induction cut with
  | whole unbroken => exact unbroken.cutSegments_eq
  | cut unbroken closed separates _ induction =>
      rw [cutSegments_append separates closed, unbroken.cutSegments_eq,
        induction]
      rfl

theorem pieces_ne_nil (cut : CutInto text pieces) : pieces ≠ [] := by
  cases cut <;> exact List.cons_ne_nil _ _

theorem unbroken (cut : CutInto text pieces) :
    ∀ piece ∈ pieces, Unbroken false piece := by
  induction cut with
  | whole unbroken => simpa using unbroken
  | cut unbroken _ _ _ induction =>
      exact List.forall_mem_cons.mpr ⟨unbroken, induction⟩

/-- The last piece of a text ends it, and another piece may stand there. -/
theorem replace_last {front : List Text} {piece : Text}
    (cut : CutInto text (front ++ [piece])) :
    ∃ before, text = before ++ piece ∧
      ∀ other, Unbroken false other →
        CutInto (before ++ other) (front ++ [other]) := by
  generalize whole : front ++ [piece] = pieces at cut
  induction cut generalizing front with
  | @whole only unbroken =>
      have parts : front ++ [piece] = [] ++ [only] := whole
      obtain ⟨rfl, same⟩ := List.append_inj' parts rfl
      obtain rfl := List.singleton_inj.mp same
      exact ⟨[], rfl, fun other otherUnbroken => .whole otherUnbroken⟩
  | @cut first rest mark pieces unbroken closed separates later induction =>
      cases front with
      | nil => exact absurd (List.cons.inj whole).2.symm later.pieces_ne_nil
      | cons head front =>
          obtain ⟨rfl, isRest⟩ := List.cons.inj whole
          obtain ⟨before, rfl, replace⟩ := induction isRest
          refine ⟨head ++ mark :: before, by simp, ?_⟩
          intro other otherUnbroken
          have replaced :=
            CutInto.cut unbroken closed separates (replace other otherUnbroken)
          simpa using replaced

theorem getLast?_eq {front : List Text} {piece : Text} {c : Char}
    (cut : CutInto text (front ++ [piece])) (ends : piece.getLast? = some c) :
    text.getLast? = some c := by
  obtain ⟨before, whole, _⟩ := cut.replace_last
  rw [whole, List.getLast?_append, ends]
  rfl

end CutInto

/-- The pieces of a text are determined by what it means to cut it. -/
theorem cutSegments_eq_iff :
    cutSegments false text = pieces ↔ CutInto text pieces := by
  constructor
  · rintro rfl
    obtain ⟨pieces, cut⟩ := exists_cutInto text
    rw [cut.eq]
    exact cut
  · exact CutInto.eq

theorem cutInto_cutSegments (text : Text) :
    CutInto text (cutSegments false text) :=
  cutSegments_eq_iff.mp rfl

end Cuts

/-- A piece with its separator leaves the brackets as if nothing stood there. -/
theorem bracketsClosed_after_piece {piece rest : Text} {mark : Char}
    (closed : BracketsClosed piece) (separates : isSeparator mark = true) :
    BracketsClosed (piece ++ mark :: rest) ↔ BracketsClosed rest := by
  rw [BracketsClosed, BracketsClosed, List.foldl_append, List.foldl_cons,
    closed, bracketAfter_separator separates]

/-- Whether a text holds a character at which it is not cut. -/
def HoldsUncut (text : Text) (c : Char) : Prop :=
  ∃ before after, text = before ++ c :: after ∧
    (isSeparator c = true → ¬ BracketsClosed before)

section HoldsUncut

variable {text piece rest : Text} {c mark : Char} {pieces : List Text}

theorem holdsUncut_iff_mem (other : isSeparator c = false) :
    HoldsUncut text c ↔ c ∈ text := by
  simp [HoldsUncut, other, List.mem_iff_append]

theorem Unbroken.holdsUncut_iff (unbroken : Unbroken false text) :
    HoldsUncut text c ↔ c ∈ text := by
  constructor
  · rintro ⟨before, after, rfl, _⟩
    simp
  · intro member
    obtain ⟨before, after, whole⟩ := List.mem_iff_append.mp member
    refine ⟨before, after, whole, ?_⟩
    intro separates closed
    rw [BracketsClosed, unbroken before c after whole separates] at closed
    cases closed

theorem holdsUncut_after_piece (unbroken : Unbroken false piece)
    (closed : BracketsClosed piece) (separates : isSeparator mark = true) :
    HoldsUncut (piece ++ mark :: rest) c ↔ c ∈ piece ∨ HoldsUncut rest c := by
  constructor
  · rintro ⟨before, after, whole, uncut⟩
    rcases List.append_eq_append_iff.mp whole with inRest | inPiece
    · obtain ⟨extra, rfl, following⟩ := inRest
      cases extra with
      | nil =>
          obtain ⟨rfl, _⟩ := List.cons.inj following
          rw [List.append_nil] at uncut
          exact absurd closed (uncut separates)
      | cons first extra =>
          obtain ⟨rfl, rfl⟩ := List.cons.inj following
          refine .inr ⟨extra, after, rfl, ?_⟩
          rw [← bracketsClosed_after_piece closed separates]
          exact uncut
    · obtain ⟨extra, rfl, following⟩ := inPiece
      cases extra with
      | nil =>
          obtain ⟨rfl, _⟩ := List.cons.inj following
          rw [List.append_nil] at closed
          exact absurd closed (uncut separates)
      | cons first extra =>
          obtain ⟨rfl, _⟩ := List.cons.inj following
          exact .inl (by simp)
  · rintro (member | held)
    · obtain ⟨before, after, rfl, uncut⟩ := unbroken.holdsUncut_iff.mpr member
      exact ⟨before, after ++ mark :: rest, by simp, uncut⟩
    · obtain ⟨before, after, rfl, uncut⟩ := held
      refine ⟨piece ++ mark :: before, after, by simp, ?_⟩
      rw [bracketsClosed_after_piece closed separates]
      exact uncut

/-- The characters at which a text is not cut are those of its pieces. -/
theorem CutInto.holdsUncut_iff (cut : CutInto text pieces) :
    HoldsUncut text c ↔ ∃ piece ∈ pieces, c ∈ piece := by
  induction cut with
  | whole unbroken => simp [unbroken.holdsUncut_iff]
  | cut unbroken closed separates _ induction =>
      rw [holdsUncut_after_piece unbroken closed separates, induction]
      simp

end HoldsUncut

namespace Reading

theorem bracket_after (reading : Reading) (text : Text) :
    (reading.after text).bracket = text.foldl bracketAfter reading.bracket := by
  induction text generalizing reading with
  | nil => rfl
  | cons c text induction => exact induction (reading.next c)

/-- A separator outside brackets changes nothing in how the rest is read. -/
theorem next_separator {reading : Reading} {mark : Char}
    (outside : reading.bracket = false) (separates : isSeparator mark = true) :
    reading.next mark = reading := by
  obtain ⟨bracket, optionalGroup⟩ := reading
  have isOutside : bracket = false := outside
  subst isOutside
  have opens : mark ≠ '(' := by
    rintro rfl
    revert separates
    decide
  have closes : mark ≠ ')' := by
    rintro rfl
    revert separates
    decide
  rw [next, bracketAfter_separator separates]
  cases optionalGroup <;> simp [opens, closes]

end Reading

/-- A text is read like its pieces one after the other. -/
theorem CutInto.foldl_after {text : Text} {pieces : List Text}
    (cut : CutInto text pieces) {reading : Reading}
    (outside : reading.bracket = false) :
    pieces.foldl Reading.after reading = reading.after text := by
  induction cut generalizing reading with
  | whole => rfl
  | @cut piece rest mark pieces _ closed separates _ induction =>
      have outsideAfter : (reading.after piece).bracket = false := by
        rw [Reading.bracket_after, outside]
        exact closed
      rw [List.foldl_cons, induction outsideAfter, Reading.after,
        Reading.after, Reading.after, List.foldl_append, List.foldl_cons]
      exact congrArg (List.foldl Reading.next · rest)
        (Reading.next_separator outsideAfter separates).symm

end FileRouting
