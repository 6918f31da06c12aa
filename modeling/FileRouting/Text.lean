/-!
# Text

A text is the list of its characters, so that every rule about ids, paths and
patterns is a recursion over characters.  Texts are ordered code point by code
point, a text before its extensions; this is the order of keys in a manifest.

The module adds the few cuts that the library needs and that lists do not have:
at the first or last occurrence of a character, and before a trailing run of
one.  A cut at a character loses nothing: the parts and the character make up
the text.
-/

namespace FileRouting

/-- A text is the list of its characters. -/
abbrev Text := List Char

namespace Text

/-- The parts before and after the first occurrence of a character. -/
def cutFirst (mark : Char) : Text → Option (Text × Text)
  | [] => none
  | c :: rest =>
      if c = mark then some ([], rest)
      else
        match cutFirst mark rest with
        | some (before, after) => some (c :: before, after)
        | none => none

/-- The parts before and after the last occurrence of a character. -/
def cutLast (mark : Char) : Text → Option (Text × Text)
  | [] => none
  | c :: rest =>
      match cutLast mark rest with
      | some (before, after) => some (c :: before, after)
      | none => if c = mark then some ([], rest) else none

/-- A text without the run of one character that ends it. -/
def trimEnd (mark : Char) : Text → Text
  | [] => []
  | c :: rest =>
      match trimEnd mark rest with
      | [] => if c = mark then [] else [c]
      | kept => c :: kept

/-- A text without one occurrence of a character at its start, if it has one. -/
def dropOneStart (mark : Char) : Text → Text
  | [] => []
  | c :: rest => if c = mark then rest else c :: rest

/-- A text without one occurrence of a character at its end, if it has one. -/
def dropOneEnd (mark : Char) (text : Text) : Text :=
  if text.getLast? = some mark then text.dropLast else text

/-- The value of a hexadecimal digit in either case. -/
def hexValue? (c : Char) : Option Nat :=
  if '0' ≤ c && c ≤ '9' then some (c.toNat - '0'.toNat)
  else if 'a' ≤ c && c ≤ 'f' then some (c.toNat - 'a'.toNat + 10)
  else if 'A' ≤ c && c ≤ 'F' then some (c.toNat - 'A'.toNat + 10)
  else none

/-- Number of bytes that a text takes in UTF-8. -/
def byteSize : Text → Nat
  | [] => 0
  | c :: rest => c.utf8Size + byteSize rest

/-- Texts joined by a character between each two neighbours. -/
def joinWith (mark : Char) (texts : List Text) : Text :=
  [mark].intercalate texts

theorem cutFirst_eq_some {mark : Char} {text before after : Text}
    (cut : cutFirst mark text = some (before, after)) :
    text = before ++ mark :: after := by
  induction text generalizing before after with
  | nil => simp [cutFirst] at cut
  | cons c rest induction =>
      by_cases same : c = mark
      · simp only [cutFirst, same, if_true, Option.some.injEq,
          Prod.mk.injEq] at cut
        obtain ⟨rfl, rfl⟩ := cut
        simp [same]
      · cases later : cutFirst mark rest with
        | none => simp [cutFirst, later, same] at cut
        | some parts =>
            obtain ⟨first, second⟩ := parts
            simp only [cutFirst, later, same, if_false, Option.some.injEq,
              Prod.mk.injEq] at cut
            obtain ⟨rfl, rfl⟩ := cut
            simp [induction later]

theorem cutLast_eq_some {mark : Char} {text before after : Text}
    (cut : cutLast mark text = some (before, after)) :
    text = before ++ mark :: after := by
  induction text generalizing before after with
  | nil => simp [cutLast] at cut
  | cons c rest induction =>
      cases later : cutLast mark rest with
      | some parts =>
          obtain ⟨first, second⟩ := parts
          simp only [cutLast, later, Option.some.injEq, Prod.mk.injEq] at cut
          obtain ⟨rfl, rfl⟩ := cut
          simp [induction later]
      | none =>
          by_cases same : c = mark
          · simp only [cutLast, later, same, if_true, Option.some.injEq,
              Prod.mk.injEq] at cut
            obtain ⟨rfl, rfl⟩ := cut
            simp [same]
          · simp [cutLast, later, same] at cut

theorem byteSize_append (first second : Text) :
    byteSize (first ++ second) = byteSize first + byteSize second := by
  induction first with
  | nil => simp [byteSize]
  | cons c rest induction =>
      rw [List.cons_append, byteSize, byteSize, induction, Nat.add_assoc]

theorem byteSize_pos {text : Text} (nonempty : text ≠ []) :
    0 < byteSize text := by
  obtain ⟨c, rest, rfl⟩ := List.exists_cons_of_ne_nil nonempty
  have positive := c.utf8Size_pos
  rw [byteSize]
  omega

/-- Of two different texts one is less than the other. -/
theorem lt_of_not_lt {left right : Text} (notLess : ¬ left < right)
    (different : left ≠ right) : right < left := by
  induction left generalizing right with
  | nil =>
      cases right with
      | nil => exact absurd rfl different
      | cons c rest => exact absurd (List.nil_lt_cons c rest) notLess
  | cons first left induction =>
      cases right with
      | nil => exact List.nil_lt_cons first left
      | cons second right =>
          rw [List.cons_lt_cons_iff] at notLess ⊢
          by_cases same : second = first
          · subst same
            exact .inr ⟨rfl, induction
              (fun less => notLess (.inr ⟨rfl, less⟩))
              (fun equal => different (by rw [equal]))⟩
          · have distinct : second.val ≠ first.val :=
              fun equal => same (Char.ext equal)
            have bound := UInt32.not_lt.mp
              (fun less => notLess (.inl (Char.lt_def.mpr less)))
            exact .inl (Char.lt_def.mpr
              (UInt32.lt_of_le_of_ne bound distinct))

end Text

end FileRouting
