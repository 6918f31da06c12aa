import FileRouting.Ignore

/-!
# The pattern of dot files

The pattern that is part of every ignore set is a `**`, a dot and a star.  It
matches the paths of which some component begins with a dot, wherever this
component stands and however many slashes stand around it.

A search that runs out of text ends at once.  Behind the `**` of this pattern
this happens only where the text ends too, so that no component is missed.
-/

namespace FileRouting

/-- Whether a component of a path begins with a dot. -/
def HasDotComponent (path : Text) : Prop :=
  ∃ component ∈ path.splitOn '/', component.head? = some '.'

/-- Whether a component of a path other than the first begins with a dot. -/
def HasInnerDotComponent (path : Text) : Prop :=
  ∃ component ∈ (path.splitOn '/').tail, component.head? = some '.'

instance : DecidablePred HasDotComponent := fun path =>
  inferInstanceAs (Decidable (∃ component ∈ path.splitOn '/', _))

instance : DecidablePred HasInnerDotComponent := fun path =>
  inferInstanceAs (Decidable (∃ component ∈ (path.splitOn '/').tail, _))

theorem hasInnerDotComponent_slash (rest : Text) :
    HasInnerDotComponent ('/' :: rest) ↔ HasDotComponent rest := by
  rw [HasInnerDotComponent, List.splitOn_cons_eq_if_modifyHead]
  rfl

theorem hasInnerDotComponent_cons {c : Char} (noSlash : c ≠ '/') (rest : Text) :
    HasInnerDotComponent (c :: rest) ↔ HasInnerDotComponent rest := by
  rw [HasInnerDotComponent, HasInnerDotComponent,
    List.splitOn_cons_eq_if_modifyHead, if_neg (by simpa using noSlash),
    List.tail_modifyHead]

/-- The first component begins as the path does. -/
theorem hasDotComponent_iff (path : Text) :
    HasDotComponent path ↔
      path.head? = some '.' ∨ HasInnerDotComponent path := by
  obtain ⟨first, later, parts⟩ :=
    List.exists_cons_of_ne_nil (List.splitOn_ne_nil '/' path)
  have begins : first.head? = some '.' ↔ path.head? = some '.' := by
    cases path with
    | nil =>
        rw [List.splitOn_nil] at parts
        cases parts
        rfl
    | cons c rest =>
        obtain ⟨next, others, restParts⟩ :=
          List.exists_cons_of_ne_nil (List.splitOn_ne_nil '/' rest)
        rw [List.splitOn_cons_eq_if_modifyHead, restParts] at parts
        split at parts
        · next slash =>
            cases parts
            simp [beq_iff_eq.mp slash]
        · cases parts
          rfl
  rw [HasDotComponent, HasInnerDotComponent, parts, List.tail_cons, ← begins]
  simp

namespace GlobOutcome

/-- A last star takes all that is left. -/
theorem ofTokens_star (text : Text) : ofTokens [.star] text = .matched := by
  have atEnd : ∀ text,
      searchStops (fun _ => true) (ofTokens []) text = .matched := by
    intro text
    induction text with
    | nil => rfl
    | cons c rest induction =>
        cases rest with
        | nil => rfl
        | cons d more => exact induction
  cases text with
  | nil => rfl
  | cons c rest => exact atEnd (c :: rest)

theorem ofTokens_dotStar_cons (c : Char) (rest : Text) :
    ofTokens [.literal '.', .star] (c :: rest) =
      if c = '.' then .matched else .mismatch := by
  have token : ofTokens [.literal '.', .star] (c :: rest) =
      if (GlobToken.literal '.').accepts c then ofTokens [.star] rest
      else .mismatch := by
    simp only [ofTokens]
  rw [token, ofTokens_star]
  simp [GlobToken.accepts]

/-- Going from slash to slash finds the first component, behind the one at the
start, that begins with a dot. -/
theorem searchStops_dotStar (text : Text) :
    searchStops (· = '/') (ofTokens [.literal '.', .star]) text = .matched ↔
      HasInnerDotComponent text := by
  induction text with
  | nil => decide
  | cons c rest induction =>
      by_cases slash : c = '/'
      · subst slash
        rw [hasInnerDotComponent_slash, hasDotComponent_iff, ← induction]
        cases rest with
        | nil => decide
        | cons d more =>
            rw [searchStops, ofTokens_dotStar_cons]
            by_cases dot : d = '.' <;> simp [dot]
      · rw [hasInnerDotComponent_cons slash, ← induction, searchStops,
          if_neg (by simpa using slash)]

end GlobOutcome

namespace IgnoreSet

/-- The compiled pattern of dot files. -/
def dotGlob : Glob where
  source := dotFiles
  tokens := [.deepStar, .literal '.', .star]

theorem compile_dotFiles : Glob.compile dotFiles = .ok dotGlob := by
  cbv

theorem dotGlob_isMatch_iff (path : Text) :
    dotGlob.isMatch path = true ↔ HasDotComponent path := by
  rw [hasDotComponent_iff, ← GlobOutcome.searchStops_dotStar, Glob.isMatch,
    decide_eq_true_iff]
  cases path with
  | nil => decide
  | cons c rest =>
      rw [dotGlob, GlobOutcome.ofTokens, GlobOutcome.fromStar,
        GlobOutcome.ofTokens_dotStar_cons]
      by_cases dot : c = '.' <;> simp [dot]

end IgnoreSet

end FileRouting
