import FileRouting.Proofs.DotFiles
import Mathlib.Data.List.Basic

/-!
# What an ignore set ignores

An ignore set is compiled from a list of patterns without repetitions, of which
the first is that of dot files.  None of this is seen from outside: the set can
be compiled exactly if every listed pattern is a glob, the first that is none is
the error, and otherwise a path is ignored if it has a dot component or one of
the listed patterns matches it.
-/

namespace FileRouting

/-- Whether a pattern is no glob. -/
def Malformed (pattern : Text) : Prop :=
  ∃ cause, Glob.compile pattern = .error cause

/-- Whether a pattern is a glob that matches a path. -/
def Matches (pattern path : Text) : Prop :=
  ∃ glob, Glob.compile pattern = .ok glob ∧ glob.isMatch path = true

/-- Whether one of some patterns matches a path. -/
def MatchedBy (patterns : List Text) (path : Text) : Prop :=
  ∃ pattern ∈ patterns, Matches pattern path

instance : DecidablePred Malformed := fun pattern =>
  decidable_of_iff ((Glob.compile pattern).isOk = false) (by
    rw [Malformed]
    cases Glob.compile pattern <;> simp [Except.isOk, Except.toBool])

instance : DecidableRel Matches := fun pattern path =>
  decidable_of_iff
    ((Glob.compile pattern).toOption.any fun glob => glob.isMatch path) (by
      rw [Matches]
      cases Glob.compile pattern <;> simp [Except.toOption])

instance : DecidableRel MatchedBy := fun patterns path =>
  inferInstanceAs (Decidable (∃ pattern ∈ patterns, Matches pattern path))

theorem matchedBy_cons {pattern path : Text} {patterns : List Text} :
    MatchedBy (pattern :: patterns) path ↔
      Matches pattern path ∨ MatchedBy patterns path := by
  simp [MatchedBy]

theorem matchedBy_append {patterns more : List Text} {path : Text} :
    MatchedBy (patterns ++ more) path ↔
      MatchedBy patterns path ∨ MatchedBy more path := by
  simp [MatchedBy, or_and_right, exists_or]

theorem findSome?_filter {α β : Type} {find? : α → Option β} {keep : α → Bool}
    (skipped : ∀ item, keep item = false → find? item = none)
    (items : List α) :
    (items.filter keep).findSome? find? = items.findSome? find? := by
  rw [← List.head?_filterMap, ← List.head?_filterMap, List.filterMap_filter]
  congr 1
  apply List.filterMap_congr
  intro item _
  cases kept : keep item with
  | true => rfl
  | false => simp [skipped item kept]

/-- Repetitions make no difference to what a search finds first. -/
theorem findSome?_eraseDups {α β : Type} [BEq α] [LawfulBEq α]
    (find? : α → Option β) (items : List α) :
    items.eraseDups.findSome? find? = items.findSome? find? := by
  induction long : items.length using Nat.strongRecOn
    generalizing items with
  | ind long induction =>
      subst long
      cases items with
      | nil => rfl
      | cons item later =>
          rw [List.eraseDups_cons, List.findSome?_cons, List.findSome?_cons]
          cases found : find? item with
          | some result => rfl
          | none =>
              have shorter := Nat.lt_succ_of_le
                (List.length_filter_le (fun other => !other == item) later)
              have skipped : ∀ other, (!other == item) = false →
                  find? other = none := by
                intro other same
                have equal : other = item := by simpa using same
                rw [equal, found]
              rw [induction _ shorter _ rfl, findSome?_filter skipped]

namespace IgnoreSet

/-- The error of a pattern that is no glob. -/
def fault? (pattern : Text) : Option RouteError :=
  match Glob.compile pattern with
  | .error cause => some (.invalidIgnorePattern pattern cause)
  | .ok _ => none

theorem fault?_eq_some_iff {pattern : Text} {error : RouteError} :
    fault? pattern = some error ↔
      ∃ cause, Glob.compile pattern = .error cause ∧
        error = .invalidIgnorePattern pattern cause := by
  rw [fault?]
  cases Glob.compile pattern <;> simp [eq_comm]

theorem fault?_eq_none_iff {pattern : Text} :
    fault? pattern = none ↔ ¬ Malformed pattern := by
  rw [fault?, Malformed]
  cases Glob.compile pattern <;> simp

/-- The glob of a pattern. -/
def glob? (pattern : Text) : Option Glob :=
  (Glob.compile pattern).toOption

theorem glob?_eq_some_iff {pattern : Text} {glob : Glob} :
    glob? pattern = some glob ↔ Glob.compile pattern = .ok glob := by
  rw [glob?]
  cases Glob.compile pattern <;> simp [Except.toOption]

/-- Patterns are compiled up to the first error. -/
theorem mapM_compilePattern (patterns : List Text) :
    patterns.mapM compilePattern =
      match patterns.findSome? fault? with
      | some error => .error error
      | none => .ok (patterns.filterMap glob?) := by
  induction patterns with
  | nil => rfl
  | cons pattern later induction =>
      rw [List.mapM_cons, induction, List.findSome?_cons, fault?,
        compilePattern]
      cases compiled : Glob.compile pattern with
      | error cause => rfl
      | ok glob =>
          rw [List.filterMap_cons_some (glob?_eq_some_iff.mpr compiled)]
          cases later.findSome? fault? <;> rfl

/-- Neither the pattern of dot files nor a repetition adds an error. -/
theorem compile_eq (patterns : List Text) :
    compile patterns =
      match patterns.findSome? fault? with
      | some error => .error error
      | none =>
          .ok ⟨(dotFiles :: patterns).eraseDups.filterMap glob?⟩ := by
  have accepted : fault? dotFiles = none := by
    rw [fault?, compile_dotFiles]
  rw [compile, mapM_compilePattern, findSome?_eraseDups, List.findSome?_cons,
    accepted]
  cases patterns.findSome? fault? <;> rfl

theorem compile_eq_error_iff {patterns : List Text} {error : RouteError} :
    compile patterns = .error error ↔
      ∃ before pattern later cause,
        patterns = before ++ pattern :: later ∧
        (∀ earlier ∈ before, ¬ Malformed earlier) ∧
        Glob.compile pattern = .error cause ∧
        error = .invalidIgnorePattern pattern cause := by
  have found : compile patterns = .error error ↔
      patterns.findSome? fault? = some error := by
    rw [compile_eq]
    cases patterns.findSome? fault? <;> simp
  rw [found, List.findSome?_eq_some_iff]
  simp only [fault?_eq_some_iff, fault?_eq_none_iff]
  constructor
  · intro first
    obtain ⟨before, pattern, later, whole, ⟨cause, failed, same⟩, accepted⟩ :=
      first
    exact ⟨before, pattern, later, cause, whole, accepted, failed, same⟩
  · intro first
    obtain ⟨before, pattern, later, cause, whole, accepted, failed, same⟩ :=
      first
    exact ⟨before, pattern, later, whole, ⟨cause, failed, same⟩, accepted⟩

theorem exists_compile_iff {patterns : List Text} :
    (∃ set, compile patterns = .ok set) ↔
      ∀ pattern ∈ patterns, ¬ Malformed pattern := by
  have faultless : (∀ pattern ∈ patterns, ¬ Malformed pattern) ↔
      patterns.findSome? fault? = none := by
    rw [List.findSome?_eq_none_iff]
    simp only [fault?_eq_none_iff]
  rw [faultless, compile_eq]
  cases patterns.findSome? fault? <;> simp

theorem matches_dotFiles_iff {path : Text} :
    Matches dotFiles path ↔ HasDotComponent path := by
  rw [Matches, compile_dotFiles]
  simp [dotGlob_isMatch_iff]

/-- A compiled set ignores what one of its patterns matches, and dot files. -/
theorem ignores_iff {patterns : List Text} {set : IgnoreSet}
    (compiled : compile patterns = .ok set) (path : Text) :
    set.ignores path = true ↔
      HasDotComponent path ∨ MatchedBy patterns path := by
  rw [compile_eq] at compiled
  split at compiled
  · cases compiled
  · cases compiled
    rw [← matches_dotFiles_iff, ← matchedBy_cons, ignores, List.any_eq_true]
    constructor
    · intro found
      obtain ⟨glob, member, isMatch⟩ := found
      obtain ⟨pattern, listed, compiled⟩ := List.mem_filterMap.mp member
      refine ⟨pattern, List.mem_eraseDups.mp listed, glob, ?_, isMatch⟩
      exact glob?_eq_some_iff.mp compiled
    · intro found
      obtain ⟨pattern, listed, glob, compiled, isMatch⟩ := found
      refine ⟨glob, List.mem_filterMap.mpr ⟨pattern, ?_, ?_⟩, isMatch⟩
      · exact List.mem_eraseDups.mpr listed
      · exact glob?_eq_some_iff.mpr compiled

end IgnoreSet

/-- Patterns make an ignore set exactly if all of them are globs, and the first
that is none is the error.  The set ignores the paths with a dot component and
those that one of the patterns matches, so that it depends on nothing but which
patterns are listed. -/
theorem ignore_set_means_its_patterns (patterns : List Text) :
    ((∃ error, IgnoreSet.compile patterns = .error error) ↔
      ∃ pattern ∈ patterns, Malformed pattern) ∧
    (∀ error, IgnoreSet.compile patterns = .error error ↔
      ∃ before pattern later cause,
        patterns = before ++ pattern :: later ∧
        (∀ earlier ∈ before, ¬ Malformed earlier) ∧
        Glob.compile pattern = .error cause ∧
        error = .invalidIgnorePattern pattern cause) ∧
    ∀ set, IgnoreSet.compile patterns = .ok set →
      (∀ path, set.ignores path = true ↔
        HasDotComponent path ∨ MatchedBy patterns path) ∧
      ∀ others, (∀ pattern, pattern ∈ patterns ↔ pattern ∈ others) →
        ∃ other, IgnoreSet.compile others = .ok other ∧
          ∀ path, other.ignores path = set.ignores path := by
  refine ⟨?_, fun error => IgnoreSet.compile_eq_error_iff, ?_⟩
  · have fails : (∃ error, IgnoreSet.compile patterns = .error error) ↔
        ¬ ∃ set, IgnoreSet.compile patterns = .ok set := by
      cases IgnoreSet.compile patterns <;> simp
    rw [fails, IgnoreSet.exists_compile_iff]
    simp
  · intro set compiled
    refine ⟨IgnoreSet.ignores_iff compiled, fun others same => ?_⟩
    have accepted := IgnoreSet.exists_compile_iff.mp ⟨set, compiled⟩
    obtain ⟨other, otherCompiled⟩ := IgnoreSet.exists_compile_iff.mpr
      fun pattern listed => accepted pattern ((same pattern).mpr listed)
    refine ⟨other, otherCompiled, fun path => ?_⟩
    rw [Bool.eq_iff_iff, IgnoreSet.ignores_iff otherCompiled,
      IgnoreSet.ignores_iff compiled]
    simp only [MatchedBy, same]

/-- Patterns with a repetition, one of them that of dot files. -/
def stylePatterns : List Text :=
  ["*.css".toList, "**/.*".toList, "*.css".toList]

/-- A dot folder is ignored between doubled slashes too, a pattern more often
than once or in another place makes no difference, and the first of two faults is
reported. -/
theorem style_patterns_ignore_dot_folders :
    (∃ set, IgnoreSet.compile stylePatterns = .ok set ∧
      set.ignores "a//.b/".toList = true ∧
      set.ignores "a/b.css".toList = true ∧
      set.ignores "a/b.c".toList = false ∧
      ∃ other, IgnoreSet.compile ["**/.*".toList, "*.css".toList] = .ok other ∧
        ∀ path, other.ignores path = set.ignores path) ∧
    IgnoreSet.compile ["*.css".toList, "a**b".toList, "[".toList] =
      .error (.invalidIgnorePattern "a**b".toList ⟨0, .partialComponent⟩) := by
  constructor
  · obtain ⟨_, _, accepted⟩ := ignore_set_means_its_patterns stylePatterns
    have wellFormed : ∀ pattern ∈ stylePatterns, ¬ Malformed pattern := by
      decide +kernel
    obtain ⟨set, compiled⟩ := IgnoreSet.exists_compile_iff.mpr wellFormed
    obtain ⟨ignored, alike⟩ := accepted set compiled
    refine ⟨set, compiled, (ignored _).mpr (.inl (by decide)),
      (ignored _).mpr (.inr (by decide +kernel)), ?_,
      alike _ (by simp [stylePatterns])⟩
    rw [Bool.eq_false_iff, ne_eq, ignored]
    decide +kernel
  · obtain ⟨_, fails, _⟩ := ignore_set_means_its_patterns
      ["*.css".toList, "a**b".toList, "[".toList]
    apply (fails _).mpr
    exact ⟨["*.css".toList], "a**b".toList, ["[".toList],
      ⟨0, .partialComponent⟩, rfl, by decide +kernel, by decide +kernel, rfl⟩

end FileRouting
