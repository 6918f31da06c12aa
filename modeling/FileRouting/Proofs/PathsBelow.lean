import FileRouting.Path
import Mathlib.Data.List.Basic

/-!
# Paths below a directory

A path below a directory is put together with a slash, and taken apart again in
three ways: at its last slash, into components, and by taking the directory off
its start.  Each undoes the putting together if what was put below is a name.

A directory may be spelled with slashes at its end.  Its normal form has none of
them.  A path that is joined to it keeps them all, and taking the normal form off
takes one of them along: the surplus stays in front of what was joined.
-/

namespace FileRouting

namespace Text

theorem cutLast_eq_none {mark : Char} {text : Text} (absent : mark ∉ text) :
    cutLast mark text = none := by
  induction text with
  | nil => rfl
  | cons c rest induction =>
      obtain ⟨different, later⟩ : mark ≠ c ∧ mark ∉ rest := by
        simpa using absent
      rw [cutLast, induction later]
      exact if_neg (Ne.symm different)

theorem cutLast_append {mark : Char} {after : Text} (absent : mark ∉ after)
    (before : Text) :
    cutLast mark (before ++ mark :: after) = some (before, after) := by
  induction before with
  | nil =>
      rw [List.nil_append, cutLast, cutLast_eq_none absent]
      exact if_pos rfl
  | cons c before induction => rw [List.cons_append, cutLast, induction]

theorem trimEnd_spec (mark : Char) (text : Text) :
    ∃ count, text = trimEnd mark text ++ List.replicate count mark := by
  induction text with
  | nil => exact ⟨0, rfl⟩
  | cons c rest induction =>
      obtain ⟨count, whole⟩ := induction
      rw [trimEnd]
      split
      · next empty =>
          rw [empty, List.nil_append] at whole
          by_cases same : c = mark
          · refine ⟨count + 1, ?_⟩
            rw [if_pos same, whole, same, List.nil_append]
            rfl
          · refine ⟨count, ?_⟩
            rw [if_neg same, List.singleton_append, ← whole]
      · next kept nonempty =>
          refine ⟨count, ?_⟩
          rw [List.cons_append, ← whole]

theorem getLast?_trimEnd (mark : Char) (text : Text) :
    (trimEnd mark text).getLast? ≠ some mark := by
  induction text with
  | nil => simp [trimEnd]
  | cons c rest induction =>
      rw [trimEnd]
      split
      · split <;> simp_all
      · next kept nonempty =>
          obtain ⟨first, later, whole⟩ := List.exists_cons_of_ne_nil nonempty
          rw [whole, List.getLast?_cons_cons, ← whole]
          exact induction

end Text

namespace Path

structure SlashFree (text : Text) : Prop where
  noSlash : '/' ∉ text
  noBackslash : '\\' ∉ text

/-- Whether a text can stand for a member of a directory. -/
structure IsName (name : Text) : Prop extends SlashFree name where
  nonempty : name ≠ []

instance : DecidablePred IsName := fun name =>
  decidable_of_iff ('/' ∉ name ∧ '\\' ∉ name ∧ name ≠ [])
    ⟨fun parts => ⟨⟨parts.1, parts.2.1⟩, parts.2.2⟩,
      fun isName => ⟨isName.noSlash, isName.noBackslash, isName.nonempty⟩⟩

theorem slashed_eq_self {path : Text} (noBackslash : '\\' ∉ path) :
    slashed path = path := by
  have kept : ∀ c ∈ path, (if c = '\\' then '/' else c) = id c := by
    intro c member
    apply if_neg
    rintro rfl
    exact noBackslash member
  rw [slashed, List.map_congr_left kept, List.map_id]

theorem notMem_of_mem_splitOn {mark : Char} {text part : Text}
    (member : part ∈ text.splitOn mark) : mark ∉ part := by
  induction text generalizing part with
  | nil =>
      rw [List.splitOn_nil, List.mem_singleton] at member
      simp [member]
  | cons c rest induction =>
      obtain ⟨first, later, whole⟩ :=
        List.exists_cons_of_ne_nil (List.splitOn_ne_nil mark rest)
      rw [whole] at induction
      rw [List.splitOn_cons_eq_if_modifyHead, whole] at member
      split at member
      · rcases List.mem_cons.mp member with rfl | old
        · exact List.not_mem_nil
        · exact induction old
      · next different =>
          rcases List.mem_cons.mp member with rfl | old
          · have absent := induction List.mem_cons_self
            intro inside
            rcases List.mem_cons.mp inside with same | later
            · exact different (beq_iff_eq.mpr same.symm)
            · exact absent later
          · exact induction (List.mem_cons_of_mem _ old)

theorem mem_components {path part : Text} (member : part ∈ components path) :
    part = ['/'] ∨ part ∈ path.splitOn '/' := by
  obtain ⟨first, later, whole⟩ :=
    List.exists_cons_of_ne_nil (List.splitOn_ne_nil '/' path)
  rw [components, whole] at member
  rw [whole]
  have inner : ∀ {parts : List Text},
      part ∈ parts.filter (fun part => part ≠ [] ∧ part ≠ ['.']) →
        part ∈ first :: parts :=
    fun kept => List.mem_cons_of_mem _ (List.mem_of_mem_filter kept)
  cases first with
  | nil =>
      by_cases empty : path = []
      · simp [empty] at member
      · simp only [empty, if_false] at member
        exact (List.mem_cons.mp member).imp_right inner
  | cons c rest =>
      rcases List.mem_cons.mp member with same | kept
      · exact .inr (same ▸ List.mem_cons_self)
      · exact .inr (inner kept)

theorem notMem_fileName? {path file : Text}
    (found : fileName? path = some file) : '/' ∉ file := by
  rw [fileName?] at found
  split at found
  · cases found
  · next last isLast =>
      split at found
      · cases found
      · next noRoot =>
          cases found
          rcases mem_components (List.mem_of_getLast? isLast) with same | part
          · exact absurd (.inl same) noRoot
          · exact notMem_of_mem_splitOn part

/-- The file name of a path that ends in a name. -/
theorem fileName?_append {file : Text} (isName : IsName file)
    (noDot : file ≠ ['.']) (noDots : file ≠ ['.', '.']) (before : Text) :
    fileName? (before ++ '/' :: file) = some file := by
  have last : (components (before ++ '/' :: file)).getLast? = some file := by
    obtain ⟨first, later, whole⟩ :=
      List.exists_cons_of_ne_nil (List.splitOn_ne_nil '/' before)
    rw [components, List.splitOn_append_cons_self,
      List.splitOn_eq_singleton isName.noSlash, whole]
    have closing : ∀ start inner : List Text,
        (start ++ (inner ++ [file])).getLast? = some file := by
      intro start inner
      rw [← List.append_assoc, List.getLast?_concat]
    cases first with
    | nil => simpa [isName.nonempty, noDot] using closing [['/']] _
    | cons c rest => simpa [isName.nonempty, noDot] using closing [c :: rest] _
  rw [fileName?, last]
  have noRoot : file ≠ ['/'] := by
    rintro rfl
    exact isName.noSlash List.mem_cons_self
  simp [noRoot, noDot, noDots]

/-- The slashes that end a directory, the first of them not counted. -/
def surplus (directory : Text) : Nat :=
  directory.length - (Text.trimEnd '/' directory).length - 1

/-- What is left of a path that was joined to a directory, once the normal form
of the directory and a slash are taken off. -/
def behindSurplus (directory path : Text) : Text :=
  List.replicate (surplus directory) '/' ++ path

/-- The path of a file below a normal root, given its relative path. -/
def beneath (root path : Text) : Text :=
  if root = [] ∨ root = ['.'] then '.' :: '/' :: path
  else if root = ['/'] then '/' :: path
  else root ++ '/' :: path

theorem relativeTo?_beneath (root path : Text) :
    relativeTo? root (beneath root path) = some path := by
  rw [relativeTo?, beneath]
  split
  · rfl
  · split
    · rfl
    · have inside : root.isPrefixOf? (root ++ '/' :: path) =
          some ('/' :: path) :=
        List.isPrefixOf?_eq_some_iff_append_eq.mpr rfl
      simp [inside]

/-- Whether a text spells a directory with slashes of one kind. -/
structure Spells (directory : Text) : Prop where
  nonempty : directory ≠ []
  noBackslash : '\\' ∉ directory

variable {directory : Text}

theorem beneath_root_eq (nonempty : directory ≠ []) (path : Text) :
    beneath (root directory) path =
      Text.trimEnd '/' (slashed directory) ++ '/' :: path := by
  have noSlash : Text.trimEnd '/' (slashed directory) ≠ ['/'] := by
    intro same
    apply Text.getLast?_trimEnd '/' (slashed directory)
    rw [same]
    rfl
  rw [root]
  by_cases bare : Text.trimEnd '/' (slashed directory) = []
  · simp [bare, nonempty, beneath]
  · by_cases dot : Text.trimEnd '/' (slashed directory) = ['.']
    · simp [dot, beneath]
    · simp [bare, dot, noSlash, beneath]

theorem beneath_root (spells : Spells directory) (path : Text) :
    beneath (root directory) path =
      Text.trimEnd '/' directory ++ '/' :: path := by
  rw [beneath_root_eq spells.nonempty, slashed_eq_self spells.noBackslash]

theorem join_of_closed {member : Text} (relative : member.head? ≠ some '/')
    (closed : directory = [] ∨ directory.getLast? = some '/') :
    join directory member = directory ++ member := by
  rw [join, if_neg relative, if_pos closed]

theorem join_of_not_closed {member : Text}
    (relative : member.head? ≠ some '/')
    (notClosed : ¬ (directory = [] ∨ directory.getLast? = some '/')) :
    join directory member = directory ++ '/' :: member := by
  rw [join, if_neg relative, if_neg notClosed]

/-- A member that is joined to a directory stands below its normal form, behind
the surplus slashes. -/
theorem join_eq_beneath (spells : Spells directory) {member : Text}
    (relative : member.head? ≠ some '/') :
    join directory member =
      beneath (root directory) (behindSurplus directory member) := by
  obtain ⟨count, whole⟩ := Text.trimEnd_spec '/' directory
  have kept := Text.getLast?_trimEnd '/' directory
  have surplusIs : surplus directory = count - 1 := by
    have length := congrArg List.length whole
    rw [List.length_append, List.length_replicate] at length
    rw [surplus]
    omega
  rw [beneath_root spells, behindSurplus, surplusIs, join, if_neg relative]
  cases count with
  | zero =>
      rw [List.replicate_zero, List.append_nil] at whole
      rw [← whole] at kept
      simp [spells.nonempty, kept, ← whole]
  | succ count =>
      have ends : directory.getLast? = some '/' := by
        rw [whole, List.replicate_succ', ← List.append_assoc,
          List.getLast?_concat]
      rw [if_pos (.inr ends)]
      nth_rewrite 1 [whole]
      rw [List.append_assoc, List.replicate_succ]
      simp

theorem IsName.head?_ne {name : Text} (isName : IsName name) :
    name.head? ≠ some '/' :=
  fun starts => isName.noSlash (List.mem_of_head? starts)

theorem IsName.head?_append_ne {name : Text} (isName : IsName name)
    (rest : Text) : (name ++ rest).head? ≠ some '/' := by
  rw [List.head?_append_of_ne_nil _ isName.nonempty]
  exact isName.head?_ne

/-- Joining a name and then a member is joining the path of the two. -/
theorem join_join {name : Text} (isName : IsName name) {member : Text}
    (relative : member.head? ≠ some '/') (directory : Text) :
    join (join directory name) member =
      join directory (name ++ '/' :: member) := by
  have headed := isName.head?_append_ne ('/' :: member)
  have joined : ∀ before, join (before ++ name) member =
      before ++ (name ++ '/' :: member) := by
    intro before
    have noEnd : (before ++ name).getLast? ≠ some '/' := by
      rw [List.getLast?_append_of_ne_nil _ isName.nonempty]
      exact fun ends => isName.noSlash (List.mem_of_getLast? ends)
    have nonempty : before ++ name ≠ [] :=
      List.append_ne_nil_of_right_ne_nil before isName.nonempty
    rw [join, if_neg relative, if_neg (not_or.mpr ⟨nonempty, noEnd⟩),
      List.append_assoc]
  by_cases closed : directory = [] ∨ directory.getLast? = some '/'
  · rw [join_of_closed isName.head?_ne closed, joined,
      join_of_closed headed closed]
  · rw [join_of_not_closed isName.head?_ne closed, ← List.singleton_append,
      ← List.append_assoc, joined, join_of_not_closed headed closed,
      List.append_assoc]
    rfl

end Path

end FileRouting
