import FileRouting.Build
import Mathlib.Data.List.Count

/-!
# Reattachment finds the nearest survivor

Reattachment overwrites the parents of the drafts one after the other, while
later drafts still climb through the parents that were overwritten.  This does
no harm: an overwritten parent skips removed drafts only, so that a climb
arrives where it would have arrived through the original parents.

Climbs end because parents have a lower rank than their children.  Any ranks
will do; they can be replaced by ranks below the number of drafts, which is the
bound that reattachment puts on a climb.
-/

namespace FileRouting

theorem countP_lt_countP {α : Type} {narrow wide : α → Bool} {items : List α}
    (implied : ∀ item ∈ items, narrow item = true → wide item = true)
    {extra : α} (member : extra ∈ items) (inside : wide extra = true)
    (outside : narrow extra = false) :
    items.countP narrow < items.countP wide := by
  induction items with
  | nil => cases member
  | cons first items induction =>
      have laterImplied : ∀ item ∈ items,
          narrow item = true → wide item = true :=
        fun item later => implied item (List.mem_cons_of_mem _ later)
      have firstImplied := implied first List.mem_cons_self
      simp only [List.countP_cons]
      rcases List.mem_cons.mp member with rfl | later
      · have laterCount := List.countP_mono_left laterImplied
        simp only [inside, outside, if_true, Bool.false_eq_true, if_false]
        omega
      · have laterCount := induction laterImplied later
        split <;> split <;> first | omega | simp_all

namespace Draft

/-- The parent of the draft at a position. -/
def parentAt (drafts : List Draft) (position : Nat) : Option Nat :=
  drafts[position]?.bind fun draft => draft.parent

/-- Where a climb from a start arrives that goes from every removed position to
its parent. -/
inductive Lands (parentOf : Nat → Option Nat) (removed : List Nat) :
    Option Nat → Option Nat → Prop where
  | outside : Lands parentOf removed none none
  | here {position : Nat} :
      position ∉ removed →
      Lands parentOf removed (some position) (some position)
  | up {position : Nat} {landing : Option Nat} :
      position ∈ removed →
      Lands parentOf removed (parentOf position) landing →
      Lands parentOf removed (some position) landing

/-- Parents are positions of drafts and have a lower rank than their children.
-/
structure Rooted (drafts : List Draft) (rank : Nat → Nat) : Prop where
  inRange : ∀ position parent, parentAt drafts position = some parent →
    parent < drafts.length
  descends : ∀ position parent, parentAt drafts position = some parent →
    rank parent < rank position

namespace Lands

variable {parentOf : Nat → Option Nat} {removed : List Nat}
  {start landing other : Option Nat}

theorem unique (left : Lands parentOf removed start landing)
    (right : Lands parentOf removed start other) : landing = other := by
  induction left with
  | outside =>
      cases right
      rfl
  | here kept =>
      cases right with
      | here => rfl
      | up gone => exact absurd gone kept
  | up gone _ induction =>
      cases right with
      | here kept => exact absurd gone kept
      | up _ climb => exact induction climb

theorem notMem_removed (lands : Lands parentOf removed start landing) :
    ∀ position, landing = some position → position ∉ removed := by
  induction lands with
  | outside =>
      intro position equal
      cases equal
  | here kept =>
      intro position equal
      cases equal
      exact kept
  | up _ _ induction => exact induction

theorem stays (lands : Lands parentOf removed start landing)
    (otherParentOf : Nat → Option Nat) :
    Lands otherParentOf removed landing landing := by
  cases landing with
  | none => exact .outside
  | some position => exact .here (lands.notMem_removed position rfl)

theorem rank_lt {rank : Nat → Nat} {bound : Nat}
    (descends : ∀ position parent, parentOf position = some parent →
      rank parent < rank position)
    (lands : Lands parentOf removed start landing)
    (low : ∀ position, start = some position → rank position < bound) :
    ∀ position, landing = some position → rank position < bound := by
  induction lands with
  | outside => exact low
  | here _ => exact low
  | @up position landing _ _ induction =>
      apply induction
      intro parent isParent
      exact Nat.lt_trans (descends position parent isParent)
        (low position rfl)

theorem inRange {count : Nat}
    (range : ∀ position parent, parentOf position = some parent →
      parent < count)
    (lands : Lands parentOf removed start landing)
    (within : ∀ position, start = some position → position < count) :
    ∀ position, landing = some position → position < count := by
  induction lands with
  | outside => exact within
  | here _ => exact within
  | @up position landing _ _ induction => exact induction (range position)

end Lands

theorem parentAt_lt_length {drafts : List Draft} {position parent : Nat}
    (isParent : parentAt drafts position = some parent) :
    position < drafts.length := by
  obtain ⟨draft, found, _⟩ := Option.bind_eq_some_iff.mp isParent
  exact (List.getElem?_eq_some_iff.mp found).1

/-- A climb that starts below the bound lands before it runs out of steps. -/
theorem survivor_lands {drafts : List Draft} {removed : List Nat}
    {rank : Nat → Nat} (rooted : Rooted drafts rank) (bound : Nat)
    (start : Option Nat)
    (low : ∀ position, start = some position → rank position < bound) :
    Lands (parentAt drafts) removed start
      (survivor drafts removed bound start) := by
  induction bound generalizing start with
  | zero =>
      cases start with
      | none => exact .outside
      | some position => exact absurd (low position rfl) (Nat.not_lt_zero _)
  | succ bound induction =>
      cases start with
      | none => exact .outside
      | some position =>
          by_cases gone : position ∈ removed
          · rw [survivor, if_pos gone]
            apply Lands.up gone
            apply induction (parentAt drafts position)
            intro parent isParent
            have lower := rooted.descends position parent isParent
            have below := low position rfl
            omega
          · rw [survivor, if_neg gone]
            exact .here gone

/-- Ranks count for nothing but their order: the number of positions of lower
rank is a rank too, and it is below the number of drafts. -/
theorem Rooted.bounded {drafts : List Draft} {rank : Nat → Nat}
    (rooted : Rooted drafts rank) :
    ∃ height, Rooted drafts height ∧
      ∀ position, position < drafts.length →
        height position < drafts.length := by
  let lower := fun position other => decide (rank other < rank position)
  let height := fun position =>
    (List.range drafts.length).countP (lower position)
  refine ⟨height, ⟨rooted.inRange, ?_⟩, ?_⟩
  · intro position parent isParent
    have descends := rooted.descends position parent isParent
    apply countP_lt_countP _
      (List.mem_range.mpr (rooted.inRange position parent isParent))
      (by simpa [lower] using descends) (by simp [lower])
    intro other _ less
    simp only [lower, decide_eq_true_eq] at less ⊢
    exact Nat.lt_trans less descends
  · intro position within
    have strict : height position <
        (List.range drafts.length).countP fun _ => true :=
      countP_lt_countP (by simp) (List.mem_range.mpr within) rfl
        (by simp [lower])
    simpa using strict

/-- What holds after the first drafts were moved: these have the landings of
their original parents, and the others still have their original parents. -/
structure Reattaching (drafts : List Draft) (removed : List Nat) (count : Nat)
    (current : List Draft) : Prop where
  routes : current.map route = drafts.map route
  moved : ∀ position < count,
    Lands (parentAt drafts) removed (parentAt drafts position)
      (parentAt current position)
  unmoved : ∀ position ≥ count,
    parentAt current position = parentAt drafts position

namespace Reattaching

variable {drafts current : List Draft} {removed : List Nat} {count : Nat}
  {rank : Nat → Nat}

theorem length_eq (reattaching : Reattaching drafts removed count current) :
    current.length = drafts.length := by
  simpa using congrArg List.length reattaching.routes

theorem lands (reattaching : Reattaching drafts removed count current)
    {start landing : Option Nat}
    (original : Lands (parentAt drafts) removed start landing) :
    Lands (parentAt current) removed start landing := by
  induction original with
  | outside => exact .outside
  | here kept => exact .here kept
  | @up position landing gone climb induction =>
      apply Lands.up gone
      by_cases early : position < count
      · have moved := reattaching.moved position early
        rw [moved.unique climb]
        exact climb.stays _
      · rw [reattaching.unmoved position (Nat.not_lt.mp early)]
        exact induction

theorem rooted (reattaching : Reattaching drafts removed count current)
    (original : Rooted drafts rank) : Rooted current rank := by
  constructor
  · intro position parent isParent
    rw [reattaching.length_eq]
    by_cases early : position < count
    · exact (reattaching.moved position early).inRange original.inRange
        (original.inRange position) parent isParent
    · rw [reattaching.unmoved position (Nat.not_lt.mp early)] at isParent
      exact original.inRange position parent isParent
  · intro position parent isParent
    by_cases early : position < count
    · exact (reattaching.moved position early).rank_lt original.descends
        (original.descends position) parent isParent
    · rw [reattaching.unmoved position (Nat.not_lt.mp early)] at isParent
      exact original.descends position parent isParent

theorem parentAt_reattachAt (position other : Nat) :
    parentAt (reattachAt removed current position) other =
      if position = other then
        survivor current removed current.length (parentAt current other)
      else parentAt current other := by
  unfold parentAt reattachAt
  rw [List.getElem?_modify]
  by_cases same : position = other
  · subst same
    cases found : current[position]? with
    | none => simp [survivor]
    | some draft => simp
  · simp [same]

theorem routes_reattachAt (position : Nat) :
    (reattachAt removed current position).map route = current.map route := by
  apply List.ext_getElem?
  intro other
  simp only [reattachAt, List.getElem?_map, List.getElem?_modify]
  cases current[other]? with
  | none => rfl
  | some draft => by_cases same : position = other <;> simp [same]

theorem initial : Reattaching drafts removed 0 drafts where
  routes := rfl
  moved := fun position before => absurd before (Nat.not_lt_zero position)
  unmoved := fun _ _ => rfl

theorem step (reattaching : Reattaching drafts removed count current)
    (original : Rooted drafts rank)
    (bounded : ∀ position, position < drafts.length →
      rank position < drafts.length) :
    Reattaching drafts removed (count + 1)
      (reattachAt removed current count) where
  routes := (routes_reattachAt count).trans reattaching.routes
  moved := by
    intro position before
    rw [parentAt_reattachAt]
    by_cases same : count = position
    · subst same
      rw [if_pos rfl, reattaching.unmoved count (Nat.le_refl count),
        reattaching.length_eq]
      have low : ∀ parent, parentAt drafts count = some parent →
          rank parent < drafts.length := fun parent isParent =>
        bounded parent (original.inRange count parent isParent)
      have wanted : Lands (parentAt drafts) removed _ _ :=
        survivor_lands original drafts.length (parentAt drafts count) low
      have arrived : Lands (parentAt current) removed _ _ :=
        survivor_lands (reattaching.rooted original) drafts.length
          (parentAt drafts count) low
      rwa [arrived.unique (reattaching.lands wanted)]
    · rw [if_neg same]
      exact reattaching.moved position (by omega)
  unmoved := by
    intro position after
    rw [parentAt_reattachAt, if_neg (by omega)]
    exact reattaching.unmoved position (by omega)

theorem run (original : Rooted drafts rank)
    (bounded : ∀ position, position < drafts.length →
      rank position < drafts.length) (count : Nat) :
    Reattaching drafts removed count
      ((List.range count).foldl (reattachAt removed) drafts) := by
  induction count with
  | zero => exact initial
  | succ count induction =>
      rw [List.range_succ, List.foldl_append]
      exact induction.step original bounded

end Reattaching

/-- Reattachment changes parents only, and moves each draft to the first
position on its way up that is not removed. -/
theorem reattach_lands {drafts : List Draft} {rank : Nat → Nat}
    (rooted : Rooted drafts rank) (removed : List Nat) :
    (reattach drafts removed).map route = drafts.map route ∧
      ∀ position, Lands (parentAt drafts) removed (parentAt drafts position)
        (parentAt (reattach drafts removed) position) := by
  obtain ⟨height, heightRooted, bounded⟩ := rooted.bounded
  have reattaching : Reattaching drafts removed drafts.length
      (reattach drafts removed) :=
    Reattaching.run heightRooted bounded drafts.length
  refine ⟨reattaching.routes, fun position => ?_⟩
  by_cases within : position < drafts.length
  · exact reattaching.moved position within
  · have absent : parentAt drafts position = none := by
      simp [parentAt, List.getElem?_eq_none (Nat.not_lt.mp within)]
    rw [reattaching.unmoved position (Nat.not_lt.mp within), absent]
    exact .outside

end Draft

end FileRouting
