import FileRouting.Build
import Mathlib.Data.List.Infix

/-!
# Namespaces of ids

An id lies below another if it continues it with `.` or `/`.  The ids above one
id are prefixes of it, so that they lie below each other in the order of their
lengths, and among some ids at most one is nearest above it.
-/

namespace FileRouting

/-- Whether an id continues another with `.` or `/`. -/
def Below (upper lower : Text) : Prop :=
  ∃ (mark : Char) (rest : Text),
    lower = upper ++ mark :: rest ∧ (mark = '.' ∨ mark = '/')

/-- The longest of some ids that an id lies below, or none if there is none. -/
def IsNearest (ids : List Text) (id : Text) : Option Text → Prop
  | none => ∀ upper ∈ ids, ¬ Below upper id
  | some nearest =>
      nearest ∈ ids ∧ Below nearest id ∧
        ∀ upper ∈ ids, Below upper id → upper.length ≤ nearest.length

theorem Draft.inNamespace_iff {id text : Text} :
    Draft.inNamespace id text = true ↔ Below id text := by
  unfold Draft.inNamespace
  constructor
  · intro inside
    split at inside
    · next mark rest found =>
        have equal := List.isPrefixOf?_eq_some_iff_append_eq.mp found
        exact ⟨mark, rest, equal.symm, by simpa using inside⟩
    · cases inside
  · rintro ⟨mark, rest, rfl, separates⟩
    have found : id.isPrefixOf? (id ++ mark :: rest) = some (mark :: rest) :=
      List.isPrefixOf?_eq_some_iff_append_eq.mpr rfl
    simpa [found] using separates

instance (upper lower : Text) : Decidable (Below upper lower) :=
  decidable_of_iff (Draft.inNamespace upper lower = true) Draft.inNamespace_iff

namespace Below

variable {first second lower : Text}

theorem isPrefix (below : Below first lower) : first <+: lower := by
  obtain ⟨mark, rest, rfl, _⟩ := below
  exact List.prefix_append first (mark :: rest)

theorem length_lt (below : Below first lower) :
    first.length < lower.length := by
  obtain ⟨mark, rest, rfl, _⟩ := below
  simp

theorem byteSize_lt (below : Below first lower) :
    Text.byteSize first < Text.byteSize lower := by
  obtain ⟨mark, rest, rfl, _⟩ := below
  have more := Text.byteSize_pos (List.cons_ne_nil mark rest)
  rw [Text.byteSize_append]
  omega

theorem not_self : ¬ Below lower lower := by
  intro below
  exact Nat.lt_irrefl _ below.length_lt

theorem trans (upper : Below first second) (below : Below second lower) :
    Below first lower := by
  obtain ⟨mark, rest, rfl, separates⟩ := upper
  obtain ⟨next, further, rfl, _⟩ := below
  exact ⟨mark, rest ++ next :: further, by simp, separates⟩

theorem of_length_lt (upper : Below first lower) (nearer : Below second lower)
    (shorter : first.length < second.length) : Below first second := by
  obtain ⟨mark, rest, equal, separates⟩ := upper
  have start : first ++ [mark] <+: second := by
    apply List.prefix_of_prefix_length_le _ nearer.isPrefix
    · simpa [Nat.succ_le_iff] using shorter
    · exact ⟨rest, by simp [equal]⟩
  obtain ⟨between, rfl⟩ := start
  exact ⟨mark, between, by simp, separates⟩

theorem eq_of_length_eq (upper : Below first lower)
    (nearer : Below second lower) (same : first.length = second.length) :
    first = second :=
  (List.prefix_of_prefix_length_le upper.isPrefix nearer.isPrefix
    (Nat.le_of_eq same)).eq_of_length same

/-- Ids above one id have no more characters than others if they have no more
bytes. -/
theorem length_le_of_byteSize_le (upper : Below first lower)
    (other : Below second lower)
    (fewer : Text.byteSize first ≤ Text.byteSize second) :
    first.length ≤ second.length := by
  by_contra longer
  have above : Below second first :=
    other.of_length_lt upper (Nat.lt_of_not_le longer)
  exact Nat.not_le_of_lt above.byteSize_lt fewer

end Below

namespace IsNearest

variable {ids : List Text} {id : Text}

theorem unique {left right : Option Text} (first : IsNearest ids id left)
    (second : IsNearest ids id right) : left = right := by
  cases left with
  | none =>
      cases right with
      | none => rfl
      | some nearest =>
          obtain ⟨member, below, _⟩ := second
          exact absurd below (first nearest member)
  | some nearest =>
      obtain ⟨member, below, longest⟩ := first
      cases right with
      | none => exact absurd below (second nearest member)
      | some other =>
          obtain ⟨otherMember, otherBelow, otherLongest⟩ := second
          have same : nearest.length = other.length :=
            Nat.le_antisymm (otherLongest nearest member below)
              (longest other otherMember otherBelow)
          exact congrArg some (below.eq_of_length_eq otherBelow same)

theorem congr {other : List Text} {nearest : Option Text}
    (same : ∀ id, id ∈ ids ↔ id ∈ other) (found : IsNearest ids id nearest) :
    IsNearest other id nearest := by
  cases nearest with
  | none => exact fun upper member => found upper ((same upper).mpr member)
  | some nearest =>
      obtain ⟨member, below, longest⟩ := found
      exact ⟨(same nearest).mp member, below, fun upper otherMember =>
        longest upper ((same upper).mpr otherMember)⟩

/-- One more id, not longer than the others, is nearest for an id below it
that had none above it before, and changes nothing for the rest. -/
theorem cons {new : Text} {nearest : Option Text}
    (found : IsNearest ids id nearest)
    (shortest : ∀ upper ∈ ids, Text.byteSize new ≤ Text.byteSize upper)
    (kept : nearest = none → ¬ Below new id) :
    IsNearest (new :: ids) id nearest := by
  cases nearest with
  | none =>
      intro upper member
      rcases List.mem_cons.mp member with rfl | old
      · exact kept rfl
      · exact found upper old
  | some nearest =>
      obtain ⟨member, below, longest⟩ := found
      refine ⟨List.mem_cons_of_mem _ member, below, ?_⟩
      intro upper upperMember upperBelow
      rcases List.mem_cons.mp upperMember with rfl | old
      · exact upperBelow.length_le_of_byteSize_le below
          (shortest nearest member)
      · exact longest upper old upperBelow

theorem cons_self {new : Text} (found : IsNearest ids id none)
    (below : Below new id) : IsNearest (new :: ids) id (some new) := by
  refine ⟨List.mem_cons_self, below, ?_⟩
  intro upper member upperBelow
  rcases List.mem_cons.mp member with rfl | old
  · exact Nat.le_refl _
  · exact absurd upperBelow (found upper old)

theorem mono {fewer : List Text} {nearest : Text}
    (found : IsNearest ids id (some nearest)) (member : nearest ∈ fewer)
    (subset : fewer ⊆ ids) : IsNearest fewer id (some nearest) :=
  ⟨member, found.2.1, fun upper upperMember =>
    found.2.2 upper (subset upperMember)⟩

/-- When the nearest id is taken away, its own nearest remaining id takes its
place. -/
theorem pass_on {fewer : List Text} {nearest : Text} {next : Option Text}
    (found : IsNearest ids id (some nearest)) (absent : nearest ∉ fewer)
    (subset : fewer ⊆ ids) (upwards : IsNearest fewer nearest next) :
    IsNearest fewer id next := by
  obtain ⟨_, below, longest⟩ := found
  have abovePassed : ∀ upper ∈ fewer, Below upper id → Below upper nearest := by
    intro upper member upperBelow
    have shorter := longest upper (subset member) upperBelow
    rcases Nat.lt_or_eq_of_le shorter with less | same
    · exact upperBelow.of_length_lt below less
    · exact absurd (upperBelow.eq_of_length_eq below same ▸ member) absent
  cases next with
  | none =>
      intro upper member upperBelow
      exact upwards upper member (abovePassed upper member upperBelow)
  | some next =>
      obtain ⟨member, nextBelow, nextLongest⟩ := upwards
      exact ⟨member, nextBelow.trans below, fun upper upperMember upperBelow =>
        nextLongest upper upperMember
          (abovePassed upper upperMember upperBelow)⟩

end IsNearest

end FileRouting
