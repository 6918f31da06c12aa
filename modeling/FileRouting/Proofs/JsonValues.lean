import FileRouting.Proofs.JsonTokens

/-!
# Values read back from their texts

A value is legible if both of its texts consist of its tokens and the tokens are
read back, whatever comes after them.  Texts and truth values are legible, and so
is an object of legible values.  Each of the two texts of a legible value is read
back as the value.
-/

namespace FileRouting.Json

/-- Whether a value is found again in its texts.  No token of it is a number, and
as many steps as there are tokens are enough to read it off them. -/
structure Legible (value : Json) : Prop where
  ends : ∀ token ∈ value.tokens, token.isNumber = false
  indented : ∀ (depth : Nat) {text : Text} {tokens : List Token},
    Spelled text tokens →
      Spelled (value.indentAt depth ++ text) (value.tokens ++ tokens)
  read : ∀ bound : Nat, value.tokens.length ≤ bound → ∀ rest : List Token,
    readValue? bound (value.tokens ++ rest) = some (value, rest)

theorem legible_string (value : Text) : Legible (.string value) := by
  refine ⟨?_, ?_, ?_⟩
  · simp [tokens, Token.isNumber]
  · intro depth text tokens later
    exact Spelled.token (.string value) rfl later
  · intro bound enough rest
    obtain ⟨bound, rfl⟩ := Nat.exists_eq_add_of_le' enough
    rfl

theorem legible_bool (value : Bool) : Legible (.bool value) := by
  refine ⟨?_, ?_, ?_⟩
  · simp [tokens, Token.isNumber]
  · intro depth text tokens later
    exact Spelled.token (.bool value) rfl later
  · intro bound enough rest
    obtain ⟨bound, rfl⟩ := Nat.exists_eq_add_of_le' enough
    rfl

section Members

variable {members : List (Text × Json)}
  (legible : ∀ member ∈ members, Legible member.2)
include legible

theorem ends_memberTokens :
    ∀ token ∈ memberTokens members, token.isNumber = false := by
  induction members with
  | nil => simp [memberTokens]
  | cons member later induction =>
      obtain ⟨key, value⟩ := member
      have first := (legible _ List.mem_cons_self).ends
      have rest := induction fun other listed =>
        legible other (List.mem_cons_of_mem _ listed)
      intro token listed
      cases later with
      | nil =>
          simp only [memberTokens, List.mem_cons] at listed
          rcases listed with rfl | rfl | inside
          · rfl
          · rfl
          · exact first token inside
      | cons next others =>
          simp only [memberTokens, List.cons_append, List.mem_cons,
            List.mem_append] at listed
          rcases listed with rfl | rfl | inside | rfl | inside
          · rfl
          · rfl
          · exact first token inside
          · rfl
          · exact rest token inside

omit legible in
theorem spelled_member (depth : Nat) (key : Text) {value : Json}
    (legible : Legible value) {text : Text} {tokens : List Token}
    (later : Spelled text tokens) :
    Spelled (newLine depth ++ quote key ++ ": ".toList ++
        value.indentAt depth ++ text)
      (.string key :: .colon :: value.tokens ++ tokens) := by
  simp only [List.append_assoc]
  apply Spelled.newLine
  apply Spelled.token (.string key) rfl
  apply Spelled.token .colon rfl
  apply Spelled.blank rfl
  exact legible.indented depth later

theorem spelled_indentMembers (depth : Nat) {text : Text}
    {tokens : List Token} (later : Spelled text tokens) :
    Spelled (indentMembers depth members ++ text)
      (memberTokens members ++ tokens) := by
  induction members with
  | nil => exact later
  | cons member others induction =>
      obtain ⟨key, value⟩ := member
      have first : Legible value := legible _ List.mem_cons_self
      have rest := induction fun other listed =>
        legible other (List.mem_cons_of_mem _ listed)
      cases others with
      | nil => exact spelled_member depth key first later
      | cons next others =>
          have comma := Spelled.token .comma rfl rest
          have whole := spelled_member depth key first comma
          simpa only [indentMembers, memberTokens, Token.toText,
            List.append_assoc, List.cons_append, List.nil_append] using whole

theorem readMembers?_memberTokens (nonempty : members ≠ []) (bound : Nat)
    (enough : (memberTokens members).length < bound) (rest : List Token) :
    readMembers? bound (memberTokens members ++ .closeBrace :: rest) =
      some (members, rest) := by
  induction members generalizing bound with
  | nil => exact absurd rfl nonempty
  | cons member later induction =>
      obtain ⟨key, value⟩ := member
      have first : Legible value := legible _ List.mem_cons_self
      obtain ⟨bound, rfl⟩ := Nat.exists_eq_add_of_le' (Nat.zero_lt_of_lt enough)
      cases later with
      | nil =>
          have read := first.read bound
            (by simp only [memberTokens, List.length_cons] at enough; omega)
            (.closeBrace :: rest)
          simp only [memberTokens, List.cons_append, readMembers?, read]
      | cons next others =>
          simp only [memberTokens, List.length_append, List.length_cons]
            at enough
          have read := first.read bound (by omega)
            (.comma :: (memberTokens (next :: others) ++ .closeBrace :: rest))
          have others := induction
            (fun other listed => legible other (List.mem_cons_of_mem _ listed))
            (List.cons_ne_nil _ _) bound (by omega)
          simp only [memberTokens, List.append_assoc, List.cons_append,
            readMembers?, read, others, Option.map_some]

theorem spelled_object (depth : Nat) {text : Text} {tokens : List Token}
    (later : Spelled text tokens) :
    Spelled ((Json.object members).indentAt depth ++ text)
      ((Json.object members).tokens ++ tokens) := by
  have closed := Spelled.token .closeBrace rfl later
  cases members with
  | nil => exact Spelled.token .openBrace rfl closed
  | cons member others =>
      have inside := spelled_indentMembers legible (depth + 1)
        (closed.newLine depth)
      have whole := Spelled.token .openBrace rfl inside
      simpa only [indentAt, Json.tokens, Token.toText, List.append_assoc,
        List.cons_append, List.nil_append] using whole

theorem readValue?_object (bound : Nat)
    (enough : (Json.object members).tokens.length ≤ bound)
    (rest : List Token) :
    readValue? bound ((Json.object members).tokens ++ rest) =
      some (.object members, rest) := by
  rw [tokens, List.cons_append, List.length_cons, List.length_append,
    List.length_singleton] at enough
  obtain ⟨bound, rfl⟩ := Nat.exists_eq_add_of_le' (Nat.zero_lt_of_lt enough)
  cases members with
  | nil => rfl
  | cons member others =>
      have inside := readMembers?_memberTokens legible (List.cons_ne_nil _ _)
        bound (by omega) rest
      -- A key comes after the brace, so that the object is not the empty one.
      obtain ⟨later, begins⟩ : ∃ later,
          memberTokens (member :: others) = .string member.1 :: later := by
        cases others <;> exact ⟨_, rfl⟩
      simp only [tokens, begins, List.cons_append, List.append_assoc,
        List.nil_append] at inside ⊢
      simp only [readValue?, inside, Option.map_some]

theorem legible_object : Legible (.object members) := by
  refine ⟨?_, fun depth _ _ => spelled_object legible depth,
    readValue?_object legible⟩
  intro token listed
  simp only [tokens, List.cons_append, List.mem_cons, List.mem_append,
    List.not_mem_nil, or_false] at listed
  rcases listed with rfl | inside | rfl
  · rfl
  · exact ends_memberTokens legible token inside
  · rfl

end Members

theorem read?_of_spelled {text : Text} {value : Json} (legible : Legible value)
    (spelled : Spelled text value.tokens) : read? text = some value := by
  have read := legible.read (2 * value.tokens.length + 1) (by omega) []
  rw [List.append_nil] at read
  rw [read?, spelled.readTokens?]
  simp only [bind, Option.bind, read]

theorem read?_compact {value : Json} (legible : Legible value) :
    read? value.compact = some value := by
  apply read?_of_spelled legible
  have spelled := Spelled.done.append legible.ends
  rwa [List.append_nil, List.append_nil] at spelled

theorem read?_indented {value : Json} (legible : Legible value) :
    read? value.indented = some value := by
  apply read?_of_spelled legible
  have spelled := legible.indented 0 Spelled.done
  rwa [List.append_nil, List.append_nil] at spelled

end FileRouting.Json
