import FileRouting.Build
import FileRouting.Proofs.SegmentExtension

/-!
# Components of URL paths

A URL path is made of components, and it can be cut into them again, because no
component has a `/`.  What holds of lists of components therefore holds of URL
paths: if one list begins another, then the part that a child adds to the URL
path of its parent is the URL path of the components that the child adds.

The list that holds one empty component has the same URL path as no components
at all, and so it counts as none.
-/

namespace FileRouting

namespace Text

variable {mark : Char}

theorem joinWith_append {front back : List Text} (frontMore : front ≠ [])
    (backMore : back ≠ []) :
    joinWith mark (front ++ back) =
      joinWith mark front ++ mark :: joinWith mark back := by
  induction front with
  | nil => exact absurd rfl frontMore
  | cons text front induction =>
      cases front with
      | nil =>
          simp only [joinWith, List.cons_append, List.nil_append,
            List.intercalate_cons_of_ne_nil backMore,
            List.intercalate_singleton, List.append_assoc]
      | cons next front =>
          have joined := induction (List.cons_ne_nil next front)
          simp only [joinWith, List.cons_append,
            List.intercalate_cons_cons] at joined ⊢
          rw [joined]
          simp

theorem joinWith_map_joinWith {groups : List (List Text)}
    (more : ∀ group ∈ groups, group ≠ []) :
    joinWith mark (groups.map (joinWith mark)) =
      joinWith mark groups.flatten := by
  induction groups with
  | nil => rfl
  | cons group later induction =>
      cases later with
      | nil => simp [joinWith]
      | cons next others =>
          have groupMore := more group List.mem_cons_self
          have nextMore := more next (by simp)
          have flattenMore : (next :: others).flatten ≠ [] := by
            intro nothing
            exact nextMore (List.append_eq_nil_iff.mp nothing).1
          have rest := induction fun group member =>
            more group (List.mem_cons_of_mem _ member)
          rw [List.flatten_cons, joinWith_append groupMore flattenMore, ← rest,
            List.map_cons, ← List.singleton_append,
            joinWith_append (List.cons_ne_nil _ _) (by simp)]
          simp [joinWith]

theorem joinWith_eq_nil_iff {texts : List Text} :
    joinWith mark texts = [] ↔ texts = [] ∨ texts = [[]] := by
  cases texts with
  | nil => simp [joinWith]
  | cons text later =>
      cases later with
      | nil => simp [joinWith]
      | cons next others => simp [joinWith, List.intercalate_cons_cons]

theorem joinWith_ne_nil {texts : List Text} (more : texts ≠ [])
    (kept : [] ∉ texts) : joinWith mark texts ≠ [] := by
  intro nothing
  rcases joinWith_eq_nil_iff.mp nothing with none | single
  · exact more none
  · exact kept (single ▸ List.mem_cons_self)

end Text

/-- The URL path of some components, if it is not empty. -/
def urlOf? (components : List Text) : Option Text :=
  match Text.joinWith '/' components with
  | [] => none
  | path => some path

/-- The components of a URL path. -/
def urlParts : Option Text → List Text
  | none => []
  | some path => path.splitOn '/'

section Urls

variable {components upper lower : List Text}

theorem urlOf?_eq_some_iff {path : Text} :
    urlOf? components = some path ↔
      path ≠ [] ∧ Text.joinWith '/' components = path := by
  unfold urlOf?
  cases Text.joinWith '/' components with
  | nil => simp
  | cons c rest =>
      simp only [Option.some.injEq]
      constructor
      · intro equal
        exact ⟨equal ▸ List.cons_ne_nil c rest, equal⟩
      · exact fun both => both.2

theorem urlOf?_eq_none_iff :
    urlOf? components = none ↔ components = [] ∨ components = [[]] := by
  have empty : Text.joinWith '/' components = [] ↔
      components = [] ∨ components = [[]] :=
    Text.joinWith_eq_nil_iff
  rw [← empty, urlOf?]
  cases Text.joinWith '/' components <;> simp

theorem urlOf?_eq_joinWith (more : components ≠ []) (kept : [] ∉ components) :
    urlOf? components = some (Text.joinWith '/' components) :=
  urlOf?_eq_some_iff.mpr ⟨Text.joinWith_ne_nil more kept, rfl⟩

/-- Cutting a URL path gives its components back. -/
theorem urlParts_urlOf? (free : ∀ component ∈ components, '/' ∉ component) :
    urlParts (urlOf? components) =
      if components = [[]] then [] else components := by
  cases path : urlOf? components with
  | none =>
      rcases urlOf?_eq_none_iff.mp path with rfl | rfl <;> rfl
  | some text =>
      obtain ⟨more, joined⟩ := urlOf?_eq_some_iff.mp path
      have notEmpty : ¬ (components = [] ∨ components = [[]]) := by
        rw [← Text.joinWith_eq_nil_iff, joined]
        exact more
      rw [if_neg fun single => notEmpty (.inr single), urlParts, ← joined]
      exact List.splitOn_intercalate '/' free fun none => notEmpty (.inl none)

theorem urlParts_isPrefix (begins : upper <+: lower)
    (free : ∀ component ∈ lower, '/' ∉ component) :
    urlParts (urlOf? upper) <+: urlParts (urlOf? lower) := by
  rw [urlParts_urlOf? free,
    urlParts_urlOf? fun component member =>
      free component (begins.subset member)]
  by_cases upperSingle : upper = [[]]
  · rw [if_pos upperSingle]
    exact List.nil_prefix
  · rw [if_neg upperSingle]
    by_cases lowerSingle : lower = [[]]
    · subst lowerSingle
      cases upper with
      | nil => exact List.nil_prefix
      | cons component later =>
          have whole := begins.eq_of_length_le (by simp)
          exact absurd whole upperSingle
    · rw [if_neg lowerSingle]
      exact begins

theorem urlOf?_isPrefix (begins : upper <+: lower) {path : Text}
    (isPath : urlOf? upper = some path) :
    ∃ longer, urlOf? lower = some longer ∧ path <+: longer := by
  obtain ⟨more, rfl⟩ := urlOf?_eq_some_iff.mp isPath
  obtain ⟨rest, rfl⟩ := begins
  have upperMore : upper ≠ [] := by
    intro none
    exact more (none ▸ rfl)
  have longer : Text.joinWith '/' upper <+:
      Text.joinWith '/' (upper ++ rest) := by
    cases rest with
    | nil => simp
    | cons component later =>
        rw [Text.joinWith_append upperMore (List.cons_ne_nil component later)]
        exact List.prefix_append _ _
  refine ⟨_, urlOf?_eq_some_iff.mpr ⟨?_, rfl⟩, longer⟩
  intro nothing
  rw [nothing] at longer
  exact more (List.prefix_nil.mp longer)

end Urls

namespace Text

variable {mark : Char} {text : Text}

theorem length_dropOneStart_le :
    (dropOneStart mark text).length ≤ text.length := by
  cases text with
  | nil => exact Nat.le_refl 0
  | cons c rest =>
      rw [dropOneStart]
      split
      · exact Nat.le_succ _
      · exact Nat.le_refl _

theorem length_dropOneEnd_le :
    (dropOneEnd mark text).length ≤ text.length := by
  rw [dropOneEnd]
  split
  · rw [List.length_dropLast]
    exact Nat.sub_le _ _
  · exact Nat.le_refl _

theorem dropOneEnd_of_getLast?_ne (other : text.getLast? ≠ some mark) :
    dropOneEnd mark text = text := by
  rw [dropOneEnd, if_neg other]

/-- What joins texts ends none of them, if none is empty. -/
theorem getLast?_joinWith_ne {texts : List Text} (kept : [] ∉ texts)
    (free : ∀ text ∈ texts, mark ∉ text) :
    (joinWith mark texts).getLast? ≠ some mark := by
  induction texts with
  | nil => simp [joinWith]
  | cons text later induction =>
      have laterKept : [] ∉ later := by
        intro member
        exact kept (List.mem_cons_of_mem _ member)
      have laterFree : ∀ other ∈ later, mark ∉ other := by
        intro other member
        exact free other (List.mem_cons_of_mem _ member)
      cases later with
      | nil =>
          intro isLast
          have single : joinWith mark [text] = text :=
            List.intercalate_singleton
          rw [single] at isLast
          exact free text List.mem_cons_self (List.mem_of_getLast? isLast)
      | cons next others =>
          have more : joinWith mark (next :: others) ≠ [] :=
            joinWith_ne_nil (List.cons_ne_nil _ _) laterKept
          rw [← List.singleton_append,
            joinWith_append (List.cons_ne_nil _ _) (List.cons_ne_nil _ _),
            List.getLast?_append, List.getLast?_cons]
          obtain ⟨last, isLast⟩ := List.getLast?_isSome.mpr more |>
            Option.isSome_iff_exists.mp
          rw [isLast]
          intro equal
          apply induction laterKept laterFree
          rw [isLast]
          exact equal

end Text

namespace Draft

theorem fragment?_ne_own {own parent : Text} (more : parent ≠ [])
    (begins : parent <+: own) :
    fragment? (some own) (some parent) ≠ some own := by
  obtain ⟨rest, rfl⟩ := begins
  have stripped : parent.isPrefixOf? (parent ++ rest) = some rest :=
    List.isPrefixOf?_eq_some_iff_append_eq.mpr rfl
  have shorter : (Text.dropOneEnd '/' (Text.dropOneStart '/' rest)).length ≤
      rest.length :=
    Nat.le_trans Text.length_dropOneEnd_le Text.length_dropOneStart_le
  have positive := List.length_pos_iff.mpr more
  simp only [fragment?, stripped, Option.getD_some]
  split
  · simp
  · intro whole
    rw [Option.some.inj whole, List.length_append] at shorter
    omega

/-- A child keeps the URL path of the components that its parent does not
have. -/
theorem fragment?_urlOf? {front back : List Text}
    (kept : [] ∉ front ++ back)
    (free : ∀ component ∈ back, '/' ∉ component) :
    fragment? (urlOf? (front ++ back)) (urlOf? front) = urlOf? back := by
  rw [List.mem_append, not_or] at kept
  cases front with
  | nil =>
      rw [List.nil_append]
      cases urlOf? back <;> rfl
  | cons component later =>
      have frontPath :=
        urlOf?_eq_joinWith (List.cons_ne_nil component later) kept.1
      cases back with
      | nil =>
          have stripped : (Text.joinWith '/' (component :: later)).isPrefixOf?
              (Text.joinWith '/' (component :: later)) = some [] :=
            List.isPrefixOf?_eq_some_iff_append_eq.mpr (List.append_nil _)
          rw [List.append_nil, frontPath]
          simp only [fragment?, stripped]
          rfl
      | cons next others =>
          have backPath :=
            urlOf?_eq_joinWith (List.cons_ne_nil next others) kept.2
          have joined :
              Text.joinWith '/' (component :: later ++ next :: others) =
              Text.joinWith '/' (component :: later) ++
                '/' :: Text.joinWith '/' (next :: others) :=
            Text.joinWith_append (List.cons_ne_nil _ _) (List.cons_ne_nil _ _)
          have stripped : (Text.joinWith '/' (component :: later)).isPrefixOf?
              (Text.joinWith '/' (component :: later ++ next :: others)) =
              some ('/' :: Text.joinWith '/' (next :: others)) :=
            List.isPrefixOf?_eq_some_iff_append_eq.mpr joined.symm
          have wholePath : urlOf? (component :: later ++ next :: others) =
              some (Text.joinWith '/' (component :: later ++ next :: others)) :=
            urlOf?_eq_some_iff.mpr ⟨by rw [joined]; simp, rfl⟩
          rw [wholePath, frontPath, backPath]
          -- Of the two drops only the first finds a separator.
          simp only [fragment?, stripped, Option.getD_some, Text.dropOneStart,
            if_true, Text.dropOneEnd_of_getLast?_ne
              (Text.getLast?_joinWith_ne kept.2 free)]
          split
          · next nothing =>
              exact absurd nothing
                (Text.joinWith_ne_nil (List.cons_ne_nil _ _) kept.2)
          · rfl

end Draft

namespace Segments

/-- What the segments add to a URL path. -/
def components (segments : Segments) : List Text :=
  segments.pairs.filterMap fun (translated, written) =>
    urlComponent? translated written

theorem translate_index (reading : Reading) (last : Bool) :
    reading.translate last "_index".toList = "_index".toList := by
  obtain ⟨bracket, optionalGroup⟩ := reading
  cases bracket <;> cases optionalGroup <;> cases last <;> rfl

theorem fault?_eq_none_iff {translated written : Text} :
    fault? translated written = none ↔
      '*' ∉ written ∧ ':' ∉ written ∧ '/' ∉ translated := by
  unfold fault?
  split
  · simp_all
  · split
    · simp_all
    · split <;> simp_all

theorem size_eq_length_pairs {id : Text} {segments : Segments}
    (parsed : parse id = .ok segments) :
    segments.size = segments.pairs.length := by
  rw [size, translated_eq_map parsed, List.length_map]

theorem urlComponents_false {id : Text} {segments : Segments}
    (parsed : parse id = .ok segments) :
    segments.urlComponents false = segments.components := by
  rw [urlComponents, components, size_eq_length_pairs parsed,
    if_neg Bool.false_ne_true, List.take_length]

/-- An index segment adds nothing, so that it may as well be left in. -/
theorem urlComponents_eq_components {id : Text} {segments : Segments}
    (parsed : parse id = .ok segments) :
    segments.urlComponents segments.isIndex = segments.components := by
  cases index : segments.isIndex with
  | false => exact urlComponents_false parsed
  | true =>
      rw [isIndex, decide_eq_true_eq, lastWritten?, written_eq_map parsed,
        List.getLast?_map, Option.map_eq_some_iff] at index
      obtain ⟨⟨translated, written⟩, isLast, rfl⟩ := index
      have member := List.mem_of_getLast? isLast
      rw [(parse_eq_ok parsed).1] at member
      obtain ⟨_, reading, last, translation⟩ :=
        Reading.translatedPieces_spec member
      have copied : translated = "_index".toList :=
        translation.trans (translate_index reading last)
      have whole := List.dropLast_append_getLast? _ isLast
      rw [copied] at whole
      rw [urlComponents, components, size_eq_length_pairs parsed, if_pos rfl,
        ← List.dropLast_eq_take, ← whole, List.filterMap_append, whole]
      exact (List.append_nil _).symm

theorem components_free {id : Text} {segments : Segments}
    (parsed : parse id = .ok segments) :
    ∀ component ∈ segments.components, '/' ∉ component := by
  intro component member
  obtain ⟨⟨translated, written⟩, isPair, adds⟩ := List.mem_filterMap.mp member
  have free : '/' ∉ translated :=
    (fault?_eq_none_iff.mp ((parse_eq_ok parsed).2 _ isPair)).2.2
  simp only [urlComponent?] at adds
  split at adds
  · cases adds
  · split at adds
    · cases adds
      intro within
      exact free (List.mem_of_mem_dropLast within)
    · cases adds
      exact free

theorem urlPath?_eq_urlOf? {id : Text} {segments : Segments}
    (parsed : parse id = .ok segments) :
    segments.urlPath? segments.isIndex = urlOf? segments.components := by
  rw [← urlComponents_eq_components parsed]
  rfl

theorem components_isPrefix {upper lower : Text}
    {upperSegments lowerSegments : Segments}
    (upperParsed : parse upper = .ok upperSegments)
    (lowerParsed : parse lower = .ok lowerSegments)
    (below : Below upper lower) (closed : BracketsClosed upper)
    (noSplat : ¬ EndsInSplat upper) :
    upperSegments.components <+: lowerSegments.components :=
  List.IsPrefix.filterMap _
    (pairs_isPrefix upperParsed lowerParsed below closed noSplat)

end Segments

end FileRouting
