import FileRouting.Proofs.UrlMarks

/-!
# Empty components of URL paths

No segment translates to nothing, but a component can still come out empty.  A
segment that is `_` and nothing else is a layout, because it begins with `_`.
Behind brackets or the mark of a group the same `_` begins nothing and only ends
the segment, so that it is dropped and leaves an empty component.

Such a component leaves a `/` at the start or the end of a URL path, or two in
the middle, unless the path has no other component.  Apart from this, every
component of a URL path has a character.
-/

namespace FileRouting

/-- Whether a segment is a `_` that something without a translation stands
before. -/
def LedUnderscore (translated written : Text) : Prop :=
  translated = ['_'] ∧ written ≠ ['_'] ∧ written.getLast? = some '_'

instance (translated written : Text) :
    Decidable (LedUnderscore translated written) :=
  inferInstanceAs (Decidable (_ ∧ _ ∧ _))

/-- A segment that begins with `_` and translates to nothing else is `_`. -/
theorem Reading.eq_underscore {reading : Reading} {last : Bool} {written : Text}
    (translation : reading.translate last written = ['_'])
    (begins : written.head? = some '_') (ends : written.getLast? = some '_') :
    written = ['_'] := by
  obtain ⟨rest, rfl⟩ := List.head?_eq_some_iff.mp begins
  rw [translate, translateFrom, translateChar_of_no_mark (by decide)] at translation
  have marks := of_translateFrom_eq_nil (List.cons.inj translation).2
  cases rest with
  | nil => rfl
  | cons c rest =>
      rw [List.getLast?_cons_cons] at ends
      exact absurd (marks '_' (List.mem_of_getLast? ends)) (by decide)

theorem urlComponent?_eq_nil_iff {reading : Reading} {last : Bool}
    {translated written : Text} (nonempty : translated ≠ [])
    (translation : translated = reading.translate last written) :
    urlComponent? translated written = some [] ↔
      LedUnderscore translated written := by
  constructor
  · intro empty
    rw [urlComponent?] at empty
    split at empty
    · cases empty
    · next noLayout =>
        split at empty
        · next trailing =>
            rw [Bool.and_eq_true, decide_eq_true_eq, decide_eq_true_eq]
              at trailing
            have whole := List.dropLast_append_getLast? '_' trailing.1
            rw [Option.some.inj empty, List.nil_append] at whole
            refine ⟨whole.symm, ?_, trailing.2⟩
            rintro rfl
            exact noLayout (by rw [← whole]; rfl)
        · exact absurd (Option.some.inj empty) nonempty
  · rintro ⟨rfl, more, ends⟩
    have noLayout : written.head? ≠ some '_' :=
      fun begins => more (Reading.eq_underscore translation.symm begins ends)
    simp [urlComponent?, noLayout, ends]

namespace Segments

variable {id : Text} {segments : Segments} {index : Bool}

/-- The segments that a URL path is made of, with their written forms. -/
def kept (segments : Segments) (index : Bool) : List (Text × Text) :=
  segments.pairs.take (if index then segments.size - 1 else segments.size)

theorem kept_subset : segments.kept index ⊆ segments.pairs :=
  List.take_subset _ _

theorem mem_urlComponents {component : Text} :
    component ∈ segments.urlComponents index ↔
      ∃ pair ∈ segments.kept index,
        urlComponent? pair.1 pair.2 = some component :=
  List.mem_filterMap

theorem nil_mem_urlComponents (parsed : parse id = .ok segments)
    (index : Bool) :
    [] ∈ segments.urlComponents index ↔
      ∃ pair ∈ segments.kept index, LedUnderscore pair.1 pair.2 := by
  rw [mem_urlComponents]
  apply exists_congr
  intro pair
  apply and_congr_right
  intro isKept
  have member := kept_subset isKept
  rw [(parse_eq_ok parsed).1] at member
  obtain ⟨nonempty, reading, last, translation⟩ :=
    Reading.translatedPieces_spec member
  exact urlComponent?_eq_nil_iff nonempty translation

theorem urlComponents_free (parsed : parse id = .ok segments) (index : Bool) :
    ∀ component ∈ segments.urlComponents index, '/' ∉ component := by
  intro component member
  obtain ⟨pair, isKept, adds⟩ := mem_urlComponents.mp member
  apply components_free parsed
  exact List.mem_filterMap.mpr ⟨pair, kept_subset isKept, adds⟩

/-- A URL path has the components that it was made of. -/
theorem splitOn_urlPath? (parsed : parse id = .ok segments) {path : Text}
    (isPath : segments.urlPath? index = some path) :
    path.splitOn '/' = segments.urlComponents index := by
  have isUrl : urlOf? (segments.urlComponents index) = some path := isPath
  have parts := urlParts_urlOf? (urlComponents_free parsed index)
  rw [isUrl] at parts
  refine parts.trans (if_neg ?_)
  intro single
  rw [urlOf?_eq_none_iff.mpr (.inr single)] at isUrl
  cases isUrl

end Segments

/-- The components of a URL path are all nonempty exactly if no `_` is kept that
something without a translation stands before; where there is no path, there
may be one. -/
theorem url_components_nonempty_iff {id : Text} {segments : Segments}
    (parsed : Segments.parse id = .ok segments) (index : Bool) :
    (∀ path, segments.urlPath? index = some path →
      ∀ component ∈ path.splitOn '/', component ≠ []) ↔
    ∀ pair ∈ segments.kept index, LedUnderscore pair.1 pair.2 →
      segments.urlPath? index = none := by
  have empty := Segments.nil_mem_urlComponents parsed index
  constructor
  · intro nonempty pair isKept led
    cases isPath : segments.urlPath? index with
    | none => rfl
    | some path =>
        have member := empty.mpr ⟨pair, isKept, led⟩
        rw [← Segments.splitOn_urlPath? parsed isPath] at member
        exact absurd rfl (nonempty path isPath [] member)
  · intro noPath path isPath component member isEmpty
    rw [Segments.splitOn_urlPath? parsed isPath, isEmpty] at member
    obtain ⟨pair, isKept, led⟩ := empty.mp member
    rw [noPath pair isKept led] at isPath
    cases isPath

/-- An index leaves the last segment out, also one that would be empty. -/
theorem url_components_nonempty_of_index :
    ∃ segments, Segments.parse "_l.a_.[]_".toList = .ok segments ∧
      (∀ pair ∈ segments.kept true, LedUnderscore pair.1 pair.2 →
        segments.urlPath? true = none) ∧
      segments.urlPath? true = some "a".toList ∧
      ∀ path, segments.urlPath? true = some path →
        ∀ component ∈ path.splitOn '/', component ≠ [] :=
  have parsed : Segments.parse "_l.a_.[]_".toList =
      .ok ⟨["_l".toList, "a_".toList, "_".toList],
        ["_l".toList, "a_".toList, "[]_".toList]⟩ := by
    decide
  have noPath : ∀ pair ∈ (Segments.mk ["_l".toList, "a_".toList, "_".toList]
      ["_l".toList, "a_".toList, "[]_".toList]).kept true,
      LedUnderscore pair.1 pair.2 →
        (Segments.mk ["_l".toList, "a_".toList, "_".toList]
          ["_l".toList, "a_".toList, "[]_".toList]).urlPath? true = none := by
    decide
  ⟨_, parsed, noPath, by decide,
    (url_components_nonempty_iff parsed true).mpr noPath⟩

/-- A `_` behind brackets doubles a `/`. -/
theorem led_underscore_doubles_slash :
    ∃ segments path, Segments.parse "a.[]_.b".toList = .ok segments ∧
      segments.urlPath? false = some path ∧ path = "a//b".toList ∧
      [] ∈ path.splitOn '/' := by
  refine ⟨⟨["a".toList, "_".toList, "b".toList],
    ["a".toList, "[]_".toList, "b".toList]⟩, _, by decide, by decide, rfl, ?_⟩
  decide

end FileRouting
