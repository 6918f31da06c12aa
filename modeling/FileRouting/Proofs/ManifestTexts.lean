import FileRouting.Manifest.Json
import FileRouting.Proofs.JsonValues
import FileRouting.Proofs.ManifestEntries

/-!
# Manifests read back from their texts

A route is an object of texts and truth values, in which absent fields are left
out and read back as absent.  A manifest is an object of routes.  Its entries are
written in the order in which it keeps them, and so they are found in the same
order when the manifest is put together again.
-/

namespace FileRouting

/-- What is decoded one by one is read back from its encoded forms. -/
theorem mapM_map_eq_some {α β : Type} {encode : α → β} {decode : β → Option α}
    (inverse : ∀ item, decode (encode item) = some item) (items : List α) :
    (items.map encode).mapM decode = some items := by
  induction items with
  | nil => rfl
  | cons item later induction =>
      rw [List.map_cons, List.mapM_cons, induction, inverse]
      rfl

namespace Route

open Json (Legible legible_string legible_bool legible_object)

theorem legible_optionalField {name : Text} {value : Option Json}
    (legible : ∀ present, value = some present → Legible present) :
    ∀ member ∈ optionalField name value, Legible member.2 := by
  intro member listed
  cases value with
  | none => cases listed
  | some present =>
      rw [optionalField, List.mem_singleton] at listed
      rw [listed]
      exact legible present rfl

theorem legible_toJson (route : Route) : Legible route.toJson := by
  have texts : ∀ text : Option Text, ∀ present,
      text.map Json.string = some present → Legible present := by
    intro text present isText
    obtain ⟨value, _, rfl⟩ := Option.map_eq_some_iff.mp isText
    exact legible_string value
  have truths : ∀ truth : Option Bool, ∀ present,
      truth.map Json.bool = some present → Legible present := by
    intro truth present isTruth
    obtain ⟨value, _, rfl⟩ := Option.map_eq_some_iff.mp isTruth
    exact legible_bool value
  apply legible_object
  intro member listed
  simp only [List.mem_append] at listed
  rcases listed with ((required | path) | index) | parentId
  · simp only [List.mem_cons, List.not_mem_nil, or_false] at required
    rcases required with rfl | rfl
    · exact legible_string route.file
    · exact legible_string route.id
  · exact legible_optionalField (texts route.path) member path
  · exact legible_optionalField (truths route.index) member index
  · exact legible_optionalField (texts route.parentId) member parentId

/-- A field that was left out is read as absent. -/
theorem ofJson?_toJson (route : Route) : ofJson? route.toJson = some route := by
  obtain ⟨file, id, path, index, parentId⟩ := route
  cases path <;> cases index <;> cases parentId <;> rfl

end Route

namespace Manifest

/-- The entries of a manifest, put together again, are the manifest. -/
theorem ofList_entries (manifest : Manifest) :
    ofList manifest.entries = manifest := by
  have permuted : (ofList manifest.entries).entries.Perm manifest.entries :=
    entries_ofList_perm manifest.keys_nodup
  have same : (ofList manifest.entries).entries = manifest.entries := by
    apply permuted.eq_of_pairwise _ (ofList manifest.entries).ascending
      manifest.ascending
    intro first second _ _ less greater
    exact absurd greater (List.lt_asymm less)
  exact eq_of_entries_eq same

theorem legible_toJson (manifest : Manifest) :
    Json.Legible manifest.toJson := by
  apply Json.legible_object
  intro member listed
  obtain ⟨entry, _, rfl⟩ := List.mem_map.mp listed
  exact entry.2.legible_toJson

theorem ofJson?_toJson (manifest : Manifest) :
    ofJson? manifest.toJson = some manifest := by
  rw [toJson, ofJson?, mapM_map_eq_some]
  · exact congrArg some manifest.ofList_entries
  · rintro ⟨key, route⟩
    simp only [Route.ofJson?_toJson]
    rfl

theorem ofText?_compactText (manifest : Manifest) :
    ofText? manifest.compactText = some manifest := by
  rw [ofText?, compactText, Json.read?_compact manifest.legible_toJson]
  exact manifest.ofJson?_toJson

theorem ofText?_indentedText (manifest : Manifest) :
    ofText? manifest.indentedText = some manifest := by
  rw [ofText?, indentedText, Json.read?_indented manifest.legible_toJson]
  exact manifest.ofJson?_toJson

/-- Manifests are told apart by any text that is read back. -/
theorem text_eq_iff_of_read {text : Manifest → Text}
    (read : ∀ manifest, ofText? (text manifest) = some manifest)
    {manifest other : Manifest} :
    text manifest = text other ↔ manifest = other := by
  constructor
  · intro same
    apply Option.some.inj
    rw [← read manifest, same, read other]
  · exact congrArg text

end Manifest

/-- Both texts of a manifest are read back as the manifest, so that manifests
with one text are equal. -/
theorem manifest_read_back_from_texts (manifest other : Manifest) :
    Manifest.ofText? manifest.compactText = some manifest ∧
      Manifest.ofText? manifest.indentedText = some manifest ∧
      (manifest.compactText = other.compactText ↔ manifest = other) ∧
      (manifest.indentedText = other.indentedText ↔ manifest = other) := by
  refine ⟨manifest.ofText?_compactText, manifest.ofText?_indentedText, ?_, ?_⟩
  · exact Manifest.text_eq_iff_of_read Manifest.ofText?_compactText
  · exact Manifest.text_eq_iff_of_read Manifest.ofText?_indentedText

end FileRouting
