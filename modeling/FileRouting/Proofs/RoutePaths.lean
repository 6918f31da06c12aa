import FileRouting.Proofs.FirstWins
import FileRouting.Proofs.UrlComponents

/-!
# Paths of the routes in a manifest

A manifest says nothing about segments, but the key of a route can be read into
segments once more.  These tell the URL path that the route was built with, and
so its path in the manifest is what this URL path adds to that of its parent.

A parent is found by the characters of its id, and yet the URL path of a child
goes on from that of its parent, component by component.  A splat is no such
parent, because what it reads as `*` is a parameter in the ids below it, and
neither is an id that leaves a bracket open.
-/

namespace FileRouting

namespace RouteFile

variable {routes : List RouteFile} {key : Text}

theorem isIndex_finish (parent : Option RouteFile) (route : RouteFile) :
    (route.finish parent).isIndex = route.segments.isIndex := by
  cases index : route.segments.isIndex <;>
    simp [Route.isIndex, finish, isIndex, index]

theorem below_of_nearest? {file : RouteFile}
    (found : nearest? routes key = some file) : Below file.id key := by
  have nearest := nearest?_isNearest routes key
  rw [found] at nearest
  exact nearest.2.1

end RouteFile

section Built

variable {root : Text} {files : List Text} {manifest : Manifest} {key : Text}
  {route : Route}

theorem file_of_built (built : (build root files).outcome = .ok manifest)
    (found : manifest.get? key = some route) :
    ∃ read, RouteFile.readAll root files = .ok read ∧
      manifest = RouteFile.manifest (RouteFile.survivors read) ∧
      ∃ file ∈ RouteFile.survivors read, file.id = key ∧
        route = file.finish
          (RouteFile.nearest? (RouteFile.survivors read) key) := by
  obtain ⟨read, reading, rfl⟩ := build_eq_manifest built
  have distinct := RouteFile.survivors_ids_nodup read
  exact ⟨read, reading, rfl, RouteFile.file_of_get? distinct found⟩

theorem parse_of_built (built : (build root files).outcome = .ok manifest)
    (found : manifest.get? key = some route) :
    ∃ segments, Segments.parse key = .ok segments := by
  obtain ⟨read, reading, _, file, survives, rfl, _⟩ :=
    file_of_built built found
  exact ⟨_, RouteFile.parse_id_of_mem_survivors reading survives⟩

theorem isIndex_of_built (built : (build root files).outcome = .ok manifest)
    (found : manifest.get? key = some route) {segments : Segments}
    (parsed : Segments.parse key = .ok segments) :
    route.isIndex = segments.isIndex := by
  obtain ⟨read, reading, _, file, survives, rfl, rfl⟩ :=
    file_of_built built found
  have own := RouteFile.parse_id_of_mem_survivors reading survives
  rw [RouteFile.isIndex_finish, Except.ok.inj (own.symm.trans parsed)]

theorem gives_of_built (built : (build root files).outcome = .ok manifest)
    (found : manifest.get? key = some route) :
    ∃ path file, Gives root files path file ∧ file.id = key := by
  obtain ⟨read, reading, _, file, survives, rfl, _⟩ :=
    file_of_built built found
  obtain ⟨path, prevails⟩ := (RouteFile.mem_survivors_iff reading).mp survives
  exact ⟨path, file, prevails.1.1, rfl⟩

theorem urlPath?_of_built (built : (build root files).outcome = .ok manifest)
    (found : manifest.get? key = some route) {segments : Segments}
    (parsed : Segments.parse key = .ok segments) :
    segments.urlPath? route.isIndex = urlOf? segments.components := by
  rw [isIndex_of_built built found parsed]
  exact Segments.urlPath?_eq_urlOf? parsed

/-- A route without a parent has its whole URL path, and any other route has
what its URL path adds to that of its parent. -/
theorem path_of_built (built : (build root files).outcome = .ok manifest)
    (found : manifest.get? key = some route) {segments : Segments}
    (parsed : Segments.parse key = .ok segments) :
    (route.parentId = none ∧ route.path = urlOf? segments.components) ∨
      ∃ parent parentRoute parentSegments,
        route.parentId = some parent ∧ Below parent key ∧
        manifest.get? parent = some parentRoute ∧
        Segments.parse parent = .ok parentSegments ∧
        route.path = Draft.fragment? (urlOf? segments.components)
          (urlOf? parentSegments.components) := by
  obtain ⟨read, reading, rfl, file, survives, rfl, rfl⟩ :=
    file_of_built built found
  have distinct := RouteFile.survivors_ids_nodup read
  have ownParsed := RouteFile.parse_id_of_mem_survivors reading survives
  have sameSegments := Except.ok.inj (ownParsed.symm.trans parsed)
  have own : file.urlPath? = urlOf? segments.components := by
    rw [← sameSegments]
    exact Segments.urlPath?_eq_urlOf? ownParsed
  cases nearest : RouteFile.nearest? (RouteFile.survivors read) file.id with
  | none =>
      left
      refine ⟨rfl, ?_⟩
      simp only [RouteFile.finish, own]
      cases urlOf? segments.components <;> rfl
  | some above =>
      right
      have aboveSurvives := RouteFile.mem_of_nearest? nearest
      have aboveParsed :=
        RouteFile.parse_id_of_mem_survivors reading aboveSurvives
      have aboveUrl : above.urlPath? = urlOf? above.segments.components :=
        Segments.urlPath?_eq_urlOf? aboveParsed
      refine ⟨above.id, _, above.segments, rfl,
        RouteFile.below_of_nearest? nearest,
        RouteFile.get?_of_mem distinct aboveSurvives, aboveParsed, ?_⟩
      simp only [RouteFile.finish, own, Option.bind_some, aboveUrl]

end Built

/-- The URL path of a route goes on from that of its parent, component by
component, unless the id of the parent ends in a splat.  A route whose parent
has a URL path therefore never keeps its own as a whole. -/
theorem child_url_extends_parent_url {root : Text} {files : List Text}
    {manifest : Manifest} (built : (build root files).outcome = .ok manifest)
    (closed : ∀ path file, Gives root files path file →
      BracketsClosed file.id) :
    ∀ key route parent, manifest.get? key = some route →
      route.parentId = some parent → ¬ Segments.EndsInSplat parent →
      ∃ segments parentRoute parentSegments,
        Segments.parse key = .ok segments ∧
        manifest.get? parent = some parentRoute ∧
        Segments.parse parent = .ok parentSegments ∧
        urlParts (parentSegments.urlPath? parentRoute.isIndex) <+:
          urlParts (segments.urlPath? route.isIndex) ∧
        ∀ parentPath,
          parentSegments.urlPath? parentRoute.isIndex = some parentPath →
          ∃ path, segments.urlPath? route.isIndex = some path ∧
            parentPath <+: path ∧ route.path ≠ some path := by
  intro key route parent found isParent noSplat
  obtain ⟨segments, parsed⟩ := parse_of_built built found
  rcases path_of_built built found parsed with rootRoute | child
  · rw [rootRoute.1] at isParent
    cases isParent
  · obtain ⟨above, aboveRoute, aboveSegments, isAbove, below, aboveFound,
      aboveParsed, fragment⟩ := child
    obtain rfl : above = parent :=
      Option.some.inj (isAbove.symm.trans isParent)
    have aboveClosed : BracketsClosed above := by
      obtain ⟨path, file, gives, rfl⟩ := gives_of_built built aboveFound
      exact closed path file gives
    have begins := Segments.components_isPrefix aboveParsed parsed below
      aboveClosed noSplat
    refine ⟨segments, aboveRoute, aboveSegments, parsed, aboveFound,
      aboveParsed, ?_⟩
    rw [urlPath?_of_built built found parsed,
      urlPath?_of_built built aboveFound aboveParsed]
    constructor
    · apply urlParts_isPrefix begins
      exact Segments.components_free parsed
    · intro parentPath isPath
      obtain ⟨path, own, longer⟩ := urlOf?_isPrefix begins isPath
      refine ⟨path, own, longer, ?_⟩
      rw [fragment, own, isPath]
      apply Draft.fragment?_ne_own _ longer
      exact (urlOf?_eq_some_iff.mp isPath).1

theorem sample_ids_closed : ∀ path file, Gives [] sampleFiles path file →
    BracketsClosed file.id := by
  exact Gives.forall_of_all (by decide)

theorem sample_child_url_extends_parent_url :
    (build [] sampleFiles).outcome = .ok sampleManifest ∧
      ¬ Segments.EndsInSplat "_b.x.y".toList ∧
      ∃ segments, Segments.parse "_b.x.y.z".toList = .ok segments ∧
        ["x".toList, "y".toList] <+: urlParts (segments.urlPath? false) := by
  have noSplat : ¬ Segments.EndsInSplat "_b.x.y".toList := by
    intro splat
    exact absurd splat.1 (by decide)
  obtain ⟨segments, _, _, parsed, parentFound, parentParsed, extended⟩ :=
    child_url_extends_parent_url build_sample sample_ids_closed
      "_b.x.y.z".toList _ "_b.x.y".toList rfl rfl noSplat
  cases parentFound
  cases parentParsed
  exact ⟨build_sample, noSplat, segments, parsed, extended.1⟩

/-- Files of which one is a splat with a child. -/
def splatFiles : List Text :=
  ["r/x.$.tsx".toList, "r/x.$.y.tsx".toList]

/-- The manifest of the files with a splat. -/
def splatManifest : Manifest where
  entries := [
    ("x.$".toList,
      ⟨"x.$.tsx".toList, "x.$".toList, some "x/*".toList, none, none⟩),
    ("x.$.y".toList,
      ⟨"x.$.y.tsx".toList, "x.$.y".toList, some "x/:/y".toList, none,
        some "x.$".toList⟩)]
  ascending := by
    unfold RouteEntries.Ascending
    decide

theorem build_splat :
    (build "r".toList splatFiles).outcome = .ok splatManifest := by
  simp only [build, RouteFile.readAll, collate, Alphabet.sort_eq_insertion,
    Draft.nest, Draft.longestFirst_eq_insertion]
  decide +kernel

/-- The URL path below a splat does not go on from that of the splat, and the
child keeps it as a whole. -/
theorem splat_parent_url_not_extended :
    (build "r".toList splatFiles).outcome = .ok splatManifest ∧
      (∀ path file, Gives "r".toList splatFiles path file →
        BracketsClosed file.id) ∧
      ∃ key route parent segments parentRoute parentSegments,
        splatManifest.get? key = some route ∧
        route.parentId = some parent ∧
        Segments.parse key = .ok segments ∧
        splatManifest.get? parent = some parentRoute ∧
        Segments.parse parent = .ok parentSegments ∧
        ¬ urlParts (parentSegments.urlPath? parentRoute.isIndex) <+:
          urlParts (segments.urlPath? route.isIndex) ∧
        route.path = segments.urlPath? route.isIndex := by
  refine ⟨build_splat, ?_, "x.$.y".toList, _, _,
    ⟨["x".toList, ":".toList, "y".toList],
      ["x".toList, "$".toList, "y".toList]⟩, _,
    ⟨["x".toList, "*".toList], ["x".toList, "$".toList]⟩, rfl, rfl, by decide,
    rfl, by decide, by decide, by decide⟩
  exact Gives.forall_of_all (by decide)

end FileRouting
