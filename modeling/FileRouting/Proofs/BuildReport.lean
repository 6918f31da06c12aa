import FileRouting.Proofs.BuildResult
import FileRouting.Proofs.ReadFiles

/-!
# What a build reports

A build fails only if a file cannot be read.  A trie refuses nothing but the
empty id, and no file has that id: a folder that is the directory of a file has
a name, and dropping an extension never drops a whole name.

The main statement gives the whole report of a build, conflicts included, in
terms of the routes that were read.
-/

namespace FileRouting

namespace Path

theorem length_name_le (path : Text) : (name path).length ≤ path.length := by
  rw [name]
  split
  · next before after cut =>
      have whole := congrArg List.length (Text.cutLast_eq_some cut)
      simp only [List.length_append, List.length_cons] at whole
      omega
  · exact Nat.le_refl _

theorem length_extension?_lt {path extension : Text}
    (found : extension? path = some extension) :
    extension.length < path.length := by
  rw [extension?] at found
  split at found
  · next first before after cut =>
      cases found
      have whole := congrArg List.length (Text.cutLast_eq_some cut)
      have bound := length_name_le path
      simp only [List.length_append, List.length_cons] at whole ⊢
      omega
  · cases found

theorem stem_ne_nil {path : Text} (nonempty : path ≠ []) :
    stem path ≠ [] := by
  have positive := List.length_pos_iff.mpr nonempty
  rw [stem]
  split
  · next extension found =>
      have shorter := length_extension?_lt found
      apply List.length_pos_iff.mp
      rw [List.length_take]
      omega
  · exact nonempty

end Path

namespace RouteFile

theorem idOf_ne_nil {relative : Text} (nonempty : relative ≠ []) :
    idOf relative ≠ [] := by
  rw [idOf]
  split
  · exact Path.stem_ne_nil nonempty
  · next inFolder => exact inFolder

theorem locate_eq_ok_iff {root file relative : Text} :
    locate root file = .ok relative ↔
      Path.relativeTo? root file = some relative ∧ relative ≠ [] := by
  unfold locate
  split
  · next c rest found =>
      rw [found, Except.ok.injEq, Option.some.injEq]
      constructor
      · rintro rfl
        exact ⟨rfl, List.cons_ne_nil c rest⟩
      · exact fun accepted => accepted.1
  · next refused =>
      constructor
      · intro accepted
        cases accepted
      · rintro ⟨found, nonempty⟩
        obtain ⟨c, rest, rfl⟩ := List.exists_cons_of_ne_nil nonempty
        exact absurd found (refused c rest)

theorem id_ne_nil_of_mem {root : Text} {files : List Text}
    {read : List RouteFile} (reading : readAll root files = .ok read)
    {route : RouteFile} (member : route ∈ read) : route.id ≠ [] := by
  obtain ⟨entrants, rfl, inOrder⟩ := readAll_eq_ok reading
  obtain ⟨entrant, entered, rfl⟩ := List.mem_map.mp member
  have accepted := ((inOrder.gives entrant).mp entered).2
  obtain ⟨located, isId, _⟩ := read_eq_ok_iff.mp accepted
  rw [isId]
  apply idOf_ne_nil
  exact (locate_eq_ok_iff.mp located).2

def urlConflicts (routes : List RouteFile) : List Conflict :=
  (Contest.all urlKey (routes.filter RouteFile.participates)).map
    fun contest =>
      { kind := .url
        key := contest.key.1
        files := contest.entrants.map RouteFile.file }

/-- The conflicts among some routes, those of ids first. -/
def conflicts (files : List RouteFile) : List Conflict :=
  idConflicts files ++ urlConflicts (candidates files)

end RouteFile

namespace Draft

theorem urlConflicts_eq (drafts : List Draft) :
    urlConflicts drafts = RouteFile.urlConflicts (drafts.map route) := by
  rw [urlConflicts, RouteFile.urlConflicts, ← routes_participants,
    Contest.all_map, List.map_map]
  apply List.map_congr_left
  intro contest _
  simp [Function.comp_def]

theorem visit_total {state : Trie × List Draft} (named : [] ∉ ids state.2)
    (position : Nat) :
    ∃ next, visit state position = .ok next ∧ ids next.2 = ids state.2 := by
  obtain ⟨waiting, drafts⟩ := state
  cases found : drafts[position]? with
  | none => exact ⟨(waiting, drafts), by simp [visit, found], rfl⟩
  | some draft =>
      have nonempty : draft.route.id ≠ [] := by
        intro empty
        apply named
        rw [← empty]
        exact List.mem_map_of_mem (List.mem_of_getElem? found)
      let claim := waiting.claim draft.route.id (inNamespace draft.route.id)
      have step : visit (waiting, drafts) position =
          .ok (claim.2.insert draft.route.id,
            adopt drafts position claim.1) := by
        simp [visit, found, Trie.add?, nonempty, claim]
      refine ⟨_, step, ?_⟩
      rw [ids_eq_map_route, routes_adopt, ← ids_eq_map_route]

theorem foldlM_visit_total {state : Trie × List Draft}
    (named : [] ∉ ids state.2) (positions : List Nat) :
    ∃ next, positions.foldlM visit state = .ok next := by
  induction positions generalizing state with
  | nil => exact ⟨state, rfl⟩
  | cons position later induction =>
      obtain ⟨middle, step, sameIds⟩ := visit_total named position
      rw [← sameIds] at named
      obtain ⟨next, run⟩ := induction named
      refine ⟨next, ?_⟩
      simpa only [List.foldlM_cons, step, bind, Except.bind] using run

theorem nest_total {drafts : List Draft} (named : [] ∉ ids drafts) :
    ∃ nested, nest drafts = .ok nested := by
  have start : [] ∉ ids ((.nil, drafts) : Trie × List Draft).2 := named
  obtain ⟨⟨waiting, nested⟩, run⟩ :=
    foldlM_visit_total start (longestFirst drafts)
  refine ⟨nested, ?_⟩
  simp only [nest, run, bind, Except.bind, pure, Except.pure]

end Draft

theorem RouteFile.nest_candidates {root : Text} {files : List Text}
    {read : List RouteFile} (reading : readAll root files = .ok read) :
    ∃ nested, Draft.nest ((candidates read).map fun route =>
        { route, parent := none }) = .ok nested ∧
      nested.map Draft.route = candidates read := by
  have named : [] ∉ Draft.ids ((candidates read).map fun route =>
      { route, parent := none }) := by
    intro member
    rw [Draft.ids, List.map_map] at member
    obtain ⟨route, candidate, empty⟩ := List.mem_map.mp member
    apply id_ne_nil_of_mem reading _ empty
    exact (Contest.winners_sublist RouteFile.id read).subset candidate
  obtain ⟨nested, nesting⟩ := Draft.nest_total named
  exact ⟨nested, nesting, (Draft.nest_fresh nesting).1⟩

/-- A build fails exactly if reading does, and then reports no conflict.
Otherwise it reports the conflicts among the routes that were read, and returns
the manifest of the survivors. -/
theorem build_eq (root : Text) (files : List Text) :
    build root files =
      match RouteFile.readAll root files with
      | .error error => ⟨[], .error error⟩
      | .ok read =>
          ⟨RouteFile.conflicts read,
            .ok (RouteFile.manifest (RouteFile.survivors read))⟩ := by
  cases reading : RouteFile.readAll root files with
  | error error =>
      simp [build, reading, bind, Report.andThen, Report.ofExcept]
  | ok read =>
      obtain ⟨nested, nesting, routes⟩ := RouteFile.nest_candidates reading
      have report : build root files =
          ⟨RouteFile.conflicts read,
            .ok (Draft.toManifest
              (Draft.reattach nested (Draft.removed nested))
              (Draft.removed nested))⟩ := by
        simp [build, reading, nesting, bind, Report.andThen, Report.ofExcept,
          RouteFile.conflicts, Draft.urlConflicts_eq, routes]
      obtain ⟨again, readAgain, same⟩ :=
        build_eq_manifest (congrArg Report.outcome report)
      rw [reading, Except.ok.injEq] at readAgain
      rw [report, same, readAgain]

theorem build_eq_of_readAll {root : Text} {files : List Text}
    {read : List RouteFile}
    (reading : RouteFile.readAll root files = .ok read) :
    build root files =
      ⟨RouteFile.conflicts read,
        .ok (RouteFile.manifest (RouteFile.survivors read))⟩ := by
  rw [build_eq, reading]

/-- Files of which one comes twice and loses both times, once its id and once
its URL. -/
def rivalFiles : List Text :=
  ["r/a.t".toList, "r\\a.t".toList, "r/a/x.t".toList, "r/_l.a.t".toList,
    "r/a.b.t".toList]

def rivalManifest : Manifest where
  entries := [
    ("_l.a".toList,
      ⟨"_l.a.t".toList, "_l.a".toList, some "a".toList, none, none⟩),
    ("a.b".toList,
      ⟨"a.b.t".toList, "a.b".toList, some "a/b".toList, none, none⟩)]
  ascending := by
    unfold RouteEntries.Ascending
    decide

theorem build_rivals :
    (build "r/".toList rivalFiles).outcome = .ok rivalManifest := by
  simp only [build, RouteFile.readAll, collate, Alphabet.sort_eq_insertion,
    Draft.nest, Draft.longestFirst_eq_insertion]
  decide +kernel

end FileRouting
