import FileRouting.Collation
import FileRouting.Contest
import FileRouting.Manifest
import FileRouting.Report
import FileRouting.RouteFile
import FileRouting.Trie

/-!
# Building a manifest

A manifest is built from a list of route files in four steps.  The files are
read in collated order, and of those with the same id the first is kept.  Each
route is put below the nearest route whose id, followed by `.` or `/`, begins
its own id.  Of the routes with the same URL the first is kept, and the
children of the others move up to the nearest ancestor that is left.  Each
route that is left keeps the part of its URL path that its parent does not have
already.

Neither a repeated id nor a repeated URL is an error; both are reported as
conflicts, those of ids first.  An error reports no conflict.
-/

namespace FileRouting

/-- A route while the manifest is built: a route file and the position of its
parent among the drafts. -/
structure Draft where
  route : RouteFile
  parent : Option Nat
  deriving DecidableEq, Repr

namespace Draft

/-- Whether a text lies in the namespace of an id, rather than merely sharing
its first characters. -/
def inNamespace (id text : Text) : Bool :=
  match id.isPrefixOf? text with
  | some (c :: _) => c = '.' || c = '/'
  | _ => false

/-- Positions of drafts, those with longer ids first.  What counts is the number
of bytes. -/
def longestFirst (drafts : List Draft) : List Nat :=
  (drafts.zipIdx.mergeSort fun (left, _) (right, _) =>
    Text.byteSize right.route.id ≤ Text.byteSize left.route.id).map (·.2)

/-- Puts some ids below the draft at a position. -/
def adopt (drafts : List Draft) (position : Nat) (ids : List Text) :
    List Draft :=
  drafts.map fun draft =>
    if draft.route.id ∈ ids then { draft with parent := some position }
    else draft

/-- Lets the draft at a position claim the ids that wait for a parent, and then
wait for one itself. -/
def visit (state : Trie × List Draft) (position : Nat) :
    Except RouteError (Trie × List Draft) :=
  let (waiting, drafts) := state
  match drafts[position]? with
  | none => .ok state
  | some draft =>
      let id := draft.route.id
      let (claimed, left) := waiting.claim id (inNamespace id)
      match left.add? id with
      | .error error => .error error
      | .ok waiting => .ok (waiting, adopt drafts position claimed)

/-- Puts each draft below its nearest ancestor.  Longer ids come first, so that
every nearer ancestor has claimed its own descendants before a farther one
comes. -/
def nest (drafts : List Draft) : Except RouteError (List Draft) := do
  let (_, nested) ← (longestFirst drafts).foldlM visit (.nil, drafts)
  return nested

/-- The drafts that compete for URLs, with their positions. -/
def participants (drafts : List Draft) : List (Draft × Nat) :=
  drafts.zipIdx.filter fun (draft, _) => draft.route.participates

/-- Positions of the drafts that lose their URL to an earlier one. -/
def removed (drafts : List Draft) : List Nat :=
  (Contest.losers (fun entrant : Draft × Nat => entrant.1.route.urlKey) []
    (participants drafts)).map (·.2)

def urlConflicts (drafts : List Draft) : List Conflict :=
  (Contest.all (fun entrant : Draft × Nat => entrant.1.route.urlKey)
    (participants drafts)).map fun contest =>
      { kind := .url
        key := contest.key.1
        files := contest.entrants.map fun (draft, _) => draft.route.file }

/-- The nearest position that is not removed, on the way from a parent upwards.
The number bounds the way. -/
def survivor (drafts : List Draft) (removed : List Nat) :
    Nat → Option Nat → Option Nat
  | _, none => none
  | 0, some _ => none
  | bound + 1, some position =>
      if position ∈ removed then
        survivor drafts removed bound
          (drafts[position]?.bind fun draft => draft.parent)
      else some position

/-- Moves the draft at a position below its nearest surviving ancestor. -/
def reattachAt (removed : List Nat) (drafts : List Draft) (position : Nat) :
    List Draft :=
  drafts.modify position fun draft =>
    { draft with
      parent := survivor drafts removed drafts.length draft.parent }

/-- Moves every draft below its nearest surviving ancestor, one after the other.
A draft that was moved already shortens the way of those that pass it. -/
def reattach (drafts : List Draft) (removed : List Nat) : List Draft :=
  (List.range drafts.length).foldl (reattachAt removed) drafts

/-- The part of a URL path that the path of the parent does not have already. -/
def fragment? : Option Text → Option Text → Option Text
  | some own, some parent =>
      let rest := (parent.isPrefixOf? own).getD own
      match Text.dropOneEnd '/' (Text.dropOneStart '/' rest) with
      | [] => none
      | fragment => some fragment
  | own, _ => own

def toRoute (drafts : List Draft) (draft : Draft) : Route :=
  let parent := draft.parent.bind fun position => drafts[position]?
  { file := draft.route.file
    id := draft.route.id
    path := fragment? draft.route.urlPath?
      (parent.bind fun parent => parent.route.urlPath?)
    index := if draft.route.isIndex then some true else none
    parentId := parent.map fun parent => parent.route.id }

def toManifest (drafts : List Draft) (removed : List Nat) : Manifest :=
  let kept := drafts.zipIdx.filter fun (_, position) => position ∉ removed
  Manifest.ofList (kept.map fun (draft, _) =>
    (draft.route.id, toRoute drafts draft))

end Draft

namespace RouteFile

/-- The conflicts of the files that give one id. -/
def idConflicts (files : List RouteFile) : List Conflict :=
  (Contest.all RouteFile.id files).map fun contest =>
    { kind := .routeId
      key := contest.key
      files := contest.entrants.map RouteFile.file }

/-- The files that keep their id. -/
def candidates (files : List RouteFile) : List RouteFile :=
  Contest.winners RouteFile.id files

/-- Reads route files in collated order. -/
def readAll (root : Text) (files : List Text) :
    Except RouteError (List RouteFile) :=
  (collate (files.map Path.slashed)).mapM (read (Path.root root))

end RouteFile

/-- Builds the manifest of some route files below a routes root. -/
def build (root : Text) (files : List Text) : Report Manifest := do
  let files ← Report.ofExcept (RouteFile.readAll root files)
  let drafts ← Report.ofExcept (Draft.nest
    ((RouteFile.candidates files).map fun route => { route, parent := none }))
  let removed := Draft.removed drafts
  { conflicts := RouteFile.idConflicts files ++ Draft.urlConflicts drafts
    outcome := .ok
      (Draft.toManifest (Draft.reattach drafts removed) removed) }

end FileRouting
