import FileRouting.Error

/-!
# Segments of a route id

A route id is cut into pieces at `.`, `/` and `\`, except where these stand
inside brackets.  A piece is the written form of a segment.  Its translated
form is what the segment says about URLs: a `$` that begins a segment becomes
the mark `:` of a parameter, or the mark `*` of a splat if it ends the whole
id; what stands in brackets is copied; the `)` that closes an optional group
becomes a `?`.  An optional group may reach over several pieces.

A piece that translates to nothing is dropped.  Every other piece must be free
of `*` and `:`, which only translation may introduce, and its translated form
must be free of `/`, which would split the URL once more.
-/

namespace FileRouting

/-- Characters that end a segment of a route id. -/
def isSeparator (c : Char) : Bool :=
  c = '/' || c = '.' || c = '\\'

/-- Whether a bracket is open after a character, given whether one was open
before it. -/
def bracketAfter (inside : Bool) (c : Char) : Bool :=
  if inside then c ≠ ']' else c = '['

/-- Cuts a text at the separators that stand outside brackets. -/
def cutSegments (inside : Bool) : Text → List Text
  | [] => [[]]
  | c :: rest =>
      if !inside && isSeparator c then [] :: cutSegments false rest
      else
        match cutSegments (bracketAfter inside c) rest with
        | [] => [[c]]
        | piece :: later => (c :: piece) :: later

/-- Where the reading of an id stands: inside brackets, inside an optional
group, inside both or inside neither. -/
structure Reading where
  bracket : Bool
  optionalGroup : Bool
  deriving DecidableEq, Repr

namespace Reading

/-- The reading of an id begins outside brackets and optional groups. -/
def start : Reading := ⟨false, false⟩

/-- The reading after one more character. -/
def next (reading : Reading) (c : Char) : Reading where
  bracket := bracketAfter reading.bracket c
  optionalGroup :=
    if reading.bracket then reading.optionalGroup
    else if reading.optionalGroup then c ≠ ')'
    else c = '('

def after (reading : Reading) (piece : Text) : Reading :=
  piece.foldl next reading

/-- The character that one character of a piece is translated to, if any.  The
flags say whether the translated form is still empty, and whether the character
ends the whole id. -/
def translateChar (reading : Reading) (opening ending : Bool) (c : Char) :
    Option Char :=
  if reading.bracket then
    if c = ']' then none else some c
  else if c = '[' then none
  else if c = '(' && !reading.optionalGroup then none
  else if c = ')' && reading.optionalGroup then some '?'
  else if c = '$' && opening then some (if ending then '*' else ':')
  else some c

/-- The translated form of the rest of a piece. -/
def translateFrom (reading : Reading) (opening last : Bool) : Text → Text
  | [] => []
  | c :: rest =>
      match reading.translateChar opening (last && rest.isEmpty) c with
      | none => translateFrom (reading.next c) opening last rest
      | some translated =>
          translated :: translateFrom (reading.next c) false last rest

/-- The translated form of a piece.  The flag says whether it is the last piece
of the id. -/
def translate (reading : Reading) (last : Bool) (piece : Text) : Text :=
  reading.translateFrom true last piece

end Reading

/-- The segments of a route id in order, in two parallel lists. -/
structure Segments where
  translated : List Text
  written : List Text
  deriving DecidableEq, Repr

namespace Segments

def empty : Segments := ⟨[], []⟩

/-- One more segment before the others. -/
def cons (translated written : Text) (segments : Segments) : Segments :=
  ⟨translated :: segments.translated, written :: segments.written⟩

/-- Number of segments. -/
def size (segments : Segments) : Nat :=
  segments.translated.length

/-- Each translated form with the written form at the same place. -/
def pairs (segments : Segments) : List (Text × Text) :=
  segments.translated.zip segments.written

def lastWritten? (segments : Segments) : Option Text :=
  segments.written.getLast?

/-- Whether the segments name an index route. -/
def isIndex (segments : Segments) : Bool :=
  segments.lastWritten? = some "_index".toList

/-- Whether the segments name a layout that adds nothing to a URL. -/
def isPathlessLayout (segments : Segments) : Bool :=
  match segments.lastWritten? with
  | some written => written.head? = some '_' && written ≠ "_index".toList
  | none => false

/-- The first fault of a segment: `*` is looked for before `:` and `:` before
`/`, the first two in the written form and the last in the translated form. -/
def fault? (translated written : Text) : Option (Text × Char) :=
  if '*' ∈ written then some (written, '*')
  else if ':' ∈ written then some (written, ':')
  else if '/' ∈ translated then some (translated, '/')
  else none

/-- Reads the remaining pieces of an id. -/
def ofPieces (id : Text) (reading : Reading) :
    List Text → Except RouteError Segments
  | [] => .ok empty
  | piece :: later =>
      let translated := reading.translate later.isEmpty piece
      if translated = [] then ofPieces id (reading.after piece) later
      else
        match fault? translated piece with
        | some (offending, mark) => .error (.invalidSegment id offending mark)
        | none =>
            match ofPieces id (reading.after piece) later with
            | .error error => .error error
            | .ok segments => .ok (segments.cons translated piece)

/-- Reads a route id into segments. -/
def parse (id : Text) : Except RouteError Segments :=
  ofPieces id .start (cutSegments false id)

end Segments

end FileRouting
