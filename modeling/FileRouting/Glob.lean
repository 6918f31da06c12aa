import FileRouting.Text

/-!
# Globs

A glob is compiled once into a list of tokens and then matched against whole
texts.  A `?` stands for one character, a `*` for any sequence, `[...]` and
`[!...]` for one character inside or outside some ranges.  A `**` forms a path
component of its own and stands for any sequence of components.  No character
is special to matching: `/` and leading dots are matched like all others.

Matching tells apart two kinds of failure.  A text that runs out while a
character is still needed ends the whole search, since a star that takes more
of the text cannot help; any other failure makes the nearest star take more.
-/

namespace FileRouting

/-- One unit of a glob. -/
inductive GlobToken where
  | literal (c : Char)
  | anyOne
  | star
  | deepStar
  | oneOf (ranges : List (Char × Char))
  | noneOf (ranges : List (Char × Char))
  deriving DecidableEq, Repr

/-- What can be wrong with the text of a glob. -/
inductive GlobFault where
  | starRun
  | partialComponent
  | badRange
  deriving DecidableEq, Repr

/-- A fault and the character position that it is reported at. -/
structure GlobError where
  position : Nat
  fault : GlobFault
  deriving DecidableEq, Repr

namespace GlobFault

/-- The wording of a fault. -/
def message : GlobFault → Text
  | .starRun => "wildcards are either regular `*` or recursive `**`".toList
  | .partialComponent =>
      "recursive wildcards must form a single path component".toList
  | .badRange => "invalid range pattern".toList

end GlobFault

namespace GlobError

/-- The wording of an error, with its position. -/
def message (error : GlobError) : Text :=
  "Pattern syntax error near position ".toList ++
    Nat.toDigits 10 error.position ++ ": ".toList ++ error.fault.message

end GlobError

namespace GlobToken

/-- The members of a class read from left to right: three characters with a
dash in the middle are a range, any other character stands for itself. -/
def classRanges : Text → List (Char × Char)
  | low :: '-' :: high :: rest => (low, high) :: classRanges rest
  | c :: rest => (c, c) :: classRanges rest
  | [] => []

/-- Cuts the members of a class from what follows its `]`.  The first member
may be a `]` itself, so a class has at least one member. -/
def cutClass : Text → Option (Text × Text)
  | [] => none
  | first :: rest =>
      match Text.cutFirst ']' rest with
      | some (members, after) => some (first :: members, after)
      | none => none

theorem cutClass_length {text members after : Text}
    (cut : cutClass text = some (members, after)) :
    after.length < text.length := by
  cases text with
  | nil => simp [cutClass] at cut
  | cons first rest =>
      cases later : Text.cutFirst ']' rest with
      | none => simp [cutClass, later] at cut
      | some parts =>
          obtain ⟨before, ending⟩ := parts
          simp only [cutClass, later, Option.some.injEq, Prod.mk.injEq] at cut
          obtain ⟨rfl, rfl⟩ := cut
          simp [Text.cutFirst_eq_some later]
          omega

/-- Reads the class that a `[` opens, with what follows it. -/
def readClass : Text → Option (GlobToken × Text)
  | '!' :: rest =>
      match cutClass rest with
      | some (members, after) => some (.noneOf (classRanges members), after)
      | none => none
  | text =>
      match cutClass text with
      | some (members, after) => some (.oneOf (classRanges members), after)
      | none => none

theorem readClass_length {text after : Text} {token : GlobToken}
    (read : readClass text = some (token, after)) :
    after.length < text.length := by
  unfold readClass at read
  split at read
  · split at read
    · next cut =>
        simp only [Option.some.injEq, Prod.mk.injEq] at read
        obtain ⟨_, rfl⟩ := read
        have shorter := cutClass_length cut
        simp
        omega
    · simp at read
  · split at read
    · next cut =>
        simp only [Option.some.injEq, Prod.mk.injEq] at read
        obtain ⟨_, rfl⟩ := read
        exact cutClass_length cut
    · simp at read

/-- Compiles the rest of a glob that starts at a position.  The flag says
whether a path component may begin there. -/
def compileFrom (position : Nat) (begins : Bool) :
    Text → Except GlobError (List GlobToken)
  | [] => .ok []
  | '*' :: '*' :: '*' :: _ => .error ⟨position + 2, .starRun⟩
  | '*' :: '*' :: rest =>
      if begins then
        match rest with
        | [] => .ok [.deepStar]
        | '/' :: later => do
            let tokens ← compileFrom (position + 3) true later
            return .deepStar :: tokens
        | _ => .error ⟨position + 2, .partialComponent⟩
      else .error ⟨position - 1, .partialComponent⟩
  | '*' :: rest => do
      let tokens ← compileFrom (position + 1) false rest
      return .star :: tokens
  | '?' :: rest => do
      let tokens ← compileFrom (position + 1) false rest
      return .anyOne :: tokens
  | '[' :: rest =>
      match read : readClass rest with
      | none => .error ⟨position, .badRange⟩
      | some (token, after) => do
          have : after.length < rest.length := readClass_length read
          let tokens ←
            compileFrom (position + 1 + (rest.length - after.length)) false after
          return token :: tokens
  | c :: rest => do
      let tokens ← compileFrom (position + 1) (c = '/') rest
      return .literal c :: tokens
termination_by text => text.length

def accepts (c : Char) : GlobToken → Bool
  | .literal expected => c = expected
  | .anyOne => true
  | .oneOf ranges => ranges.any fun (low, high) => low ≤ c && c ≤ high
  | .noneOf ranges => !ranges.any fun (low, high) => low ≤ c && c ≤ high
  | .star => false
  | .deepStar => false

end GlobToken

/-- How an attempt to match ends. -/
inductive GlobOutcome where
  | matched
  | mismatch
  | exhausted
  deriving DecidableEq, Repr

namespace GlobOutcome

/-- Tries a continuation after each character at which a star may stop, the
nearest first, and finally at the end of the text. -/
def searchStops (isStop : Char → Bool) (continuation : Text → GlobOutcome) :
    Text → GlobOutcome
  | [] => continuation []
  | c :: rest =>
      if isStop c then
        match continuation rest with
        | .mismatch => searchStops isStop continuation rest
        | outcome => outcome
      else searchStops isStop continuation rest

/-- Tries a continuation at once, and then at every later stop of a star. -/
def fromStar (isStop : Char → Bool) (continuation : Text → GlobOutcome)
    (text : Text) : GlobOutcome :=
  match continuation text with
  | .mismatch => searchStops isStop continuation text
  | outcome => outcome

/-- Matches tokens against a whole text.  A `*` may stop anywhere, a `**` only
after a `/` or at the end of the text. -/
def ofTokens : List GlobToken → Text → GlobOutcome
  | [], [] => .matched
  | [], _ :: _ => .mismatch
  | .star :: later, text => fromStar (fun _ => true) (ofTokens later) text
  | .deepStar :: later, text => fromStar (· = '/') (ofTokens later) text
  | _ :: _, [] => .exhausted
  | token :: later, c :: rest =>
      if token.accepts c then ofTokens later rest else .mismatch

end GlobOutcome

/-- A compiled glob with the text that it was compiled from. -/
structure Glob where
  source : Text
  tokens : List GlobToken
  deriving DecidableEq, Repr

namespace Glob

def compile (source : Text) : Except GlobError Glob := do
  let tokens ← GlobToken.compileFrom 0 true source
  return { source, tokens }

def isMatch (glob : Glob) (text : Text) : Bool :=
  GlobOutcome.ofTokens glob.tokens text = .matched

end Glob

end FileRouting
