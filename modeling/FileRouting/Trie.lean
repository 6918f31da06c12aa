import FileRouting.Error

/-!
# Prefix tries

A prefix trie stores non-empty texts.  Values are claimed by prefix: a claim
returns the stored texts that start with the prefix and pass a test, and
forgets them, so that each stored text is claimed at most once.

A trie is a list of labelled branches in ascending order of their labels.  A
branch holds the trie of what may follow its label and says whether a stored
text ends there.
-/

namespace FileRouting

/-- Branches of a prefix trie; `nil` has none. -/
inductive Trie where
  | nil
  | node (label : Char) (stored : Bool) (children siblings : Trie)
  deriving DecidableEq, Repr

namespace Trie

def singleton : Text → Trie
  | [] => .nil
  | c :: rest => .node c rest.isEmpty (singleton rest) .nil

/-- Stores one more text.  The empty text leaves a trie as it is. -/
def insert : Trie → Text → Trie
  | trie, [] => trie
  | .nil, text => singleton text
  | .node label stored children siblings, c :: rest =>
      if c = label then
        .node label (stored || rest.isEmpty) (insert children rest) siblings
      else if c < label then
        .node c rest.isEmpty (singleton rest)
          (.node label stored children siblings)
      else .node label stored children (insert siblings (c :: rest))

/-- Stores one more text; the empty text is refused. -/
def add? (trie : Trie) (text : Text) : Except RouteError Trie :=
  if text = [] then .error .emptyRouteId else .ok (trie.insert text)

/-- The stored texts, each before its extensions. -/
def toList : Trie → List Text
  | .nil => []
  | .node label stored children siblings =>
      (if stored then [[label]] else []) ++ children.toList.map (label :: ·) ++
        siblings.toList

/-- What follows a prefix in the stored texts that start with it. -/
def suffixes : Trie → Text → List Text
  | trie, [] => trie.toList
  | .nil, _ :: _ => []
  | .node label stored children siblings, c :: rest =>
      if c = label then
        (if stored && rest.isEmpty then [[]] else []) ++ suffixes children rest
      else suffixes siblings (c :: rest)

/-- Forgets the stored texts that fail a test. -/
def keep : Trie → (Text → Bool) → Trie
  | .nil, _ => .nil
  | .node label stored children siblings, test =>
      .node label (stored && test [label])
        (keep children fun text => test (label :: text)) (keep siblings test)

/-- Forgets the stored texts that start with a prefix and whose rest passes a
test. -/
def release : Trie → Text → (Text → Bool) → Trie
  | trie, [], test => trie.keep fun text => !test text
  | .nil, _ :: _, _ => .nil
  | .node label stored children siblings, c :: rest, test =>
      if c = label then
        .node label (stored && !(rest.isEmpty && test []))
          (release children rest test) siblings
      else .node label stored children (release siblings (c :: rest) test)

/-- The stored texts that start with a prefix and pass a test, with the trie
that is left without them. -/
def claim (trie : Trie) (start : Text) (test : Text → Bool) :
    List Text × Trie :=
  let test := fun suffix => test (start ++ suffix)
  (((trie.suffixes start).filter test).map (start ++ ·),
    trie.release start test)

end Trie

end FileRouting
