import FileRouting.Text
import FileRouting.Unicode.Alphabetic
import FileRouting.Unicode.Case
import FileRouting.Unicode.Numeric
import FileRouting.Unicode.WhiteSpace

/-!
# Collation

Which of two competing files wins depends on the order in which the files are
visited, and directories list their files in any order.  Files are therefore
visited in collated order.

Two texts are compared twice from left to right.  The first pass looks at the
class and the case fold of each character; the second, which decides only if
the first finds no difference, puts lower case first and then goes by code
points.  Distinct texts are never equal, so that sorting leaves no choice.
-/

namespace FileRouting

/-- Classes of characters, in the order in which texts sort. -/
inductive CharClass where
  | whiteSpace
  | punctuation
  | currency
  | digit
  | letter
  | other
  deriving DecidableEq, Repr

namespace CharClass

/-- Position of a class in the order. -/
def rank : CharClass → Nat
  | .whiteSpace => 0
  | .punctuation => 1
  | .currency => 2
  | .digit => 3
  | .letter => 4
  | .other => 5

/-- Signs of currency that sort after punctuation. -/
def isCurrency (c : Char) : Bool :=
  c ∈ ['$', '¢', '£', '¥', '€']

/-- The punctuation and the symbols of ASCII. -/
def isPunctuation (c : Char) : Bool :=
  ('!' ≤ c && c ≤ '/') || (':' ≤ c && c ≤ '@') || ('[' ≤ c && c ≤ '\x60') ||
    ('\x7b' ≤ c && c ≤ '~')

def of (c : Char) : CharClass :=
  if isWhiteSpace c then .whiteSpace
  else if isCurrency c then .currency
  else if isPunctuation c then .punctuation
  else if isNumeric c then .digit
  else if isAlphabetic c then .letter
  else .other

end CharClass

/-- What a collation knows about characters. -/
structure Alphabet where
  /-- Rank of the class of a character. -/
  rank : Char → Nat
  /-- Case fold of a character. -/
  fold : Char → Char
  /-- Whether a character is lower case. -/
  isLower : Char → Bool

namespace Alphabet

def unicode : Alphabet where
  rank c := (CharClass.of c).rank
  fold := foldCase
  isLower := isLowercase

/-- Order of characters by class and case fold. -/
def compareBase (alphabet : Alphabet) (left right : Char) : Ordering :=
  (compare (alphabet.rank left) (alphabet.rank right)).then
    (compare (alphabet.fold left) (alphabet.fold right))

/-- Order of characters by case, lower case first, and code point. -/
def compareCase (alphabet : Alphabet) (left right : Char) : Ordering :=
  (compare (!alphabet.isLower left) (!alphabet.isLower right)).then
    (compare left right)

/-- Order of texts: by class and case fold first, by case and code point
second. -/
def compareText (alphabet : Alphabet) (left right : Text) : Ordering :=
  (List.compareLex alphabet.compareBase left right).then
    (List.compareLex alphabet.compareCase left right)

def sort (alphabet : Alphabet) (texts : List Text) : List Text :=
  texts.mergeSort fun left right => (alphabet.compareText left right).isLE

end Alphabet

/-- Texts in the collated order of Unicode. -/
def collate (texts : List Text) : List Text :=
  Alphabet.unicode.sort texts

end FileRouting
