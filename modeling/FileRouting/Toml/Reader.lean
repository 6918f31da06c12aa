import FileRouting.Toml.Scalar

/-!
# Reading TOML

A document is read statement by statement, one to a line.  The statements are
then carried out to fill the tables of the document.

Values nest in arrays and tables between braces, and keys in dotted keys; both
may be nested only so deep.
-/

namespace FileRouting.Toml

/-- Blanks inside a line. -/
def isBlank (c : Char) : Bool :=
  c = ' ' || c = '\t'

/-- Characters that may stand in comments and strings on one line: everything
but the control characters, of which only the tab is allowed. -/
def isLineChar (c : Char) : Bool :=
  c = '\t' || (' ' ≤ c && c ≠ '\x7f')

/-- Characters of keys without quotes. -/
def isKeyChar (c : Char) : Bool :=
  c.isAlphanum || c = '-' || c = '_'

/-- Values and keys may be nested less deep than this. -/
def depthLimit : Nat := 80

/-- Drops the blanks that begin a text. -/
def skipBlanks (text : Text) : Text :=
  text.dropWhile isBlank

/-- What follows the line break that begins a text. -/
def skipBreak? : Text → Option Text
  | '\n' :: rest => some rest
  | '\r' :: '\n' :: rest => some rest
  | _ => none

/-- Drops the comment that begins a text, if any. -/
def skipComment : Text → Text
  | '#' :: rest => rest.dropWhile isLineChar
  | text => text

/-- What follows the end of a line, before which only blanks and a comment may
stand. -/
def endLine? (text : Text) : Option Text :=
  match skipComment (skipBlanks text) with
  | [] => some []
  | rest => skipBreak? rest

/-- Drops blanks, line breaks and comments.  Inside a comment nothing but a line
break ends the skipping of characters. -/
def skipGap? (inComment : Bool) : Text → Option Text
  | [] => some []
  | '\n' :: rest => skipGap? false rest
  | '\r' :: '\n' :: rest => skipGap? false rest
  | c :: rest =>
      if inComment then
        if isLineChar c then skipGap? true rest else none
      else if isBlank c then skipGap? false rest
      else if c = '#' then skipGap? true rest
      else some (c :: rest)

def charOf? (code : Nat) : Option Char :=
  if code < 0xD800 || (0xE000 ≤ code && code < 0x110000) then
    some (Char.ofNat code)
  else none

/-- The character that a letter stands for after a `\`. -/
def escaped? (c : Char) : Option Char :=
  if c = 'b' then some '\x08'
  else if c = 't' then some '\t'
  else if c = 'n' then some '\n'
  else if c = 'f' then some '\x0c'
  else if c = 'r' then some '\r'
  else if c = '"' then some '"'
  else if c = '\\' then some '\\'
  else none

/-- Where the reading of a string stands. -/
inductive StringState where
  /-- At a character of the string. -/
  | plain
  /-- After a `\` at the end of a line: blanks and line breaks are dropped. -/
  | folding
  /-- Inside a code point: the digits still to come after the next one, and the
  value so far. -/
  | code (digits value : Nat)
  deriving DecidableEq, Repr

/-- How a string is written. -/
structure StringStyle where
  /-- The quote; only between double quotes a `\` is special. -/
  quote : Char
  /-- Whether the quote is tripled, so that line breaks are allowed. -/
  multiline : Bool
  deriving DecidableEq, Repr

/-- One more character before the rest of a string. -/
def push (c : Char) (rest : Option (Text × Text)) : Option (Text × Text) :=
  rest.map fun (value, after) => (c :: value, after)

/-- What follows the closing quotes, given what follows the first of them.  Up
to two further quotes before a closing triple belong to the string. -/
def closeTriple? (quote : Char) : Text → Option (Text × Text)
  | a :: b :: rest =>
      if a = quote && b = quote then
        match rest with
        | c :: d :: after =>
            if c = quote && d = quote then some ([quote, quote], after)
            else if c = quote then some ([quote], d :: after)
            else some ([], c :: d :: after)
        | [c] => if c = quote then some ([quote], []) else some ([], [c])
        | [] => some ([], [])
      else none
  | _ => none

/-- Reads a string up to its closing quotes, with what follows them. -/
def readString? (style : StringStyle) :
    StringState → Text → Option (Text × Text)
  | _, [] => none
  | .code digits value, c :: rest =>
      match Text.hexValue? c with
      | none => none
      | some digit =>
          let value := value * 16 + digit
          match digits with
          | 0 =>
              match charOf? value with
              | none => none
              | some char => push char (readString? style .plain rest)
          | digits + 1 => readString? style (.code digits value) rest
  | state, c :: rest =>
      if state = .folding && (isBlank c || c = '\n') then
        readString? style .folding rest
      else if state = .folding && c = '\r' && rest.head? = some '\n' then
        readString? style .folding rest
      else if c = style.quote then
        if style.multiline then
          match closeTriple? style.quote rest with
          | some closed => some closed
          | none => push c (readString? style .plain rest)
        else some ([], rest)
      else if c = '\\' && style.quote = '"' then
        match rest with
        | [] => none
        | letter :: later =>
            if letter = 'u' then readString? style (.code 3 0) later
            else if letter = 'U' then readString? style (.code 7 0) later
            else
              match escaped? letter with
              | some char => push char (readString? style .plain later)
              | none =>
                  if style.multiline &&
                      (skipBreak? (skipBlanks (letter :: later))).isSome then
                    readString? style .folding (letter :: later)
                  else none
      else if style.multiline && c = '\n' then
        push c (readString? style .plain rest)
      else if style.multiline && c = '\r' && rest.head? = some '\n' then
        readString? style .plain rest
      else if isLineChar c then push c (readString? style .plain rest)
      else none

/-- Reads a string between single quotes of either kind, given its first
quote. -/
def readLineString? (quote : Char) (text : Text) : Option (Text × Text) :=
  readString? ⟨quote, false⟩ .plain text

/-- Reads a string between triple quotes.  A line break right after the opening
quotes does not count. -/
def readTripleString? (quote : Char) (text : Text) : Option (Text × Text) :=
  readString? ⟨quote, true⟩ .plain ((skipBreak? text).getD text)

/-- Reads a key without dots, with what follows it. -/
def readSimpleKey? : Text → Option (Text × Text)
  | '"' :: rest => readLineString? '"' rest
  | '\'' :: rest => readLineString? '\'' rest
  | text =>
      match text.takeWhile isKeyChar with
      | [] => none
      | key => some (key, text.dropWhile isKeyChar)

/-- Reads a dotted key of at most so many parts, with what follows it and the
blanks after it. -/
def readKey? : Nat → Text → Option (List Text × Text)
  | 0, _ => none
  | parts + 1, text =>
      match readSimpleKey? (skipBlanks text) with
      | none => none
      | some (key, rest) =>
          match skipBlanks rest with
          | '.' :: later =>
              (readKey? parts later).map fun (keys, after) =>
                (key :: keys, after)
          | after => some ([key], after)

mutual

/-- Reads a value inside so many arrays and tables, with what follows it.  The
first number bounds the steps. -/
def readValue? : Nat → Nat → Text → Option (Toml × Text)
  | 0, _, _ => none
  | bound + 1, depth, text =>
      match text with
      | '"' :: '"' :: '"' :: rest =>
          (readTripleString? '"' rest).map fun (value, after) =>
            (.string value, after)
      | '"' :: rest =>
          (readLineString? '"' rest).map fun (value, after) =>
            (.string value, after)
      | '\'' :: '\'' :: '\'' :: rest =>
          (readTripleString? '\'' rest).map fun (value, after) =>
            (.string value, after)
      | '\'' :: rest =>
          (readLineString? '\'' rest).map fun (value, after) =>
            (.string value, after)
      | '[' :: rest =>
          if depth + 1 < depthLimit then
            (readItems? bound (depth + 1) rest).map fun (items, after) =>
              (.array items, after)
          else none
      | '\x7b' :: rest =>
          if depth + 1 < depthLimit then
            match skipBlanks rest with
            | '\x7d' :: after => some (.table .braces [], after)
            | rest =>
                match readPairs? bound (depth + 1) rest with
                | none => none
                | some (pairs, after) =>
                    (ofPairs? pairs).map fun table => (table, after)
          else none
      | text => readScalar? text

/-- Reads the remaining items of an array and its closing bracket. -/
def readItems? : Nat → Nat → Text → Option (List Toml × Text)
  | 0, _, _ => none
  | bound + 1, depth, text =>
      match skipGap? false text with
      | none => none
      | some (']' :: after) => some ([], after)
      | some rest =>
          match readValue? bound depth rest with
          | none => none
          | some (item, rest) =>
              match skipGap? false rest with
              | some (',' :: rest) =>
                  (readItems? bound depth rest).map fun (items, after) =>
                    (item :: items, after)
              | some (']' :: after) => some ([item], after)
              | _ => none

/-- Reads the remaining pairs of a table between braces and its closing
brace. -/
def readPairs? : Nat → Nat → Text → Option (List (List Text × Toml) × Text)
  | 0, _, _ => none
  | bound + 1, depth, text =>
      match readKey? (depthLimit - 1) text with
      | some (keys, '=' :: rest) =>
          match readValue? bound depth (skipBlanks rest) with
          | none => none
          | some (value, rest) =>
              match skipBlanks rest with
              | ',' :: rest =>
                  (readPairs? bound depth rest).map fun (pairs, after) =>
                    ((keys, value) :: pairs, after)
              | '\x7d' :: after => some ([(keys, value)], after)
              | _ => none
      | _ => none

end

/-- Reads one statement up to the end of its line.  The number bounds the steps
of reading a value. -/
def readStatement? (bound : Nat) (text : Text) : Option (Statement × Text) :=
  match text with
  | '[' :: '[' :: rest =>
      match readKey? (depthLimit - 1) rest with
      | some (keys, ']' :: ']' :: rest) =>
          (endLine? rest).map fun after => (.elementHeader keys, after)
      | _ => none
  | '[' :: rest =>
      match readKey? (depthLimit - 1) rest with
      | some (keys, ']' :: rest) =>
          (endLine? rest).map fun after => (.tableHeader keys, after)
      | _ => none
  | text =>
      match readKey? (depthLimit - 1) text with
      | some (keys, '=' :: rest) =>
          match readValue? bound 0 (skipBlanks rest) with
          | none => none
          | some (value, rest) =>
              (endLine? rest).map fun after => (.pair keys value, after)
      | _ => none

/-- Reads the statements of a document.  Each step takes a line, and the second
number bounds the steps of reading a value. -/
def readStatements? : Nat → Nat → Text → Option (List Statement)
  | 0, _, _ => none
  | lines + 1, bound, text =>
      match skipBlanks text with
      | [] => some []
      | c :: rest =>
          match endLine? (c :: rest) with
          | some after => readStatements? lines bound after
          | none =>
              match readStatement? bound (c :: rest) with
              | none => none
              | some (statement, after) =>
                  (readStatements? lines bound after).map fun statements =>
                    statement :: statements

/-- Reads a document.  A byte order mark at its start does not count. -/
def read? (text : Text) : Option Members :=
  let text := Text.dropOneStart '\uFEFF' text
  let bound := 2 * text.length + 1
  match readStatements? bound bound text with
  | none => none
  | some statements => ofStatements? statements

end FileRouting.Toml
