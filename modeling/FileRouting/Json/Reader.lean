import FileRouting.Json

/-!
# Reading JSON

Reading goes through the tokens of a text: blanks vanish when the tokens are
cut, and a value is then read off the tokens.  Each step of the cut returns
what follows the token, which is shorter than what it was given.
-/

namespace FileRouting.Json

/-- The value of the four hexadecimal digits that begin a text, with what
follows them. -/
def readUnit? : Text → Option (Nat × Text)
  | a :: b :: c :: d :: rest =>
      match Text.hexValue? a, Text.hexValue? b, Text.hexValue? c,
          Text.hexValue? d with
      | some a, some b, some c, some d =>
          some (((a * 16 + b) * 16 + c) * 16 + d, rest)
      | _, _, _, _ => none
  | _ => none

theorem readUnit?_length {text rest : Text} {unit : Nat}
    (read : readUnit? text = some (unit, rest)) :
    rest.length < text.length := by
  unfold readUnit? at read
  split at read
  · split at read
    · simp only [Option.some.injEq, Prod.mk.injEq] at read
      obtain ⟨_, rfl⟩ := read
      simp
      omega
    · simp at read
  · simp at read

/-- The character of a unit that is no half of a pair. -/
def unitChar? (unit : Nat) : Option Char :=
  if 0xD800 ≤ unit && unit < 0xE000 then none else some (Char.ofNat unit)

/-- The character of two units that form a pair. -/
def pairChar? (high low : Nat) : Option Char :=
  if 0xD800 ≤ high && high < 0xDC00 && 0xDC00 ≤ low && low < 0xE000 then
    some (Char.ofNat (0x10000 + (high - 0xD800) * 0x400 + (low - 0xDC00)))
  else none

/-- The character that a letter stands for after a `\`. -/
def escaped? (c : Char) : Option Char :=
  if c = '"' then some '"'
  else if c = '\\' then some '\\'
  else if c = '/' then some '/'
  else if c = 'b' then some '\x08'
  else if c = 'f' then some '\x0c'
  else if c = 'n' then some '\n'
  else if c = 'r' then some '\r'
  else if c = 't' then some '\t'
  else none

/-- The character that one or two units name, with what follows them; the text
begins after the first `\u`. -/
def readNamed? (text : Text) : Option (Char × Text) :=
  match readUnit? text with
  | none => none
  | some (unit, rest) =>
      match unitChar? unit, rest with
      | some char, rest => some (char, rest)
      | none, '\\' :: 'u' :: more =>
          match readUnit? more with
          | none => none
          | some (low, after) => (pairChar? unit low).map fun char => (char, after)
      | none, _ => none

theorem readNamed?_length {text rest : Text} {char : Char}
    (read : readNamed? text = some (char, rest)) :
    rest.length < text.length := by
  unfold readNamed? at read
  split at read
  · simp at read
  · next unit middle first =>
      have shorter := readUnit?_length first
      split at read
      · simp only [Option.some.injEq, Prod.mk.injEq] at read
        obtain ⟨_, rfl⟩ := read
        exact shorter
      · split at read
        · simp at read
        · next low after second =>
            have := readUnit?_length second
            simp only [Option.map_eq_some_iff, Prod.mk.injEq] at read
            obtain ⟨_, _, _, rfl⟩ := read
            simp only [List.length_cons] at shorter
            omega
      · simp at read

/-- The first character inside a string, with what follows it. -/
def readChar? : Text → Option (Char × Text)
  | '\\' :: 'u' :: rest => readNamed? rest
  | '\\' :: c :: rest => (escaped? c).map fun char => (char, rest)
  | c :: rest =>
      if c = '\\' || c = '"' || c.toNat < 0x20 then none else some (c, rest)
  | [] => none

theorem readChar?_length {text rest : Text} {char : Char}
    (read : readChar? text = some (char, rest)) :
    rest.length < text.length := by
  unfold readChar? at read
  split at read
  · have := readNamed?_length read
    simp only [List.length_cons]
    omega
  · simp only [Option.map_eq_some_iff, Prod.mk.injEq] at read
    obtain ⟨_, _, _, rfl⟩ := read
    simp only [List.length_cons]
    omega
  · split at read
    · simp at read
    · simp only [Option.some.injEq, Prod.mk.injEq] at read
      obtain ⟨_, rfl⟩ := read
      simp
  · simp at read

/-- The rest of a string up to its closing quote, with what follows it. -/
def readString? (text : Text) : Option (Text × Text) :=
  match text with
  | '"' :: rest => some ([], rest)
  | text =>
      match read : readChar? text with
      | none => none
      | some (char, rest) =>
          have : rest.length < text.length := readChar?_length read
          (readString? rest).map fun (value, after) => (char :: value, after)
termination_by text.length

theorem readString?_length {text value rest : Text}
    (read : readString? text = some (value, rest)) :
    rest.length < text.length := by
  induction size : text.length using Nat.strongRecOn generalizing text value with
  | ind bound induction =>
      unfold readString? at read
      split at read
      · simp only [Option.some.injEq, Prod.mk.injEq] at read
        obtain ⟨_, rfl⟩ := read
        simp at size
        omega
      · split at read
        · simp at read
        · next char middle first =>
            have shorter := readChar?_length first
            simp only [Option.map_eq_some_iff, Prod.mk.injEq,
              Prod.exists] at read
            obtain ⟨_, _, later, _, rfl⟩ := read
            have := induction _ (by omega) later rfl
            omega

/-- Drops digits, of which there must be at least one. -/
def dropDigits? : Text → Option Text
  | c :: rest => if c.isDigit then some (rest.dropWhile Char.isDigit) else none
  | [] => none

/-- Whether a text is a number: an optional sign, digits without a needless
zero, and optionally a fraction and an exponent. -/
def isNumber (text : Text) : Bool :=
  let unsigned := Text.dropOneStart '-' text
  let afterInteger :=
    match unsigned with
    | '0' :: rest => some rest
    | digits => dropDigits? digits
  let afterFraction :=
    match afterInteger with
    | some ('.' :: rest) => dropDigits? rest
    | other => other
  let afterExponent :=
    match afterFraction with
    | some (c :: rest) =>
        if c = 'e' || c = 'E' then
          match rest with
          | '+' :: digits => dropDigits? digits
          | '-' :: digits => dropDigits? digits
          | digits => dropDigits? digits
        else some (c :: rest)
    | other => other
  afterExponent = some []

def isNumberChar (c : Char) : Bool :=
  c.isDigit || c ∈ ['+', '-', '.', 'e', 'E']

/-- Blanks between tokens. -/
def isBlank (c : Char) : Bool :=
  c ∈ [' ', '\t', '\n', '\r']

/-- The token that begins a text, with what follows it. -/
def readToken? : Text → Option (Token × Text)
  | '\x7b' :: rest => some (.openBrace, rest)
  | '\x7d' :: rest => some (.closeBrace, rest)
  | '[' :: rest => some (.openBracket, rest)
  | ']' :: rest => some (.closeBracket, rest)
  | ':' :: rest => some (.colon, rest)
  | ',' :: rest => some (.comma, rest)
  | 'n' :: 'u' :: 'l' :: 'l' :: rest => some (.null, rest)
  | 't' :: 'r' :: 'u' :: 'e' :: rest => some (.bool true, rest)
  | 'f' :: 'a' :: 'l' :: 's' :: 'e' :: rest => some (.bool false, rest)
  | '"' :: rest =>
      (readString? rest).map fun (value, after) => (.string value, after)
  | c :: rest =>
      if isNumber (c :: rest.takeWhile isNumberChar) then
        some (.number (c :: rest.takeWhile isNumberChar),
          rest.dropWhile isNumberChar)
      else none
  | [] => none

theorem readToken?_length {text rest : Text} {token : Token}
    (read : readToken? text = some (token, rest)) :
    rest.length < text.length := by
  unfold readToken? at read
  split at read
  case h_10 =>
    simp only [Option.map_eq_some_iff, Prod.mk.injEq, Prod.exists] at read
    obtain ⟨_, _, later, _, rfl⟩ := read
    have := readString?_length later
    simp
    omega
  case h_11 =>
    split at read
    · simp only [Option.some.injEq, Prod.mk.injEq] at read
      obtain ⟨_, rfl⟩ := read
      have := (List.dropWhile_suffix (l := ‹Text›) isNumberChar).length_le
      simp
      omega
    · simp at read
  case h_12 => simp at read
  all_goals
    simp only [Option.some.injEq, Prod.mk.injEq] at read
    obtain ⟨_, rfl⟩ := read
    simp
    try omega

/-- Cuts a text into tokens. -/
def readTokens? (text : Text) : Option (List Token) :=
  match text with
  | [] => some []
  | c :: rest =>
      if isBlank c then readTokens? rest
      else
        match read : readToken? (c :: rest) with
        | none => none
        | some (token, after) =>
            have : after.length < rest.length + 1 := readToken?_length read
            (readTokens? after).map (token :: ·)
termination_by text.length

mutual

/-- Reads a value off some tokens, with the tokens that follow it.  The number
bounds the depth of the reading. -/
def readValue? : Nat → List Token → Option (Json × List Token)
  | 0, _ => none
  | bound + 1, tokens =>
      match tokens with
      | .null :: rest => some (.null, rest)
      | .bool value :: rest => some (.bool value, rest)
      | .number literal :: rest => some (.number literal, rest)
      | .string value :: rest => some (.string value, rest)
      | .openBracket :: .closeBracket :: rest => some (.array [], rest)
      | .openBracket :: rest =>
          (readItems? bound rest).map fun (items, after) =>
            (.array items, after)
      | .openBrace :: .closeBrace :: rest => some (.object [], rest)
      | .openBrace :: rest =>
          (readMembers? bound rest).map fun (members, after) =>
            (.object members, after)
      | _ => none

/-- Reads the items of an array and its closing bracket. -/
def readItems? : Nat → List Token → Option (List Json × List Token)
  | 0, _ => none
  | bound + 1, tokens =>
      match readValue? bound tokens with
      | some (item, .comma :: rest) =>
          (readItems? bound rest).map fun (later, after) =>
            (item :: later, after)
      | some (item, .closeBracket :: rest) => some ([item], rest)
      | _ => none

/-- Reads the members of an object and its closing brace. -/
def readMembers? : Nat → List Token → Option (List (Text × Json) × List Token)
  | 0, _ => none
  | bound + 1, tokens =>
      match tokens with
      | .string key :: .colon :: tokens =>
          match readValue? bound tokens with
          | some (value, .comma :: rest) =>
              (readMembers? bound rest).map fun (later, after) =>
                ((key, value) :: later, after)
          | some (value, .closeBrace :: rest) => some ([(key, value)], rest)
          | _ => none
      | _ => none

end

/-- Reads a text that holds exactly one value.  Every step down takes a token
or begins the first item of an array, so twice the number of tokens bounds the
depth. -/
def read? (text : Text) : Option Json := do
  let tokens ← readTokens? text
  match readValue? (2 * tokens.length + 1) tokens with
  | some (value, []) => some value
  | _ => none

end FileRouting.Json
