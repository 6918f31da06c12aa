import FileRouting.Toml

/-!
# TOML scalars without quotes

Truth values, integers, floating-point numbers, dates and times.  Each is
recognised from its whole text, which reaches as far as the characters that
scalars are made of.

Integers have to fit 64 bits with a sign.  A floating-point number may be
negative without bound but must not be so large that it rounds to positive
infinity.  Dates are checked against the calendar, and a minute may have a leap
second.
-/

namespace FileRouting.Toml

/-- Characters that scalars without quotes are made of. -/
def isScalarChar (c : Char) : Bool :=
  c.isAlphanum || c ∈ ['+', '-', '_', '.', ':']

/-- The digits of a number without the `_` between them.  A `_` has to stand
between two digits. -/
def ungroup? (isDigit : Char → Bool) : Text → Option Text
  | [] => none
  | [c] => if isDigit c then some [c] else none
  | c :: '_' :: rest =>
      if isDigit c then (ungroup? isDigit rest).map fun rest => c :: rest
      else none
  | c :: rest =>
      if isDigit c then (ungroup? isDigit rest).map fun rest => c :: rest
      else none

def valueOf (base : Nat) (digits : Text) : Nat :=
  digits.foldl
    (fun value digit => value * base + (Text.hexValue? digit).getD 0) 0

/-- The digits of a decimal number that has no needless zero. -/
def decimal? (text : Text) : Option Text :=
  match text with
  | '0' :: _ :: _ => none
  | text => ungroup? Char.isDigit text

/-- A text without a leading sign, and whether the sign is a minus. -/
def unsign : Text → Bool × Text
  | '+' :: rest => (false, rest)
  | '-' :: rest => (true, rest)
  | text => (false, text)

/-- Integers are less than this, and minus this at least. -/
def integerBound : Nat :=
  Nat.pow 2 63

/-- The value of digits in a base, if it is an integer within the bound. -/
def based? (base : Nat) (digits : Option Text) : Option Int := do
  let digits ← digits
  let value := valueOf base digits
  if value < integerBound then some (Int.ofNat value) else none

/-- Reads an integer. -/
def integer? : Text → Option Int
  | '0' :: 'x' :: rest =>
      based? 16 (ungroup? (fun c => (Text.hexValue? c).isSome) rest)
  | '0' :: 'o' :: rest =>
      based? 8 (ungroup? (fun c => '0' ≤ c && c ≤ '7') rest)
  | '0' :: 'b' :: rest =>
      based? 2 (ungroup? (fun c => c = '0' || c = '1') rest)
  | text => do
      let (negative, rest) := unsign text
      let digits ← decimal? rest
      let value := valueOf 10 digits
      if negative then
        if value ≤ integerBound then some (-Int.ofNat value) else none
      else if value < integerBound then some (Int.ofNat value)
      else none

/-- Whether digits times a power of ten round to infinity as a floating-point
number of 64 bits.  Far from the bound the number of digits decides. -/
def roundsToInfinity (digits : Text) (exponent : Int) : Bool :=
  let bound := Nat.pow 2 1024 - Nat.pow 2 970
  let value := valueOf 10 digits
  let size := (digits.dropWhile (· = '0')).length
  if value = 0 || exponent + size < 300 then false
  else if 400 < exponent + size then true
  else if 0 ≤ exponent then bound ≤ value * Nat.pow 10 exponent.toNat
  else bound * Nat.pow 10 (-exponent).toNat ≤ value

/-- Whether a text is a floating-point number: an integer part, and a fraction
or an exponent or both. -/
def isFloat (text : Text) : Bool :=
  let (negative, unsigned) := unsign text
  if unsigned = "inf".toList || unsigned = "nan".toList then true
  else
    let (mantissa, exponent) :=
      match unsigned.span fun c => c ≠ 'e' && c ≠ 'E' with
      | (mantissa, _ :: exponent) => (mantissa, some exponent)
      | (mantissa, []) => (mantissa, none)
    let (whole, fraction) :=
      match Text.cutFirst '.' mantissa with
      | some (whole, fraction) => (whole, some fraction)
      | none => (mantissa, none)
    let parts := do
      let whole ← decimal? whole
      let fraction ← match fraction with
        | none => some []
        | some fraction => ungroup? Char.isDigit fraction
      let exponent ← match exponent with
        | none => some 0
        | some exponent =>
            let (negative, digits) := unsign exponent
            (ungroup? Char.isDigit digits).map fun digits =>
              if negative then -Int.ofNat (valueOf 10 digits)
              else Int.ofNat (valueOf 10 digits)
      return (whole ++ fraction, exponent - fraction.length)
    match parts with
    | none => false
    | some (digits, power) =>
        (fraction.isSome || exponent.isSome) &&
          (negative || !roundsToInfinity digits power)

/-- The value of exactly so many decimal digits at the start of a text, with
what follows them. -/
def readDigits? (count : Nat) (text : Text) : Option (Nat × Text) :=
  let digits := text.take count
  if digits.length = count && digits.all Char.isDigit then
    some (valueOf 10 digits, text.drop count)
  else none

def daysIn (year month : Nat) : Nat :=
  if month = 2 then
    if year % 4 = 0 && (year % 100 ≠ 0 || year % 400 = 0) then 29 else 28
  else if month ∈ [4, 6, 9, 11] then 30
  else 31

/-- Reads a date of the calendar, with what follows it. -/
def readDate? (text : Text) : Option Text := do
  let (year, text) ← readDigits? 4 text
  let text ← ['-'].isPrefixOf? text
  let (month, text) ← readDigits? 2 text
  let text ← ['-'].isPrefixOf? text
  let (day, text) ← readDigits? 2 text
  if 1 ≤ month && month ≤ 12 && 1 ≤ day && day ≤ daysIn year month then
    some text
  else none

/-- Reads an hour and a minute, with what follows them. -/
def readMinute? (text : Text) : Option Text := do
  let (hour, text) ← readDigits? 2 text
  let text ← [':'].isPrefixOf? text
  let (minute, text) ← readDigits? 2 text
  if hour ≤ 23 && minute ≤ 59 then some text else none

/-- Reads a time of day, with what follows it. -/
def readTime? (text : Text) : Option Text := do
  let text ← readMinute? text
  let text ← [':'].isPrefixOf? text
  let (second, text) ← readDigits? 2 text
  if 60 < second then none
  else
    match text with
    | '.' :: digit :: rest =>
        if digit.isDigit then some (rest.dropWhile Char.isDigit) else none
    | text => some text

def isTime (text : Text) : Bool :=
  readTime? text = some []

/-- Whether a text is a time of day, with or without an offset. -/
def isOffsetTime (text : Text) : Bool :=
  match readTime? text with
  | none => false
  | some [] => true
  | some [c] => c = 'Z' || c = 'z'
  | some (c :: offset) =>
      (c = '+' || c = '-') && readMinute? offset = some []

/-- Whether a text is a date without a time. -/
def isDate (text : Text) : Bool :=
  readDate? text = some []

/-- Whether a text is a date, a time, or both with a `T` in between. -/
def isDateTime (text : Text) : Bool :=
  match readDate? text with
  | some [] => true
  | some (c :: time) => (c = 'T' || c = 't') && isOffsetTime time
  | none => isTime text

/-- Reads a whole text as a scalar without quotes. -/
def ofScalar? (text : Text) : Option Toml :=
  if text = "true".toList then some (.bool true)
  else if text = "false".toList then some (.bool false)
  else
    match integer? text with
    | some value => some (.integer value)
    | none =>
        if isDateTime text then some (.dateTime text)
        else if isFloat text then some (.float text)
        else none

/-- Reads the scalar without quotes that begins a text, with what follows it.  A
blank may separate a date from a time. -/
def readScalar? (text : Text) : Option (Toml × Text) :=
  let first := text.takeWhile isScalarChar
  let rest := text.dropWhile isScalarChar
  match isDate first, rest with
  | true, ' ' :: c :: later =>
      if isScalarChar c then
        let time := (c :: later).takeWhile isScalarChar
        if isOffsetTime time then
          some (.dateTime (first ++ ' ' :: time),
            (c :: later).dropWhile isScalarChar)
        else none
      else some (.dateTime first, rest)
  | _, _ => (ofScalar? first).map fun value => (value, rest)

end FileRouting.Toml
