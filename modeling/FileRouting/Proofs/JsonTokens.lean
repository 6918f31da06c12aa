import FileRouting.Json.Reader
import Mathlib.Tactic.SplitIfs

/-!
# Tokens and their texts

A string is written with its quotes and with some of its characters escaped, and
reading undoes this character by character.  Only a number could run into what
follows it.  All other tokens end by themselves, so that a text without numbers
is cut into the tokens it was put together from, whatever blanks stand between
them.
-/

namespace FileRouting.Json

theorem hexValue?_digitChar {digit : Nat} (bound : digit < 16) :
    Text.hexValue? (Nat.digitChar digit) = some digit := by
  have all : ∀ digit : Fin 16,
      Text.hexValue? (Nat.digitChar digit) = some digit.val := by decide
  exact all ⟨digit, bound⟩

/-- A control character is read back from its four digits. -/
theorem readNamed?_control {c : Char} (control : c.toNat < 0x20)
    (rest : Text) :
    readNamed? ('0' :: '0' :: Nat.digitChar (c.toNat / 16) ::
      Nat.digitChar (c.toNat % 16) :: rest) = some (c, rest) := by
  have zero : Text.hexValue? '0' = some 0 := by decide
  have high : Text.hexValue? (Nat.digitChar (c.toNat / 16)) =
      some (c.toNat / 16) := hexValue?_digitChar (by omega)
  have low : Text.hexValue? (Nat.digitChar (c.toNat % 16)) =
      some (c.toNat % 16) := hexValue?_digitChar (by omega)
  have whole : ((0 * 16 + 0) * 16 + c.toNat / 16) * 16 + c.toNat % 16 =
      c.toNat := by omega
  have isChar : unitChar? c.toNat = some c := by
    have single : ¬ 0xD800 ≤ c.toNat := by omega
    rw [unitChar?, if_neg (by simp [single]), Char.ofNat_toNat]
  simp only [readNamed?, readUnit?, zero, high, low, whole, isChar]

theorem readChar?_plain {c : Char} (noQuote : c ≠ '"') (noBackslash : c ≠ '\\')
    (printable : ¬ c.toNat < 0x20) (rest : Text) :
    readChar? (c :: rest) = some (c, rest) := by
  rw [readChar?.eq_def]
  split
  · next whole =>
      cases whole
      exact absurd rfl noBackslash
  · next whole =>
      cases whole
      exact absurd rfl noBackslash
  · next whole =>
      cases whole
      rw [if_neg]
      simp only [Bool.or_eq_true, decide_eq_true_eq]
      rintro ((backslash | quote) | control)
      · exact noBackslash backslash
      · exact noQuote quote
      · exact printable control
  · next whole => cases whole

theorem readChar?_escapeChar (c : Char) (rest : Text) :
    readChar? (escapeChar c ++ rest) = some (c, rest) := by
  unfold escapeChar
  split_ifs with isQuote isBackslash isBackspace isFeed isNewLine isReturn isTab
    control
  · rw [isQuote]; rfl
  · rw [isBackslash]; rfl
  · rw [isBackspace]; rfl
  · rw [isFeed]; rfl
  · rw [isNewLine]; rfl
  · rw [isReturn]; rfl
  · rw [isTab]; rfl
  · exact readNamed?_control control rest
  · exact readChar?_plain isQuote isBackslash control rest

theorem readString?_of_readChar? {text rest : Text} {c : Char}
    (read : readChar? text = some (c, rest)) :
    readString? text =
      (readString? rest).map fun (value, after) => (c :: value, after) := by
  rw [readString?.eq_def]
  split
  · cases read
  · split
    · next failed =>
        rw [read] at failed
        cases failed
    · next found =>
        rw [read] at found
        cases found
        rfl

theorem readString?_escaped (value rest : Text) :
    readString? (value.flatMap escapeChar ++ '"' :: rest) =
      some (value, rest) := by
  induction value with
  | nil =>
      rw [List.flatMap_nil, List.nil_append, readString?.eq_def]
      rfl
  | cons c later induction =>
      rw [List.flatMap_cons, List.append_assoc,
        readString?_of_readChar? (readChar?_escapeChar c _), induction]
      rfl

namespace Token

def isNumber : Token → Bool
  | .number _ => true
  | _ => false

theorem readToken?_toText {token : Token} (ends : token.isNumber = false)
    (rest : Text) :
    readToken? (token.toText ++ rest) = some (token, rest) := by
  cases token with
  | number literal => cases ends
  | bool value => cases value <;> rfl
  | string value =>
      have whole : (Token.string value).toText ++ rest =
          '"' :: (value.flatMap escapeChar ++ '"' :: rest) := by
        simp only [toText, quote, List.cons_append, List.append_assoc,
          List.nil_append]
      have begun : ∀ text, readToken? ('"' :: text) =
          (readString? text).map fun (value, after) => (.string value, after) :=
        fun _ => rfl
      rw [whole, begun, readString?_escaped]
      rfl
  | _ => rfl

theorem exists_toText_eq_cons {token : Token} (ends : token.isNumber = false) :
    ∃ c rest, token.toText = c :: rest ∧ isBlank c = false := by
  cases token with
  | number literal => cases ends
  | bool value => cases value <;> exact ⟨_, _, rfl, rfl⟩
  | _ => exact ⟨_, _, rfl, rfl⟩

end Token

theorem readTokens?_blank {c : Char} (blank : isBlank c = true) (rest : Text) :
    readTokens? (c :: rest) = readTokens? rest := by
  rw [readTokens?, if_pos blank]

theorem readTokens?_toText {token : Token} (ends : token.isNumber = false)
    (rest : Text) :
    readTokens? (token.toText ++ rest) =
      (readTokens? rest).map (token :: ·) := by
  obtain ⟨c, later, whole, noBlank⟩ := token.exists_toText_eq_cons ends
  have read := token.readToken?_toText ends rest
  rw [whole, List.cons_append] at read ⊢
  rw [readTokens?, if_neg (by simp [noBlank])]
  split
  · next failed =>
      rw [read] at failed
      cases failed
  · next found =>
      rw [read] at found
      cases found
      rfl

/-- Whether a text consists of some tokens, none of them a number, with blanks
anywhere between them. -/
inductive Spelled : Text → List Token → Prop where
  | done : Spelled [] []
  | blank {c : Char} {text : Text} {tokens : List Token}
      (isBlank : isBlank c = true) (later : Spelled text tokens) :
      Spelled (c :: text) tokens
  | token (first : Token) {text : Text} {tokens : List Token}
      (ends : first.isNumber = false) (later : Spelled text tokens) :
      Spelled (first.toText ++ text) (first :: tokens)

namespace Spelled

theorem readTokens? {text : Text} {tokens : List Token}
    (spelled : Spelled text tokens) : readTokens? text = some tokens := by
  induction spelled with
  | done => rw [Json.readTokens?]
  | blank isBlank later induction =>
      rw [readTokens?_blank isBlank, induction]
  | token first ends later induction =>
      rw [readTokens?_toText ends, induction]
      rfl

variable {text : Text} {tokens : List Token}

theorem blanks {prior : Text} (isBlank : ∀ c ∈ prior, isBlank c = true)
    (later : Spelled text tokens) : Spelled (prior ++ text) tokens := by
  induction prior with
  | nil => exact later
  | cons c prior induction =>
      apply blank (isBlank c List.mem_cons_self)
      exact induction fun other member =>
        isBlank other (List.mem_cons_of_mem _ member)

theorem newLine (depth : Nat) (later : Spelled text tokens) :
    Spelled (newLine depth ++ text) tokens := by
  apply blanks _ later
  intro c member
  rcases List.mem_cons.mp member with rfl | space
  · rfl
  · rw [List.eq_of_mem_replicate space]
    rfl

theorem append {first : List Token}
    (ends : ∀ token ∈ first, token.isNumber = false)
    (later : Spelled text tokens) :
    Spelled (first.flatMap Token.toText ++ text) (first ++ tokens) := by
  induction first with
  | nil => exact later
  | cons head first induction =>
      rw [List.flatMap_cons, List.append_assoc]
      apply token head (ends head List.mem_cons_self)
      exact induction fun other member =>
        ends other (List.mem_cons_of_mem _ member)

end Spelled

end FileRouting.Json
