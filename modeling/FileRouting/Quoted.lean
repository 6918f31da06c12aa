import FileRouting.Text
import FileRouting.Unicode.Printable

/-!
# Quoted paths

A path in a message stands between double quotes.  Double quotes, backslashes
and whatever cannot be shown as it stands are escaped, so that the message shows
where the path begins and ends and what it is made of.
-/

namespace FileRouting

/-- A character as it stands between double quotes. -/
def quotedChar (c : Char) : Text :=
  if c = '"' then ['\\', '"']
  else if c = '\\' then ['\\', '\\']
  else if c = '\n' then ['\\', 'n']
  else if c = '\r' then ['\\', 'r']
  else if c = '\t' then ['\\', 't']
  else if c = '\x00' then ['\\', '0']
  else if isPrintable c then [c]
  else ['\\', 'u', '\x7b'] ++ Nat.toDigits 16 c.toNat ++ ['\x7d']

/-- A text between double quotes. -/
def quoted (text : Text) : Text :=
  '"' :: text.flatMap quotedChar ++ ['"']

end FileRouting
