import KanaSettings.Text.Unprintable

/-!
# Quotations

How a message shows a text that it quotes: between quotes, with a backslash before what would end
the quotation, short escapes for the usual controls, and the number of any other character that
has no visible form of its own.
-/

namespace KanaSettings.Text

/-- A number in hexadecimal digits, in lower case. -/
def hexadecimal (n : Nat) : List Char := Nat.toDigits 16 n

/-- How a quotation shows one character. -/
def shown (c : Char) : List Char :=
  if c = '\x00' then ['\\', '0']
  else if c = '\t' then ['\\', 't']
  else if c = '\r' then ['\\', 'r']
  else if c = '\n' then ['\\', 'n']
  else if c = '"' then ['\\', '"']
  else if c = '\\' then ['\\', '\\']
  else if isPrintable c then [c]
  else ['\\', 'u', '\x7b'] ++ hexadecimal c.toNat ++ ['\x7d']

/-- A text between quotes. -/
def quotation (s : String) : String :=
  (s.foldl (fun out c => (shown c).foldl String.push out) "\"").push '"'

end KanaSettings.Text
