import RegisterTransfer.Text.GraphemeExtend
import RegisterTransfer.Text.Unprintable

/-!
# Quoted text

Text between double quotes, in which line ends, double quotes, backslashes and everything that cannot be seen are
written as escapes.
-/

namespace RegisterTransfer.Text

/-- The code point of a character in hexadecimal digits between braces. -/
def unicodeEscape (c : Char) : List Char :=
  '\\' :: 'u' :: '\x7b' :: Nat.toDigits 16 c.toNat ++ ['\x7d']

/-- A character between quotes. -/
def quotedChar (c : Char) : List Char :=
  if c = '\x00' then ['\\', '0']
  else if c = '\t' then ['\\', 't']
  else if c = '\r' then ['\\', 'r']
  else if c = '\n' then ['\\', 'n']
  else if c = '\\' || c = '\x22' then ['\\', c]
  else if extendsGrapheme c || !isPrintable c then unicodeEscape c
  else [c]

/-- A text between double quotes. -/
def quoted (text : String) : String :=
  "\"" ++ String.ofList (text.toList.flatMap quotedChar) ++ "\""

end RegisterTransfer.Text
