import MinEntropy.Text.Unprintable

/-! Text between double quotes, with escapes for the quote, the backslash, and every character that
would not show. -/

namespace MinEntropy.Text.Quoted

/-- A character by its number, in hexadecimal between braces. -/
def byNumber (c : Char) : List Char :=
  ['\\', 'u', '\x7b'] ++ Nat.toDigits 16 c.toNat ++ ['\x7d']

def escape (c : Char) : List Char :=
  if c = '\x00' then ['\\', '0']
  else if c = '\t' then ['\\', 't']
  else if c = '\n' then ['\\', 'n']
  else if c = '\r' then ['\\', 'r']
  else if c = '"' then ['\\', '"']
  else if c = '\\' then ['\\', '\\']
  else if Unprintable.contains c then byNumber c
  else [c]

/-- The quoted form of a text. -/
def text (s : String) : String := String.ofList ('"' :: s.toList.flatMap escape ++ ['"'])

end MinEntropy.Text.Quoted
