import GameTips.Text.Invisible

/-!
# Quoted texts in messages

A text in quotes in which every character can be seen: the quote and the backslash are escaped, tab,
new line, carriage return and NUL have letters, and any other invisible character is written by its
code point.
-/

namespace GameTips.Text

/-- The form of a character within a quoted text. -/
def visible (c : Char) : List Char :=
  if c = '"' then ['\\', '"']
  else if c = '\\' then ['\\', '\\']
  else if c = '\t' then ['\\', 't']
  else if c = '\n' then ['\\', 'n']
  else if c = '\r' then ['\\', 'r']
  else if c = '\x00' then ['\\', '0']
  else if isInvisible c then ['\\', 'u', '{'] ++ Nat.toDigits 16 c.toNat ++ ['}']
  else [c]

/-- A text in quotes with every character visible. -/
def quoted (s : String) : String :=
  String.ofList ('"' :: (s.toList.flatMap visible ++ ['"']))

end GameTips.Text
